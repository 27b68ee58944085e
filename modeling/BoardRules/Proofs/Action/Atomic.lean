import BoardRules.Proofs.Action.Record
import BoardRules.Proofs.Engine.Scheduling
import BoardRules.Proofs.Store.Change
import BoardRules.Proofs.Store.Sound

/-! An action takes effect as a whole or not at all. -/
namespace BoardRules.Engine

variable {env : Environment} {ctx : ActionContext} {payload : Json} {w : World}

/-- What carrying out a stored action amounts to, for each of those who may take cascades over. A
ledger that changes in nothing but what is named, and an ending that is the same for all of them,
rule out any other effect. -/
inductive AllOrNothing (env : Environment) (ctx : ActionContext) (payload : Json) (w : World)
    (ending : HandOver → Except Fault ActionRecord × World) : Prop where
  | aborted (f : Fault) (n : Nat) (w' : World) (hfails : env.storageFails n = true)
    (hstorage : f.isStorage = true) (hledger : w'.ledger = w.ledger)
    (hending : ∀ h, ending h = (.error f, w')) : AllOrNothing env ctx payload w ending
  | failed (message : String) (w' : World) (hledger : w'.ledger = w.ledger)
    (hending : ∀ h, ending h = (.ok (recordOf payload (.error message)), w')) :
    AllOrNothing env ctx payload w ending
  | mailed (report : Entries) (w' : World)
    (hledger : w'.ledger = { w.ledger with accepted := w.ledger.accepted + 1 })
    (hending : ∀ h, ending h = (.ok (recordOf payload (.success report)), w')) :
    AllOrNothing env ctx payload w ending
  | wrote (card : Uuid) (key : String) (value : Json) (tick : Nat) (store : Store)
    (report : Entries) (w' : World) (hcard : ctx.card.id? = some card)
    (hwritten : w.store.FieldWritten card key value (.live w.step tick) store)
    (hledger : w'.ledger = { w.ledger with store := store })
    (hending : ∀ h, ending h = (.ok (recordOf payload (.success report)), w')) :
    AllOrNothing env ctx payload w ending
  /-- The card is moved; once that is committed, the scheduler is asked for a cascade. -/
  | moved (move : CardMove) (tick : Nat) (store : Store) (w₁ : World)
    (hcard : ctx.card.id? = some move.card)
    (hmoved : w.store.CardMoved move (.live w.step tick) store)
    (hledger : w₁.ledger = { w.ledger with store := store })
    (hending : ∀ h : HandOver, h.Answers → ∃ scheduled w₂ w',
      exec (scheduleCascade env h move ctx.depth) w₁ = (.ok scheduled, w₂) ∧
        w'.ledger = w₂.ledger ∧
        ending h = (.ok (recordOf payload (.success (moveReport move scheduled))), w')) :
    AllOrNothing env ctx payload w ending

/-- In a store that can be read, with mails that succeed or fail as an action, every stored action
takes full effect or none. -/
theorem perform_allOrNothing (env : Environment) (ctx : ActionContext) (payload : Json) (w : World)
    (hsound : w.store.Sound) (hmails : MailsOrFails env w.ambient.correlation) :
    AllOrNothing env ctx payload w fun h => exec (perform env h ctx payload) w := by
  obtain ⟨w₀, hw₀, hperform⟩ := exec_perform env ctx payload w
  have hstore : w₀.store = w.store := World.store_of_ledger hw₀
  have hstep : w₀.step = w.step := World.step_of_ledger hw₀
  rcases attempt_course env ctx payload w₀ with ⟨f, -, hattempt⟩ | ⟨action, -, hcourse⟩
  · obtain ⟨w', hledger, hending⟩ := exec_perform_of_ending hperform hattempt
    exact .failed f.message w' (hledger.trans hw₀) hending
  · rw [← hstore] at hsound
    rw [← World.ambient_of_ledger hw₀] at hmails
    cases hcourse with
    | failed f w₁ hcause hledger₁ hattempt =>
      obtain ⟨w', hledger, hending⟩ := exec_perform_of_ending hperform hattempt
      have hsame : w'.ledger = w.ledger := hledger.trans (hledger₁.trans hw₀)
      rcases hcause.whole (hsound.not_blocks ctx.card action) hmails with
        ⟨hstorage, n, hfails⟩ | ⟨a, rfl⟩
      · refine .aborted f n w' hfails hstorage hsame fun h => ?_
        rw [hending]
        cases f with
        | action => cases hstorage
        | _ => rfl
      · exact .failed a.message w' hsame hending
    | mailed report w₁ hledger₁ hattempt =>
      obtain ⟨w', hledger, hending⟩ := exec_perform_of_ending hperform hattempt
      refine .mailed report w' ?_ hending
      rw [hledger, hledger₁, hw₀]
    | wrote row key value tick w₁ _ hid hrow hledger₁ hattempt =>
      obtain ⟨w', hledger, hending⟩ := exec_perform_of_ending hperform hattempt
      refine .wrote row.id key value tick _ _ w' hid
        (Store.fieldWritten_writeField w.store row.id key value (.live w.step tick)) ?_ hending
      rw [hledger, hledger₁, hw₀, hstore, hstep]
    | moved target row stage tick w₁ _ hid hrow _ hledger₁ hattempt =>
      have hmoved : w₀.store.CardMoved (moveTo w₀.store row stage) (.live w₀.step tick)
          (w₀.store.applyMove (moveTo w₀.store row stage) (.live w₀.step tick)) :=
        Store.cardMoved_applyMove rfl hrow _
      rw [hstore, hstep] at hmoved
      refine .moved (moveTo w.store row stage) tick _ w₁ hid hmoved ?_ fun h hanswers => ?_
      · rw [hledger₁, hw₀, hstore, hstep]
      · obtain ⟨scheduled, w₂, hsched⟩ :=
          scheduleCascade_answers env hanswers (moveTo w.store row stage) ctx.depth w₁
        obtain ⟨w', hledger, hconclude⟩ := exec_concludeRecord ctx payload
          (.ok (moveReport (moveTo w.store row stage) scheduled)) w₂
        refine ⟨scheduled, w₂, w', hsched, hledger, ?_⟩
        have hended := hattempt h
        rw [hstore, hsched] at hended
        change exec (perform env h ctx payload) w = _
        rw [hperform, exec_bind_ok (exec_outcome _ _), hended]
        exact hconclude

theorem allOrNothing_sampleMove :
    AllOrNothing Environment.sample
      { card := .ofUuid ⟨3, by decide⟩, automation := ⟨4, by decide⟩ } Store.sampleMove
      { store := Store.sample } fun h =>
        exec (perform Environment.sample h
          { card := .ofUuid ⟨3, by decide⟩, automation := ⟨4, by decide⟩ } Store.sampleMove)
          { store := Store.sample } :=
  perform_allOrNothing _ _ _ _ Store.sample_sound (mailsOrFails_of_none rfl _)

end BoardRules.Engine
