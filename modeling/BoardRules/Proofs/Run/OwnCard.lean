import BoardRules.Proofs.Cascade.Unfold
import BoardRules.Proofs.Run.Family
import BoardRules.Proofs.Store.Sound

/-! Runs keep to their card. A run on a card writes to that card and hands over requests that name
it, so all that comes of the run does the same, however deep and in whatever order. A run on a card
that is not there leaves entries in the audit log and nothing else. -/
namespace BoardRules

open Engine

/-- Whether the cards that are named by what is put aside all have a property. -/
def World.Names (P : Uuid → Prop) (w : World) : Prop :=
  ∀ request ∈ w.queue, ∀ id, request.card? = some id → P id

/-- As long as what is put aside names certain cards only, only these are touched, and it goes on
like that. -/
def Minds (P : Uuid → Prop) (w w' : World) : Prop :=
  w.Names P → w.store.Touched P w'.store ∧ w'.Names P

namespace Minds

variable {P : Uuid → Prop} {env : Environment} {h : HandOver} {w w' w₁ w₂ w₃ : World}

theorem of_touched (hstore : w.store.Touched P w'.store) (hqueue : w'.queue = w.queue) :
    Minds P w w' := by
  intro hnames
  refine ⟨hstore, ?_⟩
  unfold World.Names
  rw [hqueue]
  exact hnames

theorem of_same (hstore : w'.store = w.store) (hqueue : w'.queue = w.queue) : Minds P w w' := by
  refine of_touched ?_ hqueue
  rw [hstore]
  exact .refl P w.store

theorem trans (h₁ : Minds P w₁ w₂) (h₂ : Minds P w₂ w₃) : Minds P w₁ w₃ := by
  intro hnames
  obtain ⟨htouched, hnames'⟩ := h₁ hnames
  obtain ⟨htouched', hnames''⟩ := h₂ hnames'
  exact ⟨htouched.trans htouched', hnames''⟩

theorem law : Law (Minds P) where
  quiet := fun h => of_same (World.store_of_ledger h) (World.queue_of_ledger h)
  trans := trans
  within := fun _ h => h

theorem writing {α : Type} (missing : Fault) {change : Moment → Store → Option (α × Store)}
    (hchange : ∀ {time s a s'}, change time s = some (a, s') → s.Touched P s') :
    Keeps (Minds P) (Engine.writing env missing change) := by
  refine Keeps.writing law env missing fun {w w' time a store} hsome hledger => ?_
  have hstore : w'.store = store := congrArg Ledger.store hledger
  refine of_touched ?_ (congrArg Ledger.queue hledger)
  rw [hstore]
  exact hchange hsome

theorem send (m : Message) : Keeps (Minds P) (Engine.send env m) := by
  intro w
  have hmails := mails_send env m w
  cases hr : (exec (Engine.send env m) w).1 with
  | ok a =>
    rw [hr] at hmails
    exact of_same (congrArg Ledger.store hmails) (congrArg Ledger.queue hmails)
  | error f =>
    rw [hr] at hmails
    exact of_same (congrArg Ledger.store hmails) (congrArg Ledger.queue hmails)

/-- What a run on a card does by itself touches that card. -/
theorem runningLaw (env : Environment) {card : Option Uuid} (hcard : ∀ id, card = some id → P id)
    (hover : ∀ request : CascadeRequest, request.card? = card → Keeps (Minds P) (h request)) :
    RunningLaw (fun (α : Type) (x : Unit → Engine α) => Keeps (Minds P) (x ())) env
      (fun _ => env.storageFails) (fun _ => h) card where
  toFamilyLaw := FamilyLaw.keeps
    (fun h => of_same (World.store_of_bare h) (World.queue_of_bare h)) trans fun _ h => h
  reading := by
    intro α query _ w
    rw [exec_reading]
    exact of_same rfl rfl
  moved := by
    intro id stage hid
    refine writing _ fun {time s move s'} hsome => ?_
    obtain ⟨row, hrow, hmoved⟩ := Option.bind_eq_some_iff.mp hsome
    cases hmoved
    obtain rfl := Store.id_of_card? hrow
    exact Store.touched_applyMove (hcard row.id hid) time s
  wrote := by
    intro id key value hid
    refine writing _ fun {time s _ s'} hsome => ?_
    obtain ⟨row, hrow, hwrote⟩ := Option.bind_eq_some_iff.mp hsome
    cases hwrote
    obtain rfl := Store.id_of_card? hrow
    exact Store.touched_writeField (hcard row.id hid) key value time s
  mailed := send
  handed := hover
  entered := by
    intro e he
    refine writing _ fun {time s _ s'} hsome => ?_
    obtain ⟨id, hid, hentered⟩ := Option.bind_eq_some_iff.mp hsome
    cases hentered
    exact Store.touched_addLog (hcard id (he.symm.trans hid)) s

theorem handed {request : CascadeRequest} (hrequest : ∀ id, request.card? = some id → P id)
    (w : World) (taken : Bool) : Minds P w (w.handed request taken) := by
  cases taken with
  | false => exact of_same rfl rfl
  | true =>
    intro hnames
    refine ⟨.refl P w.store, List.forall_mem_append.mpr ⟨hnames, ?_⟩⟩
    simpa using hrequest

end Minds

namespace Engine

variable {env : Environment} {h : HandOver} {P : Uuid → Prop}

/-- However requests that name certain cards unfold, no other cards are touched. -/
theorem minds_of_unfolds {w w' : World} (hunfolds : Unfolds env w w') : Minds P w w' := by
  induction hunfolds with
  | noted hledger =>
    exact .of_same (congrArg Ledger.store hledger) (congrArg Ledger.queue hledger)
  | @ran w h taken _ before request after hqueue ih =>
    intro hnames
    unfold World.Names at hnames
    rw [hqueue, List.forall_mem_append, List.forall_mem_cons] at hnames
    obtain ⟨hbefore, hrequest, hafter⟩ := hnames
    -- what the run hands over names the same card, and unfolds to something smaller
    have hover : ∀ r : CascadeRequest, r.card? = request.card? → Keeps (Minds P) (h r) := by
      intro r hr v
      rw [← hr] at hrequest
      exact (Minds.handed hrequest v (taken r v)).trans (ih r v)
    have hran : Keeps (Minds P) (runCascade env h request) :=
      (Minds.runningLaw env hrequest hover).runCascade
    exact hran (w.pending (before ++ after)) (List.forall_mem_append.mpr ⟨hbefore, hafter⟩)
  | trans _ _ ih₁ ih₂ => exact ih₁.trans ih₂

theorem minds_of_cascades (hcascades : h.Cascades env) {request : CascadeRequest}
    (hrequest : ∀ id, request.card? = some id → P id) : Keeps (Minds P) (h request) := by
  intro w
  obtain ⟨taken, hunfolds⟩ := hcascades
  exact (Minds.handed hrequest w _).trans (minds_of_unfolds (hunfolds request w))

theorem minds_run (hcascades : h.Cascades env) (triggerType : String) {card : RowRef}
    (hcard : ∀ id, card.id? = some id → P id) (pipe : RowRef) (occasion : Occasion) (depth : Int) :
    Keeps (Minds P) (run env h triggerType card pipe occasion depth) := by
  have hover : ∀ request : CascadeRequest, request.card? = card.id? →
      Keeps (Minds P) (h request) := by
    intro request hrequest
    refine minds_of_cascades hcascades ?_
    rw [hrequest]
    exact hcard
  exact (Minds.runningLaw env hcard hover).run triggerType pipe occasion depth

end Engine

/-- Whether a store is without the card that is meant. -/
def Store.Lacks (s : Store) (card : Option Uuid) : Prop := card.bind s.card? = none

/-- From one world to another, entries about a card are added to the audit log; nothing goes out,
and nothing is put aside. -/
structure Logs (card : Option Uuid) (w w' : World) : Prop where
  store : ∃ rows, w'.store = { w.store with logs := w.store.logs ++ rows } ∧
    ∀ row ∈ rows, card = some row.card
  queue : w'.queue = w.queue
  sent : w'.sent = w.sent

namespace Logs

variable {card : Option Uuid} {w w' w₁ w₂ w₃ : World}

theorem of_same (hstore : w'.store = w.store) (hqueue : w'.queue = w.queue)
    (hsent : w'.sent = w.sent) : Logs card w w' :=
  ⟨⟨[], by rw [hstore, List.append_nil], by simp⟩, hqueue, hsent⟩

theorem of_bare (h : w'.bare = w.bare) : Logs card w w' :=
  of_same (World.store_of_bare h) (World.queue_of_bare h) (World.sent_of_bare h)

theorem trans (h : Logs card w₁ w₂) (h' : Logs card w₂ w₃) : Logs card w₁ w₃ where
  store := by
    obtain ⟨rows, hstore, hrows⟩ := h.store
    obtain ⟨rows', hstore', hrows'⟩ := h'.store
    refine ⟨rows ++ rows', ?_, List.forall_mem_append.mpr ⟨hrows, hrows'⟩⟩
    rw [hstore', hstore, List.append_assoc]
  queue := h'.queue.trans h.queue
  sent := h'.sent.trans h.sent

theorem lacks (h : Logs card w w') (hlacks : w.store.Lacks card) : w'.store.Lacks card := by
  obtain ⟨rows, hstore, -⟩ := h.store
  rw [hstore]
  exact hlacks

end Logs

/-- What programs for a card that is not there come to: whoever takes requests over, it is the same,
and entries are added to the audit log. -/
def Fruitless (card : Option Uuid) (α : Type) (x : HandOver → Engine α) : Prop :=
  ∀ w : World, w.store.Lacks card → ∃ r w', (∀ h, exec (x h) w = (r, w')) ∧ Logs card w w'

namespace Fruitless

variable {α β : Type} {card : RowRef} {env : Environment}

theorem same {x : Engine α} {card : Option Uuid} (hx : Keeps (Logs card) x) :
    Fruitless card α fun _ => x :=
  fun w _ => ⟨_, _, fun _ => rfl, hx w⟩

/-- Nothing follows what comes to nothing. -/
theorem stuck {x : HandOver → Engine α} {f : HandOver → α → Engine β} {card : Option Uuid}
    (hx : Fruitless card α x)
    (hno : ∀ h w a w', w.store.Lacks card → exec (x h) w ≠ (.ok a, w')) :
    Fruitless card β fun h => x h >>= f h := by
  intro w hlacks
  obtain ⟨r, w', hexec, hlogs⟩ := hx w hlacks
  cases r with
  | error e => exact ⟨.error e, w', fun h => exec_bind_error (hexec h) _, hlogs⟩
  | ok a => exact absurd (hexec openPool) (hno openPool w a w' hlacks)

theorem readingLaw : ReadingLaw (Fruitless card.id?) env (fun _ => env.storageFails) card.id? where
  pure := fun _ => same fun _ => .of_bare rfl
  raise := fun _ => same fun _ => .of_bare rfl
  told := by
    intro body hbody
    refine same fun w => ?_
    obtain ⟨w', hexec, hw'⟩ := hbody w
    rw [hexec]
    exact .of_bare hw'
  bind := by
    intro α β x f hx hf w hlacks
    obtain ⟨r, w₁, hexec, hlogs⟩ := hx w hlacks
    cases r with
    | error e => exact ⟨.error e, w₁, fun h => exec_bind_error (hexec h) _, hlogs⟩
    | ok a =>
      obtain ⟨r, w₂, hexec', hlogs'⟩ :=
        hf a ⟨openPool, w, w₁, hexec openPool⟩ w₁ (hlogs.lacks hlacks)
      exact ⟨r, w₂, fun h => (exec_bind_ok (hexec h) _).trans (hexec' h), hlogs.trans hlogs'⟩
  asked := by
    intro α f hf w hlacks
    obtain ⟨r, w', hexec, hlogs⟩ := hf w.ambient w hlacks
    exact ⟨r, w', fun h => (exec_bind_ok (exec_get w) _).trans (hexec h), hlogs⟩
  withAmbient := by
    intro α change x hx w hlacks
    obtain ⟨r, w', hexec, hlogs⟩ := hx (w.within (change w.ambient)) hlacks
    refine ⟨r, w'.within w.ambient, fun h => ?_, hlogs.store, hlogs.queue, hlogs.sent⟩
    rw [exec_withAmbient, hexec]
  held := by
    intro α x tell hx htell w hlacks
    obtain ⟨r, w₁, hexec, hlogs⟩ := hx w hlacks
    obtain ⟨w', htold, hw'⟩ := htell r w₁
    refine ⟨r, w', fun h => ?_, hlogs.trans (.of_bare hw')⟩
    rw [exec_bind_ok (exec_outcome _ _), hexec, exec_bind_ok htold, exec_ofExcept]
  caught := by
    intro α β x f hx hok hfailure hother w hlacks
    obtain ⟨r, w₁, hexec, hlogs⟩ := hx w hlacks
    obtain ⟨r', w', hexec', hlogs'⟩ :=
      ofCatching (C := fun body => Fruitless card.id? β fun _ => body)
        (fun _ => same fun _ => .of_bare rfl) hok hfailure hother r w₁ (hlogs.lacks hlacks)
    refine ⟨r', w', fun h => ?_, hlogs.trans hlogs'⟩
    rw [exec_bind_ok (exec_outcome _ _), hexec]
    exact hexec' h
  reading := by
    intro α query _
    refine same fun w => ?_
    rw [exec_reading]
    exact .of_same rfl rfl rfl

theorem not_requireCard (w : World) (v : CardView) (w' : World) (hlacks : w.store.Lacks card.id?) :
    exec (requireCard env card) w ≠ (.ok v, w') := by
  intro hexec
  obtain ⟨-, hcard⟩ := (Reads.requireCard card).eq_ok hexec
  obtain ⟨row, hid, hrow, -⟩ := Store.cardFor_eq_ok hcard
  unfold Store.Lacks at hlacks
  rw [hid] at hlacks
  exact absurd (hlacks.symm.trans hrow) (Option.some_ne_none row).symm

theorem not_formLinkMail (formId : String) (recipientField templateId : Option String) (w : World)
    (draft : Message × Entries) (w' : World) (hlacks : w.store.Lacks card.id?) :
    exec (formLinkMail env card formId recipientField templateId) w ≠ (.ok draft, w') := by
  intro hexec
  obtain ⟨v, w₁, hcard, -⟩ := exec_bind_eq_ok.mp hexec
  exact not_requireCard w v w₁ hlacks hcard

theorem not_templateMail (templateId : String) (recipientField formId : Option String) (w : World)
    (draft : Message × Entries) (w' : World) (hlacks : w.store.Lacks card.id?) :
    exec (templateMail env card templateId recipientField formId) w ≠ (.ok draft, w') := by
  intro hexec
  obtain ⟨template, w₁, htemplate, hrest⟩ := exec_bind_eq_ok.mp hexec
  obtain ⟨v, w₂, hcard, -⟩ := exec_bind_eq_ok.mp hrest
  obtain ⟨hledger, -⟩ := (Reads.requireTemplate templateId).eq_ok htemplate
  rw [← World.store_of_ledger hledger] at hlacks
  exact not_requireCard w₁ v w₂ hlacks hcard

theorem missing {α : Type} {card : Option Uuid} (fault : Fault)
    {change : Moment → Store → Option (α × Store)}
    (hchange : ∀ time s, s.Lacks card → change time s = none) :
    Fruitless card α fun _ => writing env fault change := by
  intro w hlacks
  refine ⟨_, (exec (writing env fault change) w).2, fun _ => rfl, ?_⟩
  rw [exec_writing, hchange _ _ hlacks]
  split <;> exact .of_same rfl rfl rfl

/-- No action is carried out: each needs the card. -/
theorem attempt (ctx : ActionContext) (hctx : ctx.card = card) (payload : Json) :
    Fruitless card.id? Entries fun h => Engine.attempt env h ctx payload := by
  have law : ReadingLaw (Fruitless card.id?) env (fun _ => env.storageFails) card.id? := readingLaw
  unfold Engine.attempt
  cases Action.ofJson payload with
  | error f => exact law.raise _
  | ok action =>
    cases action with
    | sendFormLink formId recipientField templateId =>
      simp only [carryOut, sendFormLink_eq, hctx]
      exact stuck (law.formLinkMail _ _ _) fun _ => not_formLinkMail _ _ _
    | sendEmail templateId recipientField formId =>
      cases hgiven : given? templateId with
      | none =>
        simp only [carryOut, sendEmail, hgiven]
        exact law.raise _
      | some id =>
        simp only [carryOut, sendEmail_eq _ _ id hgiven, hctx]
        exact stuck (law.templateMail _ _ _) fun _ => not_templateMail _ _ _
    | moveCard target =>
      simp only [carryOut, moveToStage, hctx]
      exact stuck law.requireCard fun _ => not_requireCard
    | updateField key value =>
      simp only [carryOut, hctx]
      refine law.seq ?_ fun _ => law.pure _
      unfold Engine.updateField
      cases hid : card.id? with
      | none => exact same fun _ => .of_bare rfl
      | some id =>
        refine missing noCard fun time s hlacks => ?_
        have hnone : s.card? id = none := hlacks
        rw [hnone]
        rfl

theorem entered (e : LogEntry) (he : e.card.id? = card.id?) :
    Fruitless card.id? Unit fun _ => appendLog env e := by
  refine same fun w => ?_
  rw [appendLog_eq, exec_writing]
  split
  · exact .of_same rfl rfl rfl
  · cases hid : e.card.id? with
    | none =>
      have hnone : entryChange e (.live w.step w.tick) w.store = none := by
        unfold entryChange
        rw [hid]
        rfl
      rw [hnone]
      exact .of_same rfl rfl rfl
    | some id =>
      have hsome : entryChange e (.live w.step w.tick) w.store =
          some ((), w.store.addLog (e.row id (.live w.step w.tick))) := by
        unfold entryChange
        rw [hid]
        rfl
      rw [hsome]
      exact ⟨⟨[_], rfl, by simp [LogEntry.row, ← he, hid]⟩, rfl, rfl⟩

theorem run (triggerType : String) (pipe : RowRef) (occasion : Occasion) (depth : Int) :
    Fruitless card.id? Report fun h => Engine.run env h triggerType card pipe occasion depth :=
  readingLaw.run (fun ctx payload hctx _ => attempt ctx hctx payload) entered triggerType pipe
    occasion

end Fruitless

namespace Engine

/-- A run touches only its own card. Whatever comes of a run, and of what is put aside, wherever its
cascades have come: no cards are touched but that of the run and those named by requests that were
put aside before. If the run's card is not there, the run adds entries about it to the audit log,
and that is all; whoever takes requests over is never asked to. -/
theorem run_touches_ownCard (env : Environment) {h : HandOver} (hcascades : h.Cascades env)
    (triggerType : String) (card pipe : RowRef) (occasion : Occasion) (depth : Int) {w w' : World}
    (hunfolds : Unfolds env (exec (run env h triggerType card pipe occasion depth) w).2 w') :
    w.store.Touched (fun id => card.id? = some id ∨ ∃ request ∈ w.queue, request.card? = some id)
      w'.store ∧
    (w.store.Lacks card.id? → ∃ r w₁, Logs card.id? w w₁ ∧
      ∀ h', exec (run env h' triggerType card pipe occasion depth) w = (r, w₁)) := by
  constructor
  · have hran := minds_run hcascades triggerType
      (P := fun id => card.id? = some id ∨ ∃ request ∈ w.queue, request.card? = some id)
      (fun id hid => .inl hid) pipe occasion depth w
    exact ((hran.trans (minds_of_unfolds hunfolds))
      fun request hrequest id hid => .inr ⟨request, hrequest, hid⟩).1
  · intro hlacks
    obtain ⟨r, w₁, hexec, hlogs⟩ := Fruitless.run triggerType pipe occasion depth w hlacks
    exact ⟨r, w₁, hlogs, hexec⟩

/-- On the small board, with the cascades of the run run in place; and for a card that is not on the
board. -/
theorem run_touches_ownCard_sample :
    Store.sample.Touched
      (fun id => (RowRef.ofUuid ⟨3, by decide⟩).id? = some id ∨
        ∃ request ∈ ({ store := Store.sample } : World).queue, request.card? = some id)
      (exec (run Environment.sample (inPlace Environment.sample openPool) "card_enters_stage"
        (.ofUuid ⟨3, by decide⟩) (.ofUuid ⟨1, by decide⟩) .untold 0)
        { store := Store.sample }).2.store ∧
    Store.sample.Lacks (some ⟨9, by decide⟩) ∧
    ∃ r w₁, Logs (some ⟨9, by decide⟩) { store := Store.sample } w₁ ∧
      ∀ h', exec (run Environment.sample h' "card_enters_stage" (.ofUuid ⟨9, by decide⟩)
        (.ofUuid ⟨1, by decide⟩) .untold 0) { store := Store.sample } = (r, w₁) :=
  ⟨(run_touches_ownCard Environment.sample (HandOver.Usual.inPlace (.mode .pool)).cascades
      "card_enters_stage" (.ofUuid ⟨3, by decide⟩) (.ofUuid ⟨1, by decide⟩) .untold 0
      (.of_ledger rfl)).1,
    rfl,
    (run_touches_ownCard Environment.sample cascades_openPool "card_enters_stage"
      (.ofUuid ⟨9, by decide⟩) (.ofUuid ⟨1, by decide⟩) .untold 0 (.of_ledger rfl)).2 rfl⟩

end Engine
end BoardRules
