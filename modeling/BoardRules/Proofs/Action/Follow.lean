import BoardRules.Proofs.Action.Record
import BoardRules.Proofs.Engine.Scheduling
import BoardRules.Proofs.Store.Change

/-! What follows an action. A move that succeeds is committed first; then, up to the greatest depth,
one request is handed over for the stage that the card has entered. Nothing is handed over after any
other action. -/
namespace BoardRules

/-- Whether a record tells of a move that has succeeded. -/
def ActionRecord.isMove (r : ActionRecord) : Bool :=
  r.type == "move_card" && r.error?.isNone

namespace Engine

theorem isMove_of_success {payload : Json} {target : String} (report : Entries)
    (haction : Action.ofJson payload = .ok (.moveCard target)) :
    (recordOf payload (.success report)).isMove = true := by
  unfold ActionRecord.isMove recordOf
  rw [Action.recordedType_of_ofJson haction]
  rfl

theorem isMove_of_error (payload : Json) (message : String) :
    (recordOf payload (.error message)).isMove = false :=
  Bool.and_false _

theorem isMove_of_other {payload : Json} {action : Action} (result : ActionOutcome)
    (haction : Action.ofJson payload = .ok action) (hother : ∀ target, action ≠ .moveCard target) :
    (recordOf payload result).isMove = false := by
  unfold ActionRecord.isMove recordOf
  rw [Action.recordedType_of_ofJson haction]
  cases action with
  | moveCard target => exact absurd rfl (hother target)
  | _ => rfl

/-- A move that succeeds, up to where it is committed: its card and its target were found, and the
card is in its new stage. -/
structure Commits (ctx : ActionContext) (payload : Json) (target : String) (row : CardRow)
    (stage : StageView) (time : Moment) (w w₁ : World) : Prop where
  action : Action.ofJson payload = .ok (.moveCard target)
  card : ctx.card.id? = some row.id
  stored : w.store.card? row.id = some row
  found : w.store.stageFor target = .ok stage
  ledger : w₁.ledger =
    { w.ledger with store := w.store.applyMove (moveTo w.store row stage) time }

/-- What follows an action, as it ends for each of those who may take requests over. -/
inductive Followed (env : Environment) (ctx : ActionContext) (payload : Json) (w : World)
    (ending : HandOver → Except Fault ActionRecord × World) : Prop where
  /-- A move succeeds and one request is handed over. -/
  | handed (target : String) (row : CardRow) (stage : StageView) (time : Moment) (w₁ : World)
    (hcommits : Commits ctx payload target row stage time w w₁)
    (hdepth : ctx.depth + 1 ≤ env.maxDepth)
    (hending : ∀ (h : HandOver) (taken : Bool) (w₂ : World),
      exec (h (requestAfter (moveTo w.store row stage) (ctx.depth + 1) w.ambient.correlation)) w₁ =
        (.ok taken, w₂) →
      ∃ w', w'.ledger = w₂.ledger ∧ ending h =
        (.ok (recordOf payload (.success (moveReport (moveTo w.store row stage) taken))), w')) :
    Followed env ctx payload w ending
  /-- A move succeeds at the greatest depth, and no request is handed over. -/
  | refused (target : String) (row : CardRow) (stage : StageView) (time : Moment) (w₁ w' : World)
    (hcommits : Commits ctx payload target row stage time w w₁)
    (hdepth : env.maxDepth < ctx.depth + 1)
    (hledger : w'.ledger = { w₁.ledger with blocks := w₁.ledger.blocks + 1 })
    (hending : ∀ h, ending h =
      (.ok (recordOf payload (.success (moveReport (moveTo w.store row stage) false))), w')) :
    Followed env ctx payload w ending
  /-- No move succeeds; fields may be written and a mail accepted, and that is all. -/
  | other (r : Except Fault ActionRecord) (w' : World) (fields : List FieldRow) (accepted : Nat)
    (hledger : w'.ledger = { w.ledger with store := { w.store with fields }, accepted })
    (hrecord : ∀ record, r = .ok record → record.isMove = false)
    (hending : ∀ h, ending h = (r, w')) : Followed env ctx payload w ending

theorem isMove_of_fault (payload : Json) (f : Fault) (record : ActionRecord)
    (hrecord : recorded payload (.error f) = .ok record) : record.isMove = false := by
  cases f with
  | action a =>
    cases hrecord
    exact isMove_of_error payload a.message
  | _ => cases hrecord

theorem isMove_of_report {payload : Json} {action : Action} {report : Entries}
    (haction : Action.ofJson payload = .ok action) (hother : ∀ target, action ≠ .moveCard target)
    (record : ActionRecord) (hrecord : recorded payload (.ok report) = .ok record) :
    record.isMove = false := by
  cases hrecord
  exact isMove_of_other _ haction hother

section

variable {env : Environment} {ctx : ActionContext} {payload : Json} {w w₀ w₁ : World}
  {move : CardMove}
  (hperform : ∀ h, exec (perform env h ctx payload) w =
    exec (outcome (attempt env h ctx payload) >>= concludeRecord ctx payload) w₀)
  (hmoved : ∀ h, exec (attempt env h ctx payload) w₀ =
    ((exec (scheduleCascade env h move ctx.depth) w₁).1.map (moveReport move),
      (exec (scheduleCascade env h move ctx.depth) w₁).2))

include hperform hmoved

/-- A move that is committed at the greatest depth is recorded; no cascade follows. -/
theorem exec_perform_last (hdepth : env.maxDepth < ctx.depth + 1) :
    ∃ w', w'.ledger = { w₁.ledger with blocks := w₁.ledger.blocks + 1 } ∧
      ∀ h, exec (perform env h ctx payload) w =
        (.ok (recordOf payload (.success (moveReport move false))), w') := by
  obtain ⟨w₂, hw₂, hsched⟩ := scheduleCascade_refused env move hdepth w₁
  obtain ⟨w', hledger, hending⟩ := exec_perform_of_ending hperform fun h => by
    rw [hmoved, hsched]
  exact ⟨w', hledger.trans hw₂, hending⟩

/-- A move that is committed at a smaller depth is recorded with the answer to the request that is
handed over. -/
theorem exec_perform_handed (hdepth : ctx.depth + 1 ≤ env.maxDepth) (h : HandOver) (taken : Bool)
    (w₂ : World)
    (htaken : exec (h (requestAfter move (ctx.depth + 1) w₁.ambient.correlation)) w₁ =
      (.ok taken, w₂)) :
    ∃ w', w'.ledger = w₂.ledger ∧ exec (perform env h ctx payload) w =
      (.ok (recordOf payload (.success (moveReport move taken))), w') := by
  obtain ⟨w₃, hw₃, hsched⟩ := scheduleCascade_handed h move hdepth w₁
  rw [htaken] at hw₃ hsched
  obtain ⟨w', hledger, hconclude⟩ := exec_concludeRecord ctx payload (.ok (moveReport move taken)) w₃
  refine ⟨w', hledger.trans hw₃, ?_⟩
  rw [hperform, exec_bind_ok (exec_outcome _ _), hmoved, hsched]
  exact hconclude

end

theorem attempt_move {payload : Json} {target : String}
    (haction : Action.ofJson payload = .ok (.moveCard target)) (env : Environment) (h : HandOver)
    (ctx : ActionContext) : attempt env h ctx payload = moveToStage env h ctx target := by
  unfold attempt
  rw [haction]
  rfl

/-- Once a move is committed, a request is handed over unless it would be too deep. -/
theorem followed_moveToStage {env : Environment} {ctx : ActionContext} {payload : Json}
    {target : String} {w w₀ : World} (hw₀ : w₀.ledger = w.ledger)
    (hperform : ∀ h, exec (perform env h ctx payload) w =
      exec (outcome (attempt env h ctx payload) >>= concludeRecord ctx payload) w₀)
    (haction : Action.ofJson payload = .ok (.moveCard target)) :
    Followed env ctx payload w fun h => exec (perform env h ctx payload) w := by
  have hstore : w₀.store = w.store := World.store_of_ledger hw₀
  have hattempt := attempt_move haction env
  rcases moveToStage_cases env ctx target w₀ with
    ⟨f, w₁, -, hw₁, hmove⟩ | ⟨row, stage, tick, w₁, hid, hrow, hstage, hw₁, hmove⟩
  · obtain ⟨w', hledger, hending⟩ :=
      exec_perform_of_ending hperform fun h => (congrArg (exec · w₀) (hattempt h ctx)).trans (hmove h)
    exact .other _ w' w.store.fields _ (hledger.trans (hw₁.trans hw₀)) (isMove_of_fault payload f)
      hending
  · have hmoved := fun h => (congrArg (exec · w₀) (hattempt h ctx)).trans (hmove h)
    rw [hstore] at hrow hstage hmoved hw₁
    rw [hw₀] at hw₁
    have hcommits : Commits ctx payload target row stage (.live w₀.step tick) w w₁ :=
      ⟨haction, hid, hrow, hstage, hw₁⟩
    by_cases hdepth : env.maxDepth < ctx.depth + 1
    · obtain ⟨w', hledger, hending⟩ := exec_perform_last hperform hmoved hdepth
      exact .refused target row stage _ w₁ w' hcommits hdepth hledger hending
    · have hcorrelation : w₁.ambient.correlation = w.ambient.correlation :=
        congrArg (fun l => l.ambient.correlation) hw₁
      refine .handed target row stage _ w₁ hcommits (Int.not_lt.mp hdepth)
        fun h taken w₂ htaken => ?_
      rw [← hcorrelation] at htaken
      exact exec_perform_handed hperform hmoved (Int.not_lt.mp hdepth) h taken w₂ htaken

/-- A request is handed over after a move that succeeds, and after nothing else. -/
theorem perform_followed (env : Environment) (ctx : ActionContext) (payload : Json) (w : World) :
    Followed env ctx payload w fun h => exec (perform env h ctx payload) w := by
  obtain ⟨w₀, hw₀, hperform⟩ := exec_perform env ctx payload w
  rcases attempt_course env ctx payload w₀ with ⟨f, -, hattempt⟩ | ⟨action, haction, hcourse⟩
  · obtain ⟨w', hledger, hending⟩ := exec_perform_of_ending hperform hattempt
    exact .other _ w' w.store.fields _ (hledger.trans hw₀) (isMove_of_fault payload _) hending
  -- the course of an action does not tell what follows a move, so moves are taken apart first
  by_cases hmove : ∃ target, action = .moveCard target
  · obtain ⟨target, rfl⟩ := hmove
    exact followed_moveToStage hw₀ hperform haction
  · have hother : ∀ target, action ≠ .moveCard target := fun target h => hmove ⟨target, h⟩
    cases hcourse with
    | failed f w₁ _ hw₁ hattempt =>
      obtain ⟨w', hledger, hending⟩ := exec_perform_of_ending hperform hattempt
      exact .other _ w' w.store.fields _ (hledger.trans (hw₁.trans hw₀)) (isMove_of_fault payload f)
        hending
    | mailed report w₁ hw₁ hattempt =>
      obtain ⟨w', hledger, hending⟩ := exec_perform_of_ending hperform hattempt
      rw [hw₁, hw₀] at hledger
      exact .other _ w' w.store.fields _ hledger (isMove_of_report haction hother) hending
    | wrote row key value tick w₁ _ _ _ hw₁ hattempt =>
      obtain ⟨w', hledger, hending⟩ := exec_perform_of_ending hperform hattempt
      obtain ⟨fields, hfields⟩ :=
        Store.writeField_frame w.store row.id key value (.live w₀.step tick)
      rw [hw₁, World.store_of_ledger hw₀, hw₀, hfields] at hledger
      exact .other _ w' fields _ hledger (isMove_of_report haction hother) hending
    | moved target row stage tick w₁ htarget => exact absurd htarget (hother target)

end Engine
end BoardRules
