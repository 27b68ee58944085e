import Mathlib.Algebra.Ring.Nat
import BoardRules.Proofs.Action.Follow
import BoardRules.Proofs.Run.Agreement
import BoardRules.Proofs.Store.History

/-! How many moves a run makes. Each move that succeeds adds one row to the history before anything
can follow from it; nothing else in a run adds any. -/
namespace BoardRules

/-- How many moves an action comes to. -/
def movesIn : Except Fault ActionRecord → Nat
  | .ok record => if record.isMove then 1 else 0
  | .error _ => 0

def Execution.moves (e : Execution) : Nat := e.actions.countP ActionRecord.isMove

def ReportDetail.moves (d : ReportDetail) : Nat := (d.execution.map Execution.moves).getD 0

def Report.moves (r : Report) : Nat := (r.details.map ReportDetail.moves).sum

/-- So many rows are added to the history. -/
def Adds (n : Nat) (w w' : World) : Prop :=
  ∃ rows, w'.store.history = w.store.history ++ rows ∧ rows.length = n

namespace Adds

variable {w w' w₁ w₂ w₃ : World} {m n : Nat}

theorem of_history (h : w'.store.history = w.store.history) : Adds 0 w w' :=
  ⟨[], by rw [h, List.append_nil], rfl⟩

theorem of_ledger (h : w'.ledger = w.ledger) : Adds 0 w w' :=
  of_history (congrArg Store.history (World.store_of_ledger h))

theorem trans (h : Adds m w₁ w₂) (h' : Adds n w₂ w₃) : Adds (m + n) w₁ w₃ := by
  obtain ⟨rows, hrows, rfl⟩ := h
  obtain ⟨rows', hrows', rfl⟩ := h'
  exact ⟨rows ++ rows', by rw [hrows', hrows, List.append_assoc], List.length_append⟩

end Adds

/-- Whether requests for cascades are left for later, as far as the history goes. -/
def HandOver.Spares (h : HandOver) : Prop :=
  ∀ request w, (Engine.exec (h request) w).2.store.history = w.store.history

namespace Engine

variable {env : Environment} {h : HandOver}

theorem spares_openPool : HandOver.Spares openPool := fun _ _ => rfl

theorem spares_closedPool : HandOver.Spares closedPool := fun _ _ => rfl

theorem spares_jobQueue : HandOver.Spares jobQueue := fun _ _ => rfl

theorem spares_brokenQueue : HandOver.Spares brokenQueue := fun _ _ => rfl

/-- A move that succeeds. Once the card is in its new stage and the row that tells so is written, a
cascade is scheduled, and that is all. -/
structure Moves (env : Environment) (h : HandOver) (ctx : ActionContext) (target : String)
    (row : CardRow) (stage : StageView) (time : Moment) (w w' : World) : Prop where
  card : ctx.card.id? = some row.id
  stored : w.store.card? row.id = some row
  found : w.store.stageFor target = .ok stage
  rest : ∃ w₁ : World,
    w₁.ledger = { w.ledger with store := w.store.applyMove (moveTo w.store row stage) time } ∧
    w'.ledger = (exec (scheduleCascade env h (moveTo w.store row stage) ctx.depth) w₁).2.ledger

/-- An action is a move that succeeds, or it adds nothing to the history. -/
theorem perform_moves (env : Environment) (hanswers : h.Answers) (ctx : ActionContext)
    (payload : Json) (w : World) :
    (∃ target row stage time report w', Action.ofJson payload = .ok (.moveCard target) ∧
      Moves env h ctx target row stage time w w' ∧
      exec (perform env h ctx payload) w = (.ok (recordOf payload (.success report)), w')) ∨
    ∃ r w', exec (perform env h ctx payload) w = (r, w') ∧
      w'.store.history = w.store.history ∧ ∀ record, r = .ok record → record.isMove = false := by
  cases perform_followed env ctx payload w with
  | handed target row stage time w₁ hcommits hdepth hending =>
    have hcorrelation : w₁.ambient.correlation = w.ambient.correlation :=
      congrArg (fun l => l.ambient.correlation) hcommits.ledger
    obtain ⟨w₂, hw₂, hsched⟩ := scheduleCascade_handed h (moveTo w.store row stage) hdepth w₁
    obtain ⟨taken, htaken⟩ := hanswers
      (requestAfter (moveTo w.store row stage) (ctx.depth + 1) w.ambient.correlation) w₁
    obtain ⟨w', hledger, hperform⟩ := hending h taken _ (Prod.ext htaken rfl)
    rw [hcorrelation] at hw₂
    refine .inl ⟨target, row, stage, time, _, w', hcommits.action,
      ⟨hcommits.card, hcommits.stored, hcommits.found, w₁, hcommits.ledger, ?_⟩, hperform⟩
    rw [hsched, hw₂, hledger]
  | refused target row stage time w₁ w' hcommits hdepth hledger hending =>
    obtain ⟨w₂, hw₂, hsched⟩ :=
      scheduleCascade_refused env (moveTo w.store row stage) hdepth w₁
    refine .inl ⟨target, row, stage, time, _, w', hcommits.action,
      ⟨hcommits.card, hcommits.stored, hcommits.found, w₁, hcommits.ledger, ?_⟩, hending h⟩
    rw [hsched, hw₂, hledger]
  | other r w' fields accepted hledger hrecord hending =>
    exact .inr ⟨r, w', hending h, congrArg (fun l => l.store.history) hledger, hrecord⟩

section

variable (hanswers : h.Answers) (hspares : h.Spares)

include hspares

theorem scheduleCascade_spares (move : CardMove) (depth : Int) (w : World) :
    (exec (scheduleCascade env h move depth) w).2.store.history = w.store.history := by
  by_cases hdepth : env.maxDepth < depth + 1
  · obtain ⟨w', hledger, hexec⟩ := scheduleCascade_refused env move hdepth w
    rw [hexec]
    exact congrArg (fun l => l.store.history) hledger
  · obtain ⟨w', hledger, hexec⟩ := scheduleCascade_handed h move (Int.not_lt.mp hdepth) w
    rw [hexec]
    exact (congrArg (fun l => l.store.history) hledger).trans (hspares _ w)

include hanswers

theorem perform_adds {ctx : ActionContext} {payload : Json} {w w' : World}
    {r : Except Fault ActionRecord} (hexec : exec (perform env h ctx payload) w = (r, w')) :
    Adds (movesIn r) w w' := by
  rcases perform_moves env hanswers ctx payload w with
    ⟨target, row, stage, time, report, w₁, haction, ⟨_, _, _, v, hv, hrest⟩, hperform⟩ |
      ⟨r', w₁, hperform, hhistory, hrecorded⟩
  · rw [hexec] at hperform
    cases hperform
    rw [movesIn, isMove_of_success report haction, if_pos rfl]
    refine ⟨[.ofMove (moveTo w.store row stage) time], ?_, rfl⟩
    rw [World.store_of_ledger hrest, scheduleCascade_spares hspares]
    exact congrArg (fun l => l.store.history) hv
  · rw [hexec] at hperform
    cases hperform
    cases r with
    | error f => exact .of_history hhistory
    | ok record =>
      rw [movesIn, hrecorded record rfl, if_neg Bool.false_ne_true]
      exact .of_history hhistory

theorem Performed.adds {ctx : ActionContext} {w w' : World} {payloads : List Json}
    {records : List ActionRecord} (hperformed : Performed env h ctx w payloads records w') :
    Adds (records.countP ActionRecord.isMove) w w' := by
  induction hperformed with
  | nil w => exact .of_history rfl
  | cons hexec _ ih =>
    have hfirst := perform_adds hanswers hspares hexec
    rw [movesIn] at hfirst
    rw [List.countP_cons, Nat.add_comm]
    exact hfirst.trans ih

theorem execution_adds {v : AutomationView} {card : RowRef} {depth : Int} {w w' : World}
    {e : Execution} (hexec : exec (execution env h v card depth) w = (.ok e, w')) :
    Adds e.moves w w' := by
  obtain ⟨met, w₁, hgate, ⟨-, rfl, rfl⟩ | ⟨-, records, hall, rfl⟩⟩ := execution_eq_ok hexec
  · exact .of_ledger (gate_eq_ok hgate).1
  · have hmoves : (Execution.ofRecords met records).moves =
        0 + records.countP ActionRecord.isMove := by
      unfold Execution.moves Execution.ofRecords
      split <;> exact (Nat.zero_add _).symm
    rw [hmoves]
    refine (Adds.of_ledger (gate_eq_ok hgate).1).trans ?_
    rcases performAll_eq_ok hall with ⟨hperformed, -⟩ |
      ⟨done, payload, rest, succeeded, failed, message, w₂, -, rfl, hperformed, -, hlast, -⟩
    · exact Performed.adds hanswers hspares hperformed
    · exact Performed.adds hanswers hspares (hperformed.snoc hlast)

theorem execute_adds {v : AutomationView} {card : RowRef} {triggerType : String} {depth : Int}
    {w w' : World} {e : Execution}
    (hexec : exec (execute env h v card triggerType depth) w = (.ok e, w')) :
    Adds e.moves w w' := by
  obtain ⟨r, w₁, w₂, hexecution, ⟨f, -, -, hexecute⟩ |
    ⟨e', rfl, ⟨-, -, hexecute⟩ | ⟨id, time, -, hledger, hexecute⟩⟩⟩ :=
      execute_cases env h v card triggerType depth w
  · rw [hexec] at hexecute
    cases hexecute
  · rw [hexec] at hexecute
    cases hexecute
  · rw [hexec] at hexecute
    cases hexecute
    have hmoved : Adds e.moves (w.executing v card) w₁ :=
      execution_adds hanswers hspares hexecution
    obtain ⟨rows, hrows, hlength⟩ := hmoved
    refine ⟨rows, ?_, hlength⟩
    rw [World.store_executing] at hrows
    exact (congrArg (fun l => l.store.history) hledger).trans hrows

theorem Turns.adds {card : RowRef} {triggerType : String} {depth : Int} {w w' : World}
    {views : List AutomationView} {details : List ReportDetail}
    (hturns : Turns env h card triggerType depth w views details w') :
    Adds (details.map ReportDetail.moves).sum w w' := by
  induction hturns with
  | nil w => exact .of_history rfl
  | passed _ hexecution _ ih =>
    rw [List.map_cons, List.sum_cons, ReportDetail.moves, hexecution]
    exact (Nat.zero_add _).symm ▸ ih
  | executed e _ _ hexecution hexec _ ih =>
    rw [List.map_cons, List.sum_cons, ReportDetail.moves, hexecution]
    exact (execute_adds hanswers hspares hexec).trans ih

/-- A run that reports adds as many rows to the history as it tells of moves that succeeded. -/
theorem run_adds {triggerType : String} {card pipe : RowRef} {occasion : Occasion} {depth : Int}
    {w w' : World} {report : Report}
    (hexec : exec (run env h triggerType card pipe occasion depth) w = (.ok report, w')) :
    Adds report.moves w w' := by
  obtain ⟨r, w₁, w₂, hcore, hledger, hrun⟩ :=
    run_cases env h triggerType card pipe occasion depth w
  rw [hexec] at hrun
  cases hrun
  have hhistory : w'.store.history = w₁.store.history :=
    congrArg (fun l => l.store.history) hledger
  have hstart := w.store_running triggerType card pipe depth
  generalize w.running triggerType card pipe depth = w₀ at hcore hstart
  suffices hadds : Adds report.moves w₀ w₁ by
    obtain ⟨rows, hrows, hlength⟩ := hadds
    exact ⟨rows, by rw [hhistory, hrows, hstart], hlength⟩
  cases hpipe : w₀.store.namedPipe? pipe with
  | none =>
    obtain ⟨w₂, hledger₂, hnone | ⟨-, -, hfault⟩⟩ :=
      runCore_of_no_pipe env h triggerType card occasion depth hpipe
    · rw [hcore] at hnone
      cases hnone
      exact .of_ledger hledger₂
    · rw [hcore] at hfault
      cases hfault
  | some id =>
    obtain ⟨examined, details, w₂, hledger₂, hrows, hmatching, rfl⟩ := runCore_eq_ok hpipe hcore
    have hbare : ∀ p ∈ examined, p.2.id = p.1.id ∧ p.2.execution = none := by
      have hlisted := hrows.imp fun a p hp => (isListed_of_examined hp.1 hp.2).2
      intro p hp
      obtain ⟨a, hp⟩ := exists_forall₂_iff.mp ⟨_, hlisted.flip⟩ p hp
      exact hp
    have hturned := Turns.adds hanswers hspares (turns_of_executeMatching hbare hmatching).1
    obtain ⟨rows, hrows', hlength⟩ := hturned
    refine ⟨rows, ?_, hlength⟩
    rw [hrows', World.store_of_ledger hledger₂]

end

end Engine
end BoardRules
