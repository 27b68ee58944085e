import Mathlib.Algebra.Order.BigOperators.Group.List
import Mathlib.Algebra.Ring.GeomSum
import BoardRules.Proofs.Cascade.Depth
import BoardRules.Proofs.Cascade.Unfold
import BoardRules.Proofs.Run.Course
import BoardRules.Proofs.Store.Change
import BoardRules.Proofs.Store.Sound

/-! How many runs cascades come to. Each run at a depth has a budget that covers itself and all that
can follow from it; a run never spends more, so the budgets of the requests that are put aside
shrink with every run, whichever request is taken next. -/
namespace BoardRules

def Json.asksForMove (payload : Json) : Bool :=
  (payload.entries.getD "type").text? == some "move_card"

theorem asksForMove_of_moveCard {payload : Json} {target : String}
    (h : Action.ofJson payload = .ok (.moveCard target)) : payload.asksForMove = true := by
  unfold Json.asksForMove
  rw [Action.type_of_ofJson h]
  rfl

def AutomationRow.moves (a : AutomationRow) : Nat :=
  match a.actions.toItems with
  | .ok payloads => payloads.countP Json.asksForMove
  | .error _ => 0

/-- Whether the automations of any one pipe and trigger type ask for no more moves than `B`. -/
def Store.MovesAtMost (s : Store) (B : Nat) : Prop :=
  ∀ pipe triggerType, ((s.automationRows pipe triggerType).map AutomationRow.moves).sum ≤ B

/-- There is always such a bound. -/
theorem Store.movesAtMost_sum (s : Store) :
    s.MovesAtMost (s.automations.map AutomationRow.moves).sum := by
  intro pipe triggerType
  unfold automationRows
  have hperm := (List.mergeSort_perm (s.automations.filter fun a =>
    a.pipe == pipe && a.enabled && a.triggerType == triggerType) AutomationRow.runsBefore).map
      AutomationRow.moves
  rw [hperm.sum_nat]
  exact (List.filter_sublist.map AutomationRow.moves).sum_le_sum fun _ _ => Nat.zero_le _

/-- How many runs a run can come to that may be followed by others `k` times over. -/
def budget (B k : Nat) : Nat := ∑ i ∈ Finset.range (k + 1), B ^ i

theorem budget_zero (B : Nat) : budget B 0 = 1 := by
  simp [budget]

theorem budget_succ (B k : Nat) : budget B (k + 1) = B * budget B k + 1 := geom_sum_succ

theorem budget_pos (B k : Nat) : 0 < budget B k := by
  cases k with
  | zero => rw [budget_zero]; exact Nat.one_pos
  | succ k => rw [budget_succ]; exact Nat.succ_pos _

/-- How many times over a run at a depth may be followed by others. -/
def Environment.rank (env : Environment) (depth : Int) : Nat := (env.maxDepth - depth).toNat

/-- What a run at a depth may spend on each move. -/
def Environment.moveBudget (env : Environment) (B : Nat) (depth : Int) : Nat :=
  if depth + 1 ≤ env.maxDepth then budget B (env.rank (depth + 1)) else 0

/-- A run has its budget for itself and for up to `B` moves. -/
theorem budget_covers (env : Environment) (B : Nat) (depth : Int) :
    B * env.moveBudget B depth + 1 ≤ budget B (env.rank depth) := by
  unfold Environment.moveBudget
  by_cases hdepth : depth + 1 ≤ env.maxDepth
  · have hrank : env.rank depth = env.rank (depth + 1) + 1 := by
      unfold Environment.rank
      omega
    rw [if_pos hdepth, hrank, budget_succ]
  · rw [if_neg hdepth, Nat.mul_zero, Nat.zero_add]
    exact budget_pos B _

def budgets (env : Environment) (B : Nat) (queue : List CascadeRequest) : Nat :=
  (queue.map fun request => budget B (env.rank request.depth)).sum

/-- The runs that are over and those that the requests put aside can come to. -/
def World.potential (env : Environment) (B : Nat) (w : World) : Nat :=
  w.ledger.runs + budgets env B w.queue

/-- With certain automations stored, no more than `c` is spent, and no run is undone. -/
def Spends (env : Environment) (B : Nat) (automations : List AutomationRow) (c : Nat)
    (w w' : World) : Prop :=
  w.store.automations = automations →
    w'.store.automations = automations ∧ w.ledger.runs ≤ w'.ledger.runs ∧
      w'.potential env B ≤ w.potential env B + c

namespace Spends

variable {env : Environment} {B : Nat} {automations : List AutomationRow} {c c' : Nat}
  {w w' w₁ w₂ w₃ : World}

theorem of_same (hautomations : w'.store.automations = w.store.automations)
    (hqueue : w'.queue = w.queue) (hruns : w'.ledger.runs = w.ledger.runs) :
    Spends env B automations 0 w w' := by
  intro hw
  refine ⟨hautomations.trans hw, hruns.ge, ?_⟩
  unfold World.potential
  rw [hqueue, hruns, Nat.add_zero]

theorem trans (h₁ : Spends env B automations c w₁ w₂) (h₂ : Spends env B automations c' w₂ w₃) :
    Spends env B automations (c + c') w₁ w₃ := by
  intro hw
  obtain ⟨hautomations, hruns, hspent⟩ := h₁ hw
  obtain ⟨hautomations', hruns', hspent'⟩ := h₂ hautomations
  exact ⟨hautomations', hruns.trans hruns', by omega⟩

theorem mono (hle : c ≤ c') (h : Spends env B automations c w w') :
    Spends env B automations c' w w' := by
  intro hw
  obtain ⟨hautomations, hruns, hspent⟩ := h hw
  exact ⟨hautomations, hruns, by omega⟩

theorem within {a b : Ambient} (h : Spends env B automations c (w.within a) w') :
    Spends env B automations c w (w'.within b) := h

theorem law : Law (Spends env B automations 0) where
  quiet := fun h => of_same (congrArg (fun l => l.store.automations) h) (World.queue_of_ledger h)
    (congrArg (fun l => l.runs) h)
  trans := trans
  within := fun _ h => h

theorem actionLaw : ActionLaw (Spends env B automations 0) where
  toLaw := law
  mailed := fun h => of_same (congrArg (fun l => l.store.automations) h) (congrArg Ledger.queue h)
    (congrArg (fun l => l.runs) h)
  refused := fun h => of_same (congrArg (fun l => l.store.automations) h)
    (congrArg Ledger.queue h) (congrArg (fun l => l.runs) h)
  moved := fun _ _ _ _ _ _ h => of_same (congrArg (fun l => l.store.automations) h)
    (congrArg Ledger.queue h) (congrArg (fun l => l.runs) h)
  wrote := by
    intro w w' row key value time _ h
    have hstore : w'.store = w.store.writeField row.id key value time := congrArg Ledger.store h
    refine of_same ?_ (congrArg Ledger.queue h) (congrArg (fun l => l.runs) h)
    rw [hstore, Store.automations_writeField]

end Spends

theorem Store.MovesAtMost.congr {s s' : Store} {B : Nat} (h : s.MovesAtMost B)
    (hautomations : s'.automations = s.automations) : s'.MovesAtMost B := by
  intro pipe triggerType
  unfold Store.automationRows
  rw [hautomations]
  exact h pipe triggerType

namespace Engine

variable {α β : Type} {env : Environment} {h : HandOver} {B : Nat}
  {automations : List AutomationRow} {c c' : Nat}

theorem Keeps.spend {x : Engine α} {f : α → Engine β}
    (hx : Keeps (Spends env B automations c) x)
    (hf : ∀ a, Keeps (Spends env B automations c') (f a)) :
    Keeps (Spends env B automations (c + c')) (x >>= f) := by
  intro w
  have hw := hx w
  rw [exec_bind]
  cases hxw : exec x w with
  | mk r w₁ =>
    rw [hxw] at hw
    cases r with
    | error e => exact Spends.mono (Nat.le_add_right c c') hw
    | ok a => exact hw.trans (hf a w₁)

section

variable (hover : ∀ request,
  Keeps (Spends env B automations (budget B (env.rank request.depth))) (h request))

include hover

theorem spends_perform (ctx : ActionContext) (payload : Json) :
    Keeps (Spends env B automations
      (if payload.asksForMove then env.moveBudget B ctx.depth else 0))
      (perform env h ctx payload) := by
  intro w
  have hlaw : ActionLaw (Spends env B automations 0) := Spends.actionLaw
  rcases perform_law hlaw payload w with
    hdone | ⟨target, move, w₁, haction, hdepth, hbefore, hafter⟩
  · exact hdone.mono (Nat.zero_le _)
  · rw [if_pos (asksForMove_of_moveCard haction)]
    unfold Environment.moveBudget
    rw [if_pos hdepth]
    have hspent := (hbefore.trans (hover _ w₁)).trans hafter
    rw [Nat.zero_add, Nat.add_zero] at hspent
    exact hspent

theorem spends_performAll (ctx : ActionContext) (payloads : List Json) :
    Keeps (Spends env B automations
      (payloads.countP Json.asksForMove * env.moveBudget B ctx.depth))
      (performAll env h ctx payloads) := by
  induction payloads with
  | nil =>
    rw [List.countP_nil, Nat.zero_mul]
    exact Keeps.pure Spends.law []
  | cons payload payloads ih =>
    have hcost : (payload :: payloads).countP Json.asksForMove * env.moveBudget B ctx.depth =
        (if payload.asksForMove then env.moveBudget B ctx.depth else 0) +
          (payloads.countP Json.asksForMove * env.moveBudget B ctx.depth + 0) := by
      rw [List.countP_cons, Nat.add_mul]
      split <;> omega
    rw [hcost]
    unfold performAll
    refine (spends_perform hover ctx payload).spend fun record => ?_
    split
    · intro w
      exact (Keeps.pure Spends.law [record] w).mono (Nat.zero_le _)
    · exact ih.spend fun _ => Keeps.pure Spends.law _

theorem spends_execution (v : AutomationView) (card : RowRef) (depth : Int) :
    Keeps (Spends env B automations
      (v.actions.countP Json.asksForMove * env.moveBudget B depth))
      (execution env h v card depth) := by
  have hcost : v.actions.countP Json.asksForMove * env.moveBudget B depth =
      0 + (v.actions.countP Json.asksForMove * env.moveBudget B depth + 0) := by omega
  rw [hcost]
  unfold execution
  refine (Keeps.of_quiet Spends.law (Reads.gate v card).quiet).spend fun met => ?_
  split
  · intro w
    exact (Keeps.pure Spends.law _ w).mono (Nat.zero_le _)
  · exact (spends_performAll hover { card, automation := v.id, depth } v.actions).spend fun _ =>
      Keeps.pure Spends.law _

theorem spends_execute (v : AutomationView) (card : RowRef) (triggerType : String) (depth : Int) :
    Keeps (Spends env B automations
      (v.actions.countP Json.asksForMove * env.moveBudget B depth))
      (execute env h v card triggerType depth) := by
  intro w
  have hledger₀ := World.ledger_executing w v card
  obtain ⟨r, w₁, w', hexec, hend⟩ := execute_cases env h v card triggerType depth w
  have hexecution := spends_execution hover v card depth (w.executing v card)
  rw [hexec] at hexecution
  have hspent := (Spends.law.quiet hledger₀).trans hexecution
  rw [Nat.zero_add] at hspent
  rcases hend with ⟨f, -, hledger, hexecute⟩ |
    ⟨e, -, ⟨-, hledger, hexecute⟩ | ⟨id, time, -, hledger, hexecute⟩⟩
  · rw [hexecute]
    exact hspent.trans (Spends.law.quiet hledger)
  · rw [hexecute]
    exact hspent.trans (Spends.law.quiet hledger)
  · rw [hexecute]
    exact hspent.trans (Spends.of_same (congrArg (fun l => l.store.automations) hledger)
      (congrArg (fun l => l.queue) hledger) (congrArg (fun l => l.runs) hledger))

theorem spends_executeMatching (card : RowRef) (triggerType : String) (occasion : Occasion)
    (depth : Int) {rows : List AutomationRow} {examined : List (AutomationView × ReportDetail)}
    (hrows : List.Forall₂ (fun row p => row.view = .ok p.1 ∧
      AutomationView.examined triggerType occasion p.1 = .ok p) rows examined) :
    Keeps (Spends env B automations
      ((rows.map AutomationRow.moves).sum * env.moveBudget B depth))
      (executeMatching env h card triggerType depth examined) := by
  induction hrows with
  | nil =>
    rw [List.map_nil, List.sum_nil, Nat.zero_mul]
    exact Keeps.pure Spends.law []
  | @cons row p rows examined hview _ ih =>
    have hmoves : row.moves = p.1.actions.countP Json.asksForMove := by
      unfold AutomationRow.moves
      rw [(view_eq_ok hview.1).2.2]
    have hcost : ((row :: rows).map AutomationRow.moves).sum * env.moveBudget B depth =
        p.1.actions.countP Json.asksForMove * env.moveBudget B depth +
          ((rows.map AutomationRow.moves).sum * env.moveBudget B depth + 0) := by
      rw [List.map_cons, List.sum_cons, Nat.add_mul, hmoves, Nat.add_zero]
    rw [hcost, executeMatching_cons]
    refine Keeps.spend ?_ fun d => ih.spend fun _ => Keeps.pure Spends.law _
    unfold turn
    split
    · exact Keeps.map _ (spends_execute hover p.1 card triggerType depth)
    · intro w
      exact (Keeps.pure Spends.law _ w).mono (Nat.zero_le _)

theorem spends_runCore (hmoves : ∀ s : Store, s.automations = automations → s.MovesAtMost B)
    (triggerType : String) (card pipe : RowRef) (occasion : Occasion) (depth : Int) :
    Keeps (Spends env B automations (B * env.moveBudget B depth))
      (runCore env h triggerType card pipe occasion depth) := by
  intro w
  have hreads : Reads env (opened env triggerType pipe occasion) _ := Reads.opened _ _ _
  obtain ⟨w₁, hledger, hopened⟩ := hreads w
  have hopening : Spends env B automations 0 w w₁ := Spends.law.quiet hledger
  unfold runCore
  rcases hopened with hopened | ⟨-, hopened⟩
  · cases hanswer : w.store.opening triggerType pipe occasion with
    | error f =>
      rw [hanswer] at hopened
      rw [exec_bind_error hopened]
      exact hopening.mono (Nat.zero_le _)
    | ok found =>
      rw [hanswer] at hopened
      rw [exec_bind_ok hopened]
      cases found with
      | none => exact hopening.mono (Nat.zero_le _)
      | some examined =>
        intro hw
        obtain ⟨id, -, hrows⟩ := Store.opening_eq_ok hanswer
        have hspent := Keeps.map reportOf
          (spends_executeMatching hover card triggerType occasion depth hrows) w₁
        have hcovered := hspent.mono
          (Nat.mul_le_mul_right (env.moveBudget B depth) (hmoves w.store hw id triggerType))
        have hall := hopening.trans hcovered
        rw [Nat.zero_add] at hall
        exact hall hw
  · rw [exec_bind_error hopened]
    exact hopening.mono (Nat.zero_le _)

/-- A run spends no more than the budget at its depth, and it is one run more. -/
theorem spends_run (hmoves : ∀ s : Store, s.automations = automations → s.MovesAtMost B)
    (triggerType : String) (card pipe : RowRef) (occasion : Occasion) (depth : Int) (w : World)
    (hw : w.store.automations = automations) :
    Spends env B automations (budget B (env.rank depth)) w
        (exec (run env h triggerType card pipe occasion depth) w).2 ∧
      w.ledger.runs < (exec (run env h triggerType card pipe occasion depth) w).2.ledger.runs := by
  have hledger₀ := World.ledger_running w triggerType card pipe depth
  obtain ⟨r, w₁, w', hcore, hledger, hrun⟩ :=
    run_cases env h triggerType card pipe occasion depth w
  have hspent := spends_runCore hover hmoves triggerType card pipe occasion depth
    (w.running triggerType card pipe depth)
  rw [hcore] at hspent
  rw [hrun]
  have hstart : Spends env B automations 0 w (w.running triggerType card pipe depth) :=
    Spends.of_same (congrArg (fun l => l.store.automations) hledger₀)
      (congrArg (fun l => l.queue) hledger₀) (congrArg (fun l => l.runs) hledger₀)
  obtain ⟨hautomations, hruns, hpotential⟩ := (hstart.trans hspent) hw
  have hstore : w'.store = w₁.store := congrArg Ledger.store hledger
  have hqueue : w'.queue = w₁.queue := congrArg Ledger.queue hledger
  have hcount : w'.ledger.runs = w₁.ledger.runs + 1 := congrArg Ledger.runs hledger
  have hcovers := budget_covers env B depth
  dsimp only at hautomations hruns hpotential
  refine ⟨fun _ => ⟨?_, ?_, ?_⟩, ?_⟩
  · rw [hstore]
    exact hautomations
  · dsimp only
    omega
  · unfold World.potential at hpotential ⊢
    rw [hcount, hqueue]
    omega
  · dsimp only
    omega

theorem spends_runCascade (hmoves : ∀ s : Store, s.automations = automations → s.MovesAtMost B)
    (request : CascadeRequest) (w : World) (hw : w.store.automations = automations) :
    Spends env B automations (budget B (env.rank request.depth)) w
        (exec (runCascade env h request) w).2 ∧
      w.ledger.runs < (exec (runCascade env h request) w).2.ledger.runs := by
  obtain ⟨hspent, hcount⟩ := spends_run hover hmoves "card_enters_stage" (.ofText request.cardId)
    (.ofText request.pipeId) (.told { stageId := some request.stageId }) request.depth
    (w.within { w.ambient with correlation := request.correlation }) hw
  have hrun := exec_withAmbient (fun a => { a with correlation := request.correlation })
    (run env h "card_enters_stage" (.ofText request.cardId) (.ofText request.pipeId)
      (.told { stageId := some request.stageId }) request.depth) w
  cases hexec : exec (run env h "card_enters_stage" (.ofText request.cardId)
      (.ofText request.pipeId) (.told { stageId := some request.stageId }) request.depth)
      (w.within { w.ambient with correlation := request.correlation }) with
  | mk r w₁ =>
    rw [hexec] at hspent hcount hrun
    unfold runCascade withCorrelation
    rw [hrun]
    exact ⟨hspent.within, hcount⟩

end

theorem budgets_append (env : Environment) (B : Nat) (before after : List CascadeRequest) :
    budgets env B (before ++ after) = budgets env B before + budgets env B after := by
  unfold budgets
  rw [List.map_append, List.sum_append]

theorem potential_pending (env : Environment) (B : Nat) {w : World}
    {before after : List CascadeRequest} {request : CascadeRequest}
    (hqueue : w.queue = before ++ request :: after) :
    (w.pending (before ++ after)).potential env B + budget B (env.rank request.depth) =
      w.potential env B := by
  have hcons : budgets env B (request :: after) =
      budget B (env.rank request.depth) + budgets env B after := rfl
  have hsplit : (w.pending (before ++ after)).potential env B =
      w.ledger.runs + budgets env B (before ++ after) := rfl
  unfold World.potential at hsplit ⊢
  rw [hsplit, hqueue, budgets_append, budgets_append, hcons]
  omega

theorem spends_handed (w : World) (request : CascadeRequest) (taken : Bool) :
    Spends env B automations (budget B (env.rank request.depth)) w (w.handed request taken) := by
  cases taken with
  | false => exact Spends.mono (Nat.zero_le _) (Spends.law.quiet rfl)
  | true =>
    have hlast : budgets env B [request] = budget B (env.rank request.depth) := rfl
    have hqueue : (w.handed request true).potential env B =
        w.ledger.runs + budgets env B (w.queue ++ [request]) := rfl
    intro hw
    refine ⟨hw, Nat.le_refl _, ?_⟩
    rw [hqueue, budgets_append, hlast]
    unfold World.potential
    omega

theorem spends_ran (hmoves : ∀ s : Store, s.automations = automations → s.MovesAtMost B)
    (hover : ∀ request,
      Keeps (Spends env B automations (budget B (env.rank request.depth))) (h request))
    {w : World} (hw : w.store.automations = automations) {before after : List CascadeRequest}
    {request : CascadeRequest} (hqueue : w.queue = before ++ request :: after) :
    Spends env B automations 0 w
        (exec (runCascade env h request) (w.pending (before ++ after))).2 ∧
      w.ledger.runs <
        (exec (runCascade env h request) (w.pending (before ++ after))).2.ledger.runs := by
  obtain ⟨hspent, hcount⟩ :=
    spends_runCascade hover hmoves request (w.pending (before ++ after)) hw
  refine ⟨fun _ => ?_, hcount⟩
  obtain ⟨hautomations, hruns, hpotential⟩ := hspent hw
  refine ⟨hautomations, hruns, ?_⟩
  rw [Nat.add_zero, ← potential_pending env B hqueue]
  exact hpotential

/-- However requests unfold, nothing is spent beyond their budgets. -/
theorem spends_of_unfolds (hmoves : ∀ s : Store, s.automations = automations → s.MovesAtMost B)
    {w w' : World} (hunfolds : Unfolds env w w') : Spends env B automations 0 w w' := by
  induction hunfolds with
  | noted hledger =>
    exact Spends.of_same (congrArg (fun l => l.store.automations) hledger)
      (congrArg (fun l => l.queue) hledger) (congrArg (fun l => l.runs) hledger)
  | @ran w h taken _ before request after hqueue ih =>
    have hover : ∀ request,
        Keeps (Spends env B automations (budget B (env.rank request.depth))) (h request) :=
      fun request v => (spends_handed v request _).trans (ih request v)
    intro hw
    exact (spends_ran hmoves hover hw hqueue).1 hw
  | trans _ _ ih₁ ih₂ => exact ih₁.trans ih₂

theorem spends_of_cascades (hmoves : ∀ s : Store, s.automations = automations → s.MovesAtMost B)
    (hcascades : h.Cascades env) (request : CascadeRequest) :
    Keeps (Spends env B automations (budget B (env.rank request.depth))) (h request) := by
  obtain ⟨taken, hunfolds⟩ := hcascades
  intro w
  exact (spends_handed w request _).trans (spends_of_unfolds hmoves (hunfolds request w))

end Engine
end BoardRules
