import BoardRules.Engine.Cascade
import BoardRules.Proofs.Engine.Ledger
import BoardRules.Session.Run

/-! What may become of requests for cascades. Whoever takes requests over may refuse one or put it
aside, and at any time run some of those put aside, in any order; the runs may hand over requests in
turn, to the same taker or to another one. -/
namespace BoardRules

def World.pending (w : World) (queue : List CascadeRequest) : World := { w with queue }

def World.handed (w : World) (request : CascadeRequest) (taken : Bool) : World :=
  if taken then w.pending (w.queue ++ [request]) else w

open Engine

/-- What can come of requests that are put aside. -/
inductive Unfolds (env : Environment) : World → World → Prop where
  | noted {w w' : World} (hledger : w'.ledger = { w.ledger with ambient := w'.ambient }) :
    Unfolds env w w'
  /-- A request is run, whichever it is. What its run hands over unfolds as well. -/
  | ran {w : World} (h : HandOver) (taken : CascadeRequest → World → Bool)
    (hunfolds : ∀ request v,
      Unfolds env (v.handed request (taken request v)) (exec (h request) v).2)
    (before : List CascadeRequest) (request : CascadeRequest) (after : List CascadeRequest)
    (hqueue : w.queue = before ++ request :: after) :
    Unfolds env w (exec (runCascade env h request) (w.pending (before ++ after))).2
  | trans {w₁ w₂ w₃ : World} (h₁ : Unfolds env w₁ w₂) (h₂ : Unfolds env w₂ w₃) : Unfolds env w₁ w₃

/-- Whether each request is refused or put aside, and nothing but requests put aside is run. -/
def HandOver.Cascades (env : Environment) (h : HandOver) : Prop :=
  ∃ taken : CascadeRequest → World → Bool,
    ∀ request w, Unfolds env (w.handed request (taken request w)) (exec (h request) w).2

namespace Unfolds

variable {env : Environment} {w w' : World}

theorem of_ledger (hledger : w'.ledger = w.ledger) : Unfolds env w w' := by
  refine .noted ?_
  rw [hledger, World.ambient_of_ledger hledger]
  rfl

end Unfolds

namespace Engine

variable {env : Environment}

theorem cascades_openPool : HandOver.Cascades env openPool :=
  ⟨fun _ _ => true, fun _ _ => .of_ledger rfl⟩

theorem cascades_closedPool : HandOver.Cascades env closedPool := by
  have hquiet : ∀ request, Quiet (closedPool request) := fun request =>
    Keeps.bind Still.law (quiet_logFault cascadeLogger (by decide) _ _) fun _ =>
      Keeps.bind Still.law (fun w => World.ledger_noted_eq rfl rfl rfl w) fun _ =>
        Keeps.pure Still.law false
  exact ⟨fun _ _ => false, fun request w => .of_ledger (hquiet request w)⟩

theorem cascades_jobQueue : HandOver.Cascades env jobQueue := by
  refine ⟨fun _ _ => true, fun request w => .of_ledger ?_⟩
  exact quiet_log cascadeLogger (by decide) _ _ _ ((w.noted (.job request)).handed request true)

theorem cascades_brokenQueue : HandOver.Cascades env brokenQueue := by
  refine ⟨fun _ _ => false, fun request w => .of_ledger ?_⟩
  exact quiet_logFault cascadeLogger (by decide) _ _ w

/-- Runs a request at once, before the action that asked for it goes on. What that run hands over
is left to another taker. -/
def inPlace (env : Environment) (h : HandOver) : HandOver := fun request => do
  let _ ← outcome (runCascade env h request)
  return true

theorem cascades_inPlace {h : HandOver} (hh : h.Cascades env) :
    HandOver.Cascades env (inPlace env h) := by
  obtain ⟨taken, htaken⟩ := hh
  refine ⟨fun _ _ => true, fun request w => ?_⟩
  have hran := Unfolds.ran (w := w.handed request true) h taken htaken w.queue request [] rfl
  have hpending : (w.handed request true).pending (w.queue ++ []) = w := by
    rw [List.append_nil]
    rfl
  rw [hpending] at hran
  unfold Engine.inPlace
  rw [exec_bind_ok (exec_outcome _ _), exec_pure]
  dsimp only
  exact hran

end Engine

/-- The usual ways to take requests over: as in one of the modes, or by running a request in place,
where what its run hands over is taken over in such a way, too. -/
inductive HandOver.Usual (env : Environment) : HandOver → Prop where
  | mode (m : CascadeMode) : Usual env m.handOver
  | inPlace {h : HandOver} (hh : Usual env h) : Usual env (Engine.inPlace env h)

theorem HandOver.Usual.cascades {env : Environment} {h : HandOver} (hh : h.Usual env) :
    h.Cascades env := by
  induction hh with
  | mode m =>
    cases m with
    | pool => exact cascades_openPool
    | closed => exact cascades_closedPool
    | queue | worked => exact cascades_jobQueue
    | broken => exact cascades_brokenQueue
  | inPlace _ ih => exact cascades_inPlace ih

end BoardRules
