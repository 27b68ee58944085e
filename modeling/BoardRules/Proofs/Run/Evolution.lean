import BoardRules.Proofs.Cascade.Unfold
import BoardRules.Proofs.Run.Law
import BoardRules.Proofs.Store.Evolution

/-! Whatever a run does, and whatever comes of the cascades that it sets off: what is stored evolves
by transactions. -/
namespace BoardRules

open Engine

def Evolving (w w' : World) : Prop := w.store.Evolves w'.store

namespace Evolving

variable {w w' w₁ w₂ w₃ : World}

theorem of_store (h : w'.store = w.store) : Evolving w w' := Store.Evolves.of_eq h

theorem of_transaction {store : Store} (h : w.store.Transaction store)
    (hledger : w'.ledger = { w.ledger with store := store }) : Evolving w w' := by
  have hstore : w'.store = store := congrArg Ledger.store hledger
  unfold Evolving
  rw [hstore]
  exact .single h

theorem trans (h : Evolving w₁ w₂) (h' : Evolving w₂ w₃) : Evolving w₁ w₃ :=
  Store.Evolves.trans h h'

theorem law : Law Evolving where
  quiet := fun h => of_store (World.store_of_ledger h)
  trans := trans
  within := fun _ h => h

/-- A move to a stage as it is seen is a move to a stage that is stored. -/
theorem moved {row : CardRow} {stage : StageView} (hrow : w.store.card? row.id = some row)
    (hstage : w.store.ShowsStage stage) (time : Moment)
    (hledger : w'.ledger = { w.ledger with
      store := w.store.applyMove (moveTo w.store row stage) time }) : Evolving w w' := by
  obtain ⟨stored, hstored, hid, hname, hpipe⟩ := hstage
  have hmove : moveTo w.store row stage = w.store.moveInto row stored := by
    unfold moveTo
    rw [hid, hname, hpipe]
    rfl
  rw [hmove] at hledger
  exact of_transaction (.moved row stored time hrow hstored) hledger

theorem actionLaw : ActionLaw Evolving where
  toLaw := law
  mailed := fun h => of_store (congrArg Ledger.store h)
  refused := fun h => of_store (congrArg Ledger.store h)
  wrote := fun row key value time hrow h => of_transaction (.wrote row key value time hrow) h
  moved := fun _ _ _ time hrow hstage h => moved hrow (Store.showsStage_of_stageFor hstage) time h

theorem runLaw : RunLaw Evolving where
  toLaw := law
  entered := fun row h => of_transaction (.entered row) h
  counted := fun h => of_store (congrArg Ledger.store h)

end Evolving

namespace Engine

variable {env : Environment} {h : HandOver}

section

variable (hover : ∀ request, Keeps Evolving (h request))

include hover

theorem evolving_run (triggerType : String) (card pipe : RowRef) (occasion : Occasion)
    (depth : Int) : Keeps Evolving (run env h triggerType card pipe occasion depth) :=
  Keeps.run Evolving.runLaw
    (fun ctx payload _ => Keeps.perform Evolving.actionLaw hover ctx payload)
    triggerType card pipe occasion

theorem evolving_runCascade (request : CascadeRequest) :
    Keeps Evolving (runCascade env h request) := by
  unfold runCascade
  exact Keeps.withAmbient Evolving.law _ (evolving_run hover _ _ _ _ _)

theorem evolving_runOn (triggerType : String) (card pipe : RowRef) (told : Json)
    (depth : Option Int) : Keeps Evolving (runOn env h triggerType card pipe told depth) := by
  unfold runOn occasionOf
  refine Keeps.bind Evolving.law ?_ fun occasion => Keeps.bind Evolving.law
    (fun _ => .of_store rfl) fun _ => evolving_run hover triggerType card pipe occasion _
  split <;> exact fun _ => .of_store rfl

end

/-- However requests unfold, what is stored evolves. -/
theorem evolving_of_unfolds {w w' : World} (hunfolds : Unfolds env w w') : Evolving w w' := by
  induction hunfolds with
  | noted hledger => exact .of_store (congrArg Ledger.store hledger)
  | @ran w h taken _ before request after _ ih =>
    -- what the run hands over unfolds to something smaller, to which the hypothesis applies
    have hover : ∀ request, Keeps Evolving (h request) := by
      intro request v
      have hhanded : Evolving v (v.handed request (taken request v)) := by
        unfold World.handed
        split <;> exact .of_store rfl
      exact hhanded.trans (ih request v)
    have hpending : Evolving w (w.pending (before ++ after)) := .of_store rfl
    exact hpending.trans (evolving_runCascade hover request _)
  | trans _ _ ih₁ ih₂ => exact ih₁.trans ih₂

theorem evolving_of_cascades (hcascades : h.Cascades env) (request : CascadeRequest) :
    Keeps Evolving (h request) := by
  intro w
  obtain ⟨taken, hunfolds⟩ := hcascades
  have hhanded : Evolving w (w.handed request (taken request w)) := by
    unfold World.handed
    split <;> exact .of_store rfl
  exact hhanded.trans (evolving_of_unfolds (hunfolds request w))

end Engine
end BoardRules
