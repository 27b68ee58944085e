import BoardRules.Proofs.Run.Course

/-! What holds of every run. Whatever the actions at a depth keep to is kept to by a run at that
depth, as long as entering how automations fared and counting the run keep to it as well. -/
namespace BoardRules

/-- A law that allows for what a run does besides the actions of its automations. -/
structure RunLaw (R : World → World → Prop) : Prop extends Law R where
  entered : ∀ {w w'} (row : LogRow),
    w'.ledger = { w.ledger with store := w.store.addLog row } → R w w'
  counted : ∀ {w w'}, w'.ledger = { w.ledger with runs := w.ledger.runs + 1 } → R w w'

namespace Engine.Keeps

variable {env : Environment} {h : HandOver} {R : World → World → Prop} {depth : Int}

section

variable (law : RunLaw R)
  (hperform : ∀ ctx payload, ctx.depth = depth → Keeps R (Engine.perform env h ctx payload))

include law hperform

theorem execute (a : AutomationView) (card : RowRef) (triggerType : String) :
    Keeps R (Engine.execute env h a card triggerType depth) := by
  intro w
  obtain ⟨r, w₁, w', hexec, hend⟩ := execute_cases env h a card triggerType depth w
  have hexecution : R w w₁ := by
    have hkept : R (w.executing a card)
        (exec (Engine.execution env h a card depth) (w.executing a card)).2 :=
      Keeps.execution_of law.toLaw hperform a card (w.executing a card)
    rw [hexec] at hkept
    exact law.trans (law.quiet (w.ledger_executing a card)) hkept
  rcases hend with ⟨f, -, hledger, hexecute⟩ |
    ⟨e, rfl, ⟨-, hledger, hexecute⟩ | ⟨id, time, -, hledger, hexecute⟩⟩
  · rw [hexecute]
    exact law.trans hexecution (law.quiet hledger)
  · rw [hexecute]
    exact law.trans hexecution (law.quiet hledger)
  · rw [hexecute]
    exact law.trans hexecution (law.entered _ hledger)

theorem executeMatching (card : RowRef) (triggerType : String) :
    ∀ examined, Keeps R (Engine.executeMatching env h card triggerType depth examined)
  | [] => Keeps.pure law.toLaw []
  | p :: rest => by
    rw [executeMatching_cons]
    refine Keeps.bind law.toLaw ?_ fun d => Keeps.bind law.toLaw
      (executeMatching card triggerType rest) fun _ => Keeps.pure law.toLaw _
    unfold turn
    split
    · exact Keeps.map _ (execute law hperform p.1 card triggerType)
    · exact Keeps.pure law.toLaw _

theorem runCore (triggerType : String) (card pipe : RowRef) (occasion : Occasion) :
    Keeps R (Engine.runCore env h triggerType card pipe occasion depth) := by
  unfold Engine.runCore
  refine Keeps.bind law.toLaw
    (Keeps.of_quiet law.toLaw (Reads.opened triggerType pipe occasion).quiet) fun found => ?_
  cases found with
  | none => exact Keeps.pure law.toLaw _
  | some examined => exact Keeps.map _ (executeMatching law hperform card triggerType examined)

theorem run (triggerType : String) (card pipe : RowRef) (occasion : Occasion) :
    Keeps R (Engine.run env h triggerType card pipe occasion depth) := by
  intro w
  obtain ⟨r, w₁, w', hcore, hledger, hrun⟩ :=
    run_cases env h triggerType card pipe occasion depth w
  -- the depth holds for as long as the run lasts, and the run counts once it is over
  have hwithin : R w (w₁.within w.ambient) := by
    refine law.within { w.ambient with depth := some depth } ?_
    have hkept : R (w.running triggerType card pipe depth)
        (exec (Engine.runCore env h triggerType card pipe occasion depth)
          (w.running triggerType card pipe depth)).2 :=
      runCore law hperform triggerType card pipe occasion _
    rw [hcore] at hkept
    exact law.trans (law.quiet (w.ledger_running triggerType card pipe depth)) hkept
  rw [hrun]
  exact law.trans hwithin (law.counted hledger)

end
end Engine.Keeps
end BoardRules
