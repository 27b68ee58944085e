import BoardRules.Store.Query

/-! The order in which the automations of a pipe run. Those with a position come first, by position;
those that are level run by the time they were made. Of two that are level in that too, either may
come first. -/
namespace BoardRules

namespace AutomationRow

/-- Whether an automation may run before another one. -/
inductive Precedes : AutomationRow → AutomationRow → Prop where
  | positioned {a b : AutomationRow} {p : Int} (ha : a.position = some p)
    (hb : b.position = none) : Precedes a b
  | lower {a b : AutomationRow} {p q : Int} (ha : a.position = some p) (hb : b.position = some q)
    (hlt : p < q) : Precedes a b
  | level {a b : AutomationRow} (hposition : a.position = b.position)
    (hcreated : a.created.atMost b.created = true) : Precedes a b

variable {a b c : AutomationRow}

theorem runsBefore_iff : a.runsBefore b = true ↔ a.Precedes b := by
  unfold runsBefore
  constructor
  · intro hbefore
    split at hbefore
    · rename_i p q ha hb
      simp only [Bool.or_eq_true, decide_eq_true_eq, Bool.and_eq_true, beq_iff_eq] at hbefore
      rcases hbefore with hlt | ⟨rfl, hcreated⟩
      · exact .lower ha hb hlt
      · exact .level (ha.trans hb.symm) hcreated
    · rename_i p ha hb
      exact .positioned ha hb
    · cases hbefore
    · rename_i ha hb
      exact .level (ha.trans hb.symm) hbefore
  · intro hprecedes
    cases hprecedes with
    | positioned ha hb => rw [ha, hb]
    | lower ha hb hlt => simp [ha, hb, hlt]
    | level hposition hcreated =>
      rw [hposition]
      cases b.position with
      | none => exact hcreated
      | some p => simp [hcreated]

theorem Precedes.trans (hab : a.Precedes b) (hbc : b.Precedes c) : a.Precedes c := by
  cases hab with
  | positioned ha hb =>
    cases hbc with
    | positioned hb' _ | lower hb' _ _ =>
      rw [hb] at hb'
      cases hb'
    | level hposition _ => exact .positioned ha (hposition ▸ hb)
  | lower ha hb hlt =>
    cases hbc with
    | positioned _ hc => exact .positioned ha hc
    | lower hb' hc hlt' =>
      rw [hb] at hb'
      cases hb'
      exact .lower ha hc (Int.lt_trans hlt hlt')
    | level hposition _ => exact .lower ha (hposition ▸ hb) hlt
  | level hposition hcreated =>
    cases hbc with
    | positioned hb hc => exact .positioned (hposition.trans hb) hc
    | lower hb hc hlt => exact .lower (hposition.trans hb) hc hlt
    | level hposition' hcreated' =>
      exact .level (hposition.trans hposition') (Moment.atMost_trans hcreated hcreated')

theorem Precedes.total (a b : AutomationRow) : a.Precedes b ∨ b.Precedes a := by
  cases ha : a.position with
  | none =>
    cases hb : b.position with
    | none =>
      exact (Moment.atMost_total a.created b.created).imp (.level (ha.trans hb.symm))
        (.level (hb.trans ha.symm))
    | some q => exact .inr (.positioned hb ha)
  | some p =>
    cases hb : b.position with
    | none => exact .inl (.positioned ha hb)
    | some q =>
      obtain hlt | rfl | hgt := Int.lt_trichotomy p q
      · exact .inl (.lower ha hb hlt)
      · exact (Moment.atMost_total a.created b.created).imp (.level (ha.trans hb.symm))
          (.level (hb.trans ha.symm))
      · exact .inr (.lower hb ha hgt)

/-- Whether a trigger type calls for an automation of a pipe. -/
def IsCalled (a : AutomationRow) (pipe : Uuid) (triggerType : String) : Prop :=
  a.pipe = pipe ∧ a.enabled = true ∧ a.triggerType = triggerType

instance (a : AutomationRow) (pipe : Uuid) (triggerType : String) :
    Decidable (a.IsCalled pipe triggerType) :=
  inferInstanceAs (Decidable (_ ∧ _ ∧ _))

end AutomationRow

namespace Store

/-- Nothing that is called for is left out, and nothing is there twice that is stored once. -/
theorem automationRows_perm (s : Store) (pipe : Uuid) (triggerType : String) :
    (s.automationRows pipe triggerType).Perm
      (s.automations.filter fun a => a.IsCalled pipe triggerType) := by
  unfold automationRows
  refine (List.mergeSort_perm _ _).trans (.of_eq (List.filter_congr fun a _ => ?_))
  rw [Bool.eq_iff_iff, decide_eq_true_iff]
  simp [AutomationRow.IsCalled, and_assoc]

theorem automationRows_ordered (s : Store) (pipe : Uuid) (triggerType : String) :
    (s.automationRows pipe triggerType).Pairwise AutomationRow.Precedes := by
  unfold automationRows
  refine (List.pairwise_mergeSort ?_ ?_ _).imp AutomationRow.runsBefore_iff.mp
  · intro a b c hab hbc
    rw [AutomationRow.runsBefore_iff] at hab hbc ⊢
    exact hab.trans hbc
  · intro a b
    rw [Bool.or_eq_true, AutomationRow.runsBefore_iff, AutomationRow.runsBefore_iff]
    exact AutomationRow.Precedes.total a b

end Store
end BoardRules
