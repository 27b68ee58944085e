import BoardRules.Proofs.Json.ReadBack
import BoardRules.Condition
import BoardRules.Trigger

/-! Comparison of lists and objects. They are compared by their texts, and a text is the text of one
value, so nothing but the value itself equals a list or an object. -/
namespace BoardRules

namespace Json

/-- A list or an object in which no double stands and the keys of every object differ. -/
inductive Structured : Json → Prop where
  | arr {items : List Json} (h : Exact (.arr items)) : Structured (.arr items)
  | obj {entries : List (String × Json)} (h : Exact (.obj entries)) : Structured (.obj entries)

variable {v : Json}

theorem Structured.exact (h : Structured v) : Exact v := by
  cases h <;> assumption

theorem Structured.toText_eq (h : Structured v) : v.toText = v.compact := by
  cases h <;> rfl

theorem Structured.isNull_eq (h : Structured v) : v.isNull = false := by
  cases h <;> rfl

theorem Structured.isVisible (h : Structured v) {c : Char} (hc : c ∈ v.toText.toList) :
    IsVisible c := by
  rw [h.toText_eq, compact, String.toList_ofList] at hc
  exact h.exact.wellFormed.isVisible (fun c hc => isVisible_of_all hc (by decide))
    (fun c hc => isVisible_of_all hc (by decide)) hc

end Json

/-- Lists and objects have the same text only if they are identical, and their texts are printable;
so they equal nothing among each other but themselves. -/
theorem structured_values_differ {a b : Json} (ha : a.Structured) (hb : b.Structured) :
    (a.toText = b.toText ↔ a = b) ∧
    (∀ c ∈ a.toText.toList, 0x20 ≤ c.toNat ∧ c.toNat ≤ 0x7e) ∧
    compare? "equals" a b = some (decide (a = b)) ∧
    compare? "not_equals" a b = some (decide (a ≠ b)) ∧
    newValueFits "equals" a b = decide (a = b) ∧
    newValueFits "not_equals" a b = decide (a ≠ b) := by
  have htext : a.toText = b.toText ↔ a = b := by
    rw [ha.toText_eq, hb.toText_eq]
    exact ha.exact.compact_inj hb.exact
  have hequal : (a.toText == b.toText) = decide (a = b) := by
    rw [beq_eq_decide]
    exact decide_eq_decide.mpr htext
  have hother : (a.toText != b.toText) = decide (a ≠ b) := by
    rw [bne, hequal, decide_not]
  refine ⟨htext, fun c hc => ha.isVisible hc, ?_, ?_, hequal, hother⟩
  · change (if a.isNull then some false else some (a.toText == b.toText)) = _
    rw [ha.isNull_eq, if_neg Bool.false_ne_true, hequal]
  · change (if a.isNull then some false else some (a.toText != b.toText)) = _
    rw [ha.isNull_eq, if_neg Bool.false_ne_true, hother]

theorem structured_values_differ_one :
    compare? "equals" (.obj [("done", .arr [.bool true])]) (.obj [("done", .arr [.int 1])]) =
      some false ∧
    newValueFits "not_equals" (.obj [("done", .arr [.bool true])])
      (.obj [("done", .arr [.int 1])]) = true := by
  have hdone : ∀ v : Json, v.Exact → Json.Structured (.obj [("done", .arr [v])]) := fun v hv =>
    .obj (.obj (List.nodup_singleton _) (List.forall_mem_singleton.mpr
      (.arr (List.forall_mem_singleton.mpr hv))))
  have hdiffer := structured_values_differ (hdone (.bool true) (.bool true))
    (hdone (.int 1) (.int 1))
  exact ⟨hdiffer.2.2.1.trans (by decide), hdiffer.2.2.2.2.2.trans (by decide)⟩

end BoardRules
