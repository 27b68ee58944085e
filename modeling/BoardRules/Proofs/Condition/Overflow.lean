import Mathlib.Algebra.Group.Nat.Defs
import Mathlib.Tactic.Common
import BoardRules.Condition

/-! When a condition has no answer. The numeric operators read both sides as doubles, and there is
no double for an integer of too great a magnitude: such an integer, on the card or in the rule, is
the only thing that keeps conditions from being decided. -/
namespace BoardRules

namespace Decimal

theorem natPow_eq (base exponent : Nat) : Nat.pow base exponent = base ^ exponent := rfl

/-- Between an odd integer and the even one above it, halves and what is greater are rounded up. -/
theorem roundHalfEven_of_odd {num den : Nat} (hodd : num / den % 2 = 1) :
    roundHalfEven num den = num / den + if den ≤ 2 * (num % den) then 1 else 0 := by
  unfold roundHalfEven
  dsimp only
  split_ifs <;> omega

theorem roundHalfEven_le (num den : Nat) : roundHalfEven num den ≤ num / den + 1 := by
  unfold roundHalfEven
  dsimp only
  split_ifs <;> omega

namespace Binary64

theorem binaryOrder_one {num : Nat} (hnum : num ≠ 0) : binaryOrder num 1 = Nat.log2 num := by
  have hle : ¬num < 2 ^ Nat.log2 num := Nat.not_lt.mpr (Nat.log2_self_le hnum)
  have hone : Nat.log2 1 = 0 := by decide
  unfold binaryOrder
  simp [hone, hle]

theorem infinite_ite {c : Prop} [Decidable c] {s t : Bool} {m : Nat} {e : Int} :
    (∃ u, (if c then infinity s else finite t m e) = infinity u) ↔ c := by
  by_cases hc : c
  · rw [if_pos hc]
    exact iff_of_true ⟨s, rfl⟩ hc
  · rw [if_neg hc]
    refine iff_of_false ?_ hc
    rintro ⟨u, hu⟩
    cases hu

/-- An integer is infinite as a double if its order is beyond the greatest one, or if rounding takes
it there. -/
theorem ofRatio_infinite {negative : Bool} {num : Nat} (hnum : num ≠ 0) :
    (∃ s, ofRatio negative num 1 = .infinity s) ↔
      53 + 970 < Nat.log2 num ∨
        Nat.log2 num = 53 + 970 ∧ roundHalfEven num (2 ^ (1 + 970)) = 2 ^ 53 := by
  have hexp : max ((Nat.log2 num : Int) - 52) minExponent = (Nat.log2 num : Int) - 52 := by
    unfold minExponent
    omega
  unfold ofRatio
  simp only [hnum, Nat.one_ne_zero, or_self, if_false, binaryOrder_one hnum, hexp, Nat.one_mul,
    natPow_eq]
  generalize hm : (if 0 ≤ (Nat.log2 num : Int) - 52 then
    roundHalfEven num (2 ^ ((Nat.log2 num : Int) - 52).toNat)
    else roundHalfEven (num * 2 ^ (-((Nat.log2 num : Int) - 52)).toNat) 1) = m
  have htop : Nat.log2 num = 53 + 970 → roundHalfEven num (2 ^ (1 + 970)) = m := by
    intro hlog
    have hshift : (((53 + 970 : Nat) : Int) - 52).toNat = 1 + 970 := by decide
    rw [← hm, hlog, if_pos (by decide), hshift]
  rw [infinite_ite]
  unfold maxExponent
  by_cases hcarry : m = 2 ^ 53
  · rw [if_pos hcarry]
    constructor
    · intro hover
      rcases Nat.lt_or_eq_of_le (show 53 + 970 ≤ Nat.log2 num by omega) with hlt | heq
      · exact .inl hlt
      · exact .inr ⟨heq.symm, (htop heq.symm).trans hcarry⟩
    · rintro (hlt | ⟨heq, -⟩) <;> omega
  · rw [if_neg hcarry]
    constructor
    · intro hover
      exact .inl (by omega)
    · rintro (hlt | ⟨heq, hround⟩)
      · omega
      · exact absurd ((htop heq).symm.trans hround) hcarry

/-- The least magnitude that has no double: it lies halfway between the greatest double and the
power of two above it. -/
def overflow : Nat := (2 ^ 54 - 1) * 2 ^ 970

theorem round_carries {num k : Nat} (hnum : num < 2 ^ (54 + k)) :
    roundHalfEven num (2 ^ (1 + k)) = 2 ^ 53 ↔ (2 ^ 54 - 1) * 2 ^ k ≤ num := by
  have hpos : 0 < 2 ^ k := Nat.two_pow_pos k
  rw [Nat.pow_add] at hnum ⊢
  rw [Nat.pow_one]
  generalize 2 ^ k = half at *
  have hsplit : 2 * half * (num / (2 * half)) + num % (2 * half) = num := Nat.div_add_mod _ _
  have hrest : num % (2 * half) < 2 * half := Nat.mod_lt _ (by omega)
  -- of the quotients below the power only the last one, which is odd, can be rounded up to it
  rcases Nat.lt_or_ge (num / (2 * half)) (2 ^ 53 - 1) with hlow | hhigh
  · have hle : 2 * half * (num / (2 * half)) ≤ 2 * half * (2 ^ 53 - 2) :=
      Nat.mul_le_mul_left _ (by omega)
    have hround := roundHalfEven_le num (2 * half)
    refine iff_of_false ?_ ?_ <;> omega
  · have hquotient : num / (2 * half) = 2 ^ 53 - 1 := by
      refine Nat.le_antisymm (Nat.le_of_lt_succ ?_) hhigh
      rw [Nat.div_lt_iff_lt_mul (by omega)]
      omega
    rw [roundHalfEven_of_odd (by omega), hquotient]
    rw [hquotient] at hsplit
    split <;> omega

theorem carries_pos (k : Nat) : 0 < (2 ^ 54 - 1) * 2 ^ k :=
  Nat.mul_pos (by decide) (Nat.two_pow_pos k)

theorem carries_iff {num k : Nat} (hnum : num ≠ 0) :
    (53 + k < Nat.log2 num ∨
        Nat.log2 num = 53 + k ∧ roundHalfEven num (2 ^ (1 + k)) = 2 ^ 53) ↔
      (2 ^ 54 - 1) * 2 ^ k ≤ num := by
  constructor
  · rintro (hlog | ⟨hlog, hround⟩)
    · have hle : 2 ^ (54 + k) ≤ num := (Nat.le_log2 hnum).mp (by omega)
      rw [Nat.pow_add] at hle
      exact Nat.le_trans (Nat.mul_le_mul_right _ (by omega)) hle
    · exact (round_carries ((Nat.log2_lt hnum).mp (by omega))).mp hround
  · intro hover
    by_cases hlog : Nat.log2 num < 54 + k
    · refine .inr ⟨?_, (round_carries ((Nat.log2_lt hnum).mp hlog)).mpr hover⟩
      have hle : 2 ^ (53 + k) ≤ num := by
        rw [Nat.pow_add]
        exact Nat.le_trans (Nat.mul_le_mul_right _ (by omega)) hover
      have hge := (Nat.le_log2 hnum).mpr hle
      omega
    · exact .inl (by omega)

/-- The integers without a double are those of too great a magnitude. -/
theorem ofInt?_eq_none {n : Int} : ofInt? n = none ↔ overflow ≤ n.natAbs := by
  have hinfinite : ofInt? n = none ↔ ∃ s, ofRatio (n < 0) n.natAbs 1 = .infinity s := by
    unfold ofInt?
    cases ofRatio (n < 0) n.natAbs 1 <;> simp
  rw [hinfinite]
  unfold overflow
  by_cases hn : n.natAbs = 0
  · rw [hn]
    refine iff_of_false ?_ (Nat.not_le.mpr ?_)
    · rintro ⟨s, h⟩
      cases h
    · exact carries_pos 970
  · rw [ofRatio_infinite hn]
    exact carries_iff hn

end Binary64
end Decimal

open Decimal

def Json.Oversized (v : Json) : Prop := ∃ n : Int, v = .int n ∧ Binary64.overflow ≤ n.natAbs

theorem Json.toNumber?_eq_none {v : Json} : v.toNumber? = none ↔ v.Oversized := by
  unfold Json.Oversized
  cases v with
  | int n =>
    change Binary64.ofInt? n = none ↔ _
    rw [Binary64.ofInt?_eq_none]
    constructor
    · intro h
      exact ⟨n, rfl, h⟩
    · rintro ⟨n', hn, h⟩
      cases hn
      exact h
  | str s =>
    refine iff_of_false ?_ ?_
    · dsimp only [Json.toNumber?]
      split <;> exact Option.some_ne_none _
    · rintro ⟨n, hn, -⟩
      cases hn
  | _ =>
    refine iff_of_false ?_ ?_
    · unfold Json.toNumber?
      simp
    · rintro ⟨n, hn, -⟩
      cases hn

theorem isNull_iff {v : Json} : v.isNull = true ↔ v = .null := by
  cases v <;> simp [Json.isNull]

theorem compared_eq_none {α β : Type} {f : α → α → β} {x y : Option α} :
    (x.bind fun a => y.bind fun b => some (f a b)) = none ↔ x = none ∨ y = none := by
  cases x <;> cases y <;> simp

def Operator.IsNumeric (op : Operator) : Prop := op = .greaterThan ∨ op = .lessThan

/-- Only a comparison of numbers can be without an answer. -/
theorem Operator.holds?_eq_none {op : Operator} {actual expected : Json} :
    op.holds? actual expected = none ↔
      op.IsNumeric ∧ actual ≠ .null ∧ (actual.Oversized ∨ expected.Oversized) := by
  rw [← Json.toNumber?_eq_none, ← Json.toNumber?_eq_none]
  unfold IsNumeric Operator.holds?
  cases hnull : actual.isNull with
  | true =>
    rw [isNull_iff] at hnull
    cases op <;> simp [hnull]
  | false =>
    have hpresent : actual ≠ .null := fun h => by rw [h] at hnull; cases hnull
    cases op with
    | greaterThan =>
      have hcompared := compared_eq_none (f := fun a b : Binary64 => b.lt a)
        (x := actual.toNumber?) (y := expected.toNumber?)
      simpa [hpresent] using hcompared
    | lessThan =>
      have hcompared := compared_eq_none (f := fun a b : Binary64 => a.lt b)
        (x := actual.toNumber?) (y := expected.toNumber?)
      simpa [hpresent] using hcompared
    | _ => simp

/-- Whether a rule compares numbers of which one has no double, on a card. -/
def Rule.Overflows (rule : Rule) (card : CardView) : Prop :=
  ∃ op, Operator.ofText? rule.operator = some op ∧ op.IsNumeric ∧
    FieldKey.ofText rule.key ≠ .malformed ∧ card.value (FieldKey.ofText rule.key) ≠ .null ∧
    ((card.value (FieldKey.ofText rule.key)).Oversized ∨ rule.value.Oversized)

theorem Rule.holds?_eq_none {rule : Rule} {card : CardView} :
    rule.holds? card = none ↔ rule.Overflows card := by
  have hcompare : compare? rule.operator (card.value (FieldKey.ofText rule.key)) rule.value = none ↔
      ∃ op, Operator.ofText? rule.operator = some op ∧ op.IsNumeric ∧
        card.value (FieldKey.ofText rule.key) ≠ .null ∧
        ((card.value (FieldKey.ofText rule.key)).Oversized ∨ rule.value.Oversized) := by
    unfold compare?
    cases Operator.ofText? rule.operator with
    | none => simp
    | some op => simp [Operator.holds?_eq_none]
  unfold holds? Overflows
  cases hkey : FieldKey.ofText rule.key with
  | malformed => simp
  | _ =>
    rw [hkey] at hcompare
    simpa using hcompare

theorem mapM_eq_none {α β : Type} {f : α → Option β} {l : List α} :
    l.mapM f = none ↔ ∃ a ∈ l, f a = none := by
  induction l with
  | nil => simp
  | cons a l ih =>
    rw [List.mapM_cons]
    cases ha : f a with
    | none => simp [ha]
    | some b => cases hl : l.mapM f <;> simp_all

/-- Conditions have an answer unless one of their rules overflows; a rule that cannot be read never
does. -/
theorem Conditions.hold?_eq_none {c : Conditions} {card : CardView} :
    c.hold? card = none ↔
      ∃ raw ∈ c.rules, ∃ rule, Rule.ofJson? raw = some rule ∧ rule.Overflows card := by
  have hrule : ∀ raw, ruleHolds? card raw = none ↔
      ∃ rule, Rule.ofJson? raw = some rule ∧ rule.Overflows card := by
    intro raw
    unfold ruleHolds?
    cases Rule.ofJson? raw with
    | none => simp
    | some rule => simp [Rule.holds?_eq_none]
  simp only [← hrule, ← mapM_eq_none]
  unfold hold?
  cases c.rules.mapM (ruleHolds? card) <;> simp

end BoardRules
