import BoardRules.Decimal.Shortest
import BoardRules.Proofs.Decimal.Rounding

/-! The shortest decimal of a double is read as the double. Whichever grid it is found on, it lies
in the rounding interval of the double; and on the grid of seventeen digits, which is fine enough
for every double, one of the two neighbours of the double always does. -/
namespace BoardRules.Decimal

open Binary64 (Fits ReadsAs minExponent)

/-- The magnitude that digits stand for. -/
def Digits.magnitude (d : Digits) : ℚ := d.digits * 10 ^ d.exponent

variable {num den : Nat}

theorem order_le (hnum : 0 < num) (hden : 0 < den) :
    (10 : ℚ) ^ (decimalOrder num den - 1) ≤ num / den := by
  obtain ⟨i, hi, hnum₁, hnum₂⟩ := length_natText hnum
  obtain ⟨j, hj, hden₁, hden₂⟩ := length_natText hden
  have hleast : (10 : ℚ) ^ ((i : Int) - j - 1) < num / den :=
    (ratio_between 10 (by decide) hnum₁ hnum₂ hden₁ hden₂).1
  have hreaches : ∀ d : Int, (if 0 ≤ d then decide (den * 10 ^ d.toNat ≤ num)
      else decide (den ≤ num * 10 ^ (-d).toNat)) = true ↔ (10 : ℚ) ^ d ≤ num / den := by
    intro d
    refine Iff.trans ?_ (pow_le_ratio_iff hden 10 (by decide) d)
    split <;> exact decide_eq_true_iff
  have hguess : ((i + 1 : Nat) : Int) - ((j + 1 : Nat) : Int) = i - j := by omega
  unfold decimalOrder
  simp only [hi, hj, hguess, Nat.pow_eq, hreaches]
  split_ifs with habove hat
  · have hshift : (i : Int) - j + 2 - 1 = i - j + 1 := by omega
    rwa [hshift]
  · rwa [add_sub_cancel_right]
  · exact hleast.le

namespace RoundingInterval

variable {i : RoundingInterval} {k : Int}

/-- Whether a magnitude lies in the interval. -/
def Has (i : RoundingInterval) (x : ℚ) : Prop :=
  if i.closed then (i.low : ℚ) ≤ x * i.den ∧ x * i.den ≤ i.high
  else (i.low : ℚ) < x * i.den ∧ x * i.den < i.high

theorem zpow_scaled (k : Int) : (10 : ℚ) ^ k * 10 ^ (-k).toNat = 10 ^ k.toNat := by
  rw [← zpow_natCast, ← zpow_natCast, ← zpow_add₀ (by norm_num)]
  congr 1
  omega

/-- The interval with its bounds scaled for the grid `10^k`. -/
def scaled (i : RoundingInterval) (k : Int) : RoundingInterval :=
  { i with
    low := i.low * 10 ^ (-k).toNat
    high := i.high * 10 ^ (-k).toNat
    value := i.value * 10 ^ (-k).toNat }

/-- A point of the grid is compared with the bounds in integers. -/
theorem holds_scaled_iff (i : RoundingInterval) (k : Int) (c : Nat) :
    (i.scaled k).holds c (i.den * 10 ^ k.toNat) = true ↔ i.Has (c * 10 ^ k) := by
  have hten : (0 : ℚ) < 10 ^ (-k).toNat := by positivity
  have hpoint : ((c * (i.den * 10 ^ k.toNat) : Nat) : ℚ) =
      c * 10 ^ k * i.den * 10 ^ (-k).toNat := by
    push_cast
    rw [← zpow_scaled]
    ring
  have hle : ∀ b : Nat, b * 10 ^ (-k).toNat ≤ c * (i.den * 10 ^ k.toNat) ↔
      (b : ℚ) ≤ c * 10 ^ k * i.den := by
    intro b
    rw [← mul_le_mul_iff_of_pos_right hten, ← hpoint]
    exact_mod_cast Iff.rfl
  have hge : ∀ b : Nat, c * (i.den * 10 ^ k.toNat) ≤ b * 10 ^ (-k).toNat ↔
      c * 10 ^ k * i.den ≤ (b : ℚ) := by
    intro b
    rw [← mul_le_mul_iff_of_pos_right hten, ← hpoint]
    exact_mod_cast Iff.rfl
  unfold holds scaled Has
  dsimp only
  split
  · rw [Bool.and_eq_true, decide_eq_true_eq, decide_eq_true_eq, hle, hge]
  · rw [Bool.and_eq_true, decide_eq_true_eq, decide_eq_true_eq, ← Nat.not_le, ← Nat.not_le, hle,
      hge, not_le, not_le]

end RoundingInterval

section Grids

variable {i : RoundingInterval} {k : Int} {d : Digits}

/-- The point of the grid `10^k` at the value or below it. -/
def below (i : RoundingInterval) (k : Int) : Nat :=
  i.value * 10 ^ (-k).toNat / (i.den * 10 ^ k.toNat)

theorem onGrid_eq (i : RoundingInterval) (k : Int) :
    onGrid i k =
      let q := below i k
      let step := i.den * 10 ^ k.toNat
      let r := i.value * 10 ^ (-k).toNat % step
      let down := decide (0 < q) && (i.scaled k).holds q step
      let up := (i.scaled k).holds (q + 1) step
      if up && (!down || step < 2 * r || (2 * r == step && q % 2 == 1)) then some ⟨q + 1, k⟩
      else if down then some ⟨q, k⟩ else none := rfl

theorem onGrid_eq_some (h : onGrid i k = some d) :
    0 < d.digits ∧ d.exponent = k ∧ i.Has d.magnitude := by
  rw [onGrid_eq] at h
  dsimp only at h
  split at h
  case isTrue htaken =>
    cases h
    rw [Bool.and_eq_true, RoundingInterval.holds_scaled_iff] at htaken
    exact ⟨Nat.succ_pos _, rfl, htaken.1⟩
  case isFalse =>
    split at h
    case isTrue hdown =>
      cases h
      rw [Bool.and_eq_true, decide_eq_true_eq, RoundingInterval.holds_scaled_iff] at hdown
      exact ⟨hdown.1, rfl, hdown.2⟩
    case isFalse => cases h

/-- A grid with a neighbour of the value in the interval is not passed over. -/
theorem onGrid_isSome
    (h : 0 < below i k ∧ i.Has (below i k * 10 ^ k) ∨ i.Has ((below i k + 1 : Nat) * 10 ^ k)) :
    (onGrid i k).isSome := by
  rw [← RoundingInterval.holds_scaled_iff, ← RoundingInterval.holds_scaled_iff] at h
  rw [onGrid_eq]
  dsimp only
  by_cases hdown : 0 < below i k ∧ (i.scaled k).holds (below i k) (i.den * 10 ^ k.toNat) = true
  · rw [decide_eq_true hdown.1, hdown.2]
    split <;> rfl
  · have hup := h.resolve_left hdown
    have hlow : (decide (0 < below i k) &&
        (i.scaled k).holds (below i k) (i.den * 10 ^ k.toNat)) = false := by
      rw [← Bool.not_eq_true, Bool.and_eq_true, decide_eq_true_eq]
      exact hdown
    rw [hup, hlow]
    rfl

/-- The value stands between two points of the grid. -/
theorem below_spec (hden : 0 < i.den) (k : Int) :
    below i k * 10 ^ k ≤ (i.value : ℚ) / i.den ∧
      (i.value : ℚ) / i.den < (below i k + 1) * 10 ^ k := by
  have hten : (0 : ℚ) < 10 ^ (-k).toNat := by positivity
  have hden' : (0 : ℚ) < i.den := by exact_mod_cast hden
  have hstep : 0 < i.den * 10 ^ k.toNat := by positivity
  have hlow : below i k * (i.den * 10 ^ k.toNat) ≤ i.value * 10 ^ (-k).toNat :=
    Nat.div_mul_le_self _ _
  have hhigh : i.value * 10 ^ (-k).toNat < (below i k + 1) * (i.den * 10 ^ k.toNat) := by
    rw [Nat.mul_comm (below i k + 1)]
    exact Nat.lt_mul_div_succ _ hstep
  have hlow' : (below i k : ℚ) * (i.den * 10 ^ k.toNat) ≤ i.value * 10 ^ (-k).toNat := by
    exact_mod_cast hlow
  have hhigh' : (i.value : ℚ) * 10 ^ (-k).toNat < (below i k + 1) * (i.den * 10 ^ k.toNat) := by
    exact_mod_cast hhigh
  rw [← RoundingInterval.zpow_scaled k] at hlow' hhigh'
  constructor
  · rw [le_div_iff₀ hden', ← mul_le_mul_iff_of_pos_right hten]
    linarith
  · rw [div_lt_iff₀ hden', ← mul_lt_mul_iff_of_pos_right hten]
    linarith

end Grids

namespace RoundingInterval

variable {m : Nat} {e : Int} {x : ℚ}

/-- How far the interval of a double reaches down, in quarters of a unit of its last place. -/
def reach (m : Nat) (e : Int) : Nat := if m = 2 ^ 52 ∧ minExponent < e then 1 else 2

theorem zpow_quarter (e : Int) : (2 : ℚ) ^ (e - 2).toNat = 2 ^ e / 4 * 2 ^ (2 - e).toNat := by
  have hquarter : (2 : ℚ) ^ e / 4 = 2 ^ (e - 2) := by
    rw [zpow_sub₀ two_ne_zero]
    norm_num
  rw [hquarter, ← zpow_natCast, ← zpow_natCast, ← zpow_add₀ two_ne_zero]
  congr 1
  omega

theorem den_of_pos (m : Nat) (e : Int) : 0 < (of m e).den := Nat.pow_pos (by decide)

theorem value_of (m : Nat) (e : Int) :
    ((of m e).value : ℚ) / (of m e).den = m * 2 ^ e := by
  have hden : (0 : ℚ) < 2 ^ (2 - e).toNat := by positivity
  unfold of
  dsimp only
  rw [Nat.pow_eq, Nat.pow_eq]
  push_cast
  rw [zpow_quarter, div_eq_iff hden.ne']
  ring

/-- A bound in quarters of a unit of the last place, in integers and as a magnitude. -/
theorem quarters_le_iff (a : Nat) (e : Int) (x : ℚ) :
    (((a * 2 ^ (e - 2).toNat : Nat) : ℚ) ≤ x * (2 ^ (2 - e).toNat : Nat) ↔
      (a : ℚ) / 4 ≤ x / 2 ^ e) ∧
    (x * (2 ^ (2 - e).toNat : Nat) ≤ ((a * 2 ^ (e - 2).toNat : Nat) : ℚ) ↔
      x / 2 ^ e ≤ (a : ℚ) / 4) := by
  have hden : (0 : ℚ) < 2 ^ (2 - e).toNat := by positivity
  have hscale : (0 : ℚ) < 2 ^ e := by positivity
  have hpoint : ((a * 2 ^ (e - 2).toNat : Nat) : ℚ) = a / 4 * 2 ^ e * 2 ^ (2 - e).toNat := by
    push_cast
    rw [zpow_quarter]
    ring
  rw [hpoint, Nat.cast_pow, Nat.cast_ofNat, mul_le_mul_iff_of_pos_right hden,
    mul_le_mul_iff_of_pos_right hden, le_div_iff₀ hscale, div_le_iff₀ hscale]
  exact ⟨Iff.rfl, Iff.rfl⟩

theorem has_of_iff (hm : 0 < m) (e : Int) (x : ℚ) :
    (of m e).Has x ↔
      if m % 2 = 0 then (m : ℚ) - reach m e / 4 ≤ x / 2 ^ e ∧ x / 2 ^ e ≤ m + 1 / 2
      else (m : ℚ) - reach m e / 4 < x / 2 ^ e ∧ x / 2 ^ e < m + 1 / 2 := by
  have hreach : reach m e ≤ 4 * m := by
    unfold reach
    split <;> omega
  have hlow : ((4 * m - reach m e : Nat) : ℚ) / 4 = m - reach m e / 4 := by
    push_cast [Nat.cast_sub hreach]
    ring
  have hhigh : ((4 * m + 2 : Nat) : ℚ) / 4 = m + 1 / 2 := by
    push_cast
    ring
  obtain ⟨hlow₁, hlow₂⟩ := quarters_le_iff (4 * m - reach m e) e x
  obtain ⟨hhigh₁, hhigh₂⟩ := quarters_le_iff (4 * m + 2) e x
  rw [hlow] at hlow₁ hlow₂
  rw [hhigh] at hhigh₁ hhigh₂
  unfold Has
  change (if decide (m % 2 = 0) = true then
      (((4 * m - reach m e) * 2 ^ (e - 2).toNat : Nat) : ℚ) ≤ x * (2 ^ (2 - e).toNat : Nat) ∧
        x * (2 ^ (2 - e).toNat : Nat) ≤ (((4 * m + 2) * 2 ^ (e - 2).toNat : Nat) : ℚ)
    else (((4 * m - reach m e) * 2 ^ (e - 2).toNat : Nat) : ℚ) < x * (2 ^ (2 - e).toNat : Nat) ∧
        x * (2 ^ (2 - e).toNat : Nat) < (((4 * m + 2) * 2 ^ (e - 2).toNat : Nat) : ℚ)) ↔ _
  by_cases heven : m % 2 = 0
  · rw [if_pos (decide_eq_true heven), if_pos heven, hlow₁, hhigh₂]
  · rw [if_neg (mt of_decide_eq_true heven), if_neg heven, ← not_le, ← not_le, hlow₂, hhigh₁,
      not_le, not_le]

/-- What lies in the interval of a double is read as the double. -/
theorem Has.readsAs (hm : 0 < m) (hx : (of m e).Has x) : ReadsAs m e x := by
  rw [has_of_iff hm] at hx
  have hreach : (reach m e : ℚ) ≤ 2 := by
    unfold reach
    split <;> norm_num
  have hbounds : (m : ℚ) - reach m e / 4 ≤ x / 2 ^ e ∧ x / 2 ^ e ≤ m + 1 / 2 := by
    split at hx
    · exact hx
    · exact ⟨hx.1.le, hx.2.le⟩
  refine ⟨⟨by linarith, hbounds.2, fun hodd => ?_⟩, fun hm hinner => ?_⟩
  · rw [if_neg (by omega)] at hx
    exact ⟨by linarith, hx.2⟩
  · have hquarter : reach m e = 1 := if_pos ⟨hm, hinner⟩
    rw [hquarter, Nat.cast_one] at hbounds
    exact hbounds.1

/-- What is close enough to a double lies in its interval. -/
theorem has_of_near (hm : 0 < m) (hlow : (m : ℚ) - reach m e / 4 < x / 2 ^ e)
    (hhigh : x / 2 ^ e < m + 1 / 2) : (of m e).Has x := by
  rw [has_of_iff hm]
  split
  · exact ⟨hlow.le, hhigh.le⟩
  · exact ⟨hlow, hhigh⟩

/-- Half a point of a grid that is fine enough is less than what the interval reaches down. -/
theorem half_lt_reach (hfits : Fits m e) {t : ℚ} (ht : t * 10 ^ 16 ≤ m) :
    t / 2 < reach m e / 4 ∧ t / 2 < 1 / 2 := by
  have hbounded : (m : ℚ) < 2 ^ 53 := by exact_mod_cast hfits.bounded
  unfold reach
  split_ifs with hpower
  · have hm : (m : ℚ) = 2 ^ 52 := by exact_mod_cast hpower.1
    constructor
    · push_cast
      linarith
    · linarith
  · constructor
    · push_cast
      linarith
    · linarith

end RoundingInterval

section Shortest

variable {m : Nat} {e k : Int}

open RoundingInterval

/-- The nearer one of the two neighbours on a grid of seventeen digits lies in the interval. -/
theorem onGrid_fine (hm : 0 < m) (hfits : Fits m e) (hk : (10 : ℚ) ^ k * 10 ^ 16 ≤ m * 2 ^ e) :
    (onGrid (of m e) k).isSome := by
  have hscale : (0 : ℚ) < 2 ^ e := by positivity
  have hgrid : (0 : ℚ) < 10 ^ k := by positivity
  obtain ⟨hlow, hhigh⟩ := below_spec (den_of_pos m e) k
  rw [value_of] at hlow hhigh
  have hratio : (10 : ℚ) ^ k / 2 ^ e * 10 ^ 16 ≤ m := by
    rw [div_mul_eq_mul_div, div_le_iff₀ hscale]
    exact hk
  obtain ⟨hhalf, hhalf'⟩ := half_lt_reach hfits hratio
  have hlow' : below (of m e) k * ((10 : ℚ) ^ k / 2 ^ e) ≤ m := by
    rw [← mul_div_assoc, div_le_iff₀ hscale]
    exact hlow
  have hhigh' : (m : ℚ) < (below (of m e) k + 1) * ((10 : ℚ) ^ k / 2 ^ e) := by
    rw [← mul_div_assoc, lt_div_iff₀ hscale]
    exact hhigh
  apply onGrid_isSome
  by_cases hnear : (m : ℚ) - below (of m e) k * ((10 : ℚ) ^ k / 2 ^ e) ≤ (10 : ℚ) ^ k / 2 ^ e / 2
  · refine .inl ⟨Nat.pos_of_ne_zero fun hzero => ?_, has_of_near hm ?_ ?_⟩
    · -- the value is beyond the first point of the grid
      rw [hzero, Nat.cast_zero, zero_add, one_mul] at hhigh'
      linarith
    · rw [mul_div_assoc]
      linarith
    · rw [mul_div_assoc]
      linarith
  · refine .inr (has_of_near hm ?_ ?_)
    · rw [mul_div_assoc]
      push_cast
      linarith
    · rw [mul_div_assoc]
      push_cast
      linarith

theorem firstGrid_eq_some {i : RoundingInterval} {order : Int} {ns : List Nat} {d : Digits}
    (h : firstGrid i order ns = some d) : ∃ n ∈ ns, onGrid i (order - n) = some d := by
  induction ns with
  | nil => cases h
  | cons n ns ih =>
    rcases Option.or_eq_some_iff.mp h with hfirst | ⟨-, hrest⟩
    · exact ⟨n, List.mem_cons_self, hfirst⟩
    · obtain ⟨l, hl, hfound⟩ := ih hrest
      exact ⟨l, List.mem_cons_of_mem n hl, hfound⟩

theorem firstGrid_isSome {i : RoundingInterval} {order : Int} {ns : List Nat} {n : Nat}
    (hn : n ∈ ns) (h : (onGrid i (order - n)).isSome) : (firstGrid i order ns).isSome := by
  induction ns with
  | nil => cases hn
  | cons l ns ih =>
    rw [firstGrid, Option.isSome_or]
    rcases List.mem_cons.mp hn with rfl | hn
    · rw [h, Bool.true_or]
    · rw [ih hn, Bool.or_true]

theorem Digits.trimZeros_spec (fuel : Nat) (d : Digits) (hd : 0 < d.digits) :
    0 < (d.trimZeros fuel).digits ∧ (d.trimZeros fuel).magnitude = d.magnitude := by
  induction fuel generalizing d with
  | zero => exact ⟨hd, rfl⟩
  | succ fuel ih =>
    unfold trimZeros
    split
    · next hzero =>
      obtain ⟨hpos, hvalue⟩ := ih ⟨d.digits / 10, d.exponent + 1⟩ (by dsimp only; omega)
      refine ⟨hpos, hvalue.trans ?_⟩
      have hdigits : (d.digits : ℚ) = (d.digits / 10 : Nat) * 10 := by
        exact_mod_cast (Nat.div_mul_cancel (Nat.dvd_of_mod_eq_zero hzero.1)).symm
      unfold magnitude
      dsimp only
      rw [hdigits, zpow_add_one₀ (by norm_num)]
      ring
    · exact ⟨hd, rfl⟩

/-- The shortest decimal of a double is positive and read as the double. -/
theorem shortest_readsAs (hm : 0 < m) (hfits : Fits m e) :
    0 < (shortest m e).digits ∧ ReadsAs m e (shortest m e).magnitude := by
  have hvalue : 0 < (of m e).value := by
    have hpos : 0 < 4 * m * 2 ^ (e - 2).toNat := by positivity
    exact hpos
  have horder := order_le hvalue (den_of_pos m e)
  rw [value_of] at horder
  generalize hdecimal : decimalOrder (of m e).value (of m e).den = order at horder
  have hfine : (onGrid (of m e) (order - (17 : Nat))).isSome := by
    refine onGrid_fine hm hfits ?_
    have hshift : order - (17 : Nat) + (16 : Nat) = order - 1 := by omega
    rwa [← zpow_natCast, ← zpow_add₀ (by norm_num), hshift]
  have hfound := firstGrid_isSome (show 17 ∈ (List.range 17).map (· + 1) by decide) hfine
  obtain ⟨d, hd⟩ := Option.isSome_iff_exists.mp hfound
  obtain ⟨n, -, hgrid⟩ := firstGrid_eq_some hd
  obtain ⟨hpos, -, hhas⟩ := onGrid_eq_some hgrid
  obtain ⟨hpos', hmagnitude⟩ := d.trimZeros_spec 20 hpos
  have hshortest : shortest m e = d.trimZeros 20 := by
    unfold shortest
    dsimp only
    rw [hdecimal, hd, Option.getD_some]
  rw [hshortest, hmagnitude]
  exact ⟨hpos', hhas.readsAs hm⟩

end Shortest

end BoardRules.Decimal
