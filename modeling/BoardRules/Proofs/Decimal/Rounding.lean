import Mathlib.Algebra.Order.Field.Power
import Mathlib.Data.Int.Log
import Mathlib.Data.Rat.Floor
import Mathlib.Tactic.FieldSimp
import Mathlib.Tactic.Linarith
import Mathlib.Tactic.NormNum
import Mathlib.Tactic.Positivity
import Mathlib.Tactic.Ring
import BoardRules.Decimal.Binary64

/-! Doubles as rounded magnitudes. The magnitudes that a ratio or a decimal may have in order to be
read as a given double lie around it: up to half a unit of its last place away, and no more than a
quarter below a power of two. -/
namespace BoardRules.Decimal

/-- Whether an integer is the nearest one to a magnitude, the even one if there are two. -/
structure IsNearest (n : Nat) (y : ℚ) : Prop where
  low : (n : ℚ) - 1 / 2 ≤ y
  high : y ≤ n + 1 / 2
  odd : n % 2 = 1 → (n : ℚ) - 1 / 2 < y ∧ y < n + 1 / 2

variable {num den n : Nat}

theorem roundHalfEven_eq (hden : 0 < den) (h : IsNearest n ((num : ℚ) / den)) :
    roundHalfEven num den = n := by
  have hpos : (0 : ℚ) < den := by exact_mod_cast hden
  have hlow : 2 * (n * den) ≤ 2 * num + den := by
    have := (le_div_iff₀ hpos).mp h.low
    have hcast : (2 * (n * den) : ℚ) ≤ 2 * num + den := by linarith
    exact_mod_cast hcast
  have hhigh : 2 * num ≤ 2 * (n * den) + den := by
    have := (div_le_iff₀ hpos).mp h.high
    have hcast : (2 * num : ℚ) ≤ 2 * (n * den) + den := by linarith
    exact_mod_cast hcast
  have hodd : n % 2 = 1 → 2 * (n * den) < 2 * num + den ∧ 2 * num < 2 * (n * den) + den := by
    intro hn
    obtain ⟨hl, hh⟩ := h.odd hn
    have hl' := (lt_div_iff₀ hpos).mp hl
    have hh' := (div_lt_iff₀ hpos).mp hh
    have hcast : (2 * (n * den) : ℚ) < 2 * num + den := by linarith
    have hcast' : (2 * num : ℚ) < 2 * (n * den) + den := by linarith
    exact ⟨by exact_mod_cast hcast, by exact_mod_cast hcast'⟩
  have hsplit : num / den * den + num % den = num := Nat.div_add_mod' num den
  have hrest : num % den < den := Nat.mod_lt _ hden
  unfold roundHalfEven
  dsimp only
  generalize num / den = q at *
  generalize num % den = r at *
  -- the quotient is the nearest integer or the one below it
  have hqn : q ≤ n := by
    by_contra hlt
    have : (n + 1) * den ≤ q * den := Nat.mul_le_mul_right _ (by omega)
    rw [Nat.add_mul] at this
    omega
  have hnq : n ≤ q + 1 := by
    by_contra hlt
    have : (q + 2) * den ≤ n * den := Nat.mul_le_mul_right _ (by omega)
    rw [Nat.add_mul] at this
    omega
  rcases Nat.eq_or_lt_of_le hqn with rfl | hlt
  · split_ifs <;> omega
  · obtain rfl : n = q + 1 := by omega
    rw [Nat.add_mul] at *
    split_ifs <;> omega

section Orders

variable (hden : 0 < den)

include hden

/-- How a ratio is compared with a power, in integers. -/
theorem pow_le_ratio_iff (base : Nat) (hbase : 0 < base) (d : Int) :
    (if 0 ≤ d then den * base ^ d.toNat ≤ num else den ≤ num * base ^ (-d).toNat) ↔
      (base : ℚ) ^ d ≤ num / den := by
  have hpos : (0 : ℚ) < den := by exact_mod_cast hden
  have hbase' : (0 : ℚ) < base := by exact_mod_cast hbase
  rw [le_div_iff₀ hpos]
  split_ifs with hd
  · obtain ⟨k, rfl⟩ := Int.eq_ofNat_of_zero_le hd
    rw [Int.toNat_natCast, zpow_natCast, mul_comm]
    exact_mod_cast Iff.rfl
  · obtain ⟨k, rfl⟩ := Int.exists_eq_neg_ofNat (Int.le_of_lt (Int.not_le.mp hd))
    rw [neg_neg, Int.toNat_natCast, zpow_neg, zpow_natCast, inv_mul_le_iff₀ (by positivity),
      mul_comm]
    exact_mod_cast Iff.rfl

omit hden in
/-- A ratio is known up to a factor of the base on either side from the digits of its parts. -/
theorem ratio_between (base : Nat) {i j : Nat} (hbase : 0 < base) (hnum : base ^ i ≤ num)
    (hnum' : num < base ^ (i + 1)) (hden : base ^ j ≤ den) (hden' : den < base ^ (j + 1)) :
    (base : ℚ) ^ ((i : Int) - j - 1) < num / den ∧
      (num : ℚ) / den < (base : ℚ) ^ ((i : Int) - j + 1) := by
  have hbase' : (0 : ℚ) < base := by exact_mod_cast hbase
  have hpos : (0 : ℚ) < den := by exact_mod_cast (Nat.pow_pos hbase).trans_le hden
  have hlow : (base : ℚ) ^ i ≤ num := by exact_mod_cast hnum
  have hhigh : (num : ℚ) < (base : ℚ) ^ (i + 1) := by exact_mod_cast hnum'
  have hlow' : (base : ℚ) ^ j ≤ den := by exact_mod_cast hden
  have hhigh' : (den : ℚ) < (base : ℚ) ^ (j + 1) := by exact_mod_cast hden'
  have hbelow : (base : ℚ) ^ ((i : Int) - j - 1) = (base : ℚ) ^ i / (base : ℚ) ^ (j + 1) := by
    rw [sub_sub, zpow_sub₀ hbase'.ne', zpow_natCast]
    norm_cast
  have habove : (base : ℚ) ^ ((i : Int) - j + 1) = (base : ℚ) ^ (i + 1) / (base : ℚ) ^ j := by
    rw [sub_add_eq_add_sub, zpow_sub₀ hbase'.ne', zpow_natCast]
    norm_cast
  rw [hbelow, habove]
  constructor
  · rw [div_lt_div_iff₀ (by positivity) hpos]
    calc (base : ℚ) ^ i * den ≤ num * den := by gcongr
      _ < num * (base : ℚ) ^ (j + 1) := by
        have : (0 : ℚ) < num := (by positivity : (0 : ℚ) < (base : ℚ) ^ i).trans_le hlow
        gcongr
  · rw [div_lt_div_iff₀ hpos (by positivity)]
    calc (num : ℚ) * (base : ℚ) ^ j ≤ num * den := by gcongr
      _ < (base : ℚ) ^ (i + 1) * den := by gcongr

theorem binaryOrder_eq (hnum : 0 < num) :
    Binary64.binaryOrder num den = Int.log 2 ((num : ℚ) / den) := by
  have hratio : (0 : ℚ) < num / den := by positivity
  obtain ⟨hlow, hhigh⟩ := ratio_between 2 (by decide) (Nat.log2_self_le hnum.ne')
    Nat.lt_log2_self (Nat.log2_self_le hden.ne') Nat.lt_log2_self
  have hbelow : (if 0 ≤ (num.log2 : Int) - den.log2 then
        num < den * 2 ^ ((num.log2 : Int) - den.log2).toNat
      else num * 2 ^ (-((num.log2 : Int) - den.log2)).toNat < den) ↔
      (num : ℚ) / den < ((2 : Nat) : ℚ) ^ ((num.log2 : Int) - den.log2) := by
    refine Iff.trans ?_ ((pow_le_ratio_iff hden 2 (by decide) _).not.trans not_le)
    split_ifs <;> exact Nat.not_le.symm
  have hlog : ∀ d : Int, ((2 : Nat) : ℚ) ^ d ≤ num / den ↔ d ≤ Int.log 2 ((num : ℚ) / den) :=
    fun d => Int.zpow_le_iff_le_log (by decide) hratio
  have hlog' : ∀ d : Int, (num : ℚ) / den < ((2 : Nat) : ℚ) ^ d ↔
      Int.log 2 ((num : ℚ) / den) < d := fun d => Int.lt_zpow_iff_log_lt (by decide) hratio
  have hlow' := (hlog _).mp hlow.le
  have hhigh' := (hlog' _).mp hhigh
  unfold Binary64.binaryOrder
  simp only [Nat.pow_eq]
  by_cases hless : (num : ℚ) / den < ((2 : Nat) : ℚ) ^ ((num.log2 : Int) - den.log2)
  · have := (hlog' _).mp hless
    rw [if_pos (hbelow.mpr hless)]
    omega
  · have := (hlog _).mp (not_lt.mp hless)
    rw [if_neg (mt hbelow.mp hless)]
    omega

end Orders

namespace Binary64

/-- Whether a significand and an exponent make up a double. -/
structure Fits (m : Nat) (e : Int) : Prop where
  bounded : m < 2 ^ 53
  least : minExponent ≤ e
  greatest : e ≤ maxExponent
  full : minExponent < e → 2 ^ 52 ≤ m

/-- Whether a value is a double, and not just made up like one. -/
def IsDouble : Binary64 → Prop
  | .finite _ m e => Fits m e
  | _ => True

/-- Whether a magnitude is to be read as `m · 2^e`. -/
structure ReadsAs (m : Nat) (e : Int) (x : ℚ) : Prop where
  nearest : IsNearest m (x / 2 ^ e)
  /-- Below a power of two the next double is half as far. -/
  near : m = 2 ^ 52 → minExponent < e → (m : ℚ) - 1 / 4 ≤ x / 2 ^ e

variable {m : Nat} {e : Int} {x : ℚ}

theorem ReadsAs.lt (hx : ReadsAs m e x) (hm : m < 2 ^ 53) : x < 2 ^ (e + 53) := by
  have hscale : (0 : ℚ) < 2 ^ e := by positivity
  have hle := (div_le_iff₀ hscale).mp hx.nearest.high
  have hm' : (m : ℚ) + 1 ≤ 2 ^ 53 := by exact_mod_cast hm
  rw [zpow_add₀ two_ne_zero]
  calc x ≤ (m + 1 / 2) * 2 ^ e := hle
    _ < 2 ^ 53 * 2 ^ e := by gcongr; linarith
    _ = 2 ^ e * 2 ^ (53 : Int) := by norm_num [mul_comm]

/-- Rounding at the scale of the double gives its significand. -/
theorem round_scaled (hden : 0 < den) (hx : IsNearest n ((num : ℚ) / den / 2 ^ e)) :
    (if 0 ≤ e then roundHalfEven num (den * 2 ^ e.toNat)
      else roundHalfEven (num * 2 ^ (-e).toNat) den) = n := by
  split_ifs with he
  · obtain ⟨k, rfl⟩ := Int.eq_ofNat_of_zero_le he
    refine roundHalfEven_eq (by positivity) ?_
    rw [Int.toNat_natCast]
    rw [zpow_natCast, div_div] at hx
    exact_mod_cast hx
  · obtain ⟨k, rfl⟩ := Int.exists_eq_neg_ofNat (Int.le_of_lt (Int.not_le.mp he))
    refine roundHalfEven_eq hden ?_
    rw [neg_neg, Int.toNat_natCast]
    rw [zpow_neg, div_inv_eq_mul, zpow_natCast, div_mul_eq_mul_div] at hx
    exact_mod_cast hx

/-- A magnitude of lower order than the double it is read as: the double is a power of two, and the
magnitude is rounded up to it. -/
theorem ReadsAs.carries (hx : ReadsAs m e x) (hfits : Fits m e) (hinner : minExponent < e)
    (hless : x < 2 ^ (e + 52)) :
    m = 2 ^ 52 ∧ IsNearest (2 ^ 53) (x / 2 ^ (e - 1)) ∧ (2 : ℚ) ^ (e + 51) ≤ x := by
  have hscale : (0 : ℚ) < 2 ^ e := by positivity
  have hless' : x / 2 ^ e < 2 ^ 52 := by
    rw [div_lt_iff₀ hscale]
    rw [zpow_add₀ two_ne_zero, mul_comm] at hless
    exact_mod_cast hless
  have hm : m = 2 ^ 52 := by
    refine Nat.le_antisymm (Nat.le_of_lt_succ ?_) (hfits.full hinner)
    have := hx.nearest.low
    have hcast : (m : ℚ) < (2 ^ 52 + 1 : Nat) := by push_cast; linarith
    exact_mod_cast hcast
  have hnear := hx.near hm hinner
  rw [hm] at hnear
  push_cast at hnear
  have hhalf : x / 2 ^ (e - 1) = 2 * (x / 2 ^ e) := by
    rw [zpow_sub_one₀ two_ne_zero, div_mul_eq_div_div, div_inv_eq_mul, mul_comm]
  refine ⟨hm, ?_, ?_⟩
  · rw [hhalf]
    refine ⟨?_, ?_, fun hodd => absurd hodd (by decide)⟩
    · push_cast
      linarith
    · push_cast
      linarith
  · rw [zpow_add₀ two_ne_zero, mul_comm, ← le_div_iff₀ hscale]
    norm_num at hnear ⊢
    linarith

/-- A ratio is read as the double that it rounds to. -/
theorem ofRatio_eq (negative : Bool) (hnum : 0 < num) (hden : 0 < den) (hfits : Fits m e)
    (hx : ReadsAs m e ((num : ℚ) / den)) : ofRatio negative num den = .finite negative m e := by
  have hratio : (0 : ℚ) < num / den := by positivity
  have hlog : ∀ d : Int, (2 : ℚ) ^ d ≤ num / den ↔ d ≤ Int.log 2 ((num : ℚ) / den) := by
    intro d
    exact_mod_cast Int.zpow_le_iff_le_log (b := 2) (by decide) hratio
  have hlog' : ∀ d : Int, (num : ℚ) / den < 2 ^ d ↔ Int.log 2 ((num : ℚ) / den) < d := by
    intro d
    exact_mod_cast Int.lt_zpow_iff_log_lt (b := 2) (by decide) hratio
  have hhigh := (hlog' _).mp (hx.lt hfits.bounded)
  unfold ofRatio
  rw [if_neg (by omega), binaryOrder_eq hden hnum]
  simp only [Nat.pow_eq]
  by_cases hlow : e = minExponent ∨ (2 : ℚ) ^ (e + 52) ≤ num / den
  · -- the ratio is of the order of the double
    have he : max (Int.log 2 ((num : ℚ) / den) - 52) minExponent = e := by
      have hleast := hfits.least
      rcases hlow with hlow | hlow
      · omega
      · have := (hlog _).mp hlow
        omega
    have hm := hfits.bounded
    rw [he, round_scaled hden hx.nearest, if_neg (show m ≠ 2 ^ 53 by omega)]
    exact if_neg (Int.not_lt.mpr hfits.greatest)
  · obtain ⟨hother, hless⟩ := not_or.mp hlow
    rw [not_le] at hless
    have hinner : minExponent < e := lt_of_le_of_ne hfits.least (Ne.symm hother)
    obtain ⟨hm, hnearest, habove⟩ := hx.carries hfits hinner hless
    have he : max (Int.log 2 ((num : ℚ) / den) - 52) minExponent = e - 1 := by
      have hbelow := (hlog' _).mp hless
      have := (hlog _).mp habove
      omega
    rw [he, round_scaled hden hnearest, if_pos rfl, hm]
    dsimp only
    rw [sub_add_cancel]
    exact if_neg (Int.not_lt.mpr hfits.greatest)

end Binary64

/-- The number of digits tells how great a number is. -/
theorem length_natText (hn : 0 < n) :
    ∃ l, (natText n).length = l + 1 ∧ 10 ^ l ≤ n ∧ n < 10 ^ (l + 1) := by
  have hdigits : ∀ k, 0 < k → ((natText n).length ≤ k ↔ n < 10 ^ k) := fun k hk =>
    Nat.length_repr_le_iff hk
  have hpos : (natText n).length ≠ 0 := fun h => Nat.toDigits_ne_nil (n := n) (b := 10) <| by
    rwa [natText, ← String.length_toList, Nat.toList_repr, List.length_eq_zero_iff] at h
  obtain ⟨l, hl⟩ := Nat.exists_eq_add_one_of_ne_zero hpos
  refine ⟨l, hl, ?_, (hdigits (l + 1) (Nat.succ_pos l)).mp hl.le⟩
  rcases Nat.eq_zero_or_pos l with rfl | hpos
  · exact hn
  · exact Nat.le_of_not_lt fun hless => by
      have := (hdigits l hpos).mpr hless
      omega

namespace Binary64

variable {m : Nat} {e : Int} {x : ℚ}

theorem two_pow_lt_ten_pow : (2 : Nat) ^ 1024 ≤ 10 ^ 320 ∧ (2 : Nat) ^ 1075 ≤ 10 ^ 341 := by
  decide +kernel

theorem ReadsAs.lt_greatest (hx : ReadsAs m e x) (hfits : Fits m e) : x < 10 ^ (320 : Int) := by
  have hexp : e + 53 ≤ 1024 := by
    have := hfits.greatest
    unfold maxExponent at this
    omega
  calc x < 2 ^ (e + 53) := hx.lt hfits.bounded
    _ ≤ 2 ^ (1024 : Int) := zpow_le_zpow_right₀ one_le_two hexp
    _ ≤ 10 ^ (320 : Int) := by exact_mod_cast two_pow_lt_ten_pow.1

theorem ReadsAs.least_le (hx : ReadsAs m e x) (hm : 0 < m) (hfits : Fits m e) :
    10 ^ (-341 : Int) ≤ x := by
  have hscale : (0 : ℚ) < 2 ^ e := by positivity
  have hge := (le_div_iff₀ hscale).mp hx.nearest.low
  have hm' : (1 : ℚ) ≤ m := by exact_mod_cast hm
  calc (10 : ℚ) ^ (-341 : Int) ≤ 2 ^ (-1075 : Int) := by
        rw [zpow_neg, zpow_neg]
        exact inv_anti₀ (by positivity) (by exact_mod_cast two_pow_lt_ten_pow.2)
    _ = 1 / 2 * 2 ^ (-1074 : Int) := by
      rw [show (-1075 : Int) = -1 + -1074 from rfl, zpow_add₀ two_ne_zero, zpow_neg_one, one_div]
    _ ≤ 1 / 2 * 2 ^ e := by
      gcongr
      · exact one_le_two
      · exact hfits.least
    _ ≤ (m - 1 / 2) * 2 ^ e := by gcongr; linarith
    _ ≤ x := hge

/-- A decimal is read as the double that it rounds to. -/
theorem ofDecimal_eq (negative : Bool) {c : Nat} {k : Int} (hc : 0 < c) (hm : 0 < m)
    (hfits : Fits m e) (hx : ReadsAs m e (c * 10 ^ k)) :
    ofDecimal negative c k = .finite negative m e := by
  obtain ⟨l, hlength, hlow, hhigh⟩ := length_natText hc
  have hlow' : (10 : ℚ) ^ (l : Int) ≤ c := by exact_mod_cast hlow
  have hhigh' : (c : ℚ) < 10 ^ ((l + 1 : Nat) : Int) := by exact_mod_cast hhigh
  have hgreatest : (10 : ℚ) ^ (l + k) < 10 ^ (320 : Int) := by
    refine lt_of_le_of_lt ?_ (hx.lt_greatest hfits)
    rw [zpow_add₀ (by norm_num)]
    gcongr
  have hleast : (10 : ℚ) ^ (-341 : Int) < 10 ^ ((l + 1 : Nat) + k) := by
    refine lt_of_le_of_lt (hx.least_le hm hfits) ?_
    rw [zpow_add₀ (by norm_num)]
    gcongr
  rw [zpow_lt_zpow_iff_right₀ (by norm_num)] at hgreatest hleast
  unfold ofDecimal
  simp only [hlength, Nat.pow_eq]
  rw [if_neg hc.ne', if_neg (by omega), if_neg (by omega)]
  split_ifs with hk
  · obtain ⟨j, rfl⟩ := Int.eq_ofNat_of_zero_le hk
    refine ofRatio_eq negative (by positivity) one_pos hfits ?_
    rw [Int.toNat_natCast]
    rw [zpow_natCast] at hx
    push_cast
    rwa [div_one]
  · obtain ⟨j, rfl⟩ := Int.exists_eq_neg_ofNat (Int.le_of_lt (Int.not_le.mp hk))
    refine ofRatio_eq negative hc (by positivity) hfits ?_
    rw [neg_neg, Int.toNat_natCast]
    rw [zpow_neg, zpow_natCast, ← div_eq_mul_inv] at hx
    exact_mod_cast hx

end Binary64
end BoardRules.Decimal
