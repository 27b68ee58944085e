import BoardRules.Proofs.Decimal.Shortest

/-! The text of a number in its parts: digits before the point, digits behind it, and a power of
ten. Whichever way digits are laid out, the parts stand for their magnitude. -/
namespace BoardRules.Decimal

theorem digitsValue_toDigits (n : Nat) : digitsValue (Nat.toDigits 10 n) = n := by
  have hstep : (fun m c => m * 10 + (c.toNat - 0x30)) =
      fun (m : Nat) (c : Char) => 10 * m + (c.toNat - '0'.toNat) := by
    funext m c
    rw [Nat.mul_comm]
    rfl
  rw [digitsValue, hstep]
  exact Nat.ofDigitChars_ten_toDigits

/-- The digits of a number start with a zero only if it is zero. -/
theorem toDigits_cases (n : Nat) : ∃ d ds, Nat.toDigits 10 n = d :: ds ∧ (d = '0' → n = 0) ∧
    ∀ c ∈ d :: ds, c.isDigit = true := by
  obtain ⟨d, ds, hdigits⟩ := List.exists_cons_of_ne_nil (Nat.toDigits_ne_nil (n := n) (b := 10))
  refine ⟨d, ds, hdigits, ?_, fun c hc =>
    Nat.isDigit_of_mem_toDigits (by decide) (by decide) (hdigits ▸ hc)⟩
  rintro rfl
  induction n using Nat.strongRecOn generalizing ds with
  | ind n ih =>
    by_cases hn : n < 10
    · rw [Nat.toDigits_of_lt_base hn] at hdigits
      exact Nat.digitChar_eq_zero.mp (List.cons.inj hdigits).1
    · rw [Nat.toDigits_of_base_le (by decide) (by omega)] at hdigits
      obtain ⟨e, es, hrest⟩ :=
        List.exists_cons_of_ne_nil (Nat.toDigits_ne_nil (n := n / 10) (b := 10))
      rw [hrest, List.cons_append] at hdigits
      obtain ⟨rfl, -⟩ := List.cons.inj hdigits
      have hzero := ih (n / 10) (by omega) es hrest
      omega

theorem digitsValue_zeros_append (k : Nat) (cs : List Char) :
    digitsValue (List.replicate k '0' ++ cs) = digitsValue cs := by
  induction k with
  | zero => rfl
  | succ k ih =>
    rw [List.replicate_succ, List.cons_append]
    exact ih

theorem digitsValue_append_zeros (cs : List Char) (k : Nat) :
    digitsValue (cs ++ List.replicate k '0') = digitsValue cs * 10 ^ k := by
  induction k with
  | zero => rw [List.replicate_zero, List.append_nil, Nat.pow_zero, Nat.mul_one]
  | succ k ih =>
    have hlast : digitsValue (cs ++ List.replicate k '0' ++ ['0']) =
        digitsValue (cs ++ List.replicate k '0') * 10 := by
      unfold digitsValue
      rw [List.foldl_append]
      rfl
    rw [List.replicate_succ', ← List.append_assoc, hlast, ih, Nat.pow_succ, Nat.mul_assoc]

theorem toList_pushn (k : Nat) : ("".pushn '0' k).toList = List.replicate k '0' := by
  rw [String.pushn_eq_repeat_push]
  induction k with
  | zero => rfl
  | succ k ih =>
    rw [List.replicate_succ', ← ih]
    exact String.toList_push _

theorem toList_padLeft (width : Nat) (s : String) :
    (padLeft width s).toList = List.replicate (width - s.length) '0' ++ s.toList := by
  rw [padLeft, String.toList_append, toList_pushn]

/-- The parts of an unsigned number's text. A power of ten has a sign of its own. -/
structure Numeral where
  whole : List Char
  part : List Char := []
  scale : Option (Bool × List Char) := none

namespace Numeral

def pointChars : List Char → List Char
  | [] => []
  | cs => '.' :: cs

theorem pointChars_of_ne_nil {cs : List Char} (h : cs ≠ []) : pointChars cs = '.' :: cs := by
  obtain ⟨c, cs, rfl⟩ := List.exists_cons_of_ne_nil h
  rfl

def scaleChars : Option (Bool × List Char) → List Char
  | none => []
  | some (negative, ds) => 'e' :: (if negative then '-' else '+') :: ds

def power : Option (Bool × List Char) → Int
  | none => 0
  | some (negative, ds) => if negative then -(digitsValue ds : Int) else digitsValue ds

def chars (n : Numeral) : List Char := n.whole ++ (pointChars n.part ++ scaleChars n.scale)

theorem chars_pointed (whole : List Char) {part : List Char} (hpart : part ≠ []) :
    chars ⟨whole, part, none⟩ = whole ++ '.' :: part := by
  unfold chars scaleChars
  rw [pointChars_of_ne_nil hpart, List.append_nil]

def coefficient (n : Numeral) : Nat := digitsValue (n.whole ++ n.part)

def exponent (n : Numeral) : Int := power n.scale - n.part.length

/-- Whether a numeral has neither digits behind the point nor a power of ten. -/
def isInteger (n : Numeral) : Bool := n.part.isEmpty && n.scale.isNone

/-- A numeral of digits, without superfluous zeros in front. -/
structure Sound (n : Numeral) : Prop where
  whole : ∃ d ds, n.whole = d :: ds ∧ (d = '0' → ds = [])
  digits : ∀ c ∈ n.whole ++ n.part, c.isDigit = true
  scale : ∀ s ∈ n.scale, s.2 ≠ [] ∧ ∀ c ∈ s.2, c.isDigit = true

end Numeral

theorem isDigit_of_natText {n : Nat} {c : Char} (hc : c ∈ (natText n).toList) :
    c.isDigit = true := by
  rw [natText, Nat.toList_repr] at hc
  exact Nat.isDigit_of_mem_toDigits (by decide) (by decide) hc

theorem isDigit_of_zeros {k : Nat} {c : Char} (hc : c ∈ List.replicate k '0') :
    c.isDigit = true := by
  rw [List.eq_of_mem_replicate hc]
  rfl

/-- An exponent is written with zeros in front where it is short. -/
theorem digits_padLeft (width n : Nat) :
    digitsValue (padLeft width (natText n)).toList = n ∧ (padLeft width (natText n)).toList ≠ [] ∧
      ∀ c ∈ (padLeft width (natText n)).toList, c.isDigit = true := by
  rw [toList_padLeft]
  refine ⟨?_, ?_, ?_⟩
  · rw [digitsValue_zeros_append, natText, Nat.toList_repr, digitsValue_toDigits]
  · rw [natText, Nat.toList_repr]
    exact List.append_ne_nil_of_right_ne_nil _ Nat.toDigits_ne_nil
  · intro c hc
    rcases List.mem_append.mp hc with hc | hc
    · exact isDigit_of_zeros hc
    · exact isDigit_of_natText hc

namespace Numeral

/-- Whether a numeral stands for digits times a power of ten, and does not look like an integer. -/
structure Stands (n : Numeral) (ds : List Char) (k : Int) : Prop where
  sound : n.Sound
  broken : n.isInteger = false
  value : (n.coefficient : ℚ) * 10 ^ n.exponent = digitsValue ds * 10 ^ k

variable {c : Char} {cs : List Char} (hc : c ≠ '0') (hall : ∀ b ∈ c :: cs, b.isDigit = true)

include hc hall

/-- One digit stands before the point, and a power of ten is written. -/
theorem stands_scaled (width : Nat) (power : Int) :
    Stands ⟨[c], cs, some (decide (power < 0), (padLeft width (natText power.natAbs)).toList)⟩
      (c :: cs) (power - cs.length) := by
  obtain ⟨hpower, hne, hpadded⟩ := digits_padLeft width power.natAbs
  generalize (padLeft width (natText power.natAbs)).toList = ps at *
  refine ⟨⟨⟨c, [], rfl, fun h => absurd h hc⟩, hall, ?_⟩, Bool.and_false _, ?_⟩
  · intro s hs
    obtain rfl := Option.some.inj hs
    exact ⟨hne, hpadded⟩
  · have hscale : Numeral.power (some (decide (power < 0), ps)) = power := by
      unfold Numeral.power
      dsimp only
      rw [hpower]
      by_cases hneg : power < 0
      · rw [if_pos (decide_eq_true hneg)]
        omega
      · rw [if_neg (mt of_decide_eq_true hneg)]
        omega
    unfold coefficient exponent
    dsimp only
    rw [hscale, List.singleton_append]

omit hc in
/-- Nothing but zeros stands before the digits. -/
theorem stands_small (k : Nat) :
    Stands ⟨['0'], List.replicate k '0' ++ c :: cs, none⟩ (c :: cs)
      (-(k + (cs.length + 1 : Nat) : Int)) := by
  refine ⟨⟨⟨'0', [], rfl, fun _ => rfl⟩, ?_, fun s hs => nomatch hs⟩, ?_, ?_⟩
  · intro b hb
    change b ∈ '0' :: (List.replicate k '0' ++ c :: cs) at hb
    rcases List.mem_cons.mp hb with rfl | hb
    · rfl
    rcases List.mem_append.mp hb with hb | hb
    · exact isDigit_of_zeros hb
    · exact hall b hb
  · cases k <;> rfl
  · have hvalue : digitsValue (['0'] ++ (List.replicate k '0' ++ c :: cs)) =
        digitsValue (c :: cs) :=
      digitsValue_zeros_append (k + 1) (c :: cs)
    unfold coefficient exponent power
    dsimp only
    rw [hvalue, List.length_append, List.length_replicate, List.length_cons, zero_sub,
      Nat.cast_add]

/-- All digits stand before the point. -/
theorem stands_whole (k : Nat) :
    Stands ⟨c :: cs ++ List.replicate k '0', ['0'], none⟩ (c :: cs) k := by
  refine ⟨⟨⟨c, _, rfl, fun h => absurd h hc⟩, ?_, fun s hs => nomatch hs⟩, rfl, ?_⟩
  · intro b hb
    rcases List.mem_append.mp hb with hb | hb
    · rcases List.mem_append.mp hb with hb | hb
      · exact hall b hb
      · exact isDigit_of_zeros hb
    · rw [List.mem_singleton.mp hb]
      rfl
  · have hvalue : digitsValue (c :: cs ++ List.replicate k '0' ++ ['0']) =
        digitsValue (c :: cs) * 10 ^ (k + 1) := by
      rw [← digitsValue_append_zeros, List.replicate_succ', List.append_assoc]
    unfold coefficient exponent power
    dsimp only
    rw [hvalue, List.length_singleton, Nat.cast_one, zero_sub, Nat.cast_mul, Nat.cast_pow,
      Nat.cast_ofNat, ← zpow_natCast, mul_assoc, ← zpow_add₀ (by norm_num)]
    congr 2
    omega

/-- The point stands between the digits. -/
theorem stands_broken {k : Nat} (hk : 0 < k) (hk' : k < (c :: cs).length) :
    Stands ⟨(c :: cs).take k, (c :: cs).drop k, none⟩ (c :: cs)
      (k - ((c :: cs).length : Int)) := by
  obtain ⟨k, rfl⟩ := Nat.exists_eq_add_one_of_ne_zero hk.ne'
  have hpart : (c :: cs).drop (k + 1) ≠ [] := mt List.drop_eq_nil_iff.mp (Nat.not_le.mpr hk')
  refine ⟨⟨⟨c, _, List.take_succ_cons, fun h => absurd h hc⟩, ?_, fun s hs => nomatch hs⟩, ?_, ?_⟩
  · rw [List.take_append_drop]
    exact hall
  · exact Bool.and_eq_false_imp.mpr fun hnone => absurd (List.isEmpty_iff.mp hnone) hpart
  · unfold coefficient exponent power
    dsimp only
    rw [List.take_append_drop, List.length_drop]
    congr 2
    omega

end Numeral

/-- Digits are laid out as a numeral of their magnitude. -/
theorem Digits.exists_numeral {l : Layout} (hl : l.integerTail = ".0") {d : Digits}
    (hd : 0 < d.digits) :
    ∃ n : Numeral, (d.text l).toList = n.chars ∧ n.Sound ∧ n.isInteger = false ∧
      0 < n.coefficient ∧ n.coefficient * 10 ^ n.exponent = d.magnitude := by
  obtain ⟨c, cs, hdigits, hzero, hall⟩ := toDigits_cases d.digits
  have hc : c ≠ '0' := fun h => hd.ne' (hzero h)
  have hchars : (natText d.digits).toList = c :: cs := by
    rw [natText, Nat.toList_repr, hdigits]
  have hlength : (natText d.digits).length = cs.length + 1 := by
    rw [← String.length_toList, hchars, List.length_cons]
  suffices h : ∃ n : Numeral, (d.text l).toList = n.chars ∧ n.Stands (c :: cs) d.exponent by
    obtain ⟨n, hn, hsound, hbroken, hvalue⟩ := h
    rw [← hdigits, digitsValue_toDigits] at hvalue
    refine ⟨n, hn, hsound, hbroken, Nat.pos_of_ne_zero fun hnone => ?_, hvalue⟩
    rw [hnone, Nat.cast_zero, zero_mul] at hvalue
    have : (0 : ℚ) < d.digits * 10 ^ d.exponent := by positivity
    exact this.ne hvalue
  unfold Digits.text
  dsimp only
  rw [hlength, hchars]
  generalize hpoint : ((cs.length + 1 : Nat) : Int) + d.exponent = point
  split
  · have hstands := Numeral.stands_scaled hc hall l.exponentWidth (point - 1)
    have hexponent : point - 1 - cs.length = d.exponent := by omega
    refine ⟨_, ?_, hexponent ▸ hstands⟩
    unfold Numeral.chars Numeral.scaleChars Numeral.pointChars
    cases cs with
    | nil => by_cases hsign : point - 1 < 0 <;> simp [hsign]
    | cons b bs => by_cases hsign : point - 1 < 0 <;> simp [hsign]
  split
  · have hstands := Numeral.stands_small hall (-point).toNat
    have hexponent : -((-point).toNat + (cs.length + 1 : Nat) : Int) = d.exponent := by omega
    have hpart := List.append_ne_nil_of_right_ne_nil (List.replicate (-point).toNat '0')
      (List.cons_ne_nil c cs)
    refine ⟨_, ?_, hexponent ▸ hstands⟩
    rw [String.toList_append, String.toList_append, toList_pushn, hchars, List.append_assoc,
      Numeral.chars_pointed _ hpart]
    rfl
  split
  · have hstands := Numeral.stands_whole hc hall (point.toNat - (cs.length + 1))
    have hexponent : ((point.toNat - (cs.length + 1) : Nat) : Int) = d.exponent := by omega
    refine ⟨_, ?_, hexponent ▸ hstands⟩
    rw [hl, String.toList_append, String.toList_append, toList_pushn, hchars,
      Numeral.chars_pointed _ (List.cons_ne_nil _ _)]
    rfl
  · have hpoint' : point.toNat < (c :: cs).length := Nat.lt_of_not_le (by assumption)
    have hstands := Numeral.stands_broken hc hall (k := point.toNat) (by omega) hpoint'
    have hexponent : (point.toNat : Int) - ((c :: cs).length : Int) = d.exponent := by
      rw [List.length_cons]
      omega
    have hpart := mt List.drop_eq_nil_iff.mp (Nat.not_le.mpr hpoint')
    refine ⟨_, ?_, hexponent ▸ hstands⟩
    rw [String.toList_append, String.toList_append, String.toList_ofList,
      String.toList_ofList (l := (c :: cs).drop point.toNat), List.append_assoc,
      Numeral.chars_pointed _ hpart]
    rfl

end BoardRules.Decimal
