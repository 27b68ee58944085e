import BoardRules.Json.Print
import BoardRules.Json.Read
import BoardRules.Proofs.Decimal.Layout

/-! Numbers in JSON text. A numeral is read part by part, up to where no digit, point or exponent
goes on; so an integer is read as itself, and the shortest decimal of a double as the double. -/
namespace BoardRules.Json

open Decimal Decimal.Binary64

/-- Whether a number ends before a text: no digit, point or exponent goes on. -/
def EndsNumber (rest : List Char) : Prop :=
  ∀ c ∈ rest.head?, c.isDigit = false ∧ c ∉ ['.', 'e', 'E']

/-- A numeral with the sign of its number. -/
def signed (negative : Bool) (n : Numeral) : List Char :=
  if negative then '-' :: n.chars else n.chars

/-- What a numeral is read as. -/
def numberOf (negative : Bool) (n : Numeral) : Json :=
  if n.isInteger then .int (if negative then -(digitsValue n.whole : Int) else digitsValue n.whole)
  else .float (Binary64.ofDecimal negative n.coefficient n.exponent)

section Parts

variable {rest : List Char}

/-- Digits are read up to where they end. -/
theorem takeWhile_digits {ds : List Char} (hds : ∀ c ∈ ds, c.isDigit = true)
    (hrest : ∀ c ∈ rest.head?, c.isDigit = false) :
    (ds ++ rest).takeWhile Char.isDigit = ds ∧ (ds ++ rest).dropWhile Char.isDigit = rest := by
  rw [List.takeWhile_append_of_pos hds, List.dropWhile_append_of_pos hds]
  cases rest with
  | nil => exact ⟨List.append_nil ds, rfl⟩
  | cons c cs =>
    have hc : ¬c.isDigit = true := by rw [hrest c rfl]; exact Bool.false_ne_true
    rw [List.takeWhile_cons_of_neg hc, List.dropWhile_cons_of_neg hc, List.append_nil]
    exact ⟨rfl, rfl⟩

theorem readPart_of_ne {cs : List Char} (h : ∀ c ∈ cs.head?, c ≠ '.') : readPart cs = ([], cs) := by
  unfold readPart
  split
  · exact absurd rfl (h _ rfl)
  · rfl

theorem readPart_pointChars {ds cs : List Char} (hds : ∀ c ∈ ds, c.isDigit = true)
    (hcs : ∀ c ∈ cs.head?, c.isDigit = false ∧ c ≠ '.') :
    readPart (Numeral.pointChars ds ++ cs) = (ds, cs) := by
  cases ds with
  | nil => exact readPart_of_ne fun c hc => (hcs c hc).2
  | cons d ds =>
    rw [List.forall_mem_cons] at hds
    obtain ⟨htaken, hleft⟩ := takeWhile_digits hds.2 fun c hc => (hcs c hc).1
    change readPart ('.' :: d :: (ds ++ cs)) = _
    rw [readPart, if_pos hds.1, htaken, hleft]

theorem readScale_of_ends (h : EndsNumber rest) : readScale rest = (none, rest) := by
  cases rest with
  | nil => rfl
  | cons e cs =>
    have he := (h e rfl).2
    have hnone : ¬(e = 'e' ∨ e = 'E') := by
      rintro (rfl | rfl) <;> exact he (by decide)
    unfold readScale
    dsimp only
    rw [if_neg fun hexp => hnone hexp.1]

theorem readScale_scaleChars {scale : Option (Bool × List Char)}
    (hscale : ∀ s ∈ scale, s.2 ≠ [] ∧ ∀ c ∈ s.2, c.isDigit = true) (h : EndsNumber rest) :
    readScale (Numeral.scaleChars scale ++ rest) =
      (scale.map fun s => Numeral.power (some s), rest) := by
  cases scale with
  | none => exact readScale_of_ends h
  | some s =>
    obtain ⟨negative, ds⟩ := s
    obtain ⟨hne, hds⟩ := hscale _ rfl
    obtain ⟨htaken, hleft⟩ := takeWhile_digits hds fun c hc => (h c hc).1
    have hsign : splitSign ((if negative then '-' else '+') :: (ds ++ rest)) =
        (negative, ds ++ rest) := by
      cases negative <;> rfl
    change readScale ('e' :: (if negative then '-' else '+') :: (ds ++ rest)) = _
    unfold readScale
    dsimp only
    rw [hsign]
    dsimp only
    rw [htaken, hleft, if_pos ⟨.inl rfl, by
      rw [Bool.not_eq_true', ← Bool.not_eq_true, List.isEmpty_iff]
      exact hne⟩]
    rfl

theorem head?_scaleChars (scale : Option (Bool × List Char)) (h : EndsNumber rest) :
    ∀ c ∈ (Numeral.scaleChars scale ++ rest).head?, c.isDigit = false ∧ c ≠ '.' := by
  intro c hc
  cases scale with
  | none =>
    obtain ⟨hdigit, hmark⟩ := h c hc
    exact ⟨hdigit, fun hpoint => hmark (by rw [hpoint]; decide)⟩
  | some s =>
    obtain rfl := Option.some.inj hc
    decide

theorem head?_pointChars (ds : List Char) {cs : List Char}
    (hcs : ∀ c ∈ cs.head?, c.isDigit = false) :
    ∀ c ∈ (Numeral.pointChars ds ++ cs).head?, c.isDigit = false := by
  cases ds with
  | nil => exact hcs
  | cons d ds =>
    intro c hc
    obtain rfl := Option.some.inj hc
    rfl

theorem readNumber_numeral (negative : Bool) {n : Numeral} (hn : n.Sound) (h : EndsNumber rest) :
    readNumber {} negative (n.chars ++ rest) = .ok (numberOf negative n, rest) := by
  obtain ⟨whole, part, scale⟩ := n
  obtain ⟨⟨d, ds, hwhole, hzero⟩, hdigits, hscale⟩ := hn
  dsimp only at hwhole hdigits hscale
  subst hwhole
  rw [List.forall_mem_append, List.forall_mem_cons] at hdigits
  obtain ⟨⟨hd, hds⟩, hpart⟩ := hdigits
  have hafter := head?_scaleChars scale h
  have hread := readPart_pointChars hpart hafter
  generalize htail : Numeral.pointChars part ++ (Numeral.scaleChars scale ++ rest) = tail
    at hread
  have hstop : ∀ c ∈ tail.head?, c.isDigit = false := by
    rw [← htail]
    exact head?_pointChars part fun c hc => (hafter c hc).1
  obtain ⟨htaken, hleft⟩ := takeWhile_digits hds hstop
  have hfirst : (if d = '0' then [d] else d :: (ds ++ tail).takeWhile Char.isDigit) = d :: ds ∧
      (if d = '0' then ds ++ tail else (ds ++ tail).dropWhile Char.isDigit) = tail := by
    rw [htaken, hleft]
    split
    · next h => exact ⟨by rw [hzero h], by rw [hzero h, List.nil_append]⟩
    · exact ⟨rfl, rfl⟩
  have hchars : Numeral.chars ⟨d :: ds, part, scale⟩ ++ rest = d :: (ds ++ tail) := by
    rw [← htail]
    unfold Numeral.chars
    simp only [List.append_assoc, List.cons_append]
  rw [hchars, readNumber]
  dsimp only
  rw [hfirst.1, hfirst.2, hread, hd]
  dsimp only
  rw [readScale_scaleChars hscale h]
  dsimp only
  cases scale <;> cases part <;> rfl

/-- A numeral begins with a digit, or with its sign. -/
theorem signed_cases (negative : Bool) {n : Numeral} (hn : n.Sound) :
    ∃ d ds, n.chars = d :: ds ∧ d.isDigit = true ∧
      signed negative n = if negative then '-' :: d :: ds else d :: ds := by
  obtain ⟨d, ds, hwhole, -⟩ := hn.whole
  have hchars : n.chars =
      d :: (ds ++ (Numeral.pointChars n.part ++ Numeral.scaleChars n.scale)) := by
    rw [Numeral.chars, hwhole, List.cons_append]
  refine ⟨d, _, hchars, hn.digits d ?_, by rw [signed, hchars]⟩
  rw [hwhole]
  exact List.mem_cons_self

theorem readScalar_digit {d : Char} (hd : d.isDigit = true) (cs : List Char) :
    readScalar {} (d :: cs) = readNumber {} false (d :: cs) := by
  unfold readScalar
  split
  all_goals first
    | rfl
    | next h =>
      obtain ⟨rfl, -⟩ := List.cons.inj h
      exact absurd hd (by decide)

theorem readScalar_minus {d : Char} (hd : d.isDigit = true) (cs : List Char) :
    readScalar {} ('-' :: d :: cs) = readNumber {} true (d :: cs) := by
  rw [readScalar]
  rintro r h
  obtain ⟨rfl, -⟩ := List.cons.inj h
  exact absurd hd (by decide)

theorem readScalar_signed (negative : Bool) {n : Numeral} (hn : n.Sound) (h : EndsNumber rest) :
    readScalar {} (signed negative n ++ rest) = .ok (numberOf negative n, rest) := by
  have hread := readNumber_numeral negative hn h
  obtain ⟨d, ds, hchars, hd, hsigned⟩ := signed_cases negative hn
  rw [hchars, List.cons_append] at hread
  rw [hsigned]
  cases negative with
  | false => rw [if_neg Bool.false_ne_true, List.cons_append, readScalar_digit hd, hread]
  | true => rw [if_pos rfl, List.cons_append, List.cons_append, readScalar_minus hd, hread]

theorem mem_signed {negative : Bool} {n : Numeral} (hn : n.Sound) {c : Char}
    (hc : c ∈ signed negative n) : c.isDigit = true ∨ c ∈ ['-', '+', '.', 'e'] := by
  have hchars : c ∈ n.chars → c.isDigit = true ∨ c ∈ ['-', '+', '.', 'e'] := by
    rw [Numeral.chars, List.mem_append, List.mem_append]
    rintro (hc | hc | hc)
    · exact .inl (hn.digits c (List.mem_append_left _ hc))
    · unfold Numeral.pointChars at hc
      split at hc
      · cases hc
      · rcases List.mem_cons.mp hc with rfl | hc
        · exact .inr (by decide)
        · exact .inl (hn.digits c (List.mem_append_right _ hc))
    · unfold Numeral.scaleChars at hc
      split at hc
      · cases hc
      · next s ds hscale =>
        rcases List.mem_cons.mp hc with rfl | hc
        · exact .inr (by decide)
        rcases List.mem_cons.mp hc with rfl | hc
        · cases s <;> exact .inr (by decide)
        · exact .inl ((hn.scale _ hscale).2 c hc)
  unfold signed at hc
  split at hc
  · rcases List.mem_cons.mp hc with rfl | hc
    · exact .inr (by decide)
    · exact hchars hc
  · exact hchars hc

end Parts

section Integers

theorem sound_toDigits (n : Nat) : Numeral.Sound ⟨Nat.toDigits 10 n, [], none⟩ := by
  obtain ⟨d, ds, hdigits, hzero, hds⟩ := toDigits_cases n
  refine ⟨⟨d, ds, hdigits, fun hd => ?_⟩, ?_, fun s hs => nomatch hs⟩
  · rw [hzero hd, Nat.toDigits_zero] at hdigits
    exact (List.cons.inj hdigits).2.symm
  · rw [List.append_nil, hdigits]
    exact hds

/-- An integer is written as a numeral that is read as the integer. -/
theorem exists_signed_intText (n : Int) :
    ∃ negative m, (intText n).toList = signed negative m ∧ m.Sound ∧
      numberOf negative m = .int n := by
  cases n with
  | ofNat m =>
    refine ⟨false, _, ?_, sound_toDigits m, ?_⟩
    · rw [intText, natText, Nat.toList_repr]
      exact (List.append_nil _).symm
    · change Json.int (digitsValue (Nat.toDigits 10 m)) = _
      rw [digitsValue_toDigits]
      rfl
  | negSucc m =>
    refine ⟨true, _, ?_, sound_toDigits (m + 1), ?_⟩
    · rw [intText, natText, String.toList_append, Nat.toList_repr]
      exact congrArg ('-' :: ·) (List.append_nil _).symm
    · change Json.int (-(digitsValue (Nat.toDigits 10 (m + 1)) : Int)) = _
      rw [digitsValue_toDigits]
      rfl

end Integers

section Doubles

/-- A finite double is written as a numeral that is read as the double. -/
theorem exists_signed_text (negative : Bool) {m : Nat} {e : Int} (hfits : Fits m e) :
    ∃ n, ((Binary64.finite negative m e).text floatLayout).toList = signed negative n ∧ n.Sound ∧
      numberOf negative n = .float (.finite negative m e) := by
  have hsign : ∀ s : String, ((if negative then "-" else "") ++ s).toList =
      if negative then '-' :: s.toList else s.toList := by
    intro s
    rw [String.toList_append]
    cases negative <;> rfl
  rw [Binary64.text, hsign]
  rcases Nat.eq_zero_or_pos m with rfl | hm
  · have he : e = minExponent := by
      by_contra hne
      have := hfits.full (lt_of_le_of_ne hfits.least (Ne.symm hne))
      omega
    refine ⟨⟨['0'], ['0'], none⟩, ?_, ⟨⟨'0', [], rfl, fun _ => rfl⟩, ?_, fun s hs => nomatch hs⟩,
      ?_⟩
    · rw [if_pos rfl, String.toList_append]
      cases negative <;> rfl
    · exact List.forall_mem_cons.mpr ⟨rfl, List.forall_mem_singleton.mpr rfl⟩
    · rw [he]
      rfl
  · obtain ⟨hpos, hreads⟩ := shortest_readsAs hm hfits
    obtain ⟨n, hchars, hsound, hbroken, hcoefficient, hvalue⟩ :=
      Digits.exists_numeral (l := floatLayout) rfl hpos
    rw [← hvalue] at hreads
    refine ⟨n, ?_, hsound, ?_⟩
    · rw [if_neg hm.ne', hchars, signed]
    · rw [numberOf, hbroken, if_neg Bool.false_ne_true,
        ofDecimal_eq negative hcoefficient hm hfits hreads]

/-- A double is written by its name or as a numeral that is read as the double. -/
theorem doubleText_cases {x : Binary64} (hx : x.IsDouble) :
    (x.text floatLayout).toList = ['N', 'a', 'N'] ∧ x = .nan ∨
    (x.text floatLayout).toList = ['I', 'n', 'f', 'i', 'n', 'i', 't', 'y'] ∧ x = .infinity false ∨
    (x.text floatLayout).toList = ['-', 'I', 'n', 'f', 'i', 'n', 'i', 't', 'y'] ∧
      x = .infinity true ∨
    ∃ negative n, (x.text floatLayout).toList = signed negative n ∧ n.Sound ∧
      numberOf negative n = .float x := by
  cases x with
  | nan => exact .inl ⟨rfl, rfl⟩
  | infinity negative =>
    cases negative with
    | false => exact .inr (.inl ⟨String.toList_append, rfl⟩)
    | true => exact .inr (.inr (.inl ⟨String.toList_append, rfl⟩))
  | finite negative m e => exact .inr (.inr (.inr ⟨negative, exists_signed_text negative hx⟩))

end Doubles

end BoardRules.Json
