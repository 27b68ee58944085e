import Mathlib.Algebra.Ring.Nat
import BoardRules.Uuid

/-! The canonical text of an identifier names that identifier. -/
namespace BoardRules

open Decimal

namespace Text

/-- The last `width` hexadecimal digits of a number as numbers, most significant first. -/
def nibbles : Nat → Nat → List Nat
  | 0, _ => []
  | width + 1, n => nibbles width (n / 16) ++ [n % 16]

theorem hexDigits_eq (width n : Nat) : hexDigits width n = (nibbles width n).map hexDigit := by
  induction width generalizing n with
  | zero => rfl
  | succ width ih =>
    simp only [hexDigits, nibbles, ih, List.map_append, List.map_cons, List.map_nil]

theorem nibbles_lt {width n d : Nat} (hd : d ∈ nibbles width n) : d < 16 := by
  induction width generalizing n with
  | zero => cases hd
  | succ width ih =>
    rcases List.mem_append.mp hd with hd | hd
    · exact ih hd
    · rw [List.mem_singleton.mp hd]
      exact Nat.mod_lt _ (by decide)

theorem length_nibbles (width n : Nat) : (nibbles width n).length = width := by
  have hlength := length_hexDigits width n
  rwa [hexDigits_eq, List.length_map] at hlength

theorem foldl_nibbles (width n value : Nat) :
    (nibbles width n).foldl (fun v d => v * 16 + d) value =
      value * 16 ^ width + n % 16 ^ width := by
  induction width generalizing n with
  | zero => simp [nibbles, Nat.mod_one]
  | succ width ih =>
    -- the digits before the last are those of a number a sixteenth as large
    have hmod : n % 16 ^ (width + 1) = n % 16 + 16 * (n / 16 % 16 ^ width) := by
      rw [Nat.pow_succ, Nat.mul_comm, Nat.mod_mul]
    simp only [nibbles, List.foldl_append, List.foldl_cons, List.foldl_nil, ih, hmod]
    rw [Nat.pow_succ, ← Nat.mul_assoc]
    omega

/-- What sets the digits of an identifier apart from all that is written around them. -/
structure IsPlain (c : Char) : Prop where
  ascii : c.toNat < 0x80
  filled : isAsciiBlank c = false
  unmarked : c ∉ ['-', '+', '_', 'x', 'X', ':', '\x7b', '\x7d']

instance (c : Char) : Decidable (IsPlain c) :=
  decidable_of_iff (c.toNat < 0x80 ∧ isAsciiBlank c = false ∧
      c ∉ ['-', '+', '_', 'x', 'X', ':', '\x7b', '\x7d'])
    ⟨fun h => ⟨h.1, h.2.1, h.2.2⟩, fun h => ⟨h.ascii, h.filled, h.unmarked⟩⟩

/-- A way of writing the sixteen digits: each is plain and is read as the number it stands for. -/
structure WritesDigits (digit : Nat → Char) : Prop where
  plain : ∀ d < 16, IsPlain (digit d)
  value : ∀ d < 16, hexValue? (digit d) = some d

theorem writesDigits_hexDigit : WritesDigits hexDigit := ⟨by decide, by decide⟩

theorem isPlain_hexDigit {d : Nat} (hd : d < 16) : IsPlain (hexDigit d) :=
  writesDigits_hexDigit.plain d hd

theorem hexValue?_hexDigit {d : Nat} (hd : d < 16) : hexValue? (hexDigit d) = some d :=
  writesDigits_hexDigit.value d hd

theorem isPlain_of_hexDigits {width n : Nat} {c : Char} (hc : c ∈ hexDigits width n) :
    IsPlain c := by
  rw [hexDigits_eq] at hc
  obtain ⟨d, hd, rfl⟩ := List.mem_map.mp hc
  exact isPlain_hexDigit (nibbles_lt hd)

theorem dropWhile_of_none {p : Char → Bool} {cs : List Char} (h : ∀ c ∈ cs, p c = false) :
    cs.dropWhile p = cs := by
  cases cs with
  | nil => rfl
  | cons c cs => rw [List.dropWhile_cons, h c List.mem_cons_self, if_neg Bool.false_ne_true]

theorem stripChars_of_none {p : Char → Bool} {cs : List Char} (h : ∀ c ∈ cs, p c = false) :
    stripChars p cs = cs := by
  unfold stripChars
  rw [dropWhile_of_none h, dropWhile_of_none fun c hc => h c (List.mem_reverse.mp hc),
    List.reverse_reverse]

end Text

namespace Decimal

open Text

theorem toAscii?_of_ascii {cs : List Char} (h : ∀ c ∈ cs, c.toNat < 0x80) :
    toAscii? cs = some cs := by
  induction cs with
  | nil => rfl
  | cons c cs ih =>
    obtain ⟨hc, hcs⟩ := List.forall_mem_cons.mp h
    rw [toAscii?, if_pos hc, ih hcs]
    rfl

theorem digitIn?_of_writes {digit : Nat → Char} (hdigit : WritesDigits digit) {d : Nat}
    (hd : d < 16) : digitIn? 16 (digit d) = some d := by
  simp [digitIn?, hdigit.value d hd, hd]

theorem ne_underscore_of_writes {digit : Nat → Char} (hdigit : WritesDigits digit) {d : Nat}
    (hd : d < 16) : digit d ≠ '_' := by
  intro heq
  have hplain := (hdigit.plain d hd).unmarked
  rw [heq] at hplain
  exact hplain (by decide)

theorem readDigitsAfter_of_writes {digit : Nat → Char} (hdigit : WritesDigits digit)
    (ds : List Nat) (hds : ∀ d ∈ ds, d < 16) (value : Nat) :
    readDigitsAfter 16 value (ds.map digit) =
      some (ds.foldl (fun v d => v * 16 + d) value) := by
  induction ds generalizing value with
  | nil => rfl
  | cons d ds ih =>
    obtain ⟨hd, hrest⟩ := List.forall_mem_cons.mp hds
    rw [List.map_cons, List.foldl_cons, ← ih hrest, readDigitsAfter.eq_4,
      digitIn?_of_writes hdigit hd]
    · exact fun heq _ => ne_underscore_of_writes hdigit hd heq
    · exact fun _ _ heq _ => ne_underscore_of_writes hdigit hd heq

theorem readDigits_nibbles {digit : Nat → Char} (hdigit : WritesDigits digit) {width : Nat}
    (hwidth : 0 < width) (n : Nat) :
    readDigits 16 ((nibbles width n).map digit) = some (n % 16 ^ width) := by
  have hafter := readDigitsAfter_of_writes hdigit (nibbles width n) (fun _ => nibbles_lt) 0
  rw [foldl_nibbles, Nat.zero_mul, Nat.zero_add] at hafter
  rw [← hafter]
  have hlength := length_nibbles width n
  cases hds : nibbles width n with
  | nil =>
    rw [hds] at hlength
    exact absurd hlength (Nat.ne_of_lt hwidth)
  | cons d ds =>
    have hd : d < 16 := nibbles_lt (hds ▸ List.mem_cons_self)
    rw [List.map_cons, readDigits, readDigitsAfter.eq_4, digitIn?_of_writes hdigit hd]
    · simp
    · exact fun heq _ => ne_underscore_of_writes hdigit hd heq
    · exact fun _ _ heq _ => ne_underscore_of_writes hdigit hd heq

theorem splitSign_of_plain {cs : List Char} (h : ∀ c ∈ cs, IsPlain c) :
    splitSign cs = (false, cs) := by
  unfold splitSign
  split
  · exact absurd (by decide) (h _ List.mem_cons_self).unmarked
  · exact absurd (by decide) (h _ List.mem_cons_self).unmarked
  · rfl

theorem dropBaseMark_of_plain {cs : List Char} (h : ∀ c ∈ cs, IsPlain c) :
    dropBaseMark 16 cs = cs := by
  unfold dropBaseMark
  split
  · rename_i x rest _
    have hx := (h x (List.mem_cons_of_mem _ List.mem_cons_self)).unmarked
    rw [if_neg]
    rintro (rfl | rfl)
    · exact hx (by decide)
    · exact hx (by decide)
  · rfl

theorem readInteger_nibbles {digit : Nat → Char} (hdigit : WritesDigits digit) {width : Nat}
    (hwidth : 0 < width) (n : Nat) :
    readInteger 16 ((nibbles width n).map digit) = some ((n % 16 ^ width : Nat) : Int) := by
  have hplain : ∀ c ∈ (nibbles width n).map digit, IsPlain c := by
    intro c hc
    obtain ⟨d, hd, rfl⟩ := List.mem_map.mp hc
    exact hdigit.plain d (nibbles_lt hd)
  unfold readInteger
  rw [toAscii?_of_ascii fun c hc => (hplain c hc).ascii, Option.bind_eq_bind, Option.bind_some,
    stripChars_of_none fun c hc => (hplain c hc).filled, splitSign_of_plain hplain]
  dsimp only
  rw [dropBaseMark_of_plain hplain, readDigits_nibbles hdigit hwidth]
  rfl

end Decimal

namespace Uuid

open Text

theorem filter_grouped {cs : List Char} (h : '-' ∉ cs) : (grouped cs).filter (· ≠ '-') = cs := by
  have hkept : ∀ l : List Char, (∀ c ∈ l, c ∈ cs) → l.filter (· ≠ '-') = l := by
    intro l hl
    refine List.filter_eq_self.mpr fun c hc => decide_eq_true fun heq => h ?_
    rw [← heq]
    exact hl c hc
  have hhyphen : ∀ l : List Char, ('-' :: l).filter (· ≠ '-') = l.filter (· ≠ '-') :=
    fun l => List.filter_cons_of_neg (by decide)
  have hsplit : ∀ m k, (cs.drop m).take k ++ cs.drop (m + k) = cs.drop m := fun m k => by
    rw [← List.drop_drop, List.take_append_drop]
  have htaken : ∀ m k, ((cs.drop m).take k).filter (· ≠ '-') = (cs.drop m).take k :=
    fun m k => hkept _ fun c hc => List.mem_of_mem_drop (List.mem_of_mem_take hc)
  have hfirst : (cs.take 8).filter (· ≠ '-') = cs.take 8 := htaken 0 8
  have hlast : (cs.drop 20).filter (· ≠ '-') = cs.drop 20 :=
    hkept _ fun c hc => List.mem_of_mem_drop hc
  unfold grouped
  simp only [List.cons_append, List.append_assoc, List.filter_append, hhyphen, htaken, hfirst,
    hlast, hsplit 16 4, hsplit 12 4, hsplit 8 4, List.take_append_drop]

/-- The characters an identifier is written with if nothing is put around it. -/
def IsBody (cs : List Char) : Prop := ∀ c ∈ cs, c = '-' ∨ IsPlain c

theorem IsBody.not_mem {cs : List Char} (hbody : IsBody cs) {c : Char}
    (hc : c ∈ [':', '\x7b', '\x7d']) : c ∉ cs := by
  intro hmem
  rcases hbody c hmem with rfl | hplain
  · exact absurd hc (by decide)
  · refine hplain.unmarked ?_
    simp only [List.mem_cons, List.not_mem_nil, or_false] at hc ⊢
    grind

theorem eraseAll_of_not_mem {block cs : List Char} {c : Char} (hblock : c ∈ block)
    (hcs : c ∉ cs) : eraseAll block cs = cs :=
  eraseAll_of_not_infix fun h => hcs (h.subset hblock)

theorem IsBody.unbraced {cs : List Char} (hbody : IsBody cs) :
    ∀ c ∈ cs, (c == '\x7b' || c == '\x7d') = false := by
  intro c hc
  rw [Bool.or_eq_false_iff, beq_eq_false_iff_ne, beq_eq_false_iff_ne]
  constructor
  · rintro rfl
    exact hbody.not_mem (by decide) hc
  · rintro rfl
    exact hbody.not_mem (by decide) hc

/-- Of text with nothing put around it only the hyphens are dropped. -/
theorem IsBody.bare_eq {cs : List Char} (hbody : IsBody cs) :
    bare cs = cs.filter (· ≠ '-') := by
  have hcolon : ':' ∉ cs := hbody.not_mem (by decide)
  unfold bare
  rw [eraseAll_of_not_mem (by decide) hcolon, eraseAll_of_not_mem (by decide) hcolon,
    stripChars_of_none hbody.unbraced]

theorem isBody_of_filter {cs : List Char} (h : ∀ c ∈ cs.filter (· ≠ '-'), IsPlain c) :
    IsBody cs := by
  intro c hc
  by_cases hhyphen : c = '-'
  · exact .inl hhyphen
  · exact .inr (h c (List.mem_filter.mpr ⟨hc, decide_eq_true hhyphen⟩))

theorem filter_chars (u : Uuid) : u.chars.filter (· ≠ '-') = hexDigits 32 u.toNat :=
  filter_grouped fun hc => (isPlain_of_hexDigits hc).unmarked (by decide)

theorem isBody_chars (u : Uuid) : IsBody u.chars := by
  refine isBody_of_filter fun c hc => ?_
  rw [filter_chars] at hc
  exact isPlain_of_hexDigits hc

/-- Whatever is written around them, the digits of an identifier name it. -/
theorem ofChars?_of_bare {digit : Nat → Char} (hdigit : WritesDigits digit) {cs : List Char}
    {u : Uuid} (hbare : bare cs = (nibbles 32 u.toNat).map digit) : ofChars? cs = some u := by
  have hsmall : u.toNat % 16 ^ 32 = u.toNat := Nat.mod_eq_of_lt u.isLt
  unfold ofChars?
  dsimp only
  rw [hbare, List.length_map, length_nibbles, if_pos rfl, readInteger_nibbles hdigit (by decide),
    hsmall]
  unfold ofNat?
  dsimp only
  rw [dif_pos u.isLt]

/-- Reading the text of an identifier gives the identifier back. -/
theorem ofText?_text (u : Uuid) : ofText? u.text = some u := by
  unfold ofText? text
  rw [String.toList_ofList]
  refine ofChars?_of_bare writesDigits_hexDigit ?_
  rw [u.isBody_chars.bare_eq, filter_chars, hexDigits_eq]

end Uuid
end BoardRules
