import BoardRules.Proofs.Uuid

/-!
The forms an identifier is written in, and that each of them is read as the identifier it was
written for.
-/
namespace BoardRules

open Decimal

namespace Text

theorem writesDigits_upper : WritesDigits fun d => (hexDigit d).toUpper := ⟨by decide, by decide⟩

theorem stripChars_wrapped {p : Char → Bool} {a b : Char} {cs : List Char} (ha : p a = true)
    (hb : p b = true) (hcs : ∀ c ∈ cs, p c = false) : stripChars p (a :: (cs ++ [b])) = cs := by
  unfold stripChars
  rw [List.dropWhile_cons_of_pos ha]
  cases cs with
  | nil => simp [hb]
  | cons c cs =>
    have hc : p c = false := hcs c List.mem_cons_self
    have hreverse : ∀ x ∈ (c :: cs).reverse, p x = false :=
      fun x hx => hcs x (List.mem_reverse.mp hx)
    rw [List.cons_append, List.dropWhile_cons_of_neg (by simp [hc]), ← List.cons_append,
      List.reverse_append, List.reverse_singleton, List.singleton_append,
      List.dropWhile_cons_of_pos hb, dropWhile_of_none hreverse, List.reverse_reverse]

theorem toUpper_eq_hyphen {c : Char} : c.toUpper = '-' ↔ c = '-' := by
  unfold Char.toUpper
  split
  case isTrue hlower =>
    have hlow : 97 ≤ c.toNat := hlower.1
    have hhigh : c.toNat ≤ 122 := hlower.2
    have hsum : (c.val + 4294967264).toNat = c.toNat - 32 := by
      rw [UInt32.toNat_add, Char.toNat_val]
      simp only [UInt32.reduceToNat]
      omega
    constructor
    · intro heq
      have hval : (c.val + 4294967264).toNat = 45 := congrArg (fun c => c.val.toNat) heq
      omega
    · rintro rfl
      exact absurd hlow (by decide)
  case isFalse => rfl

theorem mem_of_mem_stripChars {p : Char → Bool} {c : Char} {cs : List Char}
    (hc : c ∈ stripChars p cs) : c ∈ cs := by
  unfold stripChars at hc
  have hsuffix := List.dropWhile_sublist p (l := (cs.dropWhile p).reverse)
  have hdropped : c ∈ cs.dropWhile p :=
    List.mem_reverse.mp (hsuffix.mem (List.mem_reverse.mp hc))
  exact (List.dropWhile_sublist p).mem hdropped

theorem length_stripChars_le (p : Char → Bool) (cs : List Char) :
    (stripChars p cs).length ≤ cs.length := by
  unfold stripChars
  have hend := (List.dropWhile_sublist p (l := (cs.dropWhile p).reverse)).length_le
  have hstart := (List.dropWhile_sublist p (l := cs)).length_le
  simp only [List.length_reverse] at hend ⊢
  omega

end Text

namespace Decimal

open Text

theorem digitValue?_lt {c : Char} {d : Nat} (h : digitValue? c = some d) : d < 10 := by
  unfold digitValue? at h
  split at h
  · split at h
    · cases h
      simp_all [Char.isDigit, UInt32.le_iff_toNat_le]
      omega
    · cases h
  · obtain ⟨z, hz, rfl⟩ := Option.map_eq_some_iff.mp h
    have hrange := List.find?_some hz
    simp only [Bool.and_eq_true, decide_eq_true_eq] at hrange
    omega

theorem hexDigit_ne_hyphen {d : Nat} (hd : d < 16) : hexDigit d ≠ '-' := by
  intro heq
  have hplain := (isPlain_hexDigit hd).unmarked
  rw [heq] at hplain
  exact hplain (by decide)

/-- A character is read for itself or for one that is no hyphen. -/
theorem toAscii?_cons {c : Char} {cs ascii : List Char} (h : toAscii? (c :: cs) = some ascii) :
    ∃ a rest, ascii = a :: rest ∧ toAscii? cs = some rest ∧ (a = '-' → c = '-') := by
  rw [toAscii?] at h
  split at h
  · obtain ⟨rest, hrest, rfl⟩ := Option.map_eq_some_iff.mp h
    exact ⟨c, rest, rfl, hrest, id⟩
  · split at h
    · obtain ⟨rest, hrest, rfl⟩ := Option.map_eq_some_iff.mp h
      exact ⟨' ', rest, rfl, hrest, fun hblank => absurd hblank (by decide)⟩
    · split at h
      case h_1 d hd =>
        have hsmall : d < 16 := Nat.lt_trans (digitValue?_lt hd) (by decide)
        obtain ⟨rest, hrest, rfl⟩ := Option.map_eq_some_iff.mp h
        exact ⟨hexDigit d, rest, rfl, hrest,
          fun hdigit => absurd hdigit (hexDigit_ne_hyphen hsmall)⟩
      case h_2 => cases h

theorem length_of_toAscii? {cs ascii : List Char} (h : toAscii? cs = some ascii) :
    ascii.length = cs.length := by
  induction cs generalizing ascii with
  | nil =>
    cases h
    rfl
  | cons c cs ih =>
    obtain ⟨a, rest, rfl, hrest, -⟩ := toAscii?_cons h
    simp [ih hrest]

theorem hyphen_of_toAscii? {cs ascii : List Char} (h : toAscii? cs = some ascii)
    (hhyphen : '-' ∈ ascii) : '-' ∈ cs := by
  induction cs generalizing ascii with
  | nil =>
    cases h
    exact hhyphen
  | cons c cs ih =>
    obtain ⟨a, rest, rfl, hrest, hread⟩ := toAscii?_cons h
    rcases List.mem_cons.mp hhyphen with ha | hlater
    · exact List.mem_cons.mpr (.inl (hread ha.symm).symm)
    · exact List.mem_cons_of_mem c (ih hrest hlater)

theorem digitIn?_lt {base d : Nat} {c : Char} (h : digitIn? base c = some d) : d < base := by
  unfold digitIn? at h
  simpa using (Option.filter_eq_some_iff.mp h).2

/-- A number that grows by a digit stays below the bound of one digit more. -/
theorem append_digit_lt {base value d k n : Nat} (hd : d < base)
    (hn : n < (value * base + d + 1) * base ^ k) : n < (value + 1) * base ^ (k + 1) := by
  calc n < (value * base + d + 1) * base ^ k := hn
    _ ≤ ((value + 1) * base) * base ^ k := by
      apply Nat.mul_le_mul_right
      rw [Nat.add_mul]
      omega
    _ = (value + 1) * base ^ (k + 1) := by rw [Nat.pow_succ, Nat.mul_assoc, Nat.mul_comm base]

theorem readDigitsAfter_lt {base value n : Nat} {cs : List Char}
    (h : readDigitsAfter base value cs = some n) : n < (value + 1) * base ^ cs.length := by
  fun_induction readDigitsAfter base value cs with
  | case1 value => simp_all
  | case2 value => cases h
  | case3 value c cs d hd ih =>
    have hn := append_digit_lt (digitIn?_lt hd) (ih h)
    calc n < (value + 1) * base ^ (cs.length + 1) := hn
      _ ≤ (value + 1) * base ^ (cs.length + 2) := by
        apply Nat.mul_le_mul_left
        exact Nat.pow_le_pow_right (Nat.zero_lt_of_lt (digitIn?_lt hd)) (Nat.le_succ _)
  | case4 => cases h
  | case5 value c cs _ _ d hd ih => exact append_digit_lt (digitIn?_lt hd) (ih h)
  | case6 => cases h

theorem readDigits_lt {base n : Nat} {cs : List Char} (h : readDigits base cs = some n) :
    n < base ^ cs.length := by
  cases cs with
  | nil => cases h
  | cons c cs =>
    obtain ⟨d, hd, hafter⟩ := Option.bind_eq_some_iff.mp h
    calc n < (d + 1) * base ^ cs.length := readDigitsAfter_lt hafter
      _ ≤ base * base ^ cs.length := Nat.mul_le_mul_right _ (digitIn?_lt hd)
      _ = base ^ (cs.length + 1) := by rw [Nat.pow_succ, Nat.mul_comm]

theorem splitSign_of_no_hyphen {cs : List Char} (h : '-' ∉ cs) :
    ∃ digits, splitSign cs = (false, digits) ∧ digits.length ≤ cs.length := by
  unfold splitSign
  split
  · exact absurd List.mem_cons_self h
  · exact ⟨_, rfl, by simp⟩
  · exact ⟨_, rfl, Nat.le_refl _⟩

theorem length_dropBaseMark_le (base : Nat) (cs : List Char) :
    (dropBaseMark base cs).length ≤ cs.length := by
  unfold dropBaseMark
  split
  · split
    · split <;> simp <;> omega
    · exact Nat.le_refl _
  · exact Nat.le_refl _

/-- Without a hyphen there is no minus sign, and every character adds at most one digit. -/
theorem readInteger_bounds {base : Nat} (hbase : 0 < base) {cs : List Char} {n : Int}
    (hhyphen : '-' ∉ cs) (h : readInteger base cs = some n) :
    ∃ m : Nat, n = .ofNat m ∧ m < base ^ cs.length := by
  unfold readInteger at h
  obtain ⟨ascii, hascii, h⟩ := Option.bind_eq_some_iff.mp h
  have hstripped : '-' ∉ stripChars isAsciiBlank ascii :=
    fun hmem => hhyphen (hyphen_of_toAscii? hascii (mem_of_mem_stripChars hmem))
  obtain ⟨digits, hdigits, hlength⟩ := splitSign_of_no_hyphen hstripped
  rw [hdigits] at h
  dsimp only at h
  split at h
  · cases h
  · obtain ⟨m, hm, h⟩ := Option.bind_eq_some_iff.mp h
    refine ⟨m, by simpa using h.symm, ?_⟩
    have hshort : (dropBaseMark base digits).length ≤ cs.length := by
      have hmark := length_dropBaseMark_le base digits
      have hblanks := length_stripChars_le isAsciiBlank ascii
      have htext := length_of_toAscii? hascii
      omega
    calc m < base ^ (dropBaseMark base digits).length := readDigits_lt hm
      _ ≤ base ^ cs.length := Nat.pow_le_pow_right hbase hshort

end Decimal

namespace Uuid

open Text

/-- A way of writing an identifier, said by how it departs from the canonical text. -/
structure Form where
  upper : Bool
  unhyphened : Bool
  braced : Bool
  prefixed : Bool
deriving DecidableEq, Repr

namespace Form

/-- The digits and hyphens of a form, with nothing around them yet. -/
def body (f : Form) (u : Uuid) : List Char :=
  let cs := if f.upper then u.chars.map Char.toUpper else u.chars
  if f.unhyphened then cs.filter (· ≠ '-') else cs

def chars (f : Form) (u : Uuid) : List Char :=
  let cs := if f.braced then '\x7b' :: (f.body u ++ ['\x7d']) else f.body u
  if f.prefixed then "urn:uuid:".toList ++ cs else cs

def text (f : Form) (u : Uuid) : String := String.ofList (f.chars u)

/-- The digit a form writes for a number below sixteen. -/
def digit (f : Form) (d : Nat) : Char :=
  if f.upper then (hexDigit d).toUpper else hexDigit d

theorem writesDigits (f : Form) : WritesDigits f.digit := by
  unfold digit
  cases f.upper
  · exact writesDigits_hexDigit
  · exact writesDigits_upper

/-- A character is a hyphen in upper case only if it was one before. -/
theorem filter_upper (cs : List Char) :
    (cs.map Char.toUpper).filter (· ≠ '-') = (cs.filter (· ≠ '-')).map Char.toUpper := by
  rw [List.filter_map]
  congr 1
  apply List.filter_congr
  intro c _
  simp [toUpper_eq_hyphen]

theorem filter_body (f : Form) (u : Uuid) :
    (f.body u).filter (· ≠ '-') = (nibbles 32 u.toNat).map f.digit := by
  have hlower : u.chars.filter (· ≠ '-') = (nibbles 32 u.toNat).map hexDigit := by
    rw [filter_chars, hexDigits_eq]
  have hupper : (u.chars.map Char.toUpper).filter (· ≠ '-') =
      (nibbles 32 u.toNat).map fun d => (hexDigit d).toUpper := by
    rw [filter_upper, hlower, List.map_map]
    rfl
  have hcase : (if f.upper then u.chars.map Char.toUpper else u.chars).filter (· ≠ '-') =
      (nibbles 32 u.toNat).map f.digit := by
    unfold digit
    cases f.upper
    · exact hlower
    · exact hupper
  unfold body
  cases f.unhyphened
  · exact hcase
  · rw [if_pos rfl, List.filter_filter, ← hcase]
    simp

theorem isBody_body (f : Form) (u : Uuid) : IsBody (f.body u) := by
  refine isBody_of_filter fun c hc => ?_
  rw [filter_body] at hc
  obtain ⟨d, hd, rfl⟩ := List.mem_map.mp hc
  exact f.writesDigits.plain d (nibbles_lt hd)

end Form

/-- The prefix goes with the removals, one block after the other. -/
theorem bare_prefixed (cs : List Char) (hcolon : ':' ∉ cs) :
    bare ("urn:uuid:".toList ++ cs) = bare cs := by
  have hurn : eraseAll "urn:".toList ("urn:uuid:".toList ++ cs) =
      "uuid:".toList ++ eraseAll "urn:".toList cs := by
    simp [eraseAll, eraseFrom, List.isPrefixOf]
  have huuid : eraseAll "uuid:".toList ("uuid:".toList ++ cs) = eraseAll "uuid:".toList cs := by
    simp [eraseAll, eraseFrom, List.isPrefixOf]
  unfold bare
  rw [hurn, eraseAll_of_not_mem (by decide) hcolon, huuid]

theorem bare_braced {cs : List Char} (hbody : IsBody cs) :
    bare ('\x7b' :: (cs ++ ['\x7d'])) = bare cs := by
  have hcolon : ':' ∉ '\x7b' :: (cs ++ ['\x7d']) := by
    simpa using hbody.not_mem (by decide)
  rw [hbody.bare_eq]
  unfold bare
  rw [eraseAll_of_not_mem (by decide) hcolon, eraseAll_of_not_mem (by decide) hcolon,
    stripChars_wrapped rfl rfl hbody.unbraced]

theorem Form.bare_chars (f : Form) (u : Uuid) :
    bare (f.chars u) = (nibbles 32 u.toNat).map f.digit := by
  have hbody := f.isBody_body u
  have hcolon : ':' ∉ f.body u := hbody.not_mem (by decide)
  have hbare : bare (f.body u) = (nibbles 32 u.toNat).map f.digit := by
    rw [hbody.bare_eq, f.filter_body]
  have hbraced := (bare_braced hbody).trans hbare
  unfold chars
  cases f.braced <;> cases f.prefixed
  · simpa using hbare
  · simpa using (bare_prefixed _ hcolon).trans hbare
  · simpa using hbraced
  · simpa using (bare_prefixed _ (by simpa using hcolon)).trans hbraced

/-- An identifier is read off each of its forms. -/
theorem Form.ofText?_text (f : Form) (u : Uuid) : ofText? (f.text u) = some u := by
  unfold ofText? text
  rw [String.toList_ofList]
  exact ofChars?_of_bare f.writesDigits (f.bare_chars u)

/-- Why a text names no identifier: what is left of it is not 32 characters long, or is no integer,
or is one that does not have 128 bits. -/
inductive Flaw where
  | length
  | numeral
  | range
deriving DecidableEq, Repr

/-- Reads an identifier, or says which flaw stops the reading. -/
def readChars (cs : List Char) : Except Flaw Uuid :=
  let digits := bare cs
  if digits.length = 32 then
    match readInteger 16 digits with
    | some (.ofNat n) => if h : n < Nat.pow 2 128 then .ok ⟨n, h⟩ else .error .range
    | some (.negSucc _) => .error .range
    | none => .error .numeral
  else .error .length

/-- Reads an identifier off any value: null and the empty text name nothing, and a flaw in the text
of another value is caught. -/
def readJson : Json → Except Flaw (Option Uuid)
  | .null => .ok none
  | .str "" => .ok none
  | v => tryCatch (some <$> readChars v.shown.toList) fun _ => .ok none

theorem ofChars?_eq (cs : List Char) : ofChars? cs = (readChars cs).toOption := by
  unfold ofChars? readChars
  dsimp only
  split
  · cases readInteger 16 (bare cs) with
    | none => rfl
    | some n =>
      cases n with
      | ofNat n =>
        dsimp only
        unfold ofNat?
        split <;> rfl
      | negSucc n => rfl
  · rfl

theorem readJson_eq (v : Json) : readJson v = .ok (ofJson? v) := by
  have hcaught : ∀ cs : List Char,
      tryCatch (some <$> readChars cs) (fun _ => .ok none) = Except.ok (ofChars? cs) := by
    intro cs
    rw [ofChars?_eq]
    cases readChars cs <;> rfl
  unfold readJson
  split
  · rfl
  · rfl
  · rw [hcaught]
    cases v <;> rfl

/-- The 32 characters that are read always have 128 bits: a hyphen is no longer among them, so
nothing negative is read, and each of them adds at most four bits. -/
theorem readChars_ne_range (cs : List Char) : readChars cs ≠ .error .range := by
  have hhyphen : '-' ∉ bare cs := by
    unfold bare
    simp
  intro hrange
  unfold readChars at hrange
  dsimp only at hrange
  split at hrange
  case isFalse => cases hrange
  case isTrue hlength =>
    cases hread : readInteger 16 (bare cs) with
    | none => simp [hread] at hrange
    | some n =>
      obtain ⟨m, rfl, hm⟩ := readInteger_bounds (by decide) hhyphen hread
      rw [hlength] at hm
      rw [hread] at hrange
      have hsmall : m < Nat.pow 2 128 := hm
      simp [dif_pos hsmall] at hrange

/-- An identifier in a form that no writer here produces: with the mark of the base, grouped by
underscores, in braces and with one hyphen too many. -/
def loose : String := "urn:\x7b0X_1_000000000000000000-00000000F\x7d"

/-- **An identifier survives being written and read.** Each form of an identifier, its canonical
text among them, is read as that identifier, an identifier read off any value is read off its own
text again, and no value is read with a fault: a text that is flawed counts as no identifier. -/
theorem written_ids_read_back :
    (∀ u : Uuid, ofJson? (.str u.text) = some u) ∧
    (∀ (f : Form) (u : Uuid), ofJson? (.str (f.text u)) = some u) ∧
    (∀ (v : Json) (u : Uuid), ofJson? v = some u → ofJson? (.str u.text) = some u) ∧
    ∀ v : Json, readJson v = .ok (ofJson? v) := by
  have htext : ∀ u : Uuid, ofJson? (.str u.text) = some u := fun u => u.ofText?_text
  refine ⟨htext, ?_, ?_, readJson_eq⟩
  · intro f u
    exact f.ofText?_text u
  · intro v u _
    exact htext u

theorem loose_read_back :
    ofJson? (.str loose) = some ⟨16 ^ 27 + 15, by decide⟩ ∧
      ofJson? (.str (text ⟨16 ^ 27 + 15, by decide⟩)) = some ⟨16 ^ 27 + 15, by decide⟩ := by
  have hread : ofJson? (.str loose) = some ⟨16 ^ 27 + 15, by decide⟩ := by decide +kernel
  exact ⟨hread, written_ids_read_back.2.2.1 _ _ hread⟩

end Uuid
end BoardRules
