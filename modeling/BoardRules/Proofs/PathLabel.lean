import Mathlib.Data.List.Basic
import Mathlib.Tactic.FinCases
import BoardRules.PathLabel

/-! What labels keep of paths. An identifier has no slash and no brace in it, so it lies within what
is copied, and a number ends where its segment does; what both passes do is given by a relation with
one constructor for each way to go on. Segments are labelled each by itself, and all identifiers
and all numbers alike. -/
namespace BoardRules

open BoardRules.Text

theorem Text.hexValue?_isSome_iff {c : Char} : (hexValue? c).isSome = true ↔
    c.isDigit = true ∨ ('a' ≤ c ∧ c ≤ 'f') ∨ ('A' ≤ c ∧ c ≤ 'F') := by
  unfold hexValue?
  split
  · simp_all
  · split
    · simp_all
    · split <;> simp_all

theorem Text.isWord_of_hex {c : Char} (h : (hexValue? c).isSome = true) : isWord c = true := by
  rw [hexValue?_isSome_iff] at h
  simp only [Char.isDigit, Char.le_def, UInt32.le_iff_toNat_le, Bool.and_eq_true,
    decide_eq_true_eq] at h
  have hrange : c.toNat < 0x80 ∧ c.isAlphanum = true := by
    unfold Char.isAlphanum Char.isAlpha Char.isUpper Char.isLower Char.isDigit
    simp only [UInt32.le_iff_toNat_le, Bool.or_eq_true, Bool.and_eq_true, decide_eq_true_eq]
    change ((48 ≤ c.toNat ∧ c.toNat ≤ 57) ∨ (97 ≤ c.toNat ∧ c.toNat ≤ 102) ∨
      (65 ≤ c.toNat ∧ c.toNat ≤ 70)) at h
    change c.toNat < 0x80 ∧ (((65 ≤ c.toNat ∧ c.toNat ≤ 90) ∨ (97 ≤ c.toNat ∧ c.toNat ≤ 122)) ∨
      (48 ≤ c.toNat ∧ c.toNat ≤ 57))
    omega
  unfold isWord
  rw [if_pos hrange.1, hrange.2, Bool.true_or]

theorem Text.isWord_of_isDecimalDigit {c : Char} (h : isDecimalDigit c = true) :
    isWord c = true := by
  have hcover : digitZeros.all (fun z => wordRanges.any fun r =>
      Nat.ble r.1 z && Nat.ble (z + 9) r.2) = true := by decide +kernel
  unfold isDecimalDigit digitValue? at h
  unfold isWord
  split at h
  · rename_i hascii
    rw [if_pos hascii, Char.isAlphanum]
    cases hdigit : c.isDigit with
    | true => rw [Bool.or_true, Bool.true_or]
    | false =>
      rw [hdigit, if_neg Bool.false_ne_true] at h
      cases h
  · rename_i hascii
    rw [if_neg hascii]
    rw [Option.isSome_map] at h
    obtain ⟨z, hz⟩ := Option.isSome_iff_exists.mp h
    have hc := List.find?_some hz
    obtain ⟨r, hr, hzr⟩ := List.any_eq_true.mp
      (List.all_eq_true.mp hcover z (List.mem_of_find?_eq_some hz))
    simp only [Bool.and_eq_true, decide_eq_true_eq, Nat.ble_eq] at hc hzr
    refine List.any_eq_true.mpr ⟨r, hr, ?_⟩
    simp only [Bool.and_eq_true, decide_eq_true_eq]
    omega
namespace PathLabel

/-- So many hexadecimal digits. -/
structure IsHex (n : Nat) (cs : List Char) : Prop where
  length : cs.length = n
  digits : ∀ c ∈ cs, (hexValue? c).isSome = true

/-- An identifier of version 1 to 5 in the usual groups, in either case. -/
inductive IsUuid : List Char → Prop where
  | grouped {low mid high clock node : List Char} {version variant : Char} (hlow : IsHex 8 low)
    (hmid : IsHex 4 mid) (hversion : version ∈ ['1', '2', '3', '4', '5']) (hhigh : IsHex 3 high)
    (hvariant : variant ∈ ['8', '9', 'a', 'b', 'A', 'B']) (hclock : IsHex 3 clock)
    (hnode : IsHex 12 node) :
    IsUuid (low ++ '-' :: (mid ++ '-' :: version :: (high ++ '-' :: variant ::
      (clock ++ '-' :: node))))

theorem fitsFrom_append (i : Nat) (x y : List Char) :
    fitsFrom i (x ++ y) = (fitsFrom i x && fitsFrom (i + x.length) y) := by
  induction x generalizing i with
  | nil => simp [fitsFrom]
  | cons c x ih =>
    simp only [List.cons_append, fitsFrom, ih, List.length_cons, Bool.and_assoc]
    rw [Nat.add_right_comm, Nat.add_assoc i]

/-- Away from the hyphens, the version and the variant, digits fit. -/
theorem fitsFrom_iff_hex {i : Nat} {cs : List Char}
    (hplain : ∀ j ∈ [8, 13, 14, 18, 19, 23], j < i ∨ i + cs.length ≤ j) :
    fitsFrom i cs = true ↔ ∀ c ∈ cs, (hexValue? c).isSome = true := by
  induction cs generalizing i with
  | nil => simp [fitsFrom]
  | cons c cs ih =>
    have hhere : fitsUuid i c = (hexValue? c).isSome := by
      simp only [List.forall_mem_cons, List.length_cons] at hplain
      unfold fitsUuid
      rw [if_neg (by omega), if_neg (by omega), if_neg (by omega)]
    rw [fitsFrom, Bool.and_eq_true, hhere, ih fun j hj => ?_, List.forall_mem_cons]
    have := hplain j hj
    rw [List.length_cons] at this
    omega

/-- So many characters that fit from a position on. -/
def Fits (i n : Nat) (cs : List Char) : Prop := cs.length = n ∧ fitsFrom i cs = true

theorem fits_digits {i k n : Nat} {cs : List Char}
    (hplain : ∀ j ∈ [8, 13, 14, 18, 19, 23], j < i ∨ i + k ≤ j) :
    Fits i (k + n) cs ↔ ∃ x y, cs = x ++ y ∧ IsHex k x ∧ Fits (i + k) n y := by
  unfold Fits
  constructor
  · rintro ⟨hlength, hfits⟩
    have hk : (cs.take k).length = k := List.length_take_of_le (by omega)
    rw [← List.take_append_drop k cs, fitsFrom_append, Bool.and_eq_true, hk,
      fitsFrom_iff_hex (by rwa [hk])] at hfits
    exact ⟨cs.take k, cs.drop k, (List.take_append_drop k cs).symm, ⟨hk, hfits.1⟩,
      by rw [List.length_drop]; omega, hfits.2⟩
  · rintro ⟨x, y, rfl, ⟨rfl, hx⟩, rfl, hy⟩
    rw [fitsFrom_append, Bool.and_eq_true, fitsFrom_iff_hex hplain]
    exact ⟨List.length_append, hx, hy⟩

theorem fits_mark {i n : Nat} {cs : List Char} :
    Fits i (n + 1) cs ↔ ∃ c y, cs = c :: y ∧ fitsUuid i c = true ∧ Fits (i + 1) n y := by
  unfold Fits
  cases cs with
  | nil => simp
  | cons c cs => simp [fitsFrom, and_left_comm]

theorem fits_done {i : Nat} {cs : List Char} : Fits i 0 cs ↔ cs = [] := by
  unfold Fits
  cases cs <;> simp [fitsFrom]

theorem fitsUuid_version {c : Char} :
    fitsUuid 14 c = true ↔ c ∈ ['1', '2', '3', '4', '5'] := by
  have hrange : fitsUuid 14 c = ('1' ≤ c && c ≤ '5') := rfl
  rw [hrange]
  simp only [Char.le_def, UInt32.le_iff_toNat_le, Bool.and_eq_true, decide_eq_true_eq,
    List.mem_cons, List.not_mem_nil, or_false, Char.ext_iff, ← UInt32.toNat_inj]
  change (49 ≤ c.val.toNat ∧ c.val.toNat ≤ 53) ↔ (c.val.toNat = 49 ∨ c.val.toNat = 50 ∨
    c.val.toNat = 51 ∨ c.val.toNat = 52 ∨ c.val.toNat = 53)
  omega

theorem fitsUuid_variant {c : Char} :
    fitsUuid 19 c = true ↔ c ∈ ['8', '9', 'a', 'b', 'A', 'B'] := by
  simp [fitsUuid, or_assoc]

/-- The characters that fit are exactly those of the grouped identifiers. -/
theorem isUuid_iff {u : List Char} : Fits 0 uuidLength u ↔ IsUuid u := by
  have hhyphen : ∀ {i c}, i ∈ [8, 13, 18, 23] → (fitsUuid i c = true ↔ c = '-') := by
    intro i c hi
    fin_cases hi <;> exact beq_iff_eq
  constructor
  · intro h
    obtain ⟨low, x, rfl, hlow, hx⟩ := (@fits_digits 0 8 28 _ (by decide)).mp h
    obtain ⟨d₁, x₁, rfl, hd₁, hx₁⟩ := fits_mark.mp hx
    obtain ⟨mid, y, rfl, hmid, hy⟩ := (@fits_digits 9 4 23 _ (by decide)).mp hx₁
    obtain ⟨d₂, y₁, rfl, hd₂, hy₁⟩ := fits_mark.mp hy
    obtain ⟨version, y₂, rfl, hversion, hy₂⟩ := fits_mark.mp hy₁
    obtain ⟨high, z, rfl, hhigh, hz⟩ := (@fits_digits 15 3 18 _ (by decide)).mp hy₂
    obtain ⟨d₃, z₁, rfl, hd₃, hz₁⟩ := fits_mark.mp hz
    obtain ⟨variant, z₂, rfl, hvariant, hz₂⟩ := fits_mark.mp hz₁
    obtain ⟨clock, w, rfl, hclock, hw⟩ := (@fits_digits 20 3 13 _ (by decide)).mp hz₂
    obtain ⟨d₄, w₁, rfl, hd₄, hw₁⟩ := fits_mark.mp hw
    obtain ⟨node, w₂, rfl, hnode, hw₂⟩ := (@fits_digits 24 12 0 _ (by decide)).mp hw₁
    obtain rfl := fits_done.mp hw₂
    rw [List.append_nil, (hhyphen (by decide)).mp hd₁, (hhyphen (by decide)).mp hd₂,
      (hhyphen (by decide)).mp hd₃, (hhyphen (by decide)).mp hd₄]
    exact .grouped hlow hmid (fitsUuid_version.mp hversion) hhigh (fitsUuid_variant.mp hvariant)
      hclock hnode
  · rintro ⟨hlow, hmid, hversion, hhigh, hvariant, hclock, hnode⟩
    have hfifth := (@fits_digits 24 12 0 _ (by decide)).mpr
      ⟨_, [], (List.append_nil _).symm, hnode, fits_done.mpr rfl⟩
    have hfourth := (@fits_digits 20 3 13 _ (by decide)).mpr
      ⟨_, _, rfl, hclock, fits_mark.mpr ⟨'-', _, rfl, rfl, hfifth⟩⟩
    have hthird := (@fits_digits 15 3 18 _ (by decide)).mpr ⟨_, _, rfl, hhigh,
      fits_mark.mpr ⟨'-', _, rfl, rfl, fits_mark.mpr
        ⟨_, _, rfl, fitsUuid_variant.mpr hvariant, hfourth⟩⟩⟩
    have hsecond := (@fits_digits 9 4 23 _ (by decide)).mpr ⟨_, _, rfl, hmid,
      fits_mark.mpr ⟨'-', _, rfl, rfl, fits_mark.mpr
        ⟨_, _, rfl, fitsUuid_version.mpr hversion, hthird⟩⟩⟩
    exact (@fits_digits 0 8 28 _ (by decide)).mpr
      ⟨_, _, rfl, hlow, fits_mark.mpr ⟨'-', _, rfl, rfl, hsecond⟩⟩

namespace IsUuid

variable {u : List Char}

theorem length (hu : IsUuid u) : u.length = uuidLength := (isUuid_iff.mpr hu).1

/-- It begins and ends with a character of a word. -/
theorem isWord? (hu : IsUuid u) : isWord? u.head? = true ∧ isWord? u.getLast? = true := by
  obtain ⟨hlow, -, -, -, -, -, hnode⟩ := hu
  simp only [List.head?_append, List.getLast?_append, List.getLast?_cons,
    List.head?_eq_some_head (List.ne_nil_of_length_eq_add_one hlow.length),
    List.getLast?_eq_some_getLast (List.ne_nil_of_length_eq_add_one hnode.length)]
  exact ⟨isWord_of_hex (hlow.digits _ (List.head_mem _)),
    isWord_of_hex (hnode.digits _ (List.getLast_mem _))⟩

theorem mem (hu : IsUuid u) {c : Char} (hc : c ∈ u) : c = '-' ∨ (hexValue? c).isSome = true := by
  obtain ⟨hlow, hmid, hversion, hhigh, hvariant, hclock, hnode⟩ := hu
  have hdigit : ∀ d ∈ ['1', '2', '3', '4', '5', '8', '9', 'a', 'b', 'A', 'B'],
      (hexValue? d).isSome = true := List.all_eq_true.mp (by decide)
  simp only [List.mem_append, List.mem_cons] at hc
  rcases hc with hc | hc | hc | hc | hc | hc | hc | hc | hc | hc | hc
  · exact .inr (hlow.digits c hc)
  · exact .inl hc
  · exact .inr (hmid.digits c hc)
  · exact .inl hc
  · exact .inr (hc ▸ hdigit _ (List.mem_append_left ['8', '9', 'a', 'b', 'A', 'B'] hversion))
  · exact .inr (hhigh.digits c hc)
  · exact .inl hc
  · exact .inr (hc ▸ hdigit _ (List.mem_append_right ['1', '2', '3', '4', '5'] hvariant))
  · exact .inr (hclock.digits c hc)
  · exact .inl hc
  · exact .inr (hnode.digits c hc)

theorem hyphen_mem (hu : IsUuid u) : '-' ∈ u := by
  cases hu with
  | @grouped low => exact List.mem_append_right low List.mem_cons_self

theorem slash_not_mem (hu : IsUuid u) : '/' ∉ u := fun h => by
  rcases hu.mem h with h | h <;> revert h <;> decide

theorem brace_not_mem (hu : IsUuid u) : '\x7b' ∉ u := fun h => by
  rcases hu.mem h with h | h <;> revert h <;> decide

end IsUuid

/-- Where an identifier starts: it is one of the usual form that no word goes into. -/
theorem startsWithUuid_iff {before : Option Char} {cs : List Char} :
    startsWithUuid before cs = true ↔ ∃ u rest, cs = u ++ rest ∧ IsUuid u ∧
      isWord? before = false ∧ isWord? rest.head? = false := by
  unfold startsWithUuid
  simp only [Bool.and_eq_true, beq_iff_eq, Bool.not_eq_true']
  constructor
  · rintro ⟨⟨⟨hlength, hfits⟩, hbefore⟩, hrest⟩
    exact ⟨_, _, (List.take_append_drop uuidLength cs).symm, isUuid_iff.mp ⟨hlength, hfits⟩,
      hbefore, hrest⟩
  · rintro ⟨u, rest, rfl, hu, hbefore, hrest⟩
    rw [List.take_left' hu.length, List.drop_left' hu.length]
    exact ⟨⟨isUuid_iff.mpr hu, hbefore⟩, hrest⟩

/-- A character that no identifier begins with. -/
theorem startsWithUuid_cons_eq_false {before : Option Char} {c : Char} {cs : List Char}
    (hc : isWord? before = true ∨ isWord c = false) : startsWithUuid before (c :: cs) = false := by
  rw [← Bool.not_eq_true, startsWithUuid_iff]
  rintro ⟨u, rest, hsplit, hu, hbefore, -⟩
  rcases hc with hc | hc
  · rw [hc] at hbefore
    cases hbefore
  · have hfirst := hu.isWord?.1
    cases u with
    | nil => cases hfirst
    | cons d u =>
      obtain ⟨rfl, -⟩ := List.cons.inj hsplit
      exact Bool.false_ne_true (hc ▸ hfirst)

/-- What the first pass makes of a text, given the character before it. -/
inductive UuidsLabelled : Option Char → List Char → List Char → Prop where
  | done (before : Option Char) : UuidsLabelled before [] []
  | kept {before : Option Char} {c : Char} {cs out : List Char}
    (hc : startsWithUuid before (c :: cs) = false) (hcs : UuidsLabelled (some c) cs out) :
    UuidsLabelled before (c :: cs) (c :: out)
  | replaced {before : Option Char} {u rest out : List Char} (hu : IsUuid u)
    (hbefore : isWord? before = false) (hafter : isWord? rest.head? = false)
    (hrest : UuidsLabelled u.getLast? rest out) :
    UuidsLabelled before (u ++ rest) (placeholder ++ out)

theorem getLast?_cons_or (c : Char) (x : List Char) (before : Option Char) :
    (c :: x).getLast?.or before = x.getLast?.or (some c) := by
  rw [List.getLast?_cons]
  cases x.getLast? <;> rfl

theorem labelUuids_append {n : Nat} {before : Option Char} {x y : List Char} (hx : x.length = n) :
    labelUuids n before (x ++ y) = labelUuids 0 (x.getLast?.or before) y := by
  induction x generalizing n before with
  | nil =>
    obtain rfl := hx
    rfl
  | cons c x ih =>
    obtain rfl := hx
    rw [List.cons_append, List.length_cons, labelUuids, ih rfl, getLast?_cons_or]

theorem labelUuids_uuid {before : Option Char} {u rest : List Char} (hu : IsUuid u)
    (hbefore : isWord? before = false) (hafter : isWord? rest.head? = false) :
    labelUuids 0 before (u ++ rest) = placeholder ++ labelUuids 0 u.getLast? rest := by
  have hstart : startsWithUuid before (u ++ rest) = true :=
    startsWithUuid_iff.mpr ⟨u, rest, rfl, hu, hbefore, hafter⟩
  have hlength := hu.length
  cases u with
  | nil => cases hlength
  | cons c u =>
    rw [List.cons_append] at hstart ⊢
    have hrest : u.length = uuidLength - 1 := Nat.succ_inj.mp hlength
    rw [labelUuids, if_pos hstart, labelUuids_append hrest, List.getLast?_cons]
    cases u.getLast? <;> rfl

theorem uuidsLabelled_iff {before : Option Char} {cs out : List Char} :
    UuidsLabelled before cs out ↔ labelUuids 0 before cs = out := by
  constructor
  · intro h
    induction h with
    | done => rfl
    | kept hc _ ih => rw [labelUuids, hc, if_neg Bool.false_ne_true, ih]
    | replaced hu hbefore hafter _ ih => rw [labelUuids_uuid hu hbefore hafter, ih]
  · rintro rfl
    induction hn : cs.length using Nat.strongRecOn generalizing before cs with
    | ind n ih =>
      cases cs with
      | nil => exact .done before
      | cons c cs =>
        cases hc : startsWithUuid before (c :: cs) with
        | false =>
          rw [labelUuids, hc, if_neg Bool.false_ne_true]
          exact .kept hc (ih _ (by rw [← hn, List.length_cons]; omega) rfl)
        | true =>
          obtain ⟨u, rest, hsplit, hu, hbefore, hafter⟩ := startsWithUuid_iff.mp hc
          have hlength := congrArg List.length hsplit
          rw [List.length_append, hu.length, hn] at hlength
          rw [hsplit, labelUuids_uuid hu hbefore hafter]
          exact .replaced hu hbefore hafter
            (ih rest.length (by rw [hlength, uuidLength]; omega) rfl)

/-- An identifier that no word goes into stands somewhere in a text. -/
def HoldsUuid (before : Option Char) (cs : List Char) : Prop :=
  ∃ x y, cs = x ++ y ∧ startsWithUuid (x.getLast?.or before) y = true

section Remaining

variable {before : Option Char} {c : Char} {cs out x y : List Char}

theorem not_holdsUuid_nil : ¬HoldsUuid before [] := by
  rintro ⟨x, y, hsplit, hstart⟩
  obtain ⟨rfl, rfl⟩ := List.append_eq_nil_iff.mp hsplit.symm
  cases hstart

theorem holdsUuid_cons : HoldsUuid before (c :: cs) ↔
    startsWithUuid before (c :: cs) = true ∨ HoldsUuid (some c) cs := by
  constructor
  · rintro ⟨x, y, hsplit, hstart⟩
    cases x with
    | nil => exact .inl (hsplit ▸ hstart)
    | cons d x =>
      obtain ⟨rfl, rfl⟩ := List.cons.inj hsplit
      exact .inr ⟨x, y, rfl, by rwa [getLast?_cons_or] at hstart⟩
  · rintro (hstart | ⟨x, y, rfl, hstart⟩)
    · exact ⟨[], c :: cs, rfl, hstart⟩
    · exact ⟨c :: x, y, rfl, by rwa [getLast?_cons_or]⟩

theorem HoldsUuid.append (h : HoldsUuid (x.getLast?.or before) y) : HoldsUuid before (x ++ y) := by
  obtain ⟨z, w, rfl, hstart⟩ := h
  refine ⟨x ++ z, w, (List.append_assoc x z w).symm, ?_⟩
  rwa [List.getLast?_append, Option.or_assoc]

theorem HoldsUuid.hyphen_mem (h : HoldsUuid before cs) : '-' ∈ cs := by
  obtain ⟨x, y, rfl, hstart⟩ := h
  obtain ⟨u, rest, rfl, hu, -⟩ := startsWithUuid_iff.mp hstart
  exact List.mem_append_right x (List.mem_append_left rest hu.hyphen_mem)

/-- What comes before matters to an identifier right at the start only. -/
theorem HoldsUuid.of_head (hcs : isWord? cs.head? = false) (h : HoldsUuid before cs)
    (other : Option Char) : HoldsUuid other cs := by
  cases cs with
  | nil => exact absurd h not_holdsUuid_nil
  | cons c cs =>
    rw [holdsUuid_cons, startsWithUuid_cons_eq_false (.inr hcs)] at h
    exact holdsUuid_cons.mpr (.inr (h.resolve_left Bool.false_ne_true))

theorem HoldsUuid.of_placeholder (h : HoldsUuid before (placeholder ++ cs))
    (hcs : isWord? cs.head? = false) (other : Option Char) : HoldsUuid other cs := by
  have hbrace : ∀ b x, startsWithUuid b ('\x7b' :: x) = false := fun b x =>
    startsWithUuid_cons_eq_false (.inr rfl)
  have hi : ∀ b x, startsWithUuid b ('i' :: x) = false := fun b x => by
    rw [← Bool.not_eq_true, startsWithUuid_iff]
    rintro ⟨u, rest, hsplit, hu, -, -⟩
    cases u with
    | nil => cases hu.length
    | cons d u =>
      obtain ⟨rfl, -⟩ := List.cons.inj hsplit
      rcases hu.mem List.mem_cons_self with h | h <;> revert h <;> decide
  have hd : ∀ x, startsWithUuid (some 'i') ('d' :: x) = false := fun x =>
    startsWithUuid_cons_eq_false (.inl rfl)
  have hend : ∀ b x, startsWithUuid b ('\x7d' :: x) = false := fun b x =>
    startsWithUuid_cons_eq_false (.inr rfl)
  change HoldsUuid before ('\x7b' :: 'i' :: 'd' :: '\x7d' :: cs) at h
  simp only [holdsUuid_cons, hbrace, hi, hd, hend, Bool.false_eq_true, false_or] at h
  exact h.of_head hcs other

theorem UuidsLabelled.not_word (h : UuidsLabelled before cs out)
    (hcs : isWord? cs.head? = false) : isWord? out.head? = false := by
  cases h with
  | done => rfl
  | kept => exact hcs
  | replaced => rfl

/-- What holds no brace in a labelled text is copied. -/
theorem UuidsLabelled.copied (h : UuidsLabelled before cs (x ++ y)) (hx : '\x7b' ∉ x) :
    ∃ z, cs = x ++ z ∧ UuidsLabelled (x.getLast?.or before) z y := by
  induction x generalizing before cs with
  | nil => exact ⟨cs, rfl, h⟩
  | cons c x ih =>
    generalize hout : (c :: x) ++ y = out at h
    cases h with
    | done => cases hout
    | kept hc hcs =>
      obtain ⟨rfl, rfl⟩ := List.cons.inj hout
      obtain ⟨z, rfl, hz⟩ := ih hcs fun h => hx (List.mem_cons_of_mem c h)
      exact ⟨z, rfl, by rwa [getLast?_cons_or]⟩
    | replaced =>
      exact absurd (List.cons.inj hout).1 fun h => hx (h ▸ List.mem_cons_self)

/-- No identifier is left by the first pass. -/
theorem UuidsLabelled.not_holdsUuid (h : UuidsLabelled before cs out) : ¬HoldsUuid before out := by
  induction h with
  | done => exact not_holdsUuid_nil
  | @kept before c cs out hc hcs ih =>
    rw [holdsUuid_cons]
    rintro (hstart | hlater)
    · obtain ⟨u, rest, hsplit, hu, hbefore, hafter⟩ := startsWithUuid_iff.mp hstart
      have hlabelled := UuidsLabelled.kept hc hcs
      rw [hsplit] at hlabelled
      -- an identifier of the output was copied, and what follows it cannot have been a word
      obtain ⟨z, hz, hrest⟩ := hlabelled.copied hu.brace_not_mem
      have hlast : isWord? (u.getLast?.or before) = true := by
        have hword := hu.isWord?.2
        cases hu' : u.getLast? with
        | none => rw [hu'] at hword; cases hword
        | some d => rw [hu'] at hword; exact hword
      have hz' : isWord? z.head? = false := by
        cases hrest with
        | done => rfl
        | kept => exact hafter
        | replaced _ hword => exact absurd hlast (by rw [hword]; exact Bool.false_ne_true)
      rw [hz, startsWithUuid_iff.mpr ⟨u, z, rfl, hu, hbefore, hz'⟩] at hc
      cases hc
    · exact ih hlater
  | replaced hu hbefore hafter hrest ih =>
    exact fun h => ih (h.of_placeholder (hrest.not_word hafter) _)

theorem labelUuids_of_not_holdsUuid (h : ¬HoldsUuid before cs) : labelUuids 0 before cs = cs := by
  induction cs generalizing before with
  | nil => rfl
  | cons c cs ih =>
    rw [holdsUuid_cons, not_or] at h
    rw [labelUuids, if_neg h.1, ih h.2]

/-- Decimal digits of any script and nothing else. -/
structure IsNumber (cs : List Char) : Prop where
  ne_nil : cs ≠ []
  digits : ∀ c ∈ cs, isDecimalDigit c = true

theorem IsNumber.slash_not_mem (hx : IsNumber x) : '/' ∉ x := fun h =>
  Bool.false_ne_true (hx.digits _ h)

theorem numberLength_append (hx : ∀ c ∈ x, isDecimalDigit c = true)
    (hy : isWord? y.head? = false) : numberLength (x ++ y) = x.length := by
  have hstop : y.takeWhile isDecimalDigit = [] ∧ y.dropWhile isDecimalDigit = y := by
    cases y with
    | nil => exact ⟨rfl, rfl⟩
    | cons c y =>
      have hc : ¬isDecimalDigit c = true := fun hc => Bool.false_ne_true
        (hy ▸ isWord_of_isDecimalDigit hc)
      exact ⟨List.takeWhile_cons_of_neg hc, List.dropWhile_cons_of_neg hc⟩
  unfold numberLength
  rw [List.takeWhile_append_of_pos hx, List.dropWhile_append_of_pos hx, hstop.1, hstop.2, hy,
    if_neg Bool.false_ne_true, List.append_nil]

/-- Where a number starts: it has a digit, and no word goes on after its digits. -/
theorem numberLength_ne_zero_iff : numberLength cs ≠ 0 ↔ ∃ digits rest, cs = digits ++ rest ∧
    IsNumber digits ∧ isWord? rest.head? = false := by
  constructor
  · intro h
    refine ⟨cs.takeWhile isDecimalDigit, cs.dropWhile isDecimalDigit,
      List.takeWhile_append_dropWhile.symm, ⟨?_, ?_⟩, ?_⟩
    · rintro hnil
      rw [numberLength, hnil] at h
      exact h (ite_self 0)
    · exact List.all_eq_true.mp List.all_takeWhile
    · rw [← Bool.not_eq_true]
      exact fun hword => h (if_pos hword)
  · rintro ⟨digits, rest, rfl, hdigits, hrest⟩
    rw [numberLength_append hdigits.digits hrest]
    exact fun h => hdigits.ne_nil (List.eq_nil_of_length_eq_zero h)

/-- What the second pass makes of a text. -/
inductive NumbersLabelled : List Char → List Char → Prop where
  | done : NumbersLabelled [] []
  | kept {c : Char} {cs out : List Char} (hc : ¬(c = '/' ∧ numberLength cs ≠ 0))
    (hcs : NumbersLabelled cs out) : NumbersLabelled (c :: cs) (c :: out)
  | replaced {digits rest out : List Char} (hdigits : IsNumber digits)
    (hafter : isWord? rest.head? = false) (hrest : NumbersLabelled rest out) :
    NumbersLabelled ('/' :: (digits ++ rest)) ('/' :: (placeholder ++ out))

theorem labelNumbers_append {n : Nat} (hx : x.length = n) :
    labelNumbers n (x ++ y) = labelNumbers 0 y := by
  induction x generalizing n with
  | nil =>
    obtain rfl := hx
    rfl
  | cons c x ih =>
    obtain rfl := hx
    rw [List.cons_append, List.length_cons, labelNumbers, ih rfl]

theorem labelNumbers_number {digits rest : List Char} (hdigits : IsNumber digits)
    (hafter : isWord? rest.head? = false) :
    labelNumbers 0 ('/' :: (digits ++ rest)) = '/' :: (placeholder ++ labelNumbers 0 rest) := by
  rw [labelNumbers, if_pos ⟨rfl, numberLength_ne_zero_iff.mpr ⟨_, _, rfl, hdigits, hafter⟩⟩,
    numberLength_append hdigits.digits hafter, labelNumbers_append rfl, List.cons_append]

theorem numbersLabelled_iff : NumbersLabelled cs out ↔ labelNumbers 0 cs = out := by
  constructor
  · intro h
    induction h with
    | done => rfl
    | kept hc _ ih => rw [labelNumbers, if_neg hc, ih]
    | replaced hdigits hafter _ ih => rw [labelNumbers_number hdigits hafter, ih]
  · rintro rfl
    induction hn : cs.length using Nat.strongRecOn generalizing cs with
    | ind n ih =>
      cases cs with
      | nil => exact .done
      | cons c cs =>
        by_cases hc : c = '/' ∧ numberLength cs ≠ 0
        · obtain ⟨rfl, hnumber⟩ := hc
          obtain ⟨digits, rest, rfl, hdigits, hafter⟩ := numberLength_ne_zero_iff.mp hnumber
          rw [labelNumbers_number hdigits hafter]
          rw [List.length_cons, List.length_append] at hn
          exact .replaced hdigits hafter (ih _ (by omega) rfl)
        · rw [labelNumbers, if_neg hc]
          exact .kept hc (ih _ (by rw [← hn, List.length_cons]; omega) rfl)

/-- A slash with a number after it stands somewhere in a text. -/
def HoldsNumber (cs : List Char) : Prop := ∃ x y, cs = x ++ '/' :: y ∧ numberLength y ≠ 0

theorem not_holdsNumber_nil : ¬HoldsNumber [] := by
  rintro ⟨x, y, hsplit, -⟩
  exact List.append_ne_nil_of_right_ne_nil x (List.cons_ne_nil _ _) hsplit.symm

theorem holdsNumber_cons :
    HoldsNumber (c :: cs) ↔ (c = '/' ∧ numberLength cs ≠ 0) ∨ HoldsNumber cs := by
  constructor
  · rintro ⟨x, y, hsplit, hnumber⟩
    cases x with
    | nil =>
      obtain ⟨rfl, rfl⟩ := List.cons.inj hsplit
      exact .inl ⟨rfl, hnumber⟩
    | cons d x => exact .inr ⟨x, y, (List.cons.inj hsplit).2, hnumber⟩
  · rintro (⟨rfl, hnumber⟩ | ⟨x, y, rfl, hnumber⟩)
    · exact ⟨[], cs, rfl, hnumber⟩
    · exact ⟨c :: x, y, rfl, hnumber⟩

theorem NumbersLabelled.head?_eq (h : NumbersLabelled cs out) : out.head? = cs.head? := by
  cases h <;> rfl

/-- What holds no slash in a labelled text is copied. -/
theorem NumbersLabelled.copied (h : NumbersLabelled cs (x ++ y)) (hx : '/' ∉ x) :
    ∃ z, cs = x ++ z ∧ NumbersLabelled z y := by
  induction x generalizing cs with
  | nil => exact ⟨cs, rfl, h⟩
  | cons c x ih =>
    generalize hout : (c :: x) ++ y = out at h
    cases h with
    | done => cases hout
    | kept hc hcs =>
      obtain ⟨rfl, rfl⟩ := List.cons.inj hout
      obtain ⟨z, rfl, hz⟩ := ih hcs fun h => hx (List.mem_cons_of_mem c h)
      exact ⟨z, rfl, hz⟩
    | replaced =>
      exact absurd (List.cons.inj hout).1 fun h => hx (h ▸ List.mem_cons_self)

/-- No number is left by the second pass. -/
theorem NumbersLabelled.not_holdsNumber (h : NumbersLabelled cs out) : ¬HoldsNumber out := by
  induction h with
  | done => exact not_holdsNumber_nil
  | @kept c cs out hc hcs ih =>
    rw [holdsNumber_cons]
    rintro (⟨rfl, hnumber⟩ | hlater)
    · obtain ⟨digits, rest, rfl, hdigits, hafter⟩ := numberLength_ne_zero_iff.mp hnumber
      obtain ⟨z, rfl, hz⟩ := hcs.copied hdigits.slash_not_mem
      rw [hz.head?_eq] at hafter
      exact hc ⟨rfl, numberLength_ne_zero_iff.mpr ⟨digits, z, rfl, hdigits, hafter⟩⟩
    · exact ih hlater
  | @replaced digits rest out hdigits hafter hrest ih =>
    have hnone : numberLength (placeholder ++ out) = 0 :=
      numberLength_append (x := []) (fun c hc => nomatch hc) rfl
    intro h
    change HoldsNumber ('/' :: '\x7b' :: 'i' :: 'd' :: '\x7d' :: out) at h
    simp only [holdsNumber_cons, Char.reduceEq, false_and, true_and, false_or] at h
    exact h.elim (fun h => h hnone) ih

/-- The second pass makes no identifiers. -/
theorem NumbersLabelled.holdsUuid (h : NumbersLabelled cs out) (hout : HoldsUuid before out) :
    HoldsUuid before cs := by
  induction h generalizing before with
  | done => exact hout
  | @kept c cs out hc hcs ih =>
    rw [holdsUuid_cons] at hout
    rcases hout with hstart | hlater
    · obtain ⟨u, rest, hsplit, hu, hbefore, hafter⟩ := startsWithUuid_iff.mp hstart
      have hlabelled := NumbersLabelled.kept hc hcs
      rw [hsplit] at hlabelled
      obtain ⟨z, hz, hrest⟩ := hlabelled.copied hu.slash_not_mem
      rw [hrest.head?_eq] at hafter
      exact ⟨[], c :: cs, rfl, startsWithUuid_iff.mpr ⟨u, z, hz, hu, hbefore, hafter⟩⟩
    · exact holdsUuid_cons.mpr (.inr (ih hlater))
  | @replaced digits rest out hdigits hafter hrest ih =>
    rw [holdsUuid_cons, startsWithUuid_cons_eq_false (.inr rfl)] at hout
    rw [← hrest.head?_eq] at hafter
    exact .append (x := '/' :: digits)
      (ih ((hout.resolve_left Bool.false_ne_true).of_placeholder hafter _))

theorem labelNumbers_of_not_holdsNumber (h : ¬HoldsNumber cs) : labelNumbers 0 cs = cs := by
  induction cs with
  | nil => rfl
  | cons c cs ih =>
    rw [holdsNumber_cons, not_or] at h
    rw [labelNumbers, if_neg h.1, ih h.2]

theorem split_slash (hx : '/' ∉ x) {a b : List Char} (h : a ++ '/' :: b = x ++ y) :
    ∃ w, a = x ++ w ∧ y = w ++ '/' :: b := by
  rcases List.append_eq_append_iff.mp h with ⟨w, rfl, hw⟩ | h
  · cases w with
    | nil => exact ⟨[], by rw [List.append_nil, List.append_nil], hw.symm⟩
    | cons d w =>
      obtain ⟨rfl, -⟩ := List.cons.inj hw
      exact absurd (List.mem_append_right a List.mem_cons_self) hx
  · exact h

theorem not_word_of_append_slash (h : isWord? (x ++ '/' :: y).head? = false) :
    isWord? x.head? = false := by
  cases x with
  | nil => rfl
  | cons => exact h

theorem not_word_append_slash (y : List Char) (h : isWord? x.head? = false) :
    isWord? (x ++ '/' :: y).head? = false := by
  cases x with
  | nil => rfl
  | cons => exact h

theorem labelUuids_slash (y : List Char) :
    labelUuids 0 before ('/' :: y) = '/' :: labelUuids 0 (some '/') y := by
  rw [labelUuids, startsWithUuid_cons_eq_false (.inr rfl), if_neg Bool.false_ne_true]

theorem UuidsLabelled.append_slash (h : UuidsLabelled before cs out) (y : List Char) :
    UuidsLabelled before (cs ++ '/' :: y) (out ++ '/' :: labelUuids 0 (some '/') y) := by
  induction h with
  | done before => exact uuidsLabelled_iff.mpr (labelUuids_slash y)
  | @kept before c cs out hc _ ih =>
    refine .kept ?_ ih
    rw [← Bool.not_eq_true, startsWithUuid_iff] at hc ⊢
    rintro ⟨u, rest, hsplit, hu, hbefore, hafter⟩
    obtain ⟨w, hcs, rfl⟩ := split_slash (a := c :: cs) hu.slash_not_mem hsplit
    exact hc ⟨u, w, hcs, hu, hbefore, not_word_of_append_slash hafter⟩
  | @replaced before u rest out hu hbefore hafter _ ih =>
    rw [List.append_assoc, List.append_assoc]
    exact .replaced hu hbefore (not_word_append_slash y hafter) ih

theorem NumbersLabelled.append_slash (h : NumbersLabelled cs out) (y : List Char) :
    NumbersLabelled (cs ++ '/' :: y) (out ++ labelNumbers 0 ('/' :: y)) := by
  induction h with
  | done => exact numbersLabelled_iff.mpr rfl
  | @kept c cs out hc _ ih =>
    refine .kept (fun h => hc ⟨h.1, ?_⟩) ih
    obtain ⟨digits, rest, hsplit, hdigits, hafter⟩ := numberLength_ne_zero_iff.mp h.2
    obtain ⟨w, rfl, rfl⟩ := split_slash hdigits.slash_not_mem hsplit
    exact numberLength_ne_zero_iff.mpr ⟨digits, w, rfl, hdigits, not_word_of_append_slash hafter⟩
  | @replaced digits rest out hdigits hafter _ ih =>
    have hparts := NumbersLabelled.replaced hdigits (not_word_append_slash y hafter) ih
    rwa [← List.append_assoc, ← List.append_assoc] at hparts

/-- What stands before a slash and what begins with it are labelled each by itself. -/
theorem ofChars_append_slash (x y : List Char) :
    ofChars (x ++ '/' :: y) = ofChars x ++ ofChars ('/' :: y) := by
  unfold ofChars
  rw [uuidsLabelled_iff.mp ((uuidsLabelled_iff.mpr rfl).append_slash y), labelUuids_slash,
    numbersLabelled_iff.mp ((numbersLabelled_iff.mpr rfl).append_slash _)]

theorem UuidsLabelled.count_slash (h : UuidsLabelled before cs out) :
    out.count '/' = cs.count '/' := by
  induction h with
  | done => rfl
  | kept _ _ ih => rw [List.count_cons, List.count_cons, ih]
  | replaced hu _ _ _ ih =>
    rw [List.count_append, List.count_append, ih, List.count_eq_zero_of_not_mem hu.slash_not_mem]
    rfl

theorem NumbersLabelled.count_slash (h : NumbersLabelled cs out) :
    out.count '/' = cs.count '/' := by
  induction h with
  | done => rfl
  | kept _ _ ih => rw [List.count_cons, List.count_cons, ih]
  | replaced hdigits _ _ ih =>
    rw [List.count_cons, List.count_cons, List.count_append, List.count_append, ih,
      List.count_eq_zero_of_not_mem hdigits.slash_not_mem]
    rfl

theorem count_slash_ofChars (cs : List Char) : (ofChars cs).count '/' = cs.count '/' :=
  (numbersLabelled_iff.mpr rfl).count_slash.trans
    (uuidsLabelled_iff.mpr (rfl : labelUuids 0 none cs = _)).count_slash

theorem not_holdsUuid_ofChars (cs : List Char) : ¬HoldsUuid none (ofChars cs) := fun h =>
  (uuidsLabelled_iff.mpr rfl).not_holdsUuid ((numbersLabelled_iff.mpr rfl).holdsUuid h)

theorem not_holdsNumber_ofChars (cs : List Char) : ¬HoldsNumber (ofChars cs) :=
  (numbersLabelled_iff.mpr rfl).not_holdsNumber

theorem ofChars_ofChars (cs : List Char) : ofChars (ofChars cs) = ofChars cs := by
  rw [ofChars, labelUuids_of_not_holdsUuid (not_holdsUuid_ofChars cs),
    labelNumbers_of_not_holdsNumber (not_holdsNumber_ofChars cs)]

end Remaining

/-- What a segment of a path is replaced for: a number, or an identifier. -/
inductive IsId (s : List Char) : Prop where
  | number (h : IsNumber s)
  | uuid (h : IsUuid s)

/-- Every segment that is an identifier gets one label. -/
theorem ofChars_slash_id {s : List Char} (hs : IsId s) :
    ofChars ('/' :: s) = '/' :: placeholder := by
  cases hs with
  | number h =>
    have hnone : ¬HoldsUuid none ('/' :: s) := fun hholds => by
      rcases List.mem_cons.mp hholds.hyphen_mem with hslash | hdigit
      · revert hslash
        decide
      · exact Bool.false_ne_true (h.digits _ hdigit)
    have hnumber : labelNumbers 0 ('/' :: (s ++ [])) = _ := labelNumbers_number h rfl
    rw [List.append_nil] at hnumber
    rw [ofChars, labelUuids_of_not_holdsUuid hnone, hnumber]
    rfl
  | uuid h =>
    have huuid : labelUuids 0 (some '/') (s ++ []) = _ := labelUuids_uuid h rfl rfl
    rw [List.append_nil] at huuid
    rw [ofChars, labelUuids_slash, huuid]
    rfl

/-- A path given by what stands before its first slash and by the segments after it. -/
def joined (first : List Char) (segments : List (List Char)) : List Char :=
  first ++ segments.flatMap ('/' :: ·)

theorem ofChars_joined (first : List Char) (segments : List (List Char)) :
    ofChars (joined first segments) =
      ofChars first ++ segments.flatMap fun s => ofChars ('/' :: s) := by
  unfold joined
  induction segments generalizing first with
  | nil => rw [List.flatMap_nil, List.flatMap_nil, List.append_nil, List.append_nil]
  | cons s segments ih =>
    rw [List.flatMap_cons, List.flatMap_cons, ← List.append_assoc, ih, ofChars_append_slash,
      List.append_assoc]

/-- Segments that differ only in which numbers and identifiers they are have one label. -/
theorem ofChars_joined_congr (first : List Char) {segments others : List (List Char)}
    (h : List.Forall₂ (fun s t => s = t ∨ IsId s ∧ IsId t) segments others) :
    ofChars (joined first others) = ofChars (joined first segments) := by
  rw [ofChars_joined, ofChars_joined]
  congr 1
  induction h with
  | nil => rfl
  | cons hst _ ih =>
    rw [List.flatMap_cons, List.flatMap_cons, ih]
    rcases hst with rfl | ⟨hs, ht⟩
    · rfl
    · rw [ofChars_slash_id hs, ofChars_slash_id ht]

/-- A segment after the first slash of a path, with what stands before and after it. -/
structure Segment (path before s after : List Char) : Prop where
  split : path = before ++ '/' :: (s ++ after)
  slash_not_mem : '/' ∉ s
  ends : after = [] ∨ ∃ rest, after = '/' :: rest

/-- Whether exactly one of two neighbours belongs to a word. -/
def IsBoundary (before after : Option Char) : Prop := isWord? before ≠ isWord? after

theorem Segment.holdsNumber {path before s after : List Char} (h : Segment path before s after)
    (hs : IsNumber s) : HoldsNumber path := by
  refine ⟨before, s ++ after, h.split, numberLength_ne_zero_iff.mpr ⟨s, after, rfl, hs, ?_⟩⟩
  rcases h.ends with rfl | ⟨rest, rfl⟩ <;> rfl

theorem holdsUuid_of_boundaries {path before u after : List Char}
    (hpath : path = before ++ (u ++ after)) (hu : IsUuid u)
    (hfirst : IsBoundary before.getLast? u.head?) (hlast : IsBoundary u.getLast? after.head?) :
    HoldsUuid none path := by
  unfold IsBoundary at hfirst hlast
  rw [hu.isWord?.1, ne_eq, Bool.not_eq_true] at hfirst
  rw [hu.isWord?.2, ne_comm, ne_eq, Bool.not_eq_true] at hlast
  rw [← Option.or_none (o := before.getLast?)] at hfirst
  exact ⟨before, u ++ after, hpath, startsWithUuid_iff.mpr ⟨u, after, rfl, hu, hfirst, hlast⟩⟩

theorem Segment.label_replaced {path before s t after : List Char}
    (h : Segment path before s after) (hs : IsId s) (ht : IsId t) :
    ofChars (before ++ '/' :: (t ++ after)) = ofChars path := by
  have hlabel : ∀ {x}, IsId x → ofChars (before ++ '/' :: (x ++ after)) =
      ofChars before ++ ('/' :: placeholder ++ ofChars after) := fun {x} hx => by
    rw [ofChars_append_slash, ← ofChars_slash_id hx]
    rcases h.ends with rfl | ⟨rest, rfl⟩
    · rw [List.append_nil, show ofChars [] = [] from rfl, List.append_nil]
    · rw [← List.cons_append, ofChars_append_slash]
  rw [h.split, hlabel hs, hlabel ht]

/-- In a label no number stands as a segment and no identifier between word boundaries; it has the
slashes of its path and is its own label. Which number or identifier a segment was does not show in
it, so that paths whose segments agree but for these have one label. -/
theorem ids_hidden (path : String) :
    (∀ before s after, Segment (ofPath path).toList before s after → ¬IsNumber s) ∧
    (∀ before u after, (ofPath path).toList = before ++ (u ++ after) → IsUuid u →
      ¬(IsBoundary before.getLast? u.head? ∧ IsBoundary u.getLast? after.head?)) ∧
    (ofPath path).toList.count '/' = path.toList.count '/' ∧
    ofPath (ofPath path) = ofPath path ∧
    (∀ before s t after, Segment path.toList before s after → IsId s → IsId t →
      ofPath (String.ofList (before ++ '/' :: (t ++ after))) = ofPath path) ∧
    ∀ first segments others, path.toList = joined first segments →
      List.Forall₂ (fun s t => s = t ∨ IsId s ∧ IsId t) segments others →
      ofPath (String.ofList (joined first others)) = ofPath path := by
  unfold ofPath
  simp only [String.toList_ofList]
  refine ⟨fun before s after hsegment hs => not_holdsNumber_ofChars _ (hsegment.holdsNumber hs),
    fun before u after hsplit hu hbounds => not_holdsUuid_ofChars _
      (holdsUuid_of_boundaries hsplit hu hbounds.1 hbounds.2),
    count_slash_ofChars _, congrArg String.ofList (ofChars_ofChars _),
    fun before s t after hsegment hs ht => congrArg String.ofList (hsegment.label_replaced hs ht),
    fun first segments others hpath hshape => congrArg String.ofList ?_⟩
  rw [hpath, ofChars_joined_congr first hshape]

theorem ids_hidden_card_field :
    ofPath "/cards/12/fields/0d9f3b0e-5c1f-4b6a-9c3d-2f1e4a5b6c7d" =
      "/cards/\x7bid\x7d/fields/\x7bid\x7d" ∧
    ofPath "/cards/7F9F3B0E-5C1F-1B6A-AC3D-2F1E4A5B6C7D/fields/٣" =
      ofPath "/cards/12/fields/0d9f3b0e-5c1f-4b6a-9c3d-2f1e4a5b6c7d" ∧
    ¬IsNumber "\x7bid\x7d".toList := by
  have hpath := ids_hidden "/cards/12/fields/0d9f3b0e-5c1f-4b6a-9c3d-2f1e4a5b6c7d"
  have hlabel : ofPath "/cards/12/fields/0d9f3b0e-5c1f-4b6a-9c3d-2f1e4a5b6c7d" =
      "/cards/\x7bid\x7d/fields/\x7bid\x7d" := by decide
  refine ⟨hlabel, ?_, ?_⟩
  · have hsame := hpath.2.2.2.2.2 [] ["cards".toList, "12".toList, "fields".toList,
      "0d9f3b0e-5c1f-4b6a-9c3d-2f1e4a5b6c7d".toList] ["cards".toList,
      "7F9F3B0E-5C1F-1B6A-AC3D-2F1E4A5B6C7D".toList, "fields".toList, "٣".toList] rfl
    exact hsame (.cons (.inl rfl) (.cons
      (.inr ⟨.number ⟨by decide, List.all_eq_true.mp (by decide)⟩,
        .uuid (isUuid_iff.mp ⟨by decide, by decide⟩)⟩)
      (.cons (.inl rfl) (.cons
        (.inr ⟨.uuid (isUuid_iff.mp ⟨by decide, by decide⟩),
          .number ⟨by decide, List.all_eq_true.mp (by decide)⟩⟩)
        .nil))))
  · rw [hlabel] at hpath
    exact hpath.1 "/cards".toList "\x7bid\x7d".toList "/fields/\x7bid\x7d".toList
      ⟨by decide, by decide, .inr ⟨_, rfl⟩⟩

end PathLabel
end BoardRules
