import Mathlib.Tactic.FinCases
import BoardRules.Proofs.Json.Number
import BoardRules.Proofs.Store.Fields
import BoardRules.Proofs.Uuid

/-! JSON text read back. A string is read as it was written, every unit of it on its own and a pair
of units as one character; a number ends where no digit, point or exponent goes on; and a value is
followed by what followed its text. So a text is the text of one value. -/
namespace BoardRules.Json

open Decimal BoardRules.Text

/-- A value without doubles in which the keys of every object differ. -/
inductive Exact : Json → Prop where
  | null : Exact .null
  | bool (b : Bool) : Exact (.bool b)
  | int (n : Int) : Exact (.int n)
  | str (s : String) : Exact (.str s)
  | arr {items : List Json} (hitems : ∀ v ∈ items, Exact v) : Exact (.arr items)
  | obj {entries : List (String × Json)} (hkeys : (entries.map Prod.fst).Nodup)
    (hentries : ∀ e ∈ entries, Exact e.2) : Exact (.obj entries)

/-- A value in which the keys of every object differ and every double is one. -/
inductive WellFormed : Json → Prop where
  | null : WellFormed .null
  | bool (b : Bool) : WellFormed (.bool b)
  | int (n : Int) : WellFormed (.int n)
  | float {x : Binary64} (hx : x.IsDouble) : WellFormed (.float x)
  | str (s : String) : WellFormed (.str s)
  | arr {items : List Json} (hitems : ∀ v ∈ items, WellFormed v) : WellFormed (.arr items)
  | obj {entries : List (String × Json)} (hkeys : (entries.map Prod.fst).Nodup)
    (hentries : ∀ e ∈ entries, WellFormed e.2) : WellFormed (.obj entries)

theorem Exact.wellFormed {v : Json} (hv : Exact v) : WellFormed v := by
  induction hv with
  | null => exact .null
  | bool b => exact .bool b
  | int n => exact .int n
  | str s => exact .str s
  | arr _ ih => exact .arr ih
  | obj hkeys _ ih => exact .obj hkeys ih

section Strings

/-- The units that a character is written in: itself, or a pair beyond the first 65536. -/
def units (c : Char) : List Nat :=
  if c.toNat < 0x10000 then [c.toNat]
  else [0xd800 + (c.toNat - 0x10000) / 0x400, 0xdc00 + (c.toNat - 0x10000) % 0x400]

/-- What reading goes on with after units that have been read. -/
def after (ns : List Nat) (r : Parsed (List Nat)) : Parsed (List Nat) :=
  r.map fun (ms, rest) => (ns ++ ms, rest)

theorem toNat_valid (c : Char) : c.toNat < 0xd800 ∨ 0xdfff < c.toNat ∧ c.toNat < 0x110000 :=
  c.valid

theorem units_lt {c : Char} {n : Nat} (hn : n ∈ units c) : n < 0x10000 := by
  have hvalid := toNat_valid c
  unfold units at hn
  split at hn
  · rwa [List.mem_singleton.mp hn]
  · simp only [List.mem_cons, List.not_mem_nil, or_false] at hn
    omega

/-- The ways to write a character: after the mark of an escape, as it is, or as its units. -/
theorem escapeChar_cases (c : Char) :
    (∃ e, escapeChar c = ['\\', e] ∧ shortEscape? e = some c) ∨
    (escapeChar c = [c] ∧ c ≠ '"' ∧ c ≠ '\\' ∧ 0x20 ≤ c.toNat ∧ c.toNat ≤ 0x7e) ∨
    escapeChar c = (units c).flatMap escapeUnit := by
  unfold escapeChar units
  split
  · next h => exact .inl ⟨_, rfl, by rw [h]; rfl⟩
  split
  · next h => exact .inl ⟨_, rfl, by rw [h]; rfl⟩
  split
  · next h => exact .inl ⟨_, rfl, by rw [h]; rfl⟩
  split
  · next h => exact .inl ⟨_, rfl, by rw [h]; rfl⟩
  split
  · next h => exact .inl ⟨_, rfl, by rw [h]; rfl⟩
  split
  · next h => exact .inl ⟨_, rfl, by rw [h]; rfl⟩
  split
  · next h => exact .inl ⟨_, rfl, by rw [h]; rfl⟩
  split
  · next hquote hmark _ _ _ _ _ h => exact .inr (.inl ⟨rfl, hquote, hmark, h⟩)
  split
  · exact .inr (.inr (List.append_nil _).symm)
  · exact .inr (.inr (by simp only [List.flatMap_cons, List.flatMap_nil, List.append_nil]))

theorem readUnits_escapeUnit {n : Nat} (hn : n < 0x10000) (cs : List Char) :
    readUnits (escapeUnit n ++ cs) = after [n] (readUnits cs) := by
  have hdigits : hexDigits 4 n = [hexDigit (n / 4096 % 16), hexDigit (n / 256 % 16),
      hexDigit (n / 16 % 16), hexDigit (n % 16)] := by
    simp [hexDigits, Nat.div_div_eq_div_mul]
  have hunit : unit? (hexDigit (n / 4096 % 16)) (hexDigit (n / 256 % 16))
      (hexDigit (n / 16 % 16)) (hexDigit (n % 16)) = some n := by
    have hvalue : ∀ m, hexValue? (hexDigit (m % 16)) = some (m % 16) := fun m =>
      hexValue?_hexDigit (Nat.mod_lt m (by decide))
    simp only [unit?, hvalue, Option.bind_eq_bind, Option.bind_some, Option.pure_def]
    congr 1
    omega
  unfold escapeUnit
  rw [hdigits]
  change readUnits ('\\' :: 'u' :: hexDigit _ :: hexDigit _ :: hexDigit _ :: hexDigit _ :: cs) = _
  rw [readUnits, hunit]
  rfl

theorem readUnits_escapeUnits {ns : List Nat} (hns : ∀ n ∈ ns, n < 0x10000) (cs : List Char) :
    readUnits (ns.flatMap escapeUnit ++ cs) = after ns (readUnits cs) := by
  induction ns with
  | nil =>
    rw [List.flatMap_nil, List.nil_append]
    cases readUnits cs <;> rfl
  | cons n ns ih =>
    rw [List.forall_mem_cons] at hns
    rw [List.flatMap_cons, List.append_assoc, readUnits_escapeUnit hns.1, ih hns.2]
    cases readUnits cs <;> rfl

theorem shortEscape?_units {e c : Char} (h : shortEscape? e = some c) :
    e ≠ 'u' ∧ units c = [c.toNat] := by
  unfold shortEscape? at h
  split at h <;> cases h <;> exact ⟨by decide, rfl⟩

/-- Each character is read as its units. -/
theorem readUnits_escapeChar (c : Char) (cs : List Char) :
    readUnits (escapeChar c ++ cs) = after (units c) (readUnits cs) := by
  rcases escapeChar_cases c with ⟨e, hc, he⟩ | ⟨hc, hquote, hmark, hrange⟩ | hc
  · obtain ⟨hu, hunits⟩ := shortEscape?_units he
    rw [hc, hunits, List.cons_append, List.singleton_append, readUnits, he]
    · rfl
    · rintro a b d f r rfl
      exact absurd rfl hu
  · rw [hc, units, if_pos (by omega), List.singleton_append, readUnits, if_neg (by omega)]
    · rfl
    · exact hquote
    · rintro a b d e r rfl
      exact absurd rfl hmark
    · rintro a r rfl
      exact absurd rfl hmark
  · rw [hc]
    exact readUnits_escapeUnits (fun n hn => units_lt hn) cs

theorem readUnits_escapeChars (cs rest : List Char) :
    readUnits (escapeChars cs ++ '"' :: rest) = .ok (cs.flatMap units, rest) := by
  induction cs with
  | nil => rfl
  | cons c cs ih =>
    rw [escapeChars, List.append_assoc, readUnits_escapeChar, ih]
    rfl

theorem joinUnits_single {n : Nat} (hn : isHighUnit n = false) (ns : List Nat) :
    joinUnits (n :: ns) = unitChar n :: joinUnits ns := by
  cases ns with
  | nil => rfl
  | cons m ns => rw [joinUnits, hn, Bool.false_and, if_neg Bool.false_ne_true]

/-- The units of a character are joined to it again, since no character is half of a pair. -/
theorem joinUnits_units (c : Char) (ns : List Nat) :
    joinUnits (units c ++ ns) = c :: joinUnits ns := by
  have hvalid := toNat_valid c
  unfold units
  split
  · have hhigh : isHighUnit c.toNat = false := by
      simp only [isHighUnit, Bool.and_eq_false_iff, decide_eq_false_iff_not]
      omega
    have hlow : isLowUnit c.toNat = false := by
      simp only [isLowUnit, Bool.and_eq_false_iff, decide_eq_false_iff_not]
      omega
    rw [List.singleton_append, joinUnits_single hhigh, unitChar, hhigh, hlow, Bool.false_or,
      if_neg Bool.false_ne_true, Char.ofNat_toNat]
  · have hpair : isHighUnit (0xd800 + (c.toNat - 0x10000) / 0x400) = true ∧
        isLowUnit (0xdc00 + (c.toNat - 0x10000) % 0x400) = true := by
      simp only [isHighUnit, isLowUnit, Bool.and_eq_true, decide_eq_true_eq]
      omega
    have hcode : 0x10000 + (0xd800 + (c.toNat - 0x10000) / 0x400 - 0xd800) * 0x400 +
        (0xdc00 + (c.toNat - 0x10000) % 0x400 - 0xdc00) = c.toNat := by omega
    rw [List.cons_append, List.singleton_append, joinUnits, hpair.1, hpair.2, Bool.true_and,
      if_pos rfl, pairChar, hcode, Char.ofNat_toNat]

theorem joinUnits_flatMap (cs : List Char) : joinUnits (cs.flatMap units) = cs := by
  induction cs with
  | nil => rfl
  | cons c cs ih => rw [List.flatMap_cons, joinUnits_units, ih]

theorem readQuoted_quote (s : String) (rest : List Char) :
    readQuoted (escapeChars s.toList ++ '"' :: rest) = .ok (s, rest) := by
  rw [readQuoted, readUnits_escapeChars]
  change Except.ok (String.ofList (joinUnits (s.toList.flatMap units)), rest) = _
  rw [joinUnits_flatMap, String.ofList_toList]

end Strings

section Values

/-- A separator is its mark and the blanks after it. -/
def IsMark (mark : Char) (cs : List Char) : Prop :=
  ∃ blanks, cs = mark :: blanks ∧ ∀ c ∈ blanks, isJsonBlank c = true

structure Separators.Sound (sep : Separators) : Prop where
  item : IsMark ',' sep.item
  member : IsMark ':' sep.member

theorem Separators.sound_tight : Separators.tight.Sound :=
  ⟨⟨[], rfl, List.forall_mem_nil _⟩, ⟨[], rfl, List.forall_mem_nil _⟩⟩

theorem Separators.sound_spaced : Separators.spaced.Sound :=
  ⟨⟨[' '], rfl, List.forall_mem_singleton.mpr rfl⟩,
    ⟨[' '], rfl, List.forall_mem_singleton.mpr rfl⟩⟩

/-- A text that begins a value: with no blank, and not with what ends a list or an object. -/
def Begins (cs : List Char) : Prop :=
  ∃ c r, cs = c :: r ∧ isJsonBlank c = false ∧ c ≠ ']' ∧ c ≠ '\x7d'

theorem Begins.append {cs : List Char} (h : Begins cs) (rest : List Char) :
    Begins (cs ++ rest) := by
  obtain ⟨c, r, rfl, hc⟩ := h
  exact ⟨c, r ++ rest, rfl, hc⟩

theorem Begins.fuel {cs : List Char} (h : Begins cs) {fuel : Nat} (hfuel : cs.length ≤ fuel) :
    ∃ n, fuel = n + 1 := by
  obtain ⟨c, r, rfl, -⟩ := h
  exact Nat.exists_eq_add_one_of_ne_zero (Nat.ne_zero_of_lt hfuel)

theorem Begins.length_pos {cs : List Char} (h : Begins cs) : 0 < cs.length := by
  obtain ⟨c, r, rfl, -⟩ := h
  exact Nat.succ_pos _

theorem skipBlanks_append {blanks cs : List Char} (hblanks : ∀ c ∈ blanks, isJsonBlank c = true)
    (hcs : Begins cs) : skipBlanks (blanks ++ cs) = cs := by
  obtain ⟨c, r, rfl, hc, -⟩ := hcs
  rw [skipBlanks, List.dropWhile_append_of_pos hblanks]
  exact List.dropWhile_cons_of_neg (by rw [hc]; exact Bool.false_ne_true)

theorem Begins.skipBlanks {cs : List Char} (h : Begins cs) : skipBlanks cs = cs :=
  skipBlanks_append (fun _ hc => nomatch hc : ∀ c ∈ [], isJsonBlank c = true) h

variable {sep : Separators}

theorem begins_quote (s : String) : Begins (quote s) := ⟨_, _, rfl, by decide⟩

theorem begins_signed (negative : Bool) {n : Numeral} (hn : n.Sound) :
    Begins (signed negative n) := by
  obtain ⟨d, ds, -, hd, hsigned⟩ := signed_cases negative hn
  rw [hsigned]
  split
  · exact ⟨_, _, rfl, by decide⟩
  · refine ⟨d, ds, rfl, ?_, fun h => ?_, fun h => ?_⟩
    · rw [← Bool.not_eq_true]
      intro hblank
      simp only [isJsonBlank, Bool.or_eq_true, beq_iff_eq] at hblank
      rcases hblank with ((rfl | rfl) | rfl) | rfl <;> exact absurd hd (by decide)
    · exact absurd (h ▸ hd) (by decide)
    · exact absurd (h ▸ hd) (by decide)

theorem begins_intText (n : Int) : Begins (intText n).toList := by
  obtain ⟨negative, m, htext, hm, -⟩ := exists_signed_intText n
  rw [htext]
  exact begins_signed negative hm

theorem begins_doubleText {x : Binary64} (hx : x.IsDouble) :
    Begins (x.text floatLayout).toList := by
  rcases doubleText_cases hx with ⟨htext, -⟩ | ⟨htext, -⟩ | ⟨htext, -⟩ | ⟨negative, n, htext, hn, -⟩
  · exact htext ▸ ⟨_, _, rfl, by decide⟩
  · exact htext ▸ ⟨_, _, rfl, by decide⟩
  · exact htext ▸ ⟨_, _, rfl, by decide⟩
  · exact htext ▸ begins_signed negative hn

theorem begins_print (sep : Separators) {v : Json} (hv : WellFormed v) : Begins (print sep v) := by
  cases hv with
  | null => exact ⟨_, _, rfl, by decide⟩
  | bool b => cases b <;> exact ⟨_, _, rfl, by decide⟩
  | int n => exact begins_intText n
  | float hx => exact begins_doubleText hx
  | str s => exact begins_quote s
  | arr => exact ⟨_, _, rfl, by decide⟩
  | obj => exact ⟨_, _, rfl, by decide⟩

theorem begins_printEntries {e : String × Json} {es : List (String × Json)} :
    Begins (printEntries sep (e :: es)) := by
  obtain ⟨k, v⟩ := e
  cases es <;> exact ⟨_, _, rfl, by decide⟩

theorem begins_printItems (sep : Separators) {v : Json} (hv : WellFormed v) (vs : List Json) :
    Begins (printItems sep (v :: vs)) := by
  cases vs with
  | nil => exact begins_print sep hv
  | cons w vs =>
    rw [printItems, List.append_assoc]
    · exact (begins_print sep hv).append _
    · exact List.cons_ne_nil w vs

/-- The text of a value is read as the value, up to what comes after it. -/
def Reads (sep : Separators) (v : Json) : Prop :=
  ∀ fuel level rest, (print sep v).length ≤ fuel → EndsNumber rest →
    readValue {} fuel level (print sep v ++ rest) = .ok (v, rest)

theorem skipBlanks_cons {c : Char} (hc : isJsonBlank c = false) (cs : List Char) :
    skipBlanks (c :: cs) = c :: cs :=
  List.dropWhile_cons_of_neg (by rw [hc]; exact Bool.false_ne_true)

theorem endsNumber_cons {c : Char} (hc : c.isDigit = false ∧ c ∉ ['.', 'e', 'E'])
    (cs : List Char) : EndsNumber (c :: cs) := by
  intro d hd
  obtain rfl := Option.some.inj hd
  exact hc

theorem readItems_print (hsep : sep.Sound) {v : Json} {vs : List Json}
    (hwell : ∀ w ∈ v :: vs, WellFormed w) (hreads : ∀ w ∈ v :: vs, Reads sep w) {fuel level : Nat}
    (rest : List Char) (hfuel : (printItems sep (v :: vs)).length < fuel) :
    readItems {} fuel level (printItems sep (v :: vs) ++ ']' :: rest) = .ok (v :: vs, rest) := by
  obtain ⟨fuel, rfl⟩ := Nat.exists_eq_add_one_of_ne_zero (Nat.ne_zero_of_lt hfuel)
  induction vs generalizing v fuel with
  | nil =>
    have hv := hreads v List.mem_cons_self fuel level (']' :: rest) (Nat.le_of_lt_succ hfuel)
      (endsNumber_cons (by decide) rest)
    rw [printItems, readItems, hv]
    rfl
  | cons w vs ih =>
    rw [List.forall_mem_cons] at hwell hreads
    obtain ⟨blanks, hitem, hblanks⟩ := hsep.item
    have hnext := begins_printItems sep (hwell.2 w List.mem_cons_self) vs
    have hcons : printItems sep (v :: w :: vs) =
        print sep v ++ ',' :: (blanks ++ printItems sep (w :: vs)) := by
      rw [printItems, hitem, List.append_assoc, List.cons_append]
      exact List.cons_ne_nil w vs
    rw [hcons, List.length_append, List.length_cons, List.length_append] at hfuel
    have hpos := (begins_print sep hwell.1).length_pos
    obtain ⟨fuel, rfl⟩ := Nat.exists_eq_add_one_of_ne_zero (n := fuel) (by omega)
    have hv := hreads.1 (fuel + 1) level
      (',' :: (blanks ++ printItems sep (w :: vs) ++ ']' :: rest)) (by omega)
      (endsNumber_cons (by decide) _)
    have hvs := ih hwell.2 hreads.2 fuel (by omega)
    rw [hcons, List.append_assoc, List.cons_append, readItems, hv]
    dsimp only
    rw [skipBlanks_cons (by decide), List.append_assoc]
    change (readItems {} (fuel + 1) level (skipBlanks (blanks ++ _))).map _ = _
    rw [skipBlanks_append hblanks (hnext.append _), hvs]
    rfl

/-- What is read of a member, and how reading goes on after it. -/
theorem readMembers_member (hsep : sep.Sound) (k : String) {v : Json} (hv : WellFormed v)
    (hread : Reads sep v) {fuel level : Nat} {cs : List Char}
    (hfuel : (print sep v).length ≤ fuel) (hcs : EndsNumber cs) :
    readMembers {} (fuel + 1) level (quote k ++ (sep.member ++ (print sep v ++ cs))) =
      match skipBlanks cs with
      | ',' :: r => (readMembers {} fuel level (skipBlanks r)).map fun (es, r) => ((k, v) :: es, r)
      | '\x7d' :: r => .ok ([(k, v)], r)
      | _ => .error .malformed := by
  obtain ⟨blanks, hmember, hblanks⟩ := hsep.member
  have hquote : quote k ++ (sep.member ++ (print sep v ++ cs)) =
      '"' :: (escapeChars k.toList ++ '"' :: ':' :: (blanks ++ (print sep v ++ cs))) := by
    rw [quote, hmember, List.append_assoc]
    rfl
  have hgap : skipBlanks (blanks ++ (print sep v ++ cs)) = print sep v ++ cs :=
    skipBlanks_append hblanks ((begins_print sep hv).append cs)
  rw [hquote, readMembers, readQuoted_quote]
  dsimp only
  rw [skipBlanks_cons (by decide)]
  split
  · next h =>
    rewrite [← (List.cons.inj h).2, hgap, hread fuel level cs hfuel hcs]
    rfl
  · next hcolon => exact absurd rfl (hcolon _)

theorem readMembers_print (hsep : sep.Sound) {e : String × Json} {es : List (String × Json)}
    (hwell : ∀ d ∈ e :: es, WellFormed d.2) (hreads : ∀ d ∈ e :: es, Reads sep d.2)
    {fuel level : Nat} (rest : List Char) (hfuel : (printEntries sep (e :: es)).length < fuel) :
    readMembers {} fuel level (printEntries sep (e :: es) ++ '\x7d' :: rest) =
      .ok (e :: es, rest) := by
  obtain ⟨fuel, rfl⟩ := Nat.exists_eq_add_one_of_ne_zero (Nat.ne_zero_of_lt hfuel)
  induction es generalizing e fuel with
  | nil =>
    obtain ⟨k, v⟩ := e
    rw [printEntries, List.length_append] at hfuel
    have hlength : (print sep v).length ≤ fuel := by omega
    rw [printEntries, List.append_assoc, List.append_assoc,
      readMembers_member hsep k (hwell _ List.mem_cons_self) (hreads _ List.mem_cons_self)
        hlength (endsNumber_cons (by decide) rest)]
    rfl
  | cons d es ih =>
    obtain ⟨k, v⟩ := e
    rw [List.forall_mem_cons] at hwell hreads
    obtain ⟨blanks, hitem, hblanks⟩ := hsep.item
    have hcons : printEntries sep ((k, v) :: d :: es) = quote k ++ (sep.member ++
        (print sep v ++ ',' :: (blanks ++ printEntries sep (d :: es)))) := by
      rw [printEntries, hitem]
      · simp only [List.append_assoc, List.cons_append]
      · exact List.cons_ne_nil d es
    rw [hcons, List.length_append, List.length_append, List.length_append, List.length_cons,
      List.length_append] at hfuel
    have hpos := (begins_quote k).length_pos
    obtain ⟨fuel, rfl⟩ := Nat.exists_eq_add_one_of_ne_zero (n := fuel) (by omega)
    have hes := ih hwell.2 hreads.2 fuel (by omega)
    have hlength : (print sep v).length ≤ fuel + 1 := by omega
    rw [hcons, List.append_assoc, List.append_assoc, List.append_assoc, List.cons_append,
      readMembers_member hsep k hwell.1 hreads.1 hlength (endsNumber_cons (by decide) _),
      skipBlanks_cons (by decide), List.append_assoc]
    change (readMembers {} (fuel + 1) level (skipBlanks (blanks ++ _))).map _ = _
    rw [skipBlanks_append hblanks (begins_printEntries.append _), hes]
    rfl

theorem readValue_scalar {c : Char} (hc : c ∉ ['"', '[', '\x7b']) (fuel level : Nat)
    (cs : List Char) : readValue {} (fuel + 1) level (c :: cs) = readScalar {} (c :: cs) := by
  rw [readValue]
  all_goals
    rintro r h
    exact hc (by rw [(List.cons.inj h).1]; decide)

theorem readValue_signed (negative : Bool) {n : Numeral} (hn : n.Sound) (fuel level : Nat)
    {rest : List Char} (h : EndsNumber rest) :
    readValue {} (fuel + 1) level (signed negative n ++ rest) =
      .ok (numberOf negative n, rest) := by
  have hread := readScalar_signed negative hn h
  obtain ⟨d, ds, -, hd, hsigned⟩ := signed_cases negative hn
  have hother : d ∉ ['"', '[', '\x7b'] := by
    intro hmem
    revert hd
    fin_cases hmem <;> decide
  rw [hsigned] at hread ⊢
  cases negative with
  | false =>
    rw [if_neg Bool.false_ne_true, List.cons_append] at hread ⊢
    rw [readValue_scalar hother, hread]
  | true =>
    rw [if_pos rfl, List.cons_append] at hread ⊢
    rw [readValue_scalar (by decide), hread]

theorem readValue_items {cs : List Char} (hcs : Begins cs) (fuel level : Nat) :
    readValue {} (fuel + 1) level ('[' :: cs) =
      (readItems {} fuel (level + 1) cs).map fun (xs, r) => (.arr xs, r) := by
  have hskip := hcs.skipBlanks
  obtain ⟨c, r, rfl, -, hc, -⟩ := hcs
  rw [readValue]
  refine (if_neg Bool.false_ne_true).trans ?_
  rw [hskip]
  split
  · next h => exact absurd (List.cons.inj h).1 hc
  · rfl

theorem readValue_members {cs : List Char} (hcs : Begins cs) (fuel level : Nat) :
    readValue {} (fuel + 1) level ('\x7b' :: cs) = (readMembers {} fuel (level + 1) cs).map
      fun (es, r) => (.obj (Entries.ofPairs es), r) := by
  have hskip := hcs.skipBlanks
  obtain ⟨c, r, rfl, -, -, hc⟩ := hcs
  rw [readValue]
  refine (if_neg Bool.false_ne_true).trans ?_
  rw [hskip]
  split
  · next h => exact absurd (List.cons.inj h).1 hc
  · rfl

/-- Every value is read as it was written. -/
theorem WellFormed.reads (hsep : sep.Sound) {v : Json} (hv : WellFormed v) : Reads sep v := by
  induction hv with
  | null =>
    intro fuel level rest hlength hrest
    obtain ⟨fuel, rfl⟩ := (begins_print sep .null).fuel hlength
    rfl
  | bool b =>
    intro fuel level rest hlength hrest
    obtain ⟨fuel, rfl⟩ := (begins_print sep (.bool b)).fuel hlength
    cases b <;> rfl
  | int n =>
    intro fuel level rest hlength hrest
    obtain ⟨fuel, rfl⟩ := (begins_print sep (.int n)).fuel hlength
    obtain ⟨negative, m, htext, hm, hvalue⟩ := exists_signed_intText n
    rw [print, htext, readValue_signed negative hm fuel level hrest, hvalue]
  | float hx =>
    intro fuel level rest hlength hrest
    obtain ⟨fuel, rfl⟩ := (begins_print sep (.float hx)).fuel hlength
    rw [print]
    rcases doubleText_cases hx with
      ⟨htext, rfl⟩ | ⟨htext, rfl⟩ | ⟨htext, rfl⟩ | ⟨negative, n, htext, hn, hvalue⟩
    · rw [htext]
      rfl
    · rw [htext]
      rfl
    · rw [htext]
      rfl
    · rw [htext, readValue_signed negative hn fuel level hrest, hvalue]
  | str s =>
    intro fuel level rest hlength hrest
    obtain ⟨fuel, rfl⟩ := (begins_print sep (.str s)).fuel hlength
    rw [print, quote, List.append_assoc]
    change (readQuoted (escapeChars s.toList ++ '"' :: rest)).map _ = _
    rw [readQuoted_quote]
    rfl
  | @arr items hitems ih =>
    intro fuel level rest hlength hrest
    obtain ⟨fuel, rfl⟩ := (begins_print sep (.arr hitems)).fuel hlength
    cases items with
    | nil => rfl
    | cons v vs =>
      have hbegins := begins_printItems sep (hitems v List.mem_cons_self) vs
      rw [print, List.length_append, List.length_cons, List.length_singleton] at hlength
      rw [print, List.append_assoc, List.cons_append, List.singleton_append,
        readValue_items (hbegins.append _), readItems_print hsep hitems ih rest (by omega)]
      rfl
  | @obj entries hkeys hentries ih =>
    intro fuel level rest hlength hrest
    obtain ⟨fuel, rfl⟩ := (begins_print sep (.obj hkeys hentries)).fuel hlength
    cases entries with
    | nil => rfl
    | cons e es =>
      rw [print, List.length_append, List.length_cons, List.length_singleton] at hlength
      rw [print, List.append_assoc, List.cons_append, List.singleton_append,
        readValue_members (begins_printEntries.append _),
        readMembers_print hsep hentries ih rest (by omega)]
      change Except.ok (Json.obj (Entries.ofPairs (e :: es)), rest) = _
      rw [Entries.ofPairs_of_nodup hkeys]

/-- A text that was written parses to the value it was written for. -/
theorem WellFormed.parseChars?_print (hsep : sep.Sound) {v : Json} (hv : WellFormed v) :
    parseChars? (print sep v) = some v := by
  have hread := hv.reads hsep _ 0 [] (Nat.le_succ _) fun _ hc => nomatch hc
  rw [List.append_nil] at hread
  rw [parseChars?, parse, (begins_print sep hv).skipBlanks, hread]
  rfl

theorem WellFormed.parse?_compact {v : Json} (hv : WellFormed v) : parse? v.compact = some v := by
  rw [parse?, compact, String.toList_ofList]
  exact hv.parseChars?_print Separators.sound_tight

theorem WellFormed.parse?_spaced {v : Json} (hv : WellFormed v) : parse? v.spaced = some v := by
  rw [parse?, spaced, String.toList_ofList]
  exact hv.parseChars?_print Separators.sound_spaced

/-- Different values are written differently. -/
theorem Exact.compact_inj {v w : Json} (hv : Exact v) (hw : Exact w) :
    v.compact = w.compact ↔ v = w := by
  refine ⟨fun h => ?_, fun h => h ▸ rfl⟩
  have hread := hv.wellFormed.parse?_compact
  rw [h, hw.wellFormed.parse?_compact] at hread
  exact (Option.some.inj hread).symm

end Values

section Characters

/-- A character of ASCII that is not a control. -/
def IsVisible (c : Char) : Prop := 0x20 ≤ c.toNat ∧ c.toNat ≤ 0x7e

instance (c : Char) : Decidable (IsVisible c) := inferInstanceAs (Decidable (_ ∧ _))

variable {c : Char}

theorem isVisible_of_all {cs : List Char} (hc : c ∈ cs)
    (hall : cs.all (fun d => decide (IsVisible d)) = true) : IsVisible c :=
  of_decide_eq_true (List.all_eq_true.mp hall c hc)

theorem isVisible_hexDigit {n : Nat} (hn : n < 16) : IsVisible (hexDigit n) := by
  revert n
  decide

theorem isVisible_digit (hc : c.isDigit = true) : IsVisible c := by
  simp only [Char.isDigit, Bool.and_eq_true, decide_eq_true_eq, ge_iff_le,
    UInt32.le_iff_toNat_le] at hc
  change 48 ≤ c.toNat ∧ c.toNat ≤ 57 at hc
  unfold IsVisible
  omega

theorem isVisible_escapeChar {d : Char} (hc : c ∈ escapeChar d) : IsVisible c := by
  rcases escapeChar_cases d with ⟨e, hd, he⟩ | ⟨hd, -, -, hrange⟩ | hd
  · rw [hd] at hc
    have hvisible : IsVisible e := by
      unfold shortEscape? at he
      split at he <;> first | decide | cases he
    rcases List.mem_cons.mp hc with rfl | hc
    · decide
    · rwa [List.mem_singleton.mp hc]
  · rw [hd] at hc
    rwa [List.mem_singleton.mp hc]
  · rw [hd] at hc
    obtain ⟨n, -, hc⟩ := List.mem_flatMap.mp hc
    rw [escapeUnit, hexDigits_eq] at hc
    rcases List.mem_cons.mp hc with rfl | hc
    · decide
    rcases List.mem_cons.mp hc with rfl | hc
    · decide
    obtain ⟨m, hm, rfl⟩ := List.mem_map.mp hc
    exact isVisible_hexDigit (nibbles_lt hm)

theorem isVisible_escapeChars {cs : List Char} (hc : c ∈ escapeChars cs) : IsVisible c := by
  induction cs with
  | nil => cases hc
  | cons d cs ih =>
    rcases List.mem_append.mp hc with hc | hc
    · exact isVisible_escapeChar hc
    · exact ih hc

theorem isVisible_quote {s : String} (hc : c ∈ quote s) : IsVisible c := by
  rw [quote, List.mem_append, List.mem_cons, List.mem_singleton] at hc
  rcases hc with (rfl | hc) | rfl
  · decide
  · exact isVisible_escapeChars hc
  · decide

theorem isVisible_signed {negative : Bool} {n : Numeral} (hn : n.Sound)
    (hc : c ∈ signed negative n) : IsVisible c := by
  rcases mem_signed hn hc with hdigit | hmark
  · exact isVisible_digit hdigit
  · exact isVisible_of_all hmark (by decide)

theorem isVisible_intText {n : Int} (hc : c ∈ (intText n).toList) : IsVisible c := by
  obtain ⟨negative, m, htext, hm, -⟩ := exists_signed_intText n
  exact isVisible_signed hm (htext ▸ hc)

theorem isVisible_doubleText {x : Binary64} (hx : x.IsDouble)
    (hc : c ∈ (x.text floatLayout).toList) : IsVisible c := by
  rcases doubleText_cases hx with ⟨htext, -⟩ | ⟨htext, -⟩ | ⟨htext, -⟩ | ⟨negative, n, htext, hn, -⟩
  · exact isVisible_of_all (htext ▸ hc) (by decide)
  · exact isVisible_of_all (htext ▸ hc) (by decide)
  · exact isVisible_of_all (htext ▸ hc) (by decide)
  · exact isVisible_signed hn (htext ▸ hc)

variable {sep : Separators}

theorem mem_printItems {vs : List Json} (hc : c ∈ printItems sep vs) :
    c ∈ sep.item ∨ ∃ v ∈ vs, c ∈ print sep v := by
  induction vs with
  | nil => cases hc
  | cons v vs ih =>
    cases vs with
    | nil => exact .inr ⟨v, List.mem_cons_self, hc⟩
    | cons w vs =>
      rw [printItems, List.mem_append, List.mem_append] at hc
      · rcases hc with (hc | hc) | hc
        · exact .inr ⟨v, List.mem_cons_self, hc⟩
        · exact .inl hc
        · exact (ih hc).imp_right fun ⟨x, hx, hc⟩ => ⟨x, List.mem_cons_of_mem v hx, hc⟩
      · exact List.cons_ne_nil w vs

theorem mem_printEntries {es : List (String × Json)} (hc : c ∈ printEntries sep es) :
    c ∈ sep.item ∨ c ∈ sep.member ∨ ∃ e ∈ es, c ∈ quote e.1 ∨ c ∈ print sep e.2 := by
  induction es with
  | nil => cases hc
  | cons e es ih =>
    obtain ⟨k, v⟩ := e
    have hfirst : c ∈ quote k ++ sep.member ++ print sep v → c ∈ sep.item ∨ c ∈ sep.member ∨
        ∃ e ∈ (k, v) :: es, c ∈ quote e.1 ∨ c ∈ print sep e.2 := by
      rw [List.mem_append, List.mem_append]
      rintro ((hc | hc) | hc)
      · exact .inr (.inr ⟨(k, v), List.mem_cons_self, .inl hc⟩)
      · exact .inr (.inl hc)
      · exact .inr (.inr ⟨(k, v), List.mem_cons_self, .inr hc⟩)
    cases es with
    | nil => exact hfirst hc
    | cons d es =>
      rw [printEntries, List.mem_append, List.mem_append] at hc
      · rcases hc with (hc | hc) | hc
        · exact hfirst hc
        · exact .inl hc
        · exact (ih hc).imp_right fun hc =>
            hc.imp_right fun ⟨e, he, hc⟩ => ⟨e, List.mem_cons_of_mem (k, v) he, hc⟩
      · exact List.cons_ne_nil d es

/-- What is written between visible separators is visible. -/
theorem WellFormed.isVisible {v : Json} (hv : WellFormed v) (hitem : ∀ c ∈ sep.item, IsVisible c)
    (hmember : ∀ c ∈ sep.member, IsVisible c) (hc : c ∈ print sep v) : IsVisible c := by
  induction hv with
  | null => exact isVisible_of_all hc rfl
  | bool b => cases b <;> exact isVisible_of_all hc rfl
  | int n => exact isVisible_intText hc
  | float hx => exact isVisible_doubleText hx hc
  | str s => exact isVisible_quote hc
  | arr hitems ih =>
    rw [print, List.mem_append, List.mem_cons, List.mem_singleton] at hc
    rcases hc with (rfl | hc) | rfl
    · decide
    · rcases mem_printItems hc with hc | ⟨v, hv, hc⟩
      · exact hitem c hc
      · exact ih v hv hc
    · decide
  | obj hkeys hentries ih =>
    rw [print, List.mem_append, List.mem_cons, List.mem_singleton] at hc
    rcases hc with (rfl | hc) | rfl
    · decide
    · rcases mem_printEntries hc with hc | hc | ⟨e, he, hc | hc⟩
      · exact hitem c hc
      · exact hmember c hc
      · exact isVisible_quote hc
      · exact ih e he hc
    · decide

end Characters

end BoardRules.Json
