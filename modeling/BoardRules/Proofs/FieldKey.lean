import BoardRules.FieldKey

/-! The grammar of keys. A key that starts with the mark refers to a response if a form without a
full stop, a full stop and the key of the response on one line follow, and then nothing or a line
feed; how it is taken apart is settled by that. Every other key that starts with the mark is
malformed. -/
namespace BoardRules

open BoardRules.Text

theorem Text.splitFirst_eq_some_iff {p : Char → Bool} {cs before after : List Char} :
    splitFirst p cs = some (before, after) ↔
      ∃ c, cs = before ++ c :: after ∧ p c = true ∧ ∀ x ∈ before, p x = false := by
  induction cs generalizing before with
  | nil => simp [splitFirst]
  | cons c cs ih =>
    unfold splitFirst
    cases hc : p c with
    | true =>
      simp only [if_true, Option.some.injEq, Prod.mk.injEq]
      constructor
      · rintro ⟨rfl, rfl⟩
        exact ⟨c, rfl, hc, by simp⟩
      · rintro ⟨d, hd, -, hbefore⟩
        cases before with
        | nil => exact ⟨rfl, (List.cons.inj hd).2⟩
        | cons x before =>
          rw [← (List.cons.inj hd).1] at hbefore
          rw [hbefore c List.mem_cons_self] at hc
          cases hc
    | false =>
      simp only [Bool.false_eq_true, if_false, Option.map_eq_some_iff, Prod.mk.injEq, Prod.exists]
      constructor
      · rintro ⟨start, rest, hsplit, rfl, rfl⟩
        obtain ⟨d, rfl, hd, hstart⟩ := ih.mp hsplit
        exact ⟨d, rfl, hd, List.forall_mem_cons.mpr ⟨hc, hstart⟩⟩
      · rintro ⟨d, hsplit, hd, hbefore⟩
        cases before with
        | nil =>
          rw [(List.cons.inj hsplit).1, hd] at hc
          cases hc
        | cons x before =>
          obtain ⟨rfl, rfl⟩ := List.cons.inj hsplit
          exact ⟨before, after, ih.mpr ⟨d, rfl, hd, (List.forall_mem_cons.mp hbefore).2⟩, rfl, rfl⟩

namespace FieldKey

/-- The names of a form and of a response that a reference can be made of. -/
structure Referable (name response : String) : Prop where
  name_ne : name ≠ ""
  name_stop : '.' ∉ name.toList
  response_ne : response ≠ ""
  response_line : '\n' ∉ response.toList

/-- Whether a key refers to a response of the form of a name: the names stand in it as they are, and
a line feed may end it. -/
inductive Refers (name response : String) : String → Prop where
  | bare (h : Referable name response) :
    Refers name response ("form:" ++ name ++ "." ++ response)
  | ended (h : Referable name response) :
    Refers name response ("form:" ++ name ++ "." ++ response ++ "\n")

variable {name response key : String}

theorem toList_form : "form:".toList = formMark := rfl

theorem toList_stop : ".".toList = ['.'] := rfl

theorem toList_lineFeed : "\n".toList = ['\n'] := rfl

theorem dropLastLineFeed_eq {line : List Char} (hline : '\n' ∉ line) :
    dropLastLineFeed line = line := by
  unfold dropLastLineFeed
  rw [if_neg fun hlast => hline (List.mem_of_getLast? hlast)]

theorem dropLastLineFeed_append (line : List Char) : dropLastLineFeed (line ++ ['\n']) = line := by
  unfold dropLastLineFeed
  rw [if_pos List.getLast?_concat, List.dropLast_concat]

theorem eq_of_dropLastLineFeed {line rest : List Char} (h : dropLastLineFeed rest = line) :
    rest = line ∨ rest = line ++ ['\n'] := by
  unfold dropLastLineFeed at h
  split at h
  · rename_i hlast
    obtain ⟨start, rfl⟩ := List.getLast?_eq_some_iff.mp hlast
    rw [List.dropLast_concat] at h
    exact .inr (congrArg (· ++ ['\n']) h)
  · exact .inl h

/-- What follows the mark is a reference if it is one of the two ways to write it. -/
theorem ofReference_eq_response_iff {cs : List Char} {form : String} :
    ofReference cs = .response form response ↔ ∃ name, Referable name response ∧
      form = trim name ∧ (cs = name.toList ++ '.' :: response.toList ∨
        cs = name.toList ++ '.' :: (response.toList ++ ['\n'])) := by
  constructor
  · intro href
    unfold ofReference at href
    split at href
    · rename_i before rest hsplit
      obtain ⟨c, rfl, hc, hbefore⟩ := splitFirst_eq_some_iff.mp hsplit
      obtain rfl := beq_iff_eq.mp hc
      dsimp only at href
      split at href
      · cases href
      · rename_i hsound
        simp only [Bool.or_eq_true, List.isEmpty_iff, List.contains_iff_mem, not_or] at hsound
        obtain ⟨⟨hname, hresponse⟩, hline⟩ := hsound
        cases href
        refine ⟨String.ofList before, ⟨?_, ?_, ?_, ?_⟩, ?_, ?_⟩
        · rwa [Ne, ← String.toList_inj, String.toList_ofList]
        · rw [String.toList_ofList]
          intro hstop
          have hother := hbefore '.' hstop
          simp at hother
        · rwa [Ne, ← String.toList_inj, String.toList_ofList]
        · rwa [String.toList_ofList]
        · rw [trim, String.toList_ofList]
        · rw [String.toList_ofList, String.toList_ofList]
          rcases eq_of_dropLastLineFeed rfl with h | h
          · exact .inl (by rw [← h])
          · exact .inr (by rw [← h])
    · cases href
  · rintro ⟨name, href, rfl, hcs⟩
    have hname : name.toList.isEmpty = false := by
      rw [List.isEmpty_eq_false_iff, Ne, ← String.toList_empty, String.toList_inj]
      exact href.name_ne
    have hresponse : response.toList.isEmpty = false := by
      rw [List.isEmpty_eq_false_iff, Ne, ← String.toList_empty, String.toList_inj]
      exact href.response_ne
    have hline : response.toList.contains '\n' = false := by
      rw [← Bool.not_eq_true, List.contains_iff_mem]
      exact href.response_line
    have hsplit : ∀ rest, splitFirst (· == '.') (name.toList ++ '.' :: rest) =
        some (name.toList, rest) := fun rest => splitFirst_eq_some_iff.mpr
      ⟨'.', rfl, rfl, fun x hx => beq_eq_false_iff_ne.mpr fun h => href.name_stop (h ▸ hx)⟩
    have hread : ∀ rest, dropLastLineFeed rest = response.toList →
        ofReference (name.toList ++ '.' :: rest) = .response (trim name) response := by
      intro rest hrest
      unfold ofReference
      rw [hsplit]
      dsimp only
      rw [hrest, hname, hresponse, hline, String.ofList_toList]
      rfl
    rcases hcs with rfl | rfl
    · exact hread _ (dropLastLineFeed_eq href.response_line)
    · exact hread _ (dropLastLineFeed_append _)

theorem ofText_of_unmarked (h : ¬formMark <+: key.toList) : ofText key = .field key := by
  unfold ofText
  dsimp only
  rw [if_neg (by rwa [List.isPrefixOf_iff_prefix])]

theorem ofText_of_marked {rest : List Char} (h : key.toList = formMark ++ rest) :
    ofText key = ofReference rest := by
  unfold ofText
  dsimp only
  rw [if_pos (List.isPrefixOf_iff_prefix.mpr ⟨rest, h.symm⟩), h, List.drop_left]

theorem ofReference_ne_field {cs : List Char} {field : String} : ofReference cs ≠ .field field := by
  unfold ofReference
  dsimp only
  split
  · split <;> exact fun h => by cases h
  · exact fun h => by cases h

/-- A key that starts with the mark never names a field. -/
theorem ofText_ne_field {field : String} (h : formMark <+: key.toList) :
    ofText key ≠ .field field := by
  obtain ⟨rest, hrest⟩ := h
  rw [ofText_of_marked hrest.symm]
  exact ofReference_ne_field

theorem Refers.marked (h : Refers name response key) : formMark <+: key.toList := by
  cases h with
  | bare h =>
    simp only [String.toList_append, List.append_assoc]
    exact List.prefix_append _ _
  | ended h =>
    simp only [String.toList_append, List.append_assoc]
    exact List.prefix_append _ _

/-- The keys that are read as references are those that refer to a response; the form's name is
trimmed. -/
theorem ofText_eq_response_iff {form : String} :
    ofText key = .response form response ↔ ∃ name, Refers name response key ∧ form = trim name := by
  by_cases hmark : formMark <+: key.toList
  · obtain ⟨rest, hrest⟩ := hmark
    rw [ofText_of_marked hrest.symm, ofReference_eq_response_iff]
    have hkey : ∀ {text : String} {cs : List Char}, text.toList = formMark ++ cs →
        (rest = cs ↔ key = text) := by
      intro text cs htext
      rw [← String.toList_inj, ← hrest, htext, List.append_right_inj]
    have hbare : ∀ name, rest = name.toList ++ '.' :: response.toList ↔
        key = "form:" ++ name ++ "." ++ response := by
      intro name
      refine hkey ?_
      simp only [String.toList_append, toList_form, toList_stop, List.append_assoc,
        List.cons_append, List.nil_append]
    have hended : ∀ name, rest = name.toList ++ '.' :: (response.toList ++ ['\n']) ↔
        key = "form:" ++ name ++ "." ++ response ++ "\n" := by
      intro name
      refine hkey ?_
      simp only [String.toList_append, toList_form, toList_stop, toList_lineFeed,
        List.append_assoc, List.cons_append, List.nil_append]
    simp only [hbare, hended]
    constructor
    · rintro ⟨name, href, rfl, rfl | rfl⟩
      · exact ⟨name, .bare href, rfl⟩
      · exact ⟨name, .ended href, rfl⟩
    · rintro ⟨name, hrefers, rfl⟩
      cases hrefers with
      | bare href => exact ⟨name, href, rfl, .inl rfl⟩
      | ended href => exact ⟨name, href, rfl, .inr rfl⟩
  · rw [ofText_of_unmarked hmark]
    constructor
    · intro h
      cases h
    · rintro ⟨name, hrefers, -⟩
      exact absurd hrefers.marked hmark

theorem ofText_refers (h : Refers name response key) :
    ofText key = .response (trim name) response :=
  ofText_eq_response_iff.mpr ⟨name, h, rfl⟩

theorem ofText_eq_malformed_iff :
    ofText key = .malformed ↔
      formMark <+: key.toList ∧ ∀ name response, ¬Refers name response key := by
  constructor
  · intro hmalformed
    constructor
    · refine Decidable.byContradiction fun hunmarked => ?_
      rw [ofText_of_unmarked hunmarked] at hmalformed
      cases hmalformed
    · intro name response hrefers
      rw [ofText_refers hrefers] at hmalformed
      cases hmalformed
  · rintro ⟨hmark, hnone⟩
    cases hread : ofText key with
    | field field => exact absurd hread (ofText_ne_field hmark)
    | response form response =>
      obtain ⟨name, hrefers, -⟩ := ofText_eq_response_iff.mp hread
      exact absurd hrefers (hnone name response)
    | malformed => rfl

end FieldKey
end BoardRules
