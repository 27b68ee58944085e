import Mathlib.Data.List.Sublists
import Mathlib.Tactic.FinCases
import BoardRules.Proofs.Condition.Verdict

/-! The operators that triggers share with rules. Both compare the same texts, but of a list a rule
asks for the text of an item and a trigger for the text of the whole. Where the items are texts that
stand in the whole as they are, that makes no difference either, unless what is asked for is the
punctuation of lists. -/
namespace BoardRules

open BoardRules.Text

/-- What does not have the character that separates two texts stands in one of them. -/
theorem infix_separated_iff {needle before after : List Char} {stop : Char}
    (hneedle : stop ∉ needle) :
    needle <:+: before ++ stop :: after ↔ needle <:+: before ∨ needle <:+: after := by
  have hstart : ∀ l : List Char, stop ∉ l → l <+: stop :: after → l = [] := by
    intro l hl hprefix
    rcases List.prefix_cons_iff.mp hprefix with rfl | ⟨rest, rfl, -⟩
    · rfl
    · exact absurd List.mem_cons_self hl
  rw [List.infix_append_iff, List.infix_cons_iff]
  constructor
  · rintro (hbefore | (hstop | hafter) | ⟨left, right, rfl, hleft, hright⟩)
    · exact .inl hbefore
    · rw [hstart needle hneedle hstop]
      exact .inl List.nil_infix
    · exact .inr hafter
    · obtain rfl := hstart right (fun h => hneedle (List.mem_append_right _ h)) hright
      rw [List.append_nil]
      exact .inl hleft.isInfix
  · rintro (hbefore | hafter)
    · exact .inl hbefore
    · exact .inr (.inl (.inr hafter))

namespace Json

/-- Whether JSON writes a character as it is. -/
def IsPlainChar (c : Char) : Prop :=
  0x20 ≤ c.toNat ∧ c.toNat ≤ 0x7e ∧ c ≠ '"' ∧ c ≠ '\\'

/-- Whether JSON writes a text as it is, but for the quotes around it. -/
def IsPlain (s : String) : Prop := ∀ c ∈ s.toList, IsPlainChar c

/-- Whether a text is nothing but punctuation of a list. -/
def IsPunctuation (s : String) : Prop := s ∈ ["", "[", "]", ",", "[]"]

instance : DecidablePred IsPlainChar := fun _ => inferInstanceAs (Decidable (_ ∧ _))

instance : DecidablePred IsPlain := fun s => List.decidableBAll IsPlainChar s.toList

instance : DecidablePred IsPunctuation := fun _ => inferInstanceAs (Decidable (_ ∈ _))

theorem escapeChars_plain {cs : List Char} (h : ∀ c ∈ cs, IsPlainChar c) : escapeChars cs = cs := by
  induction cs with
  | nil => rfl
  | cons c cs ih =>
    obtain ⟨⟨hlow, hhigh, hquote, hslash⟩, hrest⟩ := List.forall_mem_cons.mp h
    have hcontrol : ∀ d : Char, d.toNat < 0x20 → c ≠ d := by
      rintro d hd rfl
      omega
    unfold escapeChars escapeChar
    rw [ih hrest]
    simp [hquote, hslash, hlow, hhigh, hcontrol]

theorem quote_plain {s : String} (h : IsPlain s) : quote s = '"' :: s.toList ++ ['"'] := by
  rw [quote, escapeChars_plain h]

theorem infix_quoted_iff {needle before after : List Char} {s : String} (hquote : '"' ∉ needle)
    (hplain : IsPlain s) :
    needle <:+: before ++ (quote s ++ after) ↔
      needle <:+: before ∨ needle <:+: s.toList ∨ needle <:+: after := by
  have hsplit : before ++ (quote s ++ after) = before ++ '"' :: (s.toList ++ '"' :: after) := by
    rw [quote_plain hplain]
    simp
  rw [hsplit, infix_separated_iff hquote, infix_separated_iff hquote]

/-- In a list of plain texts, what has no quote stands in one of them, or else in what stands
between them. -/
theorem infix_printItems_iff {needle before : List Char} {s : String} {texts : List String}
    (hquote : '"' ∉ needle) (hbefore : ¬needle <:+: before) (hcomma : ¬needle <:+: [','])
    (hend : ¬needle <:+: [']']) (hplain : ∀ t ∈ s :: texts, IsPlain t) :
    needle <:+: before ++ (printItems .tight ((s :: texts).map .str) ++ [']']) ↔
      ∃ t ∈ s :: texts, needle <:+: t.toList := by
  -- what stands before the first text is the bracket at the start, and a comma further on
  induction texts generalizing s before with
  | nil =>
    change needle <:+: before ++ (quote s ++ [']']) ↔ _
    rw [infix_quoted_iff hquote (hplain s List.mem_cons_self), or_iff_right hbefore,
      or_iff_left hend]
    simp
  | cons t texts ih =>
    obtain ⟨hs, htexts⟩ := List.forall_mem_cons.mp hplain
    have hlist : printItems .tight ((s :: t :: texts).map .str) ++ [']'] =
        quote s ++ ([','] ++ (printItems .tight ((t :: texts).map .str) ++ [']'])) := by
      change quote s ++ [','] ++ printItems .tight ((t :: texts).map .str) ++ [']'] = _
      simp
    rw [hlist, infix_quoted_iff hquote hs, or_iff_right hbefore, ih hcomma htexts]
    simp

/-- In the text of a list of plain texts, what has no quote and is not punctuation stands in one of
them. -/
theorem infix_compact_iff {needle : String} {texts : List String} (hquote : '"' ∉ needle.toList)
    (hneedle : ¬IsPunctuation needle) (hplain : ∀ t ∈ texts, IsPlain t) :
    needle.toList <:+: (compact (.arr (texts.map .str))).toList ↔
      ∃ t ∈ texts, needle.toList <:+: t.toList := by
  have hmarks : ∀ marks ∈ [['['], [','], [']'], ['[', ']']], ¬needle.toList <:+: marks := by
    intro marks hmarks hinfix
    have hsome := List.mem_sublists.mpr hinfix.sublist
    apply hneedle
    rw [← @String.ofList_toList needle]
    generalize needle.toList = cs at hsome
    fin_cases hmarks <;> fin_cases hsome <;> decide
  unfold compact
  rw [String.toList_ofList]
  cases texts with
  | nil => exact iff_of_false (hmarks ['[', ']'] (by simp)) (by simp)
  | cons s texts =>
    exact @infix_printItems_iff _ ['['] _ _ hquote (hmarks _ (by simp)) (hmarks _ (by simp))
      (hmarks _ (by simp)) hplain

end Json

/-- Whether triggers compare by this operator too. -/
def IsShared (operator : String) : Prop :=
  operator = "equals" ∨ operator = "not_equals" ∨ operator = "contains"

/-- Whether a rule looks into a value item by item. -/
def SearchesItems (operator : String) (actual : Json) : Prop :=
  operator = "contains" ∧ ∃ items, actual = .arr items

/-- Whether it makes no difference if a value is searched item by item: it is not searched so, or
its items are plain texts and what is looked for has no quote and is not punctuation. -/
inductive Indifferent (operator : String) (expected : Json) : Json → Prop where
  | whole {actual : Json} (hwhole : ¬SearchesItems operator actual) :
    Indifferent operator expected actual
  | texts {texts : List String} (hplain : ∀ t ∈ texts, Json.IsPlain t)
    (hquote : '"' ∉ expected.toText.toList) (hexpected : ¬Json.IsPunctuation expected.toText) :
    Indifferent operator expected (.arr (texts.map .str))

section

variable {operator : String} {actual expected : Json} {items : List Json}

theorem compare?_whole (hshared : IsShared operator) (hpresent : actual ≠ .null)
    (hwhole : ¬SearchesItems operator actual) :
    compare? operator actual expected = some (newValueFits operator actual expected) := by
  rcases hshared with rfl | rfl | rfl
  · change Operator.holds? .equals actual expected = _
    unfold Operator.holds?
    rw [Operator.isNull_eq_false hpresent]
    rfl
  · change Operator.holds? .notEquals actual expected = _
    unfold Operator.holds?
    rw [Operator.isNull_eq_false hpresent]
    rfl
  · cases actual with
    | null => exact absurd rfl hpresent
    | arr items => exact absurd ⟨rfl, items, rfl⟩ hwhole
    | _ => rfl

theorem newValueFits_items :
    newValueFits "contains" (.arr items) expected = true ↔
      expected.toText.toList <:+: (Json.compact (.arr items)).toList := occursIn_iff

theorem compare?_items : ∃ b, compare? "contains" (.arr items) expected = some b ∧
    (b = true ↔ ∃ item ∈ items, expected.toText.toList <:+: item.toText.toList) :=
  ⟨_, rfl, Json.containsText_iff⟩

theorem compare?_texts {texts : List String} (hquote : '"' ∉ expected.toText.toList)
    (hexpected : ¬Json.IsPunctuation expected.toText) (hplain : ∀ t ∈ texts, Json.IsPlain t) :
    compare? "contains" (.arr (texts.map .str)) expected =
      some (newValueFits "contains" (.arr (texts.map .str)) expected) := by
  obtain ⟨b, hb, hitems⟩ := @compare?_items expected (texts.map .str)
  rw [hb, Option.some.injEq, Bool.eq_iff_iff, hitems, newValueFits_items,
    Json.infix_compact_iff hquote hexpected hplain]
  simp [Json.toText]

theorem compare?_indifferent (hshared : IsShared operator) (hpresent : actual ≠ .null)
    (halike : Indifferent operator expected actual) :
    compare? operator actual expected = some (newValueFits operator actual expected) := by
  cases halike with
  | whole hwhole => exact compare?_whole hshared hpresent hwhole
  | texts hplain hquote hexpected =>
    by_cases hitems : operator = "contains"
    · rw [hitems]
      exact compare?_texts hquote hexpected hplain
    · exact compare?_whole hshared hpresent fun h => hitems h.1

theorem fieldOperator_shared (hshared : IsShared operator) :
    fieldOperator (some operator) = operator := by
  rcases hshared with rfl | rfl | rfl <;> rfl

end

theorem Conditions.hold?_single {logic raw : Json} {card : CardView} :
    Conditions.hold? ⟨logic, [raw]⟩ card = ruleHolds? card raw := by
  unfold hold?
  cases hheld : ruleHolds? card raw with
  | none => simp [hheld]
  | some b => cases b <;> simp [hheld]

/-- How the operators of triggers and of rules go together. On a value that is there they agree,
unless a list is searched: there the rule asks for an item's text, the trigger for the whole. Where
that makes no difference, a trigger on a field and a condition on it decide alike. -/
theorem shared_operators_agree :
    (∀ (operator : String) (actual expected : Json), IsShared operator → actual ≠ .null →
      Indifferent operator expected actual →
        compare? operator actual expected = some (newValueFits operator actual expected)) ∧
    (∀ (items : List Json) (expected : Json),
      (∃ b, compare? "contains" (.arr items) expected = some b ∧
        (b = true ↔ ∃ item ∈ items, expected.toText.toList <:+: item.toText.toList)) ∧
      (newValueFits "contains" (.arr items) expected = true ↔
        expected.toText.toList <:+: (Json.compact (.arr items)).toList)) ∧
    ∀ (config raw logic value : Json) (key operator : String) (card : CardView)
      (context : TriggerContext), IsShared operator → context.fieldValue ≠ .null →
      Indifferent operator value context.fieldValue →
        TriggerConfig.IsRead "card_field_value" config.entries
          (.cardFieldValue key (some operator) value) →
        Rule.IsRead raw ⟨key, operator, value⟩ → ¬FieldKey.formMark <+: key.toList →
          context.fieldKey = some key → card.fields.getD key = context.fieldValue →
            Conditions.hold? ⟨logic, [raw]⟩ card =
              some (triggerMatches "card_field_value" config (some context)) := by
  refine ⟨fun operator actual expected => compare?_indifferent,
    fun items expected => ⟨compare?_items, newValueFits_items⟩, ?_⟩
  intro config raw logic value key operator card context hshared hpresent halike hconfig hrule
    hunmarked hkey hfield
  have hholds : Rule.holds? ⟨key, operator, value⟩ card =
      compare? operator context.fieldValue value := by
    unfold Rule.holds?
    dsimp only
    rw [FieldKey.ofText_of_unmarked hunmarked, ← hfield]
    rfl
  have hmatches : triggerMatches "card_field_value" config (some context) =
      newValueFits operator context.fieldValue value := by
    unfold triggerMatches
    rw [TriggerConfig.ofJson?_iff.mpr hconfig]
    unfold TriggerConfig.appliesTo
    dsimp only
    rw [hkey, fieldOperator_shared hshared, beq_self_eq_true, Bool.true_and]
  rw [Conditions.hold?_single, Conditions.ruleHolds?, Rule.ofJson?_eq_some_iff.mpr hrule]
  dsimp only
  rw [hholds, hmatches, compare?_indifferent hshared hpresent halike]

/-- A configuration that asks for a tag, of a trigger as of a rule. -/
def Json.tagged : Json :=
  .obj [("fieldKey", .str "tags"), ("operator", .str "contains"), ("value", .str "vip")]

def Json.tags : Json := .arr (["vip lounge", "new"].map .str)

/-- On a card with these tags a trigger and a condition that ask for a tag decide alike. -/
theorem shared_operators_agree_tagged :
    Json.tags ≠ .null ∧ Indifferent "contains" (.str "vip") Json.tags ∧
      compare? "contains" Json.tags (.str "vip") =
        some (newValueFits "contains" Json.tags (.str "vip")) ∧
      Conditions.hold? ⟨.str "AND", [.tagged]⟩
          { id := .zero, title := "Ada", fields := [("tags", Json.tags)] } =
        some (triggerMatches "card_field_value" .tagged
          (some { fieldKey := some "tags", fieldValue := Json.tags })) := by
  have halike : Indifferent "contains" (.str "vip") Json.tags :=
    .texts (by decide) (by decide) (by decide)
  have hpresent : Json.tags ≠ .null := Json.noConfusion
  exact ⟨hpresent, halike, shared_operators_agree.1 _ _ _ (.inr (.inr rfl)) hpresent halike,
    shared_operators_agree.2.2 .tagged .tagged _ _ "tags" "contains" _ _ (.inr (.inr rfl))
      hpresent halike (.cardFieldValue rfl rfl) (.read rfl rfl) (by decide) rfl rfl⟩

/-- In a list of one tag the trigger finds the list's bracket, which is in no tag, and misses a
letter that the list's text escapes. -/
theorem shared_operators_differ :
    (newValueFits "contains" (.arr [.str "vip"]) (.str "[") = true ∧
      compare? "contains" (.arr [.str "vip"]) (.str "[") = some false) ∧
    newValueFits "contains" (.arr [.str "café"]) (.str "café") = false ∧
      compare? "contains" (.arr [.str "café"]) (.str "café") = some true := by
  decide +kernel

end BoardRules
