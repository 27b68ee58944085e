import Mathlib
import BoardRules.Proofs.Condition.Overflow

/-! What the operators of rules accept. A value is filled or empty; every other operator wants one
that is there and compares it, as text or as a number, with what the rule expects. -/
namespace BoardRules

open BoardRules.Text Decimal

theorem Text.trimChars_eq_nil_iff {cs : List Char} :
    trimChars cs = [] ↔ ∀ c ∈ cs, isBlank c = true := by
  have hdrop : ∀ l : List Char, l.dropWhile isBlank = [] ↔ ∀ c ∈ l, isBlank c = true :=
    fun l => List.dropWhile_eq_nil_iff
  unfold trimChars
  rw [List.reverse_eq_nil_iff, hdrop]
  constructor
  · intro hrest c hc
    by_cases hdropped : c ∈ cs.dropWhile isBlank
    · exact hrest c (List.mem_reverse.mpr hdropped)
    · have hsplit : c ∈ cs.takeWhile isBlank ++ cs.dropWhile isBlank := by
        rwa [List.takeWhile_append_dropWhile]
      rcases List.mem_append.mp hsplit with htaken | hkept
      · exact List.mem_takeWhile_imp htaken
      · exact absurd hkept hdropped
  · intro hall
    rw [(hdrop cs).mpr hall]
    simp

namespace Decimal.Binary64

/-- Where a double stands among the integers, counted in units of the least positive one, with the
infinities at both ends. Not-a-number stands nowhere. -/
def place? : Binary64 → Option (WithBot (WithTop Int))
  | .nan => none
  | .infinity true => some ⊥
  | .infinity false => some ((⊤ : WithTop Int) : WithBot (WithTop Int))
  | .finite s m e => some ((units s m e : WithTop Int) : WithBot (WithTop Int))

theorem lt_iff {x y : Binary64} :
    x.lt y = true ↔ ∃ p q, x.place? = some p ∧ y.place? = some q ∧ p < q := by
  cases x with
  | nan => simp [place?]
  | infinity s =>
    cases y with
    | nan => simp [place?]
    | infinity t => cases s <;> cases t <;> simp [lt, place?]
    | finite t m e => cases s <;> simp [lt, place?]
  | finite s m e =>
    cases y with
    | nan => simp [place?]
    | infinity t =>
      cases t with
      | true => simp [lt, place?]
      | false =>
        have htop : ((units s m e : WithTop Int) : WithBot (WithTop Int)) < (⊤ : WithTop Int) :=
          WithBot.coe_lt_coe.mpr (WithTop.coe_lt_top _)
        simpa [lt, place?] using htop
    | finite t m' e' => simp [lt, place?]

end Decimal.Binary64

namespace Json

/-- Whether there is something in a value: a list or an object is not empty, and the text of any
other value has a character that is not blank. -/
def Filled : Json → Prop
  | .null => False
  | .arr items => items ≠ []
  | .obj es => es ≠ []
  | v => ∃ c ∈ v.toText.toList, isBlank c = false

/-- Whether a text stands in a value's text; in a list, whether it stands in the text of an item. -/
def Mentions (v : Json) (text : String) : Prop :=
  match v with
  | .arr items => ∃ item ∈ items, text.toList <:+: item.toText.toList
  | v => text.toList <:+: v.toText.toList

/-- Whether a value is a number, and where that stands. -/
def IsNumber (v : Json) (place : WithBot (WithTop Int)) : Prop :=
  ∃ x, v.toNumber? = some x ∧ x.place? = some place

theorem isFilled_iff {v : Json} : v.isFilled = true ↔ v.Filled := by
  have htext : ∀ text : String, (!(trimChars text.toList).isEmpty) = true ↔
      ∃ c ∈ text.toList, isBlank c = false := by
    intro text
    rw [Bool.not_eq_true', List.isEmpty_eq_false_iff, Ne, trimChars_eq_nil_iff]
    simp
  cases v with
  | null => simp [Filled]
  | arr items => simp [isFilled, Filled]
  | obj es => simp [isFilled, Filled]
  | _ => exact htext _

theorem containsText_iff {actual expected : Json} :
    Operator.containsText actual expected = true ↔ actual.Mentions expected.toText := by
  cases actual with
  | arr items => simp [Operator.containsText, Mentions, textWithin, occursIn_iff]
  | _ => exact occursIn_iff

theorem IsNumber.ne_null {v : Json} {place : WithBot (WithTop Int)} (h : v.IsNumber place) :
    v ≠ .null := by
  rintro rfl
  obtain ⟨x, hx, hplace⟩ := h
  cases hx
  cases hplace

end Json

namespace Operator

/-- The name under which a rule asks for an operator. -/
def word : Operator → String
  | .isFilled => "is_filled"
  | .isEmpty => "is_empty"
  | .equals => "equals"
  | .notEquals => "not_equals"
  | .contains => "contains"
  | .greaterThan => "greater_than"
  | .lessThan => "less_than"

theorem ofText?_eq_some_iff {name : String} {op : Operator} :
    ofText? name = some op ↔ name = op.word := by
  constructor
  · intro hread
    unfold ofText? at hread
    split at hread <;> cases hread <;> rfl
  · rintro rfl
    cases op <;> rfl

/-- Whether an operator accepts a value, given what it is compared with. -/
inductive Accepts (actual expected : Json) : Operator → Prop where
  | filled (hfilled : actual.Filled) : Accepts actual expected .isFilled
  | empty (hempty : ¬actual.Filled) : Accepts actual expected .isEmpty
  | equal (hpresent : actual ≠ .null) (htext : actual.toText = expected.toText) :
    Accepts actual expected .equals
  | unequal (hpresent : actual ≠ .null) (htext : actual.toText ≠ expected.toText) :
    Accepts actual expected .notEquals
  | mentioned (hpresent : actual ≠ .null) (htext : actual.Mentions expected.toText) :
    Accepts actual expected .contains
  | greater {p q : WithBot (WithTop Int)} (hactual : actual.IsNumber p)
    (hexpected : expected.IsNumber q) (hlt : q < p) : Accepts actual expected .greaterThan
  | less {p q : WithBot (WithTop Int)} (hactual : actual.IsNumber p)
    (hexpected : expected.IsNumber q) (hlt : p < q) : Accepts actual expected .lessThan

variable {op : Operator} {actual expected : Json}

theorem both_true_iff {α : Type} {r : α → α → Bool} {a? b? : Option α} :
    (do let a ← a?; let b ← b?; return r a b) = some true ↔
      ∃ a b, a? = some a ∧ b? = some b ∧ r a b = true := by
  simp only [Option.bind_eq_bind, Option.bind_eq_some_iff, Option.pure_def, Option.some.injEq]
  constructor
  · rintro ⟨a, ha, b, hb, hr⟩
    exact ⟨a, b, ha, hb, hr⟩
  · rintro ⟨a, b, ha, hb, hr⟩
    exact ⟨a, ha, b, hb, hr⟩

theorem isNull_eq_false (h : actual ≠ .null) : actual.isNull = false :=
  Bool.eq_false_iff.mpr fun hnull => h (isNull_iff.mp hnull)

theorem holds?_of_accepts (h : Accepts actual expected op) :
    op.holds? actual expected = some true := by
  unfold holds?
  cases h with
  | filled hfilled => exact congrArg some (Json.isFilled_iff.mpr hfilled)
  | empty hempty =>
    rw [← Json.isFilled_iff, Bool.not_eq_true] at hempty
    rw [hempty]
    rfl
  | equal hpresent htext =>
    rw [isNull_eq_false hpresent]
    exact congrArg some (beq_iff_eq.mpr htext)
  | unequal hpresent htext =>
    rw [isNull_eq_false hpresent]
    exact congrArg some (bne_iff_ne.mpr htext)
  | mentioned hpresent htext =>
    rw [isNull_eq_false hpresent]
    exact congrArg some (Json.containsText_iff.mpr htext)
  | greater hactual hexpected hlt =>
    rw [isNull_eq_false hactual.ne_null]
    obtain ⟨a, ha, hp⟩ := hactual
    obtain ⟨b, hb, hq⟩ := hexpected
    exact both_true_iff.mpr ⟨a, b, ha, hb, Binary64.lt_iff.mpr ⟨_, _, hq, hp, hlt⟩⟩
  | less hactual hexpected hlt =>
    rw [isNull_eq_false hactual.ne_null]
    obtain ⟨a, ha, hp⟩ := hactual
    obtain ⟨b, hb, hq⟩ := hexpected
    exact both_true_iff.mpr ⟨a, b, ha, hb, Binary64.lt_iff.mpr ⟨_, _, hp, hq, hlt⟩⟩

theorem accepts_of_holds? (h : op.holds? actual expected = some true) :
    Accepts actual expected op := by
  unfold holds? at h
  -- null is accepted by one operator alone; for what is there, the branches are the constructors
  by_cases hpresent : actual = .null
  · subst hpresent
    cases op with
    | isEmpty => exact .empty id
    | _ => cases h
  · rw [isNull_eq_false hpresent] at h
    cases op with
    | isFilled => exact .filled (Json.isFilled_iff.mp (Option.some.inj h))
    | isEmpty =>
      refine .empty fun hfilled => ?_
      rw [Json.isFilled_iff.mpr hfilled] at h
      cases h
    | equals => exact .equal hpresent (beq_iff_eq.mp (Option.some.inj h))
    | notEquals => exact .unequal hpresent (bne_iff_ne.mp (Option.some.inj h))
    | contains => exact .mentioned hpresent (Json.containsText_iff.mp (Option.some.inj h))
    | greaterThan =>
      obtain ⟨a, b, ha, hb, hlt⟩ := both_true_iff.mp h
      obtain ⟨q, p, hq, hp, hlt⟩ := Binary64.lt_iff.mp hlt
      exact .greater ⟨a, ha, hp⟩ ⟨b, hb, hq⟩ hlt
    | lessThan =>
      obtain ⟨a, b, ha, hb, hlt⟩ := both_true_iff.mp h
      obtain ⟨p, q, hp, hq, hlt⟩ := Binary64.lt_iff.mp hlt
      exact .less ⟨a, ha, hp⟩ ⟨b, hb, hq⟩ hlt

end Operator

/-- A comparison holds if its name is that of an operator that accepts the value. -/
theorem compare?_eq_true_iff {name : String} {actual expected : Json} :
    compare? name actual expected = some true ↔
      ∃ op : Operator, name = op.word ∧ op.Accepts actual expected := by
  simp only [← Operator.ofText?_eq_some_iff]
  unfold compare?
  cases Operator.ofText? name with
  | none => simp
  | some op =>
    have hholds : op.holds? actual expected = some true ↔ op.Accepts actual expected :=
      ⟨Operator.accepts_of_holds?, Operator.holds?_of_accepts⟩
    simp [hholds]

/-- How the comparisons are related to each other and to the texts and numbers that they compare. -/
structure ComparisonLaws : Prop where
  /-- A value is either filled or empty. -/
  complementary : ∀ actual expected : Json, ∃ b : Bool,
    compare? "is_filled" actual expected = some b ∧ compare? "is_empty" actual expected = some !b
  /-- Null is empty, and that is all it is. -/
  absent : ∀ (name : String) (expected : Json),
    compare? name .null expected = some (name == "is_empty")
  /-- A value that is there has the text of the other one or another text. -/
  opposed : ∀ actual expected : Json, actual ≠ .null →
    compare? "equals" actual expected = some (decide (actual.toText = expected.toText)) ∧
      compare? "not_equals" actual expected = some (decide (actual.toText ≠ expected.toText))
  /-- A value that is there mentions the text of the other one or does not. -/
  mentions : ∀ actual expected : Json, actual ≠ .null → ∃ b : Bool,
    compare? "contains" actual expected = some b ∧ (b = true ↔ actual.Mentions expected.toText)
  /-- Numbers alone are greater or less. -/
  numeric : ∀ (name : String) (actual expected : Json), name = "greater_than" ∨ name = "less_than" →
    compare? name actual expected = some true →
      ∃ p q, actual.IsNumber p ∧ expected.IsNumber q
  /-- One number is greater than another if the other is less. -/
  converse : ∀ actual expected : Json,
    compare? "greater_than" actual expected = some true ↔
      compare? "less_than" expected actual = some true
  /-- Under another name nothing holds. -/
  unknown : ∀ (name : String) (actual expected : Json), (∀ op : Operator, name ≠ op.word) →
    compare? name actual expected = some false

theorem comparisonLaws : ComparisonLaws where
  complementary actual _ := ⟨actual.isFilled, rfl, rfl⟩
  absent name expected := by
    unfold compare?
    cases hread : Operator.ofText? name with
    | none =>
      have hother : name ≠ "is_empty" := by
        rintro rfl
        cases hread
      rw [beq_eq_false_iff_ne.mpr hother]
    | some op =>
      rw [Operator.ofText?_eq_some_iff.mp hread]
      cases op <;> rfl
  opposed actual expected hpresent := by
    constructor
    · change Operator.holds? .equals actual expected = _
      unfold Operator.holds?
      rw [Operator.isNull_eq_false hpresent]
      rfl
    · change Operator.holds? .notEquals actual expected = _
      unfold Operator.holds?
      rw [Operator.isNull_eq_false hpresent]
      exact congrArg some (Bool.eq_iff_iff.mpr (bne_iff_ne.trans decide_eq_true_iff.symm))
  mentions actual expected hpresent := by
    refine ⟨Operator.containsText actual expected, ?_, Json.containsText_iff⟩
    change Operator.holds? .contains actual expected = _
    unfold Operator.holds?
    rw [Operator.isNull_eq_false hpresent]
    rfl
  numeric name actual expected hname hholds := by
    rcases hname with rfl | rfl
    · cases @Operator.accepts_of_holds? .greaterThan _ _ hholds with
      | greater hactual hexpected _ => exact ⟨_, _, hactual, hexpected⟩
    · cases @Operator.accepts_of_holds? .lessThan _ _ hholds with
      | less hactual hexpected _ => exact ⟨_, _, hactual, hexpected⟩
  converse actual expected := by
    constructor
    · intro hholds
      cases @Operator.accepts_of_holds? .greaterThan _ _ hholds with
      | greater hactual hexpected hlt =>
        exact Operator.holds?_of_accepts (.less hexpected hactual hlt)
    · intro hholds
      cases @Operator.accepts_of_holds? .lessThan _ _ hholds with
      | less hactual hexpected hlt =>
        exact Operator.holds?_of_accepts (.greater hexpected hactual hlt)
  unknown name actual expected hother := by
    unfold compare?
    cases hread : Operator.ofText? name with
    | none => rfl
    | some op => exact absurd (Operator.ofText?_eq_some_iff.mp hread) (hother op)

end BoardRules
