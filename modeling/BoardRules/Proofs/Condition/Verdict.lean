import BoardRules.Proofs.Condition.Operator
import BoardRules.Proofs.Response
import BoardRules.Proofs.Run.Break
import BoardRules.Proofs.Store.Sound
import BoardRules.Proofs.Trigger

/-! What conditions say of a card. They hold if all of their rules are met or, where one is enough,
if some rule is; so neither the order of the rules nor their number of times counts, and a further rule
makes it harder to meet all of them and easier to meet one. -/
namespace BoardRules

/-- Whether a stored rule says this. -/
inductive Rule.IsRead : Json → Rule → Prop where
  | read {es : Entries} {key operator : String}
    (hkey : es.named? "fieldKey" "field_key" = some (.str key))
    (hoperator : es.get? "operator" = some (.str operator)) :
    IsRead (.obj es) ⟨key, operator, es.getD "value"⟩

/-- What a key points to on a card: a field or, where it is a reference, what the latest of the
submissions that it means gives. A malformed key points to nothing. -/
inductive CardView.Points (card : CardView) (key : String) : Json → Prop where
  | field (hunmarked : ¬FieldKey.formMark <+: key.toList) : Points card key (card.fields.getD key)
  | response {name response : String} {v : Json} (hrefers : FieldKey.Refers name response key)
    (hanswer : LatestAnswer response (card.submissions.filter (·.IsMeant name)) v) :
    Points card key v

/-- Whether a stored rule is met by a card. -/
def Rule.Met (card : CardView) (raw : Json) : Prop :=
  ∃ (rule : Rule) (v : Json) (op : Operator), Rule.IsRead raw rule ∧ card.Points rule.key v ∧
    rule.operator = op.word ∧ op.Accepts v rule.value

namespace Conditions

/-- Whether stored conditions say this. Without rules there are none to be met, and without logic
all of them have to be. -/
inductive IsRead : Json → Conditions → Prop where
  | bare {es : Entries} (hrules : es.get? "rules" = none) :
    IsRead (.obj es) ⟨(es.get? "logic").getD (.str "AND"), []⟩
  | ruled {es : Entries} {rules : List Json} (hrules : es.get? "rules" = some (.arr rules)) :
    IsRead (.obj es) ⟨(es.get? "logic").getD (.str "AND"), rules⟩

/-- Whether one rule is enough: in capitals, the logic reads `OR`. No letters but the two and the
small ones have these capitals. -/
def IsEither (c : Conditions) : Prop :=
  c.logic.isTruthy = true ∧ c.logic.shown.toList.map Char.toUpper = "OR".toList

instance : DecidablePred IsEither := fun _ => inferInstanceAs (Decidable (_ ∧ _))

/-- Whether a card meets conditions. -/
def Met (c : Conditions) (card : CardView) : Prop :=
  (c.IsEither ∧ ∃ raw ∈ c.rules, Rule.Met card raw) ∨
    (¬c.IsEither ∧ ∀ raw ∈ c.rules, Rule.Met card raw)

end Conditions

theorem Json.text?_eq_some_iff {v : Json} {s : String} : v.text? = some s ↔ v = .str s := by
  cases v <;> simp [text?]

theorem Rule.ofJson?_eq_some_iff {raw : Json} {rule : Rule} :
    ofJson? raw = some rule ↔ IsRead raw rule := by
  have hnamed : ∀ (es : Entries) (key : String),
      ((es.aliased? "fieldKey" "field_key").bind (·.2.text?) = some key ↔
        es.named? "fieldKey" "field_key" = some (.str key)) := by
    intro es key
    rw [← Entries.named?_of_aliased?, Option.map_eq_some_iff, Option.bind_eq_some_iff]
    simp only [Json.text?_eq_some_iff]
  have hown : ∀ (es : Entries) (operator : String),
      ((es.get? "operator").bind (·.text?) = some operator ↔
        es.get? "operator" = some (.str operator)) := by
    intro es operator
    simp only [Option.bind_eq_some_iff, Json.text?_eq_some_iff, exists_eq_right]
  constructor
  · intro hread
    cases raw with
    | obj es =>
      obtain ⟨key, hkey, hrest⟩ := Option.bind_eq_some_iff.mp hread
      obtain ⟨operator, hoperator, hdone⟩ := Option.bind_eq_some_iff.mp hrest
      cases hdone
      exact .read ((hnamed es key).mp hkey) ((hown es operator).mp hoperator)
    | _ => cases hread
  · intro hread
    cases hread with
    | read hkey hoperator =>
      exact Option.bind_eq_some_iff.mpr ⟨_, (hnamed _ _).mpr hkey,
        Option.bind_eq_some_iff.mpr ⟨_, (hown _ _).mpr hoperator, rfl⟩⟩

theorem CardView.points_iff {card : CardView} {key : String} {v : Json} :
    card.Points key v ↔ FieldKey.ofText key ≠ .malformed ∧ card.value (.ofText key) = v := by
  constructor
  · intro hpoints
    cases hpoints with
    | field hunmarked =>
      rw [FieldKey.ofText_of_unmarked hunmarked]
      exact ⟨FieldKey.noConfusion, rfl⟩
    | response hrefers hanswer =>
      refine ⟨?_, (CardView.value_refers_iff hrefers).mpr hanswer⟩
      rw [FieldKey.ofText_refers hrefers]
      exact FieldKey.noConfusion
  · rintro ⟨hsound, rfl⟩
    by_cases hmark : FieldKey.formMark <+: key.toList
    · obtain ⟨name, response, hrefers⟩ : ∃ name response, FieldKey.Refers name response key := by
        by_contra hnone
        exact hsound (FieldKey.ofText_eq_malformed_iff.mpr ⟨hmark,
          fun name response hrefers => hnone ⟨name, response, hrefers⟩⟩)
      exact .response hrefers ((CardView.value_refers_iff hrefers).mp rfl)
    · rw [FieldKey.ofText_of_unmarked hmark]
      exact .field hmark

theorem Rule.holds?_eq_true_iff {rule : Rule} {card : CardView} :
    rule.holds? card = some true ↔ ∃ (v : Json) (op : Operator),
      card.Points rule.key v ∧ rule.operator = op.word ∧ op.Accepts v rule.value := by
  simp only [CardView.points_iff]
  unfold holds?
  cases hkey : FieldKey.ofText rule.key with
  | malformed => simp
  | _ => simp [compare?_eq_true_iff]

theorem Conditions.ruleHolds?_eq_true_iff {card : CardView} {raw : Json} :
    ruleHolds? card raw = some true ↔ Rule.Met card raw := by
  unfold ruleHolds? Rule.Met
  simp only [← Rule.ofJson?_eq_some_iff]
  cases Rule.ofJson? raw with
  | none => simp
  | some rule => simp [Rule.holds?_eq_true_iff]

namespace Conditions

theorem ofJson?_eq_some_iff {raw : Json} {c : Conditions} :
    ofJson? raw = some c ↔ IsRead raw c := by
  constructor
  · intro hread
    cases raw with
    | obj es =>
      unfold ofJson? at hread
      dsimp only at hread
      split at hread
      · rename_i hrules
        cases hread
        exact .bare hrules
      · rename_i rules hrules
        cases hread
        exact .ruled hrules
      · cases hread
    | _ => cases hread
  · intro hread
    unfold ofJson?
    cases hread with
    | bare hrules =>
      dsimp only
      rw [hrules]
    | ruled hrules =>
      dsimp only
      rw [hrules]

theorem isAny_iff {c : Conditions} : c.isAny = true ↔ c.IsEither := by
  have hletter : ∀ a : Char, ((a == 'o' || a == 'O') = true ↔ a.toUpper = 'O') ∧
      ((a == 'r' || a == 'R') = true ↔ a.toUpper = 'R') := by
    intro a
    unfold Char.toUpper
    split <;> simp only [Bool.or_eq_true, beq_iff_eq, Char.ext_iff] <;> grind
  unfold isAny IsEither Json.orElse
  cases c.logic.isTruthy with
  | false =>
    rw [if_neg Bool.false_ne_true]
    exact iff_of_false (by decide) fun h => Bool.false_ne_true h.1
  | true =>
    rw [if_pos rfl]
    -- which text the logic shows is of no matter from here on, only how many letters it has
    generalize c.logic.shown.toList = letters
    have hword : "OR".toList = ['O', 'R'] := rfl
    rw [hword, List.map_eq_cons_iff]
    split
    · rename_i a b
      rw [Bool.and_eq_true, (hletter a).1, (hletter b).2]
      simp
    · rename_i hother
      refine iff_of_false Bool.false_ne_true ?_
      rintro ⟨-, a, rest, rfl, -, hrest⟩
      obtain ⟨b, none, rfl, -, hnone⟩ := List.map_eq_cons_iff.mp hrest
      rw [List.map_eq_nil_iff.mp hnone] at hother
      exact hother a b rfl

theorem met_of_either {c : Conditions} {card : CardView} (h : c.IsEither) :
    c.Met card ↔ ∃ raw ∈ c.rules, Rule.Met card raw := by
  simp [Met, h]

theorem met_of_all {c : Conditions} {card : CardView} (h : ¬c.IsEither) :
    c.Met card ↔ ∀ raw ∈ c.rules, Rule.Met card raw := by
  simp [Met, h]

section

variable {α β : Type} {l : List α}

theorem mem_of_mapM {f : α → Option β} {bs : List β} {b : β} (h : l.mapM f = some bs) :
    b ∈ bs ↔ ∃ a ∈ l, f a = some b := by
  induction l generalizing bs with
  | nil =>
    cases h
    simp
  | cons a l ih =>
    rw [List.mapM_cons] at h
    obtain ⟨b', hb', hrest⟩ := Option.bind_eq_some_iff.mp h
    obtain ⟨bs', hbs', hdone⟩ := Option.bind_eq_some_iff.mp hrest
    cases hdone
    simp [ih hbs', hb', eq_comm]

variable {f : α → Option Bool} {bs : List Bool}

theorem any_of_mapM (h : l.mapM f = some bs) :
    bs.any id = true ↔ ∃ a ∈ l, f a = some true := by
  rw [List.any_eq_true, ← mem_of_mapM h]
  simp

theorem all_of_mapM (h : l.mapM f = some bs) :
    bs.all id = true ↔ ∀ a ∈ l, f a = some true := by
  rw [List.all_eq_true]
  constructor
  · intro htrue a ha
    -- there would be no list of answers if this item had none
    cases hb : f a with
    | none =>
      rw [mapM_eq_none.mpr ⟨a, ha, hb⟩] at h
      cases h
    | some b => rw [show b = true from htrue b ((mem_of_mapM h).mpr ⟨a, ha, hb⟩)]
  · intro htrue b hb
    obtain ⟨a, ha, hab⟩ := (mem_of_mapM h).mp hb
    rw [htrue a ha] at hab
    exact (Option.some.inj hab).symm

end

/-- Whatever answer there is, it is whether the conditions are met. -/
theorem hold?_iff {c : Conditions} {card : CardView} {b : Bool} (h : c.hold? card = some b) :
    b = true ↔ c.Met card := by
  obtain ⟨results, hresults, hb⟩ := Option.bind_eq_some_iff.mp h
  obtain rfl := Option.some.inj hb
  by_cases heither : c.IsEither
  · rw [if_pos (isAny_iff.mpr heither), any_of_mapM hresults, met_of_either heither]
    simp only [ruleHolds?_eq_true_iff]
  · rw [if_neg (fun hany => heither (isAny_iff.mp hany)), all_of_mapM hresults, met_of_all heither]
    simp only [ruleHolds?_eq_true_iff]

/-- Conditions with the same rules, be it in another order or another number of times, have the same
answer. -/
theorem hold?_congr {c c' : Conditions} {card : CardView} (hlogic : c.IsEither ↔ c'.IsEither)
    (hrules : ∀ raw, raw ∈ c.rules ↔ raw ∈ c'.rules) : c.hold? card = c'.hold? card := by
  have hmet : c.Met card ↔ c'.Met card := by
    simp only [Met, hlogic, hrules]
  -- where one of the two has no answer, a rule overflows, and the other has that rule too
  cases hheld : c.hold? card with
  | none =>
    obtain ⟨raw, hraw, hover⟩ := hold?_eq_none.mp hheld
    exact (hold?_eq_none.mpr ⟨raw, (hrules raw).mp hraw, hover⟩).symm
  | some b =>
    cases hheld' : c'.hold? card with
    | none =>
      obtain ⟨raw, hraw, hover⟩ := hold?_eq_none.mp hheld'
      rw [hold?_eq_none.mpr ⟨raw, (hrules raw).mpr hraw, hover⟩] at hheld
      cases hheld
    | some b' =>
      have hsame : b = true ↔ b' = true :=
        (hold?_iff hheld).trans (hmet.trans (hold?_iff hheld').symm)
      rw [Bool.eq_iff_iff.mpr hsame]

variable {c c' : Conditions} {card : CardView}

/-- A further rule cannot undo that one of the rules is met. -/
theorem Met.grow (h : c.Met card) (heither : c.IsEither) (heither' : c'.IsEither)
    (hrules : ∀ raw ∈ c.rules, raw ∈ c'.rules) : c'.Met card := by
  obtain ⟨raw, hraw, hmet⟩ := (met_of_either heither).mp h
  exact (met_of_either heither').mpr ⟨raw, hrules raw hraw, hmet⟩

/-- If all rules are met, so are all of fewer rules. -/
theorem Met.shrink (h : c'.Met card) (hall : ¬c.IsEither) (hall' : ¬c'.IsEither)
    (hrules : ∀ raw ∈ c.rules, raw ∈ c'.rules) : c.Met card :=
  (met_of_all hall).mpr fun raw hraw => (met_of_all hall').mp h raw (hrules raw hraw)

end Conditions

namespace Engine

variable {env : Environment} {conditions conditions' : Json} {card : RowRef} {w w' : World}

theorem evaluate_iff {b : Bool} (h : exec (evaluate env conditions card) w = (.ok b, w')) :
    b = true ↔ ∃ (c : Conditions) (view : CardView), Conditions.IsRead conditions c ∧
      w.store.viewCard card = .ok (some view) ∧ c.Met view := by
  have hverdict := ((Reads.evaluate conditions card).eq_ok h).2
  simp only [← Conditions.ofJson?_eq_some_iff]
  unfold Store.verdict at hverdict
  cases hread : Conditions.ofJson? conditions with
  | none =>
    rw [hread] at hverdict
    cases hverdict
    simp
  | some c =>
    rw [hread] at hverdict
    obtain ⟨view, hview, hanswer⟩ := bind_eq_ok.mp hverdict
    rw [hview]
    cases view with
    | none =>
      cases hanswer
      simp
    | some view =>
      have hheld : c.hold? view = some b := by
        unfold Conditions.verdictOn at hanswer
        dsimp only at hanswer
        split at hanswer
        · rename_i hheld
          cases hanswer
          exact hheld
        · cases hanswer
      simp [Conditions.hold?_iff hheld]

theorem evaluate_iff_of_read {c : Conditions} {b : Bool} (hread : Conditions.IsRead conditions c)
    (h : exec (evaluate env conditions card) w = (.ok b, w')) :
    b = true ↔ ∃ view, w.store.viewCard card = .ok (some view) ∧ c.Met view := by
  rw [evaluate_iff h]
  simp only [← Conditions.ofJson?_eq_some_iff, Conditions.ofJson?_eq_some_iff.mpr hread]
  simp

theorem evaluate_congr {c c' : Conditions} (hread : Conditions.IsRead conditions c)
    (hread' : Conditions.IsRead conditions' c') (hlogic : c.IsEither ↔ c'.IsEither)
    (hrules : ∀ raw, raw ∈ c.rules ↔ raw ∈ c'.rules) :
    evaluate env conditions card = evaluate env conditions' card := by
  have hheld : ∀ view, c.hold? view = c'.hold? view := fun _ =>
    Conditions.hold?_congr hlogic hrules
  unfold evaluate
  rw [Conditions.ofJson?_eq_some_iff.mpr hread, Conditions.ofJson?_eq_some_iff.mpr hread']
  simp only [hheld]

/-- What conditions come to. Evaluated, they hold if they can be read, the card is there and meets
them; the same rules in another order or number come to the same, and further ones can only turn
what wants all of them to false and what wants one of them to true. -/
theorem conditions_evaluate :
    (∀ (env : Environment) (conditions : Json) (card : RowRef) (w w' : World) (b : Bool),
      exec (evaluate env conditions card) w = (.ok b, w') →
        (b = true ↔ ∃ (c : Conditions) (view : CardView), Conditions.IsRead conditions c ∧
          w.store.viewCard card = .ok (some view) ∧ c.Met view)) ∧
    (∀ (env : Environment) (conditions conditions' : Json) (card : RowRef) (c c' : Conditions),
      Conditions.IsRead conditions c → Conditions.IsRead conditions' c' →
        (c.IsEither ↔ c'.IsEither) → (∀ raw, raw ∈ c.rules ↔ raw ∈ c'.rules) →
          evaluate env conditions card = evaluate env conditions' card) ∧
    (∀ (env : Environment) (conditions conditions' : Json) (card : RowRef) (c c' : Conditions)
      (w w₁ w₂ : World) (b b' : Bool),
      Conditions.IsRead conditions c → Conditions.IsRead conditions' c' →
        (∀ raw ∈ c.rules, raw ∈ c'.rules) →
          exec (evaluate env conditions card) w = (.ok b, w₁) →
            exec (evaluate env conditions' card) w = (.ok b', w₂) →
              (c.IsEither → c'.IsEither → b = true → b' = true) ∧
                (¬c.IsEither → ¬c'.IsEither → b' = true → b = true)) ∧
    ComparisonLaws := by
  refine ⟨fun env conditions card w w' b hexec => evaluate_iff hexec,
    fun env conditions conditions' card c c' hread hread' hlogic hrules =>
      evaluate_congr hread hread' hlogic hrules,
    fun env conditions conditions' card c c' w w₁ w₂ b b' hread hread' hrules hexec hexec' => ?_,
    comparisonLaws⟩
  rw [evaluate_iff_of_read hread hexec, evaluate_iff_of_read hread' hexec']
  constructor
  · rintro heither heither' ⟨view, hview, hmet⟩
    exact ⟨view, hview, hmet.grow heither heither' hrules⟩
  · rintro hall hall' ⟨view, hview, hmet⟩
    exact ⟨view, hview, hmet.shrink hall hall' hrules⟩

end Engine

def Json.joined (logic : String) (rules : List Json) : Json :=
  .obj [("logic", .str logic), ("rules", .arr rules)]

/-- A rule that cannot be read. -/
def Json.unkeyed : Json := .obj [("operator", .str "is_empty")]

/-- A rule on the mail that was given in a form. -/
def Json.mailed : Json :=
  .obj [("field_key", .str "form: CONTACT.mail"), ("operator", .str "contains"),
    ("value", .str "@board")]

namespace Engine

theorem evaluate_sample {conditions : Json} {c : Conditions} {b : Bool}
    (hread : Conditions.ofJson? conditions = some c)
    (hheld : ∃ view, Store.sample.viewCard (.ofUuid ⟨3, by decide⟩) = .ok (some view) ∧
      c.hold? view = some b) :
    ∃ w', exec (evaluate Environment.sample conditions (.ofUuid ⟨3, by decide⟩))
      { store := Store.sample } = (.ok b, w') := by
  obtain ⟨view, hview, hheld⟩ := hheld
  have hverdict : Store.sample.verdict conditions (.ofUuid ⟨3, by decide⟩) = .ok b := by
    unfold Store.verdict
    rw [hread]
    refine bind_eq_ok.mpr ⟨_, hview, ?_⟩
    unfold Conditions.verdictOn
    dsimp only
    rw [hheld]
  have hreads : Reads Environment.sample (evaluate Environment.sample conditions
    (.ofUuid ⟨3, by decide⟩)) _ := Reads.evaluate _ _
  obtain ⟨w', -, hexec⟩ := hreads.answers (fun _ => rfl) { store := Store.sample }
  rw [hverdict] at hexec
  exact ⟨w', hexec⟩

/-- On the small board one of these rules is met, in whatever order they stand, and so not all of
them are. -/
theorem conditions_evaluate_sample :
    (∃ (c : Conditions) (view : CardView),
      Conditions.IsRead (.joined "Or" [.unkeyed, .mailed]) c ∧
        Store.sample.viewCard (.ofUuid ⟨3, by decide⟩) = .ok (some view) ∧ c.Met view) ∧
    evaluate Environment.sample (.joined "Or" [.unkeyed, .mailed]) (.ofUuid ⟨3, by decide⟩) =
      evaluate Environment.sample (.joined "OR" [.mailed, .unkeyed, .mailed])
        (.ofUuid ⟨3, by decide⟩) ∧
    ∃ b w₁ w₂, exec (evaluate Environment.sample (.joined "and" [.unkeyed])
        (.ofUuid ⟨3, by decide⟩)) { store := Store.sample } = (.ok false, w₁) ∧
      exec (evaluate Environment.sample (.joined "and" [.unkeyed, .mailed])
        (.ofUuid ⟨3, by decide⟩)) { store := Store.sample } = (.ok b, w₂) ∧ b = false := by
  obtain ⟨hmet, hsame, hgrow, -⟩ := conditions_evaluate
  obtain ⟨w₀, hany⟩ := @evaluate_sample (.joined "Or" [.unkeyed, .mailed]) _ true rfl
    (by unfold Store.viewCard; exact ⟨_, rfl, by decide +kernel⟩)
  obtain ⟨w₁, hone⟩ := @evaluate_sample (.joined "and" [.unkeyed]) _ false rfl
    (by unfold Store.viewCard; exact ⟨_, rfl, by decide +kernel⟩)
  obtain ⟨w₂, hboth⟩ := @evaluate_sample (.joined "and" [.unkeyed, .mailed]) _ false rfl
    (by unfold Store.viewCard; exact ⟨_, rfl, by decide +kernel⟩)
  refine ⟨(hmet _ _ _ _ _ _ hany).mp rfl, ?_, _, w₁, w₂, hone, hboth, ?_⟩
  · refine hsame _ _ _ _ ⟨.str "Or", [.unkeyed, .mailed]⟩ ⟨.str "OR", [.mailed, .unkeyed, .mailed]⟩
      (.ruled rfl) (.ruled rfl) (iff_of_true (by decide) (by decide)) fun raw => ?_
    simp only [List.mem_cons, List.not_mem_nil, or_false]
    tauto
  · have hshrunk := (hgrow _ _ _ _ ⟨.str "and", [.unkeyed]⟩ ⟨.str "and", [.unkeyed, .mailed]⟩ _ _ _
      _ _ (.ruled rfl) (.ruled rfl) (by simp) hone hboth).2 (by decide) (by decide)
    exact Bool.eq_false_iff.mpr fun hb => Bool.false_ne_true (hshrunk hb)

end Engine
end BoardRules
