import BoardRules.Proofs.Engine.Reading
import BoardRules.Trigger

/-! When a configured trigger applies to what has happened. -/
namespace BoardRules

namespace Entries

variable {es : Entries} {short own : String}

/-- The value of a field under its short name or, where that is missing, under its own. -/
def named? (es : Entries) (short own : String) : Option Json := (es.get? short).or (es.get? own)

theorem named?_self : (es.named? own own).getD .null = es.getD own := by
  unfold named? getD
  cases es.get? own <;> rfl

theorem named?_of_aliased? : (es.aliased? short own).map Prod.snd = es.named? short own := by
  unfold aliased? named?
  cases es.get? short with
  | some v => rfl
  | none => cases es.get? own <;> rfl

theorem required_text_iff {s : String} :
    es.required short own Json.asText = .ok s ↔ es.named? short own = some (.str s) := by
  unfold required
  rw [← named?_of_aliased?]
  cases es.aliased? short own with
  | none => simp [Checked.within, Checked.fail, Except.mapError]
  | some found =>
    obtain ⟨name, v⟩ := found
    cases v <;> simp [Json.asText, Checked.within, Checked.fail, Except.mapError]

/-- A text that may be missing; null says that it is. -/
theorem optional_text_iff {t : Option String} :
    es.optional short own none Json.asText? = .ok t ↔
      (es.named? short own).getD .null = Json.ofText? t := by
  unfold optional
  rw [← named?_of_aliased?]
  cases es.aliased? short own with
  | none => cases t <;> simp [Json.ofText?]
  | some found =>
    obtain ⟨name, v⟩ := found
    cases v <;> cases t <;>
      simp [Json.ofText?, Json.asText?, Checked.within, Checked.fail, Except.mapError]

end Entries

/-- How a field's new value has to compare with the configured one, both as text. Without an
operator, or with an empty one, they have to be equal. -/
inductive Compares : Option String → String → String → Prop where
  | unset (text : String) : Compares none text text
  | blank (text : String) : Compares (some "") text text
  | equal (text : String) : Compares (some "equals") text text
  | unequal {actual expected : String} (hne : actual ≠ expected) :
    Compares (some "not_equals") actual expected
  | within {actual expected : String} (hwithin : expected.toList <:+: actual.toList) :
    Compares (some "contains") actual expected

theorem newValueFits_iff {operator : Option String} {actual expected : Json} :
    newValueFits (fieldOperator operator) actual expected = true ↔
      Compares operator actual.toText expected.toText := by
  have hequals : actual.toText = expected.toText →
      newValueFits "equals" actual expected = true := beq_iff_eq.mpr
  constructor
  · intro hfits
    cases operator with
    | none =>
      have heq : actual.toText = expected.toText := beq_iff_eq.mp hfits
      rw [heq]
      exact .unset _
    | some op =>
      unfold fieldOperator at hfits
      dsimp only at hfits
      split at hfits
      · rename_i hempty
        have heq : actual.toText = expected.toText := beq_iff_eq.mp hfits
        rw [String.isEmpty_iff.mp hempty, heq]
        exact .blank _
      · unfold newValueFits at hfits
        split at hfits
        · rw [beq_iff_eq.mp hfits]
          exact .equal _
        · exact .unequal (bne_iff_ne.mp hfits)
        · exact .within (Text.occursIn_iff.mp hfits)
        · cases hfits
  · generalize hactual : actual.toText = left, hexpected : expected.toText = right
    intro hcompares
    cases hcompares with
    | unset | blank | equal => exact hequals (hactual.trans hexpected.symm)
    | unequal hne =>
      rw [← hactual, ← hexpected] at hne
      exact bne_iff_ne.mpr hne
    | within hwithin =>
      rw [← hactual, ← hexpected] at hwithin
      exact Text.occursIn_iff.mpr hwithin

namespace TriggerConfig

/-- Whether a stored configuration says this of a trigger type. -/
inductive IsRead : String → Entries → TriggerConfig → Prop where
  | manual (es : Entries) : IsRead "manual" es .manual
  | formSubmission {es : Entries} {formId : String}
    (hform : es.named? "formId" "form_id" = some (.str formId)) :
    IsRead "form_submission" es (.formSubmission formId)
  | cardEntersStage {es : Entries} {stageId : String}
    (hstage : es.named? "stageId" "stage_id" = some (.str stageId)) :
    IsRead "card_enters_stage" es (.cardEntersStage stageId)
  | cardFieldValue {es : Entries} {key : String} {operator : Option String}
    (hkey : es.named? "fieldKey" "field_key" = some (.str key))
    (hoperator : es.getD "operator" = Json.ofText? operator) :
    IsRead "card_field_value" es (.cardFieldValue key operator (es.getD "value"))

theorem ofJson?_iff {type : String} {stored : Json} {config : TriggerConfig} :
    ofJson? type stored = some config ↔ IsRead type stored.entries config := by
  constructor
  · intro hread
    unfold ofJson? at hread
    split at hread
    · obtain ⟨formId, hform, hdone⟩ := bind_eq_ok.mp (toOption_eq_some.mp hread)
      cases hdone
      exact .formSubmission (Entries.required_text_iff.mp hform)
    · obtain ⟨stageId, hstage, hdone⟩ := bind_eq_ok.mp (toOption_eq_some.mp hread)
      cases hdone
      exact .cardEntersStage (Entries.required_text_iff.mp hstage)
    · obtain ⟨⟨key, operator⟩, hboth, hdone⟩ := bind_eq_ok.mp (toOption_eq_some.mp hread)
      cases hdone
      obtain ⟨hkey, hoperator⟩ := Checked.both_eq_ok.mp hboth
      have hoperator' := Entries.optional_text_iff.mp hoperator
      rw [Entries.named?_self] at hoperator'
      exact .cardFieldValue (Entries.required_text_iff.mp hkey) hoperator'
    · cases hread
      exact .manual _
    · cases hread
  · intro hread
    cases hread with
    | manual es => rfl
    | formSubmission hform =>
      exact toOption_eq_some.mpr (bind_eq_ok.mpr ⟨_, Entries.required_text_iff.mpr hform, rfl⟩)
    | cardEntersStage hstage =>
      exact toOption_eq_some.mpr (bind_eq_ok.mpr ⟨_, Entries.required_text_iff.mpr hstage, rfl⟩)
    | cardFieldValue hkey hoperator =>
      rw [← Entries.named?_self] at hoperator
      have hboth := Checked.both_eq_ok.mpr
        ⟨Entries.required_text_iff.mpr hkey, Entries.optional_text_iff.mpr hoperator⟩
      exact toOption_eq_some.mpr (bind_eq_ok.mpr ⟨_, hboth, rfl⟩)

/-- Whether a configuration agrees with what is known about the happening. -/
inductive Suits : TriggerConfig → TriggerContext → Prop where
  | manual (context : TriggerContext) : Suits .manual context
  | formSubmission {formId : String} {context : TriggerContext}
    (hform : context.formId = some formId) : Suits (.formSubmission formId) context
  | cardEntersStage {stageId : String} {context : TriggerContext}
    (hstage : context.stageId = some stageId) : Suits (.cardEntersStage stageId) context
  | cardFieldValue {key : String} {operator : Option String} {value : Json}
    {context : TriggerContext} (hkey : context.fieldKey = some key)
    (hcompares : Compares operator context.fieldValue.toText value.toText) :
    Suits (.cardFieldValue key operator value) context

theorem appliesTo_iff {config : TriggerConfig} {context : TriggerContext} :
    config.appliesTo context = true ↔ config.Suits context := by
  cases config with
  | manual => exact ⟨fun _ => .manual context, fun _ => rfl⟩
  | formSubmission formId =>
    constructor
    · intro happlies
      exact .formSubmission (beq_iff_eq.mp happlies).symm
    · intro hsuits
      cases hsuits with
      | formSubmission hform => exact beq_iff_eq.mpr hform.symm
  | cardEntersStage stageId =>
    constructor
    · intro happlies
      exact .cardEntersStage (beq_iff_eq.mp happlies).symm
    · intro hsuits
      cases hsuits with
      | cardEntersStage hstage => exact beq_iff_eq.mpr hstage.symm
  | cardFieldValue key operator value =>
    unfold appliesTo
    rw [Bool.and_eq_true, newValueFits_iff, beq_iff_eq]
    constructor
    · rintro ⟨hkey, hcompares⟩
      exact .cardFieldValue hkey.symm hcompares
    · intro hsuits
      cases hsuits with
      | cardFieldValue hkey hcompares => exact ⟨hkey.symm, hcompares⟩

end TriggerConfig

/-- Whether an automation of a trigger type applies, given its stored configuration and what is
known. Where nothing is known every configuration will do, even one that cannot be read. -/
inductive Applies (type : String) (stored : Json) : Option TriggerContext → Prop where
  | untold : Applies type stored none
  | told {config : TriggerConfig} {context : TriggerContext}
    (hread : TriggerConfig.IsRead type stored.entries config) (hsuits : config.Suits context) :
    Applies type stored (some context)

theorem triggerMatches_iff {type : String} {stored : Json} {context : Option TriggerContext} :
    triggerMatches type stored context = true ↔ Applies type stored context := by
  cases context with
  | none => exact ⟨fun _ => .untold, fun _ => rfl⟩
  | some context =>
    unfold triggerMatches
    cases hread : TriggerConfig.ofJson? type stored with
    | none =>
      constructor
      · intro hmatches
        cases hmatches
      · intro happlies
        cases happlies with
        | told hread' _ =>
          rw [← TriggerConfig.ofJson?_iff, hread] at hread'
          cases hread'
    | some config =>
      constructor
      · intro happlies
        exact .told (TriggerConfig.ofJson?_iff.mp hread) (TriggerConfig.appliesTo_iff.mp happlies)
      · intro happlies
        cases happlies with
        | told hread' hsuits =>
          rw [← TriggerConfig.ofJson?_iff, hread] at hread'
          cases hread'
          exact TriggerConfig.appliesTo_iff.mpr hsuits

end BoardRules
