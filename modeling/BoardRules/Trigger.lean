import BoardRules.FieldValue
import BoardRules.Json.Shape
import BoardRules.Validation

/-!
Triggers: what sets an automation off, and whether it applies to what has happened.

Matching is total: a configuration that cannot be read matches nothing, and where nothing is known
about what happened every automation of the trigger type matches.
-/
namespace BoardRules

inductive TriggerConfig where
  | formSubmission (formId : String)
  | cardEntersStage (stageId : String)
  | cardFieldValue (fieldKey : String) (operator : Option String) (value : Json)
  | manual
deriving DecidableEq

namespace TriggerConfig

def formSubmissionOf (es : Entries) : Checked TriggerConfig := do
  return .formSubmission (← es.required "formId" "form_id" Json.asText)

def cardEntersStageOf (es : Entries) : Checked TriggerConfig := do
  return .cardEntersStage (← es.required "stageId" "stage_id" Json.asText)

def cardFieldValueOf (es : Entries) : Checked TriggerConfig := do
  let (key, operator) ← (es.required "fieldKey" "field_key" Json.asText).both
    (es.optional "operator" "operator" none Json.asText?)
  return .cardFieldValue key operator (es.getD "value")

/-- Reads the configuration stored for a trigger type; nothing for an unknown type or for a
configuration that lacks something. What is not an object counts as an empty one. -/
def ofJson? (type : String) (raw : Json) : Option TriggerConfig :=
  match type with
  | "form_submission" => (formSubmissionOf raw.entries).toOption
  | "card_enters_stage" => (cardEntersStageOf raw.entries).toOption
  | "card_field_value" => (cardFieldValueOf raw.entries).toOption
  | "manual" => some .manual
  | _ => none

end TriggerConfig

/-- What is known about the happening that may set automations off. -/
structure TriggerContext where
  formId : Option String := none
  stageId : Option String := none
  fieldKey : Option String := none
  fieldValue : Json := .null
deriving DecidableEq

def TriggerContext.ofJson : Json → Checked TriggerContext
  | .obj es => do
    let (formId, stageId, fieldKey) ←
      (Entries.optional es "formId" "form_id" none Json.asText?).both
        ((Entries.optional es "stageId" "stage_id" none Json.asText?).both
          (Entries.optional es "fieldKey" "field_key" none Json.asText?))
    let fieldValue := ((Entries.aliased? es "fieldValue" "field_value").map Prod.snd).getD .null
    return { formId, stageId, fieldKey, fieldValue }
  | _ => .fail .notRecord

/-- Whether a field's new value compares with the configured one. Only the three operators on text
are known here. -/
def newValueFits (operator : String) (actual expected : Json) : Bool :=
  match operator with
  | "equals" => actual.toText == expected.toText
  | "not_equals" => actual.toText != expected.toText
  | "contains" => Json.textWithin expected actual
  | _ => false

def fieldOperator : Option String → String
  | none => "equals"
  | some op => if op.isEmpty then "equals" else op

def TriggerConfig.appliesTo (config : TriggerConfig) (context : TriggerContext) : Bool :=
  match config with
  | .formSubmission formId => some formId == context.formId
  | .cardEntersStage stageId => some stageId == context.stageId
  | .cardFieldValue key operator value =>
    some key == context.fieldKey &&
      newValueFits (fieldOperator operator) context.fieldValue value
  | .manual => true

/-- Whether an automation of a trigger type with a stored configuration applies to what has
happened. -/
def triggerMatches (type : String) (config : Json) (context : Option TriggerContext) : Bool :=
  match context with
  | none => true
  | some context =>
    match TriggerConfig.ofJson? type config with
    | none => false
    | some config => config.appliesTo context

inductive Occasion where
  | untold
  | told (context : TriggerContext)
  | unreadable (type : String)
deriving DecidableEq

namespace Occasion

def context? : Occasion → Option TriggerContext
  | .told context => some context
  | .untold | .unreadable _ => none

/-- Reads what is told about a happening. Only an object can be wrong; other values go unread. -/
def ofJson : Json → Checked Occasion
  | .null => .ok .untold
  | .obj es => .told <$> TriggerContext.ofJson (.obj es)
  | v => .ok (.unreadable v.typeName)

end Occasion

/-- What a configured trigger looks for first in what is known about the happening. -/
def TriggerConfig.wanted? : TriggerConfig → Option String
  | .formSubmission _ => some "form_id"
  | .cardEntersStage _ => some "stage_id"
  | .cardFieldValue .. => some "field_key"
  | .manual => none

/-- Whether an automation applies on an occasion. Where what is told is unreadable, a trigger that
looks for something in it fails. -/
def Occasion.suits (occasion : Occasion) (type : String) (config : Json) : Except NoMember Bool :=
  match occasion with
  | .unreadable found =>
    match TriggerConfig.ofJson? type config with
    | some config =>
      match config.wanted? with
      | some wanted => .error ⟨found, wanted⟩
      | none => .ok true
    | none => .ok false
  | o => .ok (triggerMatches type config o.context?)

@[simp] theorem Occasion.suits_untold (type : String) (config : Json) :
    Occasion.untold.suits type config = .ok true := rfl

@[simp] theorem Occasion.suits_told (context : TriggerContext) (type : String) (config : Json) :
    (Occasion.told context).suits type config = .ok (triggerMatches type config (some context)) :=
  rfl

@[simp] theorem triggerMatches_none (type : String) (config : Json) :
    triggerMatches type config none = true := rfl

end BoardRules
