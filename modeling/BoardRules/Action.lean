import BoardRules.Validation
import BoardRules.Json.Literal

/-!
Actions of an automation, and why one fails. An action is stored as an object with a type and a
configuration; what it does when it is carried out stands elsewhere.
-/
namespace BoardRules

inductive Action where
  | sendFormLink (formId : String) (recipientField templateId : Option String)
  | sendEmail (templateId recipientField formId : Option String)
  | moveCard (targetStageId : String)
  | updateField (fieldKey : String) (value : Json)
deriving DecidableEq

inductive Missing where
  | card
  | form
  | template
  | targetStage
deriving Repr, DecidableEq

/-- Why a single action fails. Such a failure is recorded and does not end the run. -/
inductive ActionFailure where
  | notFound (what : Missing)
  | noRecipient
  | notSent (reason : String)
  | unknownType (shown : String)
  | badConfig (type : String) (places : List (List LocStep))
deriving Repr, DecidableEq

namespace ActionFailure

def code : ActionFailure → String
  | .notFound _ => "NOT_FOUND"
  | .noRecipient => "VALIDATION_MISSING"
  | .notSent _ => "DISPATCH_FAILURE"
  | .unknownType _ | .badConfig _ _ => "INVALID_ACTION"

def kind : ActionFailure → String
  | .notFound _ => "NotFoundError"
  | .noRecipient => "ValidationMissingError"
  | .notSent _ => "DispatchFailureError"
  | .unknownType _ | .badConfig _ _ => "InvalidActionError"

def placeText (place : List LocStep) : String := ".".intercalate (place.map LocStep.text)

def message : ActionFailure → String
  | .notFound .card => "Card not found"
  | .notFound .form => "Form not found"
  | .notFound .template => "Email template not found"
  | .notFound .targetStage => "Target stage not found"
  | .noRecipient =>
    "No recipient email found. Set a recipient field on the action or a default To address on " ++
      "the template."
  | .notSent reason => "Failed to send email: " ++ reason
  | .unknownType shown => "Unknown action type: " ++ shown
  | .badConfig type places =>
    "Invalid " ++ type ++ " configuration: " ++ ", ".intercalate (places.map placeText)

end ActionFailure

namespace Action

def sendFormLinkOf (es : Entries) : Checked Action := do
  let (formId, recipientField, templateId) ← (es.required "formId" "form_id" Json.asText).both
    ((es.optional "recipientField" "recipient_field" none Json.asText?).both
      (es.optional "templateId" "template_id" none Json.asText?))
  return .sendFormLink formId recipientField templateId

def sendEmailOf (es : Entries) : Checked Action := do
  let (templateId, recipientField, formId) ←
    (es.optional "templateId" "template_id" none Json.asText?).both
      ((es.optional "recipientField" "recipient_field" none Json.asText?).both
        (es.optional "formId" "form_id" none Json.asText?))
  return .sendEmail templateId recipientField formId

def moveCardOf (es : Entries) : Checked Action := do
  return .moveCard (← es.required "targetStageId" "target_stage_id" Json.asText)

def nonemptyText (v : Json) : Checked String := do
  let s ← v.asText
  if s.isEmpty then .fail .tooShort else return s

def updateFieldOf (es : Entries) : Checked Action := do
  let key ← es.required "fieldKey" "field_key" nonemptyText
  return .updateField key (es.getD "value")

def reader? : String → Option (Entries → Checked Action)
  | "send_form_link" => some sendFormLinkOf
  | "send_email" => some sendEmailOf
  | "move_card" => some moveCardOf
  | "update_field" => some updateFieldOf
  | _ => none

def configured (type : String) (read : Entries → Checked Action) (config : Option Json) :
    Checked Action :=
  ((match config with
    | none => Checked.fail .missing
    | some (.obj es) => read es
    | some _ => Checked.fail .notRecord).within (.key "config")).within (.key type)

def ofJson (payload : Json) : Except ActionFailure Action :=
  let type := payload.entries.getD "type"
  match type.text?.bind fun t => (reader? t).map (t, ·) with
  | none => .error (.unknownType type.shown)
  | some (t, read) =>
    (configured t read (payload.entries.get? "config")).mapError
      fun es => .badConfig t (es.map FieldError.loc)

def recordedType (payload : Json) : String :=
  ((payload.entries.getD "type").orElse (.str "unknown")).shown

/-- The configuration of a stored action as records show it: an object, the empty one if there is no
other. -/
def recordedConfig (payload : Json) : Entries := (payload.entries.getD "config").entries

end Action

inductive ActionOutcome where
  | success (result : Entries)
  | error (message : String)
deriving DecidableEq

structure ActionRecord where
  type : String
  config : Entries
  outcome : ActionOutcome
deriving DecidableEq

namespace ActionOutcome

def status : ActionOutcome → String
  | .success _ => "success"
  | .error _ => "error"

def error? : ActionOutcome → Option String
  | .success _ => none
  | .error message => some message

end ActionOutcome

namespace ActionRecord

def error? (r : ActionRecord) : Option String := r.outcome.error?

def logEntry (r : ActionRecord) : Json :=
  .obj ([("type", .str r.type), ("config", .obj r.config), ("status", .str r.outcome.status)] ++
    match r.outcome with
    | .success result => [("result", .obj result)]
    | .error message => [("error", .str message)])

def toJson (r : ActionRecord) : Json :=
  let (result, error) := match r.outcome with
    | .success result => (Json.obj result, Json.null)
    | .error message => (Json.null, Json.str message)
  .obj [("type", .str r.type), ("config", .obj r.config), ("status", .str r.outcome.status),
    ("result", result), ("error", error)]

def freeValues (r : ActionRecord) : List Json :=
  r.config.map Prod.snd ++
    match r.outcome with
    | .success result => result.map Prod.snd
    | .error _ => []

end ActionRecord
end BoardRules
