import BoardRules.Http.Request
import BoardRules.Trigger

/-!
Commands: what a well-formed request asks for. A request that is not well-formed is answered with
all that is wrong with its path and its body, in this order.
-/
namespace BoardRules.Http

inductive Command where
  | showCard (card : Uuid)
  | moveCard (card stage : Uuid)
  | setField (card : Uuid) (key type : String) (value : Json)
  | submitForm (card form : Uuid) (responses : Entries) (email : Option String)
  | run (triggerType : String) (card pipe : Uuid) (occasion : Occasion)
  | listLogs (card : Uuid)
  | health
  | metrics
  | manual
deriving DecidableEq

def attributes : Json → Checked Entries
  | .obj es => .ok es
  | _ => .fail .notAttributes

def Content.members : Content → Checked Entries
  | .nothing => .fail .missing
  | .value v => attributes v
  | .raw => .fail .notAttributes
  | .malformed | .unreadable => .fail .jsonText

def Parameters.uuid (ps : Parameters) (name : String) : Checked Uuid :=
  ((Json.str (ps.get name)).asUuid.within (.key name)).within (.key "path")

def Content.read {α : Type} (c : Content) (check : Entries → Checked α) : Checked α :=
  (c.members >>= check).within (.key "body")

/-- The length that the type of a field may have at most. -/
def typeLimit : Nat := 32

def fieldType (v : Json) : Checked String := do
  let s ← v.asText
  if s.isEmpty then .fail .tooShort
  else if typeLimit < s.length then .fail .tooLong
  else return s

def triggerTypes : List String :=
  ["form_submission", "card_enters_stage", "card_field_value", "manual"]

def triggerType : Json → Checked String
  | .str s => if triggerTypes.contains s then .ok s else .fail .unknownChoice
  | _ => .fail .unknownChoice

def runOccasion : Json → Checked Occasion
  | .null => .ok .untold
  | v => do Occasion.ofJson (.obj (← attributes v))

namespace Command

def stageOf (es : Entries) : Checked Uuid := es.required "stage_id" "stage_id" Json.asUuid

def fieldOf (es : Entries) : Checked (String × Json) := do
  let type ← es.optional "type" "type" "text" fieldType
  return (type, es.getD "value")

def submissionOf (es : Entries) : Checked (Entries × Option String) :=
  (es.optional "responses" "responses" [] Json.asEntries).both
    (es.optional "submitter_email" "submitter_email" none Json.asText?)

def runOf (es : Entries) : Checked Command := do
  let (type, card, pipe, occasion) ←
    (es.required "trigger_type" "trigger_type" triggerType).both
      ((es.required "card_id" "card_id" Json.asUuid).both
        ((es.required "pipe_id" "pipe_id" Json.asUuid).both
          (es.optional "context" "context" .untold runOccasion)))
  return .run type card pipe occasion

/-- Reads what a request for a route asks for. A body that is no JSON is the only thing told about a
request that has one. -/
def read (r : Route) (ps : Parameters) (c : Content) : Checked Command :=
  match r, c with
  | .card, _ => showCard <$> ps.uuid "card_id"
  | .logs, _ => listLogs <$> ps.uuid "card_id"
  | .health, _ => .ok health
  | .metrics, _ => .ok metrics
  | .description, _ | .guide, _ | .guideReturn, _ | .reference, _ => .ok manual
  | _, .malformed => .error [⟨[.key "body"], .jsonText⟩]
  | .move, c => do
    let (card, stage) ← (ps.uuid "card_id").both (c.read stageOf)
    return moveCard card stage
  | .field, c => do
    let (card, type, value) ← (ps.uuid "card_id").both (c.read fieldOf)
    return setField card (ps.get "field_key") type value
  | .submission, c => do
    let (card, form, responses, email) ←
      (ps.uuid "card_id").both ((ps.uuid "form_id").both (c.read submissionOf))
    return submitForm card form responses email
  | .run, c => c.read runOf

end Command
end BoardRules.Http
