import BoardRules.Condition
import BoardRules.Engine.Mailing
import BoardRules.Engine.Scheduling
import BoardRules.Template

/-!
Carrying out actions. An action is tried once; its failure becomes a record. Only a fault that is
not the action's own, one of storage above all, goes further.
-/
namespace BoardRules

structure ActionContext where
  card : RowRef
  automation : Uuid
  depth : Int := 0

namespace Engine

def actionLogger : String := "flowlane.automations.actions"

def failWith {α : Type} (f : ActionFailure) : Engine α := raise (.action f)

def required {α : Type} (what : Missing) : Option α → Engine α
  | some a => return a
  | none => failWith (.notFound what)

def requireCard (env : Environment) (card : RowRef) : Engine CardView := do
  required .card (← loadCard env card)

def requireTemplate (env : Environment) (id : String) : Engine TemplateRow := do
  required .template (← loadTemplate env (.ofText id))

def given? (s : Option String) : Option String := s.filter (!·.isEmpty)

def fieldRecipient? (card : CardView) (field : Option String) : Option String :=
  (given? field).bind fun key =>
    let value := card.fields.getD key
    if value.isFilled then some (Text.trim value.shown) else none

def templateRecipient? (template : Option TemplateRow) : Option String :=
  (template.bind TemplateRow.toEmail).bind fun address =>
    given? (some (Text.trim address))

/-- The recipient of an action's mail: from the card's field if it is filled in, else from the
template. -/
def recipient (card : CardView) (field : Option String) (template : Option TemplateRow) :
    Engine String :=
  match fieldRecipient? card field with
  | some r => return r
  | none =>
    match templateRecipient? template with
    | some r => return r
    | none => failWith .noRecipient

def renderContext (card : CardView) (form : Option (FormView × String)) : RenderContext where
  card := some [("title", .str card.title), ("description", Json.ofText? card.description),
    ("fields", .obj card.fields)]
  form := form.map fun (f, link) =>
    [("id", .str f.id.text), ("name", .str f.name), ("link", .str link)]
  stage := card.stage.map fun s => [("name", .str s.name)]
  pipe := card.stage.map fun s => [("name", .str s.pipeName)]

def formOf? (env : Environment) (card : CardView) (formId : String) : Option (FormView × String) :=
  (card.stage.bind fun s => s.findForm? formId).map fun f =>
    (f, formLink env.baseUrl card.id.text f.id.text)

def messageTo (card : CardView) (address subject body : String) (template : Option TemplateRow) :
    Message where
  recipient := address
  subject := subject
  body := body
  card := card.id.text
  fromEmail := template.bind TemplateRow.fromEmail
  fromName := template.bind TemplateRow.fromName
  cc := template.bind TemplateRow.cc
  bcc := template.bind TemplateRow.bcc

def linkMail (card : CardView) (form : FormView × String) : Option TemplateRow → String × String
  | some t =>
    let context := renderContext card (some form)
    (context.render t.subject, context.render t.body)
  | none =>
    ("Action Required: Please fill out " ++ form.1.name, defaultLinkBody form.1.name form.2)

def sendFormLink (env : Environment) (ctx : ActionContext) (formId : String)
    (recipientField templateId : Option String) : Engine Entries := do
  let card ← requireCard env ctx.card
  let template ←
    match given? templateId with
    | some id => some <$> requireTemplate env id
    | none => pure none
  let address ← recipient card recipientField template
  let form ← required .form (formOf? env card formId)
  let (subject, body) := linkMail card form template
  send env (messageTo card address subject body template)
  return [("recipientEmail", .str address), ("formLink", .str form.2),
    ("templateUsed", Json.ofText? (template.map TemplateRow.name))]

def sendEmail (env : Environment) (ctx : ActionContext)
    (templateId recipientField formId : Option String) : Engine Entries := do
  match given? templateId with
  | none => failWith (.notFound .template)
  | some id =>
    let template ← requireTemplate env id
    let card ← requireCard env ctx.card
    let address ← recipient card recipientField (some template)
    let context := renderContext card ((given? formId).bind (formOf? env card))
    let subject := context.render template.subject
    let body := context.render template.body
    send env (messageTo card address subject body (some template))
    return [("recipientEmail", .str address), ("templateId", .str template.id.text),
      ("subject", .str subject)]

def moveToStage (env : Environment) (handOver : HandOver) (ctx : ActionContext)
    (targetId : String) : Engine Entries := do
  let card ← requireCard env ctx.card
  let target ← required .targetStage (← loadStage env (.ofText targetId))
  let move ← moveCard env (.ofUuid card.id) target
  log .info actionLogger "automation.card.moved"
    [("card_id", .str card.id.text), ("stage_id", .str target.id.text),
      ("automation_id", .str ctx.automation.text)]
  let scheduled ← scheduleCascade env handOver move ctx.depth
  return [("movedFrom", Json.ofText? move.fromName), ("movedTo", .str move.toName),
    ("targetStageId", .str move.toStage.text), ("cascadeScheduled", .bool scheduled)]

/-- Carries out an action; what it tells of its success. -/
def carryOut (env : Environment) (handOver : HandOver) (ctx : ActionContext) :
    Action → Engine Entries
  | .sendFormLink formId recipientField templateId =>
    sendFormLink env ctx formId recipientField templateId
  | .sendEmail templateId recipientField formId =>
    sendEmail env ctx templateId recipientField formId
  | .moveCard targetId => moveToStage env handOver ctx targetId
  | .updateField key value => do
    updateField env ctx.card key value
    return [("fieldKey", .str key), ("newValue", value)]

def attempt (env : Environment) (handOver : HandOver) (ctx : ActionContext) (payload : Json) :
    Engine Entries :=
  match Action.ofJson payload with
  | .ok action => carryOut env handOver ctx action
  | .error f => failWith f

def noteFailure (ctx : ActionContext) (type : String) (f : ActionFailure) : Engine Unit := do
  markFailed f.message
  count "automation_actions_total" [("action_type", type), ("status", "error")]
  log .warning actionLogger "automation.action.failed"
    [("action_type", .str type), ("automation_id", .str ctx.automation.text),
      ("card_id", .str ctx.card.text), ("reason", .str f.code), ("error", .str f.message)]

/-- Tries an action inside its span; an action that fails leaves its message. -/
def tryAction (env : Environment) (handOver : HandOver) (ctx : ActionContext) (payload : Json)
    (type : String) : Engine ActionOutcome := do
  annotate "action_type" (.str type)
  annotate "automation_id" (.str ctx.automation.text)
  annotate "card_id" (.str ctx.card.text)
  annotate "correlation_id" (← get).ambient.correlationShown
  match ← outcome (attempt env handOver ctx payload) with
  | .ok result => return .success result
  | .error (.action f) =>
    noteFailure ctx type f
    return .error f.message
  | .error f => raise f

def perform (env : Environment) (handOver : HandOver) (ctx : ActionContext) (payload : Json) :
    Engine ActionRecord := do
  let type := Action.recordedType payload
  let result ← spanning "automation.action" (tryAction env handOver ctx payload type)
  match result with
  | .success _ => count "automation_actions_total" [("action_type", type), ("status", "success")]
  | .error _ => pure ()
  return ⟨type, Action.recordedConfig payload, result⟩

end Engine
end BoardRules
