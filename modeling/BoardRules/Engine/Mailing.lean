import BoardRules.Engine.World
import BoardRules.Url.Basic

/-!
Handing a mail over. Without a mail service the mail is recorded; a service is given the ambient
correlation id in a header, and may refuse.
-/
namespace BoardRules.Engine

def mailLogger : String := "flowlane.automations.dispatch"

/-- The address at which a service is called. One that does not say where it is itself is looked up
from the root. -/
def calledAt (u : Url) : String := if u.isAbsolute then u.text else u.fromRoot

/-- Hands a mail to a service. A reply counts only if it can be told from where it came. -/
def post (service : MailService) (m : Message) : Engine Unit := do
  match Url.parse? service.url with
  | none => raise (.address .malformed)
  | some url =>
    let correlation := (← get).ambient.correlation
    let header := if correlation.isTruthy then correlation else .null
    if correlation.isTruthy then
      match HeaderFault.of? correlation with
      | some f => raise (.header f)
      | none => pure ()
    let n := (← get).mails
    modify fun w => { w with mails := n + 1 }
    emit (.mail (some (calledAt url, header)) m.payload)
    match service.reply n m with
    | .broken reason => raise (.action (.notSent reason))
    | .answered status body =>
      if !url.isAbsolute then raise (.address .relative)
      annotate "http.status_code" (.int status)
      if MailReply.accepts status then
        log .info mailLogger "automation.email.sent"
          [("card_id", .str m.card), ("status_code", .int status)]
      else raise (.action (.notSent body))

def recordMail (m : Message) : Engine Unit := do
  emit (.mail none m.payload)
  log .info mailLogger "automation.email.recorded" [("card_id", .str m.card)]

def send (env : Environment) (m : Message) : Engine Unit :=
  spanning "automation.email.dispatch" do
    annotate "card_id" (.str m.card)
    annotate "correlation_id" (← get).ambient.correlationShown
    match env.mailer with
    | some service => post service m
    | none => recordMail m

end BoardRules.Engine
