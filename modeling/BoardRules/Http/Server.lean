import BoardRules.Board.Edit
import BoardRules.Http.Command
import BoardRules.Json.Portable
import BoardRules.PathLabel
import BoardRules.Settings

/-!
The server: every request is answered, logged, counted and traced. While it is dealt with its
correlation id is the ambient one; it stands in the reply and in whatever the request sets off.

A fault that nobody expects is answered without a correlation id and without telling what it was.
-/
namespace BoardRules.Http

open BoardRules.Text

structure Site where
  settings : Settings
  env : Environment
  handOver : HandOver

inductive Answer where
  | json (v : Json)
  | problems (errors : List FieldError)
  | text (s : String)
  | families (names : List String)

structure Reply where
  status : Nat
  correlation : Option String
  answer : Answer

abbrev Outcome := Nat × Answer

def meters : List String :=
  ["automation_actions_total counter", "automation_cascade_blocks_total counter",
   "automation_executions_total counter", "automation_run_duration_seconds histogram",
   "automation_runs_total counter", "http_request_duration_seconds histogram",
   "http_requests_total counter"]

def depthLimit : Nat := 255

/-- Shows a value that holds the given values of any shape. Numbers that are not finite are shown as
null. -/
def showing (status : Nat) (v : Json) (free : List Json) : Engine Outcome :=
  if free.any fun x => depthLimit < x.depth then Engine.raise .unshowable
  else return (status, .json v.portable)

/-- The value that an error in a body is about: what stands in the place of the error, or around it
if nothing does. -/
def valueAt (v : Json) : List LocStep → Json
  | [] => v
  | .key k :: steps =>
    match v.entries.get? k with
    | some inner => valueAt inner steps
    | none => v
  | .index i :: steps =>
    match v with
    | .arr xs => if h : i.toNat < xs.length then valueAt xs[i.toNat] steps else v
    | _ => v

/-- Tells what is wrong with a request. The values that are wrong are told as well, and these have
to be portable. -/
def complain (c : Content) (errors : List FieldError) : Engine Outcome :=
  let isTold (e : FieldError) : Bool :=
    match c, e.loc with
    | .value v, .key "body" :: steps => (valueAt v steps).isPortable
    | _, _ => true
  if errors.all isTold then return (422, .problems errors) else Engine.raise .unshowable

def brief (status : Nat) (detail : String) : Outcome :=
  (status, .json (.obj [("detail", .str detail)]))

def envelope (status : Nat) (code message : String) (details : Json) : Engine Outcome := do
  return (status, .json (.obj [("code", .str code), ("message", .str message), ("details", details),
    ("correlation_id", (← get).ambient.correlation)]))

def boardAnswer {α : Type} (status : Nat) (code : String) (shown : α → Json)
    (free : α → List Json) : Except BoardFailure α → Engine Outcome
  | .ok a => showing status (shown a) (free a)
  | .error f => envelope 404 code f.message (.str f.message)

/-- What comes of a request to the automations. Their storage being out of reach is told. -/
def automationAnswer {α : Type} (shown : α → Json) (free : α → List Json) (body : Engine α) :
    Engine Outcome := do
  match ← Engine.outcome body with
  | .ok a => showing 200 (shown a) (free a)
  | .error f =>
    if f.isStorage then
      envelope 503 "automation_storage_unavailable" "automation storage is unavailable"
        (.obj [("error", .str (cutError f.message))])
    else Engine.raise f

def logEntryJson (l : LogRow) : Json :=
  .obj [("card_id", .str l.card.text), ("automation_id", .str l.automation.text),
    ("executed_at", .int l.executedAt.shown), ("status", .str l.status),
    ("trigger_type", .str l.triggerType),
    ("conditions_met", (l.conditionsMet.map .bool).getD .null),
    ("actions_executed", .arr l.actions), ("error_message", Json.ofText? l.error)]

def logFreeValues (l : LogRow) : List Json := l.actions.flatMap fun a => a.entries.map Prod.snd

def healthJson (s : Settings) : Json :=
  .obj [("status", .str "ok"), ("service", .str s.appName), ("environment", .str s.appEnv)]

def execute (site : Site) : Command → Engine Outcome
  | .showCard card => do
    boardAnswer 200 "card_get_failed" CardSheet.toJson CardSheet.freeValues
      (← Board.showCard site.env card)
  | .moveCard card stage => do
    boardAnswer 200 "card_move_failed" CardSheet.toJson CardSheet.freeValues
      (← Board.moveCard site.env site.handOver card stage)
  | .setField card key type value => do
    boardAnswer 200 "card_field_update_failed" CardSheet.toJson CardSheet.freeValues
      (← Board.setField site.env site.handOver card key type value)
  | .submitForm card form responses email => do
    boardAnswer 201 "form_submission_failed" Submission.toJson
      Submission.freeValues (← Board.submitForm site.env site.handOver card form responses email)
  | .run triggerType card pipe occasion =>
    automationAnswer Report.toJson Report.freeValues do
      Engine.run site.env site.handOver triggerType (.ofUuid card) (.ofUuid pipe) occasion
        (← get).ambient.depthOrZero
  | .listLogs card =>
    automationAnswer (fun ls => .arr (ls.map logEntryJson)) (fun ls => ls.flatMap logFreeValues)
      (Engine.listLogs site.env (.ofUuid card))
  | .health => do
    Engine.configured site.env
    return (200, .json (healthJson site.settings))
  | .metrics => do
    Engine.configured site.env
    return if site.settings.metricsEnabled then (200, .families meters) else brief 404 "not found"
  | .manual => return (200, .text "")

/-- Whether a request for a route needs the automations, even if it is not well-formed. A body that
is no JSON is told first. -/
def needsAutomations (route : Route) (c : Content) : Bool :=
  route = .logs || (route = .run && c ≠ .malformed)

def dispatch (site : Site) (r : Request) : Target → Engine Outcome
  | .route route ps => do
    if route.hasBody ∧ r.content = .unreadable then
      return brief 400 "There was an error parsing the body"
    else
      if needsAutomations route r.content then Engine.configured site.env
      match Command.read route ps r.content with
      | .ok command => execute site command
      | .error es => complain r.content es
  | .otherMethod _ => return brief 405 "Method Not Allowed"
  | .elsewhere _ => return (307, .text "")
  | .unknown => return brief 404 "Not Found"

def requestLogger : String := "flowlane.request"

def requestFields (r : Request) (label : String) (status : Nat) : Entries :=
  [("method", .str r.method), ("path", .str label), ("status_code", .int status)]

def countRequest (r : Request) (label : String) (status : Nat) : Engine Unit := do
  Engine.count "http_requests_total"
    [("method", r.method), ("path", label), ("status", Decimal.natText status)]
  Engine.count "http_request_duration_seconds_count" [("method", r.method), ("path", label)]

def conclude (r : Request) (label : String) : Except Fault Outcome → Engine Reply
  | .ok (status, answer) => do
    countRequest r label status
    Engine.log .info requestLogger "http.request" (requestFields r label status)
    return ⟨status, some r.correlation, answer⟩
  | .error _ => do
    countRequest r label 500
    Engine.logFault requestLogger "http.error" (requestFields r label 500)
    return ⟨500, none, .text "Internal Server Error"⟩

def knownMethods : List String :=
  ["GET", "HEAD", "POST", "PUT", "DELETE", "CONNECT", "OPTIONS", "TRACE", "PATCH"]

/-- The name of the span of a request: its method, and the label of its route if it has one. -/
def spanName (r : Request) (t : Target) : String :=
  let method := trim r.method
  let method := if knownMethods.contains method then method else "HTTP"
  match t.label? with
  | some label => method ++ " " ++ label
  | none => method

def serving {α : Type} (r : Request) (t : Target) (body : Engine α) : Engine α := do
  let name := spanName r t
  modify fun w => { w with spans := { name } :: w.spans }
  let result ← Engine.outcome body
  modify fun w => { w with spans := w.spans.tail }
  Engine.emit (.served name (.str r.correlation))
  Engine.ofExcept result

/-- A reply as it arrives: one to a request for the head alone has no body. -/
def delivered (r : Request) (reply : Reply) : Reply :=
  if r.method = "HEAD" then { reply with answer := .text "" } else reply

def respond (site : Site) (r : Request) (path : List Char) : Engine Reply :=
  let t := Target.of r.method path
  let label := t.label?.getD (PathLabel.ofRequest (String.ofList path))
  serving r t do
    Engine.withCorrelation (.str r.correlation) do
      delivered r <$> conclude r label (← Engine.outcome (dispatch site r t))

def redirectLimit : Nat := 20

def follow (site : Site) (r : Request) : Nat → List Char → Engine Reply
  | 0, path => respond site r path
  | fuel + 1, path => do
    let reply ← respond site r path
    match Target.of r.method path with
    | .elsewhere path => follow site r fuel (ledTo path)
    | _ => return reply

/-- Answers a request, once it is clear where it goes and its headers can be sent. Methods are
written in capitals. -/
def serve (site : Site) (r : Request) : Engine Reply := do
  let r := { r with method := r.method.toUpper }
  match (Url.parse? r.target).bind fun u => (escapedPath? u).map (u, ·) with
  | none => Engine.raise (.address .malformed)
  | some (url, path) =>
    if let some f := r.headerFault? then Engine.raise (.header f)
    if let some f := addressFault? url then Engine.raise (.address f)
    follow site r redirectLimit (seenPath path)

end BoardRules.Http
