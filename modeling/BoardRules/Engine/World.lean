import BoardRules.Ambient
import BoardRules.Engine.Fault
import BoardRules.LogRecord
import BoardRules.Mail

/-!
The world that the engine works in, and the ways in which it acts there.

An engine program is a computation that may end in a fault; what it did to the world before the
fault stays done. Everything that can be seen from outside is an effect in the trace. The ambient
context and the span of work under way are changed for a part of a program only: whichever way that
part ends, they are afterwards what they were before.
-/
namespace BoardRules

structure Span where
  name : String
  attributes : Entries := []
  failure : Option String := none

/-- Something that can be seen from outside. -/
inductive Effect where
  | log (line : LogLine)
  | count (counter : String) (labels : List (String × String))
  | span (span : Span) (parent : Option String)
  /-- The server is through with a request; the label names its method and route. -/
  | served (label : String) (correlation : Json)
  /-- A mail is handed over: to a service at an address, with a correlation id in the header. -/
  | mail (service : Option (String × Json)) (payload : Entries)
  /-- A cascade is handed over, to be run in this process; whether it was accepted. -/
  | cascade (request : CascadeRequest) (accepted : Bool)
  | job (request : CascadeRequest)
  | event (envelope : Entries)

structure World where
  store : Store := {}
  ambient : Ambient := {}
  spans : List Span := []
  trace : List Effect := []
  queue : List CascadeRequest := []
  step : Nat := 0
  tick : Nat := 0
  accesses : Nat := 0
  mails : Nat := 0
  submitted : Nat := 0

/-- What the engine depends on and does not change. -/
structure Environment where
  baseUrl : String
  maxDepth : Int
  /-- The mail service; without one mails are only recorded. -/
  mailer : Option MailService := none
  storageFails : Nat → Bool := fun _ => false
  boardFails : Bool := false
  misconfigured : List FieldError := []

abbrev Engine := ExceptT Fault (StateM World)

namespace Engine

variable {α : Type}

def exec (body : Engine α) (w : World) : Except Fault α × World := StateT.run (ExceptT.run body) w

def raise (f : Fault) : Engine α := throw f

def ofExcept : Except Fault α → Engine α
  | .ok a => pure a
  | .error f => raise f

/-- How a program ends; a fault does not end the program around it. -/
def outcome (body : Engine α) : Engine (Except Fault α) := ExceptT.mk do
  return .ok (← body.run)

def emit (e : Effect) : Engine Unit := modify fun w => { w with trace := e :: w.trace }

def log (level : LogLevel) (logger message : String) (fields : Entries) : Engine Unit := do
  emit (.log { level, logger, message, correlation := (← get).ambient.correlation, fields })

def logFault (logger message : String) (fields : Entries) : Engine Unit := do
  let correlation := (← get).ambient.correlation
  emit (.log { level := .error, logger, message, correlation, fields, traced := true })

def count (counter : String) (labels : List (String × String)) : Engine Unit :=
  emit (.count counter labels)

def now : Engine Moment := do
  let w ← get
  set { w with tick := w.tick + 1 }
  return .live w.step w.tick

def withAmbient (change : Ambient → Ambient) (body : Engine α) : Engine α := do
  let before := (← get).ambient
  modify fun w => { w with ambient := change before }
  let result ← outcome body
  modify fun w => { w with ambient := before }
  ofExcept result

def withCorrelation (correlation : Json) (body : Engine α) : Engine α :=
  withAmbient (fun a => { a with correlation }) body

def withDepth (depth : Int) (body : Engine α) : Engine α :=
  withAmbient (fun a => { a with depth := some depth }) body

/-- What a span can show of a value: texts, numbers, booleans, and lists of one of these. -/
def attributeEntry (key : String) (v : Json) : Entries :=
  match v with
  | .bool _ | .int _ | .float _ | .str _ => [(key, v)]
  | .arr items =>
    let types := (items.filter (!·.isNull)).map Json.typeName
    let plain := types.all fun t => t != "list" && t != "dict" && some t == types.head?
    if plain then [(key, v)] else []
  | _ => []

def annotate (key : String) (v : Json) : Engine Unit :=
  modify fun w =>
    match w.spans with
    | s :: ss =>
      { w with spans := { s with attributes := s.attributes ++ attributeEntry key v } :: ss }
    | [] => w

def markFailed (description : String) : Engine Unit :=
  modify fun w =>
    match w.spans with
    | s :: ss => { w with spans := { s with failure := some description } :: ss }
    | [] => w

def closeSpan (fault : Option Fault) : Engine Unit :=
  modify fun w =>
    match w.spans with
    | s :: ss =>
      let s := match fault with
        | some f => { s with failure := some (f.kind ++ ": " ++ f.message) }
        | none => s
      { w with spans := ss, trace := .span s (ss.head?.map Span.name) :: w.trace }
    | [] => w

def faultOf : Except Fault α → Option Fault
  | .ok _ => none
  | .error f => some f

def spanning (name : String) (body : Engine α) : Engine α := do
  modify fun w => { w with spans := { name } :: w.spans }
  let result ← outcome body
  closeSpan (faultOf result)
  ofExcept result

end Engine
end BoardRules
