import BoardRules.Json.Print
import BoardRules.Json.Shape
import BoardRules.Ambient
import BoardRules.Text.Percent

/-!
Log records and the lines they are written as. A line is one JSON object in printable ASCII; of a
record's attributes it shows those on a fixed list and no others, so a record cannot leak what it
carries by accident, nor fake a line of its own.
-/
namespace BoardRules

def knownFields : List String :=
  ["method", "path", "status_code", "duration_ms", "event_name", "automation_id",
   "automation_name", "card_id", "pipe_id", "stage_id", "trigger_type", "action_type",
   "action_index", "status", "cascade_depth", "max_depth", "reason", "error"]

def errorLimit : Nat := 500

def cutError (s : String) : String := String.ofList (s.toList.take errorLimit)

def shownField (e : String × Json) : String × Json :=
  match e with
  | ("error", .str s) => ("error", .str (cutError s))
  | e => e

def shownFields (attributes : Entries) : Entries :=
  (attributes.filter fun e => knownFields.contains e.1).map shownField

inductive RecordFault where
  | message (f : Text.FillFault)
  | noArguments
  | noItems
  | tooShort
  | keyed
  | noException
deriving Repr, DecidableEq

/-- The text of the exception that a record carries, if it carries one. An exception is given by its
type, its value and its trace; without value and trace it is none. -/
def exceptionText? (v : Json) : Except RecordFault (Option String) :=
  if !v.isTruthy then .ok none
  else
    match v with
    | .arr (_ :: .null :: .null :: _) => .ok (some "NoneType: None")
    | .arr (_ :: _ :: _ :: _) => .error .noException
    | .arr _ => .error .tooShort
    | .str s => .error (if s.length < 3 then .tooShort else .noException)
    | .obj _ => .error .keyed
    | _ => .error .noItems

/-- A log record. The attributes hold everything attached to it, its own level, name and message
among them. -/
structure LogRecord where
  attributes : Entries
  arguments : List Json := []
  exception : Option String := none

namespace LogRecord

def level (r : LogRecord) : Json := (r.attributes.get? "levelname").getD (.str "Level None")

def logger (r : LogRecord) : Json := r.attributes.getD "name"

def message (r : LogRecord) : Except Text.FillFault String :=
  Text.fillMessage ((r.attributes.get? "msg").getD (.str "")).shown r.arguments

def argumentsOf (attributes : Entries) : Except RecordFault (List Json) :=
  (attributes.getD "args").toItems.mapError fun _ => .noArguments

/-- A record as it is created: without a correlation id of its own it takes the ambient one. -/
def created (r : LogRecord) (a : Ambient) : LogRecord :=
  match r.attributes.get? "correlation_id" with
  | some _ => r
  | none => { r with attributes := r.attributes.put "correlation_id" a.correlation }

/-- A record after the filter that replaces an empty correlation id by the ambient one. -/
def filtered (r : LogRecord) (a : Ambient) : LogRecord :=
  if (r.attributes.getD "correlation_id").isTruthy then r
  else { r with attributes := r.attributes.put "correlation_id" a.correlation }

def fields (r : LogRecord) : Entries :=
  shownFields r.attributes ++
    match r.exception with
    | some text => [("exception", .str text)]
    | none => []

def toJson (r : LogRecord) (time : String) : Except Text.FillFault Json := do
  let message ← r.message
  return .obj [("ts", .str time), ("level", r.level), ("logger", r.logger), ("msg", .str message),
    ("correlation_id", r.attributes.getD "correlation_id"), ("fields", .obj r.fields)]

def line (r : LogRecord) (time : String) : Except Text.FillFault String :=
  (r.toJson time).map Json.spaced

/-- The line of a record of which only the attributes are known: its arguments and its exception are
read from them, the exception after the message. -/
def lineOf (attributes : Entries) (time : String) (complete : LogRecord → LogRecord) :
    Except RecordFault String := do
  let r := complete { attributes, arguments := ← argumentsOf attributes }
  let _ ← r.message.mapError RecordFault.message
  let exception ← exceptionText? (attributes.getD "exc_info")
  (line { r with exception } time).mapError RecordFault.message

end LogRecord

inductive LogLevel where
  | info
  | warning
  | error
deriving Repr, DecidableEq

def LogLevel.name : LogLevel → String
  | .info => "INFO"
  | .warning => "WARNING"
  | .error => "ERROR"

structure LogLine where
  level : LogLevel
  logger : String
  message : String
  correlation : Json
  fields : Entries
  traced : Bool := false

def LogLine.toJson (l : LogLine) : Json :=
  .obj [("level", .str l.level.name), ("logger", .str l.logger), ("msg", .str l.message),
    ("correlation_id", l.correlation),
    ("fields", .obj (shownFields l.fields ++ if l.traced then [("exception", .bool true)] else []))]

end BoardRules
