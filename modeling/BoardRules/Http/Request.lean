import BoardRules.Http.Route
import BoardRules.Json.Encoding
import BoardRules.Text.Lowercase

/-!
Requests as they come in: a method, a target, headers and a body.
-/
namespace BoardRules.Http

open BoardRules.Text

structure Request where
  method : String
  target : String
  headers : Entries := []
  body : String := ""

namespace Request

def header? (r : Request) (name : String) : Option String :=
  (r.headers.find? fun h => lower h.1 == name).bind fun h => h.2.text?

def headerFault? (r : Request) : Option HeaderFault :=
  r.headers.findSome? fun h => (HeaderFault.of? (.str h.1)).or (HeaderFault.of? h.2)

/-- The correlation id of a request: what its header says, or else one made for it. -/
def correlation (r : Request) : String :=
  match r.header? "x-correlation-id" with
  | some id => if id.isEmpty then "generated" else id
  | none => "generated"

/-- Whether a content type is one of JSON: `application/json`, or one with the suffix `+json`. A
type has one slash. -/
def isJsonType (type : String) : Bool :=
  let name := lower (trim (String.ofList (type.toList.takeWhile (· != ';'))))
  match splitFirst (· == '/') name.toList with
  | some (main, sub) =>
    main == "application".toList && !sub.contains '/' &&
      (sub == "json".toList || "+json".toList.isSuffixOf sub)
  | none => false

/-- Whether the body of a request is to be read as JSON; where nothing is said, it is. -/
def isJson (r : Request) : Bool :=
  match r.header? "content-type" with
  | some type => isJsonType type
  | none => true

end Request

inductive Content where
  | nothing
  | value (v : Json)
  | raw
  | malformed
  | unreadable
deriving DecidableEq

/-- How long the integers in a body may be and how deep its values may stand in each other. -/
def bodyLimits : Json.Limits where
  digits := some Decimal.digitLimit
  depth := some 950

def Request.content (r : Request) : Content :=
  if r.body.isEmpty then .nothing
  else if r.isJson then
    match (Json.decode? r.body.toList).map (Json.parse bodyLimits) with
    | some (.ok v) => .value v
    | some (.error .malformed) => .malformed
    | _ => .unreadable
  else .raw

end BoardRules.Http
