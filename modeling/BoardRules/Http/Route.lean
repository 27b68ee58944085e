import BoardRules.Http.Path

/-!
Routes: which request a method and a path stand for.

A path with slashes too many at its end is led to the one without, if that is the path of a route.
-/
namespace BoardRules.Http

inductive Segment where
  | fixed (text : String)
  | parameter (name : String)
deriving Repr, DecidableEq

inductive Route where
  | description
  | guide
  | guideReturn
  | reference
  | card
  | move
  | field
  | submission
  | run
  | logs
  | health
  | metrics
deriving Repr, DecidableEq

namespace Route

def all : List Route :=
  [.description, .guide, .guideReturn, .reference, .card, .move, .field, .submission, .run, .logs,
    .health, .metrics]

def methods : Route → List String
  | .description | .guide | .guideReturn | .reference => ["GET", "HEAD"]
  | .card | .logs | .health | .metrics => ["GET"]
  | .move | .submission | .run => ["POST"]
  | .field => ["PUT"]

def hasBody : Route → Bool
  | .move | .field | .submission | .run => true
  | _ => false

def segments : Route → List Segment
  | .description => [.fixed "openapi.json"]
  | .guide => [.fixed "docs"]
  | .guideReturn => [.fixed "docs", .fixed "oauth2-redirect"]
  | .reference => [.fixed "redoc"]
  | .card => [.fixed "api", .fixed "cards", .parameter "card_id"]
  | .move => [.fixed "api", .fixed "cards", .parameter "card_id", .fixed "move"]
  | .field =>
    [.fixed "api", .fixed "cards", .parameter "card_id", .fixed "fields", .parameter "field_key"]
  | .submission =>
    [.fixed "api", .fixed "cards", .parameter "card_id", .fixed "forms", .parameter "form_id",
      .fixed "submissions"]
  | .run => [.fixed "api", .fixed "automations", .fixed "run"]
  | .logs => [.fixed "api", .fixed "cards", .parameter "card_id", .fixed "automation-logs"]
  | .health => [.fixed "health"]
  | .metrics => [.fixed "metrics"]

def segmentLabel : Segment → String
  | .fixed s => s
  | .parameter name => "\x7b" ++ name ++ "\x7d"

def label (r : Route) : String := String.join (r.segments.map fun s => "/" ++ segmentLabel s)

end Route

abbrev Parameters := List (String × String)

def Parameters.get (ps : Parameters) (name : String) : String := (ps.lookup name).getD ""

/-- Matches the parts of a path. A parameter is not empty; a line feed may follow the last part. -/
def matchSegments : List Segment → List (List Char) → Option Parameters
  | [], [] => some []
  | [.fixed s], [p] => if p = s.toList ∨ p = s.toList ++ ['\n'] then some [] else none
  | .fixed s :: ss, p :: ps => if p = s.toList then matchSegments ss ps else none
  | .parameter name :: ss, p :: ps =>
    if p.isEmpty then none
    else (matchSegments ss ps).map ((name, String.ofList p) :: ·)
  | _, _ => none

/-- The parts of a path between its slashes; none if it does not start with one. -/
def partsOf : List Char → Option (List (List Char))
  | '/' :: cs => some (cs.splitOn '/')
  | _ => none

def Route.match? (r : Route) (path : List Char) : Option Parameters :=
  (partsOf path).bind (matchSegments r.segments)

inductive Target where
  | route (r : Route) (parameters : Parameters)
  | otherMethod (r : Route)
  /-- A path without its last slashes would be that of a route. -/
  | elsewhere (path : List Char)
  | unknown
deriving Repr, DecidableEq

def isKnown (path : List Char) : Bool := Route.all.any fun r => (r.match? path).isSome

def dropLastSlashes (path : List Char) : List Char := (path.reverse.dropWhile (· == '/')).reverse

def Target.of (method : String) (path : List Char) : Target :=
  let hits := Route.all.filterMap fun r => (r.match? path).map (r, ·)
  match hits.find? fun h => h.1.methods.contains method with
  | some (r, ps) => .route r ps
  | none =>
    match hits with
    | (r, _) :: _ => .otherMethod r
    | [] =>
      let trimmed := dropLastSlashes path
      if trimmed ≠ path ∧ isKnown trimmed then .elsewhere trimmed else .unknown

def Target.label? : Target → Option String
  | .route r _ | .otherMethod r => some r.label
  | _ => none

end BoardRules.Http
