import BoardRules.Json.Basic

/-!
Integers as they arrive from outside, where a number may also be written as text: a cascade's depth
is one. A double loses its fraction, a boolean counts as zero or one.
-/
namespace BoardRules

open Decimal

inductive IntegerFault where
  | badText
  | infinite
  | badType
deriving Repr, DecidableEq

namespace Json

def toInteger : Json → Except IntegerFault Int
  | .bool b => .ok (if b then 1 else 0)
  | .int n => .ok n
  | .float (.infinity _) => .error .infinite
  | .float x =>
    match x.truncate? with
    | some n => .ok n
    | none => .error .badText
  | .str s =>
    match readInteger 10 s.toList with
    | some n => .ok n
    | none => .error .badText
  | _ => .error .badType

/-- The depth noted in an event's `meta`: no smaller than zero, and zero where nothing can be read.
An infinity is refused. -/
def notedDepth (noted : Json) : Except IntegerFault Int :=
  match noted with
  | .obj es =>
    match toInteger ((Entries.get? es "cascade_depth").getD (.int 0)) with
    | .ok n => .ok (if 0 ≤ n then n else 0)
    | .error .infinite => .error .infinite
    | .error _ => .ok 0
  | _ => .ok 0

end Json
end BoardRules
