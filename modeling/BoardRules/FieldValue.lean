import BoardRules.Json.Literal

/-!
Field values as text and as numbers. Rules compare values by these readings, so a number and the
text that writes it are equal for a rule.
-/
namespace BoardRules.Json

open Decimal BoardRules.Text

/-- A value as text. Null is empty, a double without fraction is written as the integer it equals,
lists and objects as JSON. -/
def toText : Json → String
  | .null => ""
  | .bool b => if b then "true" else "false"
  | .int n => intText n
  | .float x =>
    match x.toInt? with
    | some n => intText n
    | none => x.text Layout.plain
  | .str s => s
  | v => v.compact

/-- A value as a number. Text that writes no number, null, lists and objects are not-a-number. There
is no number for an integer that would round to infinity. -/
def toNumber? : Json → Option Binary64
  | .bool b => some (if b then .finite false (Nat.pow 2 52) (-52) else Binary64.zero false)
  | .int n => Binary64.ofInt? n
  | .float x => some x
  | .str s =>
    match readDecimal (trimChars s.toList) with
    | some r => some (.ofReading r)
    | none => some .nan
  | _ => some .nan

/-- Whether a value is filled in: a list or an object with something in it, or a value whose text is
not blank. -/
def isFilled : Json → Bool
  | .null => false
  | .arr xs => !xs.isEmpty
  | .obj es => !es.isEmpty
  | v => !(trimChars v.toText.toList).isEmpty

def textWithin (needle hay : Json) : Bool :=
  occursIn needle.toText.toList hay.toText.toList

@[simp] theorem isFilled_null : isFilled .null = false := rfl

end BoardRules.Json
