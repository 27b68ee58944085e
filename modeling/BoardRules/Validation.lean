import BoardRules.Uuid

/-!
Checking values from outside against the fields a record needs. A check collects the faults of all
fields, in the order in which the record names its fields.

A stored record may write a field by its short name or by its own; where both are present the short
name counts.
-/
namespace BoardRules

inductive Problem where
  | missing
  | notText
  | tooShort
  | tooLong
  | notObject
  | notList
  | notAttributes
  | notRecord
  | notBool
  | unknownChoice
  | uuidText
  | uuidType
  | jsonText
  | integerText
  | integerSize
  | doubleText
  | booleanText
deriving Repr, DecidableEq

def Problem.code : Problem → String
  | .missing => "missing"
  | .notText => "string_type"
  | .tooShort => "string_too_short"
  | .tooLong => "string_too_long"
  | .notObject => "dict_type"
  | .notList => "list_type"
  | .notAttributes => "model_attributes_type"
  | .notRecord => "model_type"
  | .notBool => "bool_type"
  | .unknownChoice => "literal_error"
  | .uuidText => "uuid_parsing"
  | .uuidType => "uuid_type"
  | .jsonText => "json_invalid"
  | .integerText => "int_parsing"
  | .integerSize => "int_parsing_size"
  | .doubleText => "float_parsing"
  | .booleanText => "bool_parsing"

inductive LocStep where
  | key (name : String)
  | index (i : Int)
deriving Repr, DecidableEq

def LocStep.text : LocStep → String
  | .key k => k
  | .index i => Decimal.intText i

structure FieldError where
  loc : List LocStep
  problem : Problem
deriving Repr, DecidableEq

def FieldError.within (step : LocStep) (e : FieldError) : FieldError :=
  { e with loc := step :: e.loc }

/-- A checked value, or all that is wrong with it. -/
abbrev Checked (α : Type) := Except (List FieldError) α

namespace Checked

variable {α β : Type}

def fail (p : Problem) : Checked α := .error [⟨[], p⟩]

def errors : Checked α → List FieldError
  | .ok _ => []
  | .error es => es

def both (a : Checked α) (b : Checked β) : Checked (α × β) :=
  match a, b with
  | .ok x, .ok y => .ok (x, y)
  | a, b => .error (errors a ++ errors b)

def within (step : LocStep) (c : Checked α) : Checked α :=
  c.mapError fun es => es.map (FieldError.within step)

theorem both_eq_ok {a : Checked α} {b : Checked β} {x : α} {y : β} :
    both a b = .ok (x, y) ↔ a = .ok x ∧ b = .ok y := by
  cases a <;> cases b <;> simp [both]

end Checked

namespace Json

def asText : Json → Checked String
  | .str s => .ok s
  | _ => .fail .notText

def asText? : Json → Checked (Option String)
  | .null => .ok none
  | .str s => .ok (some s)
  | _ => .fail .notText

def asUuid : Json → Checked Uuid
  | .str s =>
    match Uuid.ofStrict? s with
    | some u => .ok u
    | none => .fail .uuidText
  | _ => .fail .uuidType

def asEntries : Json → Checked Entries
  | .obj es => .ok es
  | _ => .fail .notObject

end Json

namespace Entries

variable {α : Type}

/-- The value of a field that has a short name and its own name, with the name it was found by. -/
def aliased? (es : Entries) (short own : String) : Option (String × Json) :=
  match es.get? short with
  | some v => some (short, v)
  | none => (es.get? own).map (own, ·)

def required (es : Entries) (short own : String) (check : Json → Checked α) : Checked α :=
  match es.aliased? short own with
  | some (name, v) => (check v).within (.key name)
  | none => (Checked.fail .missing).within (.key short)

def optional (es : Entries) (short own : String) (default : α) (check : Json → Checked α) :
    Checked α :=
  match es.aliased? short own with
  | some (name, v) => (check v).within (.key name)
  | none => .ok default

end Entries
end BoardRules
