import BoardRules.FieldKey
import BoardRules.Validation

/-!
Conditions: a list of rules, each of which compares the value under a key with an expected value,
and whether all of them or any one of them has to hold.

Rules are read one by one, so a malformed rule does not hold and leaves the others alone. The only
way out without an answer is an integer too large to be compared as a number.
-/
namespace BoardRules

inductive Operator where
  | isFilled
  | isEmpty
  | equals
  | notEquals
  | contains
  | greaterThan
  | lessThan
deriving Repr, DecidableEq

namespace Operator

def ofText? : String → Option Operator
  | "is_filled" => some .isFilled
  | "is_empty" => some .isEmpty
  | "equals" => some .equals
  | "not_equals" => some .notEquals
  | "contains" => some .contains
  | "greater_than" => some .greaterThan
  | "less_than" => some .lessThan
  | _ => none

/-- Whether a value contains another as text; a list contains what one of its items contains. -/
def containsText (actual expected : Json) : Bool :=
  match actual with
  | .arr items => items.any (Json.textWithin expected)
  | v => Json.textWithin expected v

/-- Whether a comparison holds; no answer for an integer too large to be a number. A null value
satisfies `isEmpty` alone. -/
def holds? (op : Operator) (actual expected : Json) : Option Bool :=
  match op with
  | .isFilled => some actual.isFilled
  | .isEmpty => some (!actual.isFilled)
  | op =>
    if actual.isNull then some false
    else match op with
      | .equals => some (actual.toText == expected.toText)
      | .notEquals => some (actual.toText != expected.toText)
      | .contains => some (containsText actual expected)
      | .greaterThan => do
        let a ← actual.toNumber?
        let b ← expected.toNumber?
        return b.lt a
      | .lessThan => do
        let a ← actual.toNumber?
        let b ← expected.toNumber?
        return a.lt b
      | .isFilled | .isEmpty => some false

end Operator

/-- Whether the comparison with a given name holds. An unknown one never does. -/
def compare? (operator : String) (actual expected : Json) : Option Bool :=
  match Operator.ofText? operator with
  | some op => op.holds? actual expected
  | none => some false

/-- A rule: the value under a key compared with an expected value. -/
structure Rule where
  key : String
  operator : String
  value : Json
deriving DecidableEq

namespace Rule

def ofJson? : Json → Option Rule
  | .obj es => do
    let key ← (Entries.aliased? es "fieldKey" "field_key").bind (·.2.text?)
    let operator ← (Entries.get? es "operator").bind (·.text?)
    return ⟨key, operator, Entries.getD es "value"⟩
  | _ => none

def holds? (rule : Rule) (card : CardView) : Option Bool :=
  match FieldKey.ofText rule.key with
  | .malformed => some false
  | key => compare? rule.operator (card.value key) rule.value

end Rule

/-- The rules of an automation, not yet read one by one, and how they are joined. -/
structure Conditions where
  logic : Json := .str "AND"
  rules : List Json := []
deriving DecidableEq

namespace Conditions

def ofJson? : Json → Option Conditions
  | .obj es =>
    let logic := (Entries.get? es "logic").getD (.str "AND")
    match Entries.get? es "rules" with
    | none => some ⟨logic, []⟩
    | some (.arr rules) => some ⟨logic, rules⟩
    | some _ => none
  | _ => none

/-- Whether one rule is enough: the logic reads `or`, in either case. -/
def isAny (c : Conditions) : Bool :=
  match (c.logic.orElse (.str "AND")).shown.toList with
  | [a, b] => (a == 'o' || a == 'O') && (b == 'r' || b == 'R')
  | _ => false

def ruleHolds? (card : CardView) (raw : Json) : Option Bool :=
  match Rule.ofJson? raw with
  | some rule => rule.holds? card
  | none => some false

/-- Whether conditions hold for a card. All rules are looked at before they are joined. -/
def hold? (c : Conditions) (card : CardView) : Option Bool := do
  let results ← c.rules.mapM (ruleHolds? card)
  return if c.isAny then results.any id else results.all id

end Conditions

def conditionsGiven (raw : Json) : Bool :=
  match Conditions.ofJson? raw with
  | some c => !c.rules.isEmpty
  | none => false

end BoardRules
