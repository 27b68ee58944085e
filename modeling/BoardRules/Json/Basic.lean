import BoardRules.Decimal.Binary64

/-!
JSON values as fields, responses and rules hold them: integers of any size apart from doubles, and
objects whose members keep their order.

Equality of values is decidable, and `alike` is the coarser equality under which a write changes
nothing: numbers and booleans compare by their numeric value, objects without regard to order.
-/
namespace BoardRules

open Decimal (Binary64)

/-- A JSON value. The keys of an object are expected to differ from each other. -/
inductive Json where
  | null
  | bool (b : Bool)
  | int (n : Int)
  | float (x : Binary64)
  | str (s : String)
  | arr (items : List Json)
  | obj (entries : List (String × Json))
deriving Repr, Inhabited

def fitsWord (n : Int) : Bool := -Int.pow 2 63 ≤ n && n < Int.pow 2 63

abbrev Entries := List (String × Json)

namespace Entries

def get? : Entries → String → Option Json
  | [], _ => none
  | (k, v) :: es, key => if k = key then some v else get? es key

def getD (es : Entries) (key : String) : Json := (es.get? key).getD .null

/-- Sets a key: a known key keeps its place, a new one comes last. -/
def put : Entries → String → Json → Entries
  | [], key, value => [(key, value)]
  | (k, v) :: es, key, value => if k = key then (k, value) :: es else (k, v) :: put es key value

/-- The object with the given members; a repeated key keeps its first place and last value. -/
def ofPairs (pairs : List (String × Json)) : Entries :=
  pairs.foldl (fun es p => es.put p.1 p.2) []

theorem get?_put (es : Entries) (key k : String) (value : Json) :
    (es.put key value).get? k = if k = key then some value else es.get? k := by
  induction es with
  | nil => simp [put, get?, eq_comm]
  | cons e es ih =>
    by_cases h : e.1 = key
    · by_cases hk : e.1 = k <;> simp_all [put, get?, eq_comm]
    · by_cases hk : e.1 = k
      · subst hk; simp [put, get?, h]
      · simp [put, get?, h, hk, ih]

@[simp] theorem get?_put_self (es : Entries) (key : String) (value : Json) :
    (es.put key value).get? key = some value := by simp [get?_put]

end Entries

namespace Json

def empty : Json := .obj []

def ofText? : Option String → Json
  | some s => .str s
  | none => .null

/-- The members of an object; every other value has none. -/
def entries : Json → Entries
  | .obj es => es
  | _ => []

def isObject : Json → Bool
  | .obj _ => true
  | _ => false

def isNull : Json → Bool
  | .null => true
  | _ => false

def text? : Json → Option String
  | .str s => some s
  | _ => none

/-- Whether a value counts as present where a default would replace an absent one: null, false, zero
and everything empty do not. -/
def isTruthy : Json → Bool
  | .null => false
  | .bool b => b
  | .int n => n != 0
  | .float x => x.isNonzero
  | .str s => !s.isEmpty
  | .arr xs => !xs.isEmpty
  | .obj es => !es.isEmpty

def orElse (v default : Json) : Json := if v.isTruthy then v else default

mutual

def same : Json → Json → Bool
  | .null, .null => true
  | .bool a, .bool b => a == b
  | .int a, .int b => a == b
  | .float a, .float b => a == b
  | .str a, .str b => a == b
  | .arr a, .arr b => sameItems a b
  | .obj a, .obj b => sameEntries a b
  | _, _ => false

def sameItems : List Json → List Json → Bool
  | [], [] => true
  | x :: xs, y :: ys => same x y && sameItems xs ys
  | _, _ => false

def sameEntries : List (String × Json) → List (String × Json) → Bool
  | [], [] => true
  | (k, x) :: xs, (l, y) :: ys => k == l && same x y && sameEntries xs ys
  | _, _ => false

end

mutual

theorem same_iff : ∀ a b : Json, same a b = true ↔ a = b
  | .null, b => by cases b <;> simp [same]
  | .bool _, b => by cases b <;> simp [same]
  | .int _, b => by cases b <;> simp [same]
  | .float _, b => by cases b <;> simp [same]
  | .str _, b => by cases b <;> simp [same]
  | .arr xs, b => by cases b <;> simp [same, sameItems_iff xs]
  | .obj es, b => by cases b <;> simp [same, sameEntries_iff es]

theorem sameItems_iff : ∀ a b : List Json, sameItems a b = true ↔ a = b
  | [], b => by cases b <;> simp [sameItems]
  | x :: xs, b => by cases b <;> simp [sameItems, same_iff x, sameItems_iff xs]

theorem sameEntries_iff : ∀ a b : List (String × Json), sameEntries a b = true ↔ a = b
  | [], b => by cases b <;> simp [sameEntries]
  | (k, x) :: xs, b => by
    cases b <;> simp [sameEntries, same_iff x, sameEntries_iff xs, Prod.ext_iff, and_assoc]

end

instance : DecidableEq Json := fun a b => decidable_of_iff _ (same_iff a b)

def asInt? : Json → Option Int
  | .bool b => some (if b then 1 else 0)
  | .int n => some n
  | .float x => x.toInt?
  | _ => none

def alikeNumbers : Json → Json → Bool
  | .float x, .float y => x.eq y
  | a, b => match a.asInt?, b.asInt? with
    | some m, some n => m == n
    | _, _ => false

mutual

/-- Whether replacing one value by the other would change nothing: numbers and booleans compare by
their numeric value, objects by the values of their keys. -/
def alike : Json → Json → Bool
  | .null, .null => true
  | .str a, .str b => a == b
  | .arr a, .arr b => alikeItems a b
  | .obj a, .obj b => a.length == b.length && alikeEntries a b
  | a, b => alikeNumbers a b

def alikeItems : List Json → List Json → Bool
  | [], [] => true
  | x :: xs, y :: ys => alike x y && alikeItems xs ys
  | _, _ => false

def alikeEntries : List (String × Json) → List (String × Json) → Bool
  | [], _ => true
  | (k, x) :: xs, ys =>
    (match Entries.get? ys k with
      | some y => alike x y
      | none => false) && alikeEntries xs ys

end

end Json
end BoardRules
