import BoardRules.Json.Basic

/-!
Reading a stored value of unknown shape as a list or as a mapping.

What does not count as present reads as empty. A text is the list of its characters, an object the
list of its keys. A list reads as a mapping if each of its items is again a list of two, the key and
the value; then keys need not be text.
-/
namespace BoardRules

inductive ShapeFault where
  | noItems (type : String)
  | noPair (index : Nat)
  | wrongLength (index length : Nat)
  | noKey (type : String)
deriving Repr, DecidableEq

def ShapeFault.message : ShapeFault → String
  | .noItems t => s!"'{t}' object is not iterable"
  | .noPair i => s!"cannot convert dictionary update sequence element #{i} to a sequence"
  | .wrongLength i n =>
    s!"dictionary update sequence element #{i} has length {n}; 2 is required"
  | .noKey t => s!"unhashable type: '{t}'"

structure NoMember where
  type : String
  wanted : String
deriving Repr, DecidableEq

def NoMember.message (f : NoMember) : String :=
  s!"'{f.type}' object has no attribute '{f.wanted}'"

/-- A mapping read from a stored value: the members whose key is text, and the others. -/
structure Mapping where
  named : Entries := []
  stray : List (Json × Json) := []

namespace Json

def typeName : Json → String
  | .null => "NoneType"
  | .bool _ => "bool"
  | .int _ => "int"
  | .float _ => "float"
  | .str _ => "str"
  | .arr _ => "list"
  | .obj _ => "dict"

def items? : Json → Option (List Json)
  | .arr xs => some xs
  | .str s => some (s.toList.map fun c => .str (String.singleton c))
  | .obj es => some (es.map fun e => .str e.1)
  | _ => none

def toItems (v : Json) : Except ShapeFault (List Json) :=
  if v.isTruthy then
    match v.items? with
    | some xs => .ok xs
    | none => .error (.noItems v.typeName)
  else .ok []

def sameKey (a b : Json) : Bool := alikeNumbers a b || (a.isNull && b.isNull)

end Json

def Mapping.put (m : Mapping) (key value : Json) : Except ShapeFault Mapping :=
  match key with
  | .str k => .ok { m with named := m.named.put k value }
  | .arr _ | .obj _ => .error (.noKey key.typeName)
  | k =>
    let known := m.stray.any fun e => e.1.sameKey k
    let stray :=
      if known then m.stray.map fun e => if e.1.sameKey k then (e.1, value) else e
      else m.stray ++ [(k, value)]
    .ok { m with stray := stray }

/-- Sets the keys given as a list of pairs, the first of which has the given index. -/
def Mapping.putPairs (m : Mapping) (index : Nat) : List Json → Except ShapeFault Mapping
  | [] => .ok m
  | p :: ps =>
    match p.items? with
    | none => .error (.noPair index)
    | some [k, v] =>
      match m.put k v with
      | .ok m => m.putPairs (index + 1) ps
      | .error e => .error e
    | some xs => .error (.wrongLength index xs.length)

def Json.toMapping (v : Json) : Except ShapeFault Mapping :=
  match v with
  | .obj es => .ok { named := es }
  | v =>
    if v.isTruthy then
      match v.items? with
      | some ps => ({} : Mapping).putPairs 0 ps
      | none => .error (.noItems v.typeName)
    else .ok {}

@[simp] theorem Json.toMapping_obj (es : Entries) :
    (Json.obj es).toMapping = .ok { named := es } := rfl

@[simp] theorem Json.toItems_arr (xs : List Json) : (Json.arr xs).toItems = .ok xs := by
  cases xs <;> rfl

end BoardRules
