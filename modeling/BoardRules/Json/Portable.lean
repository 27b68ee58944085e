import BoardRules.Json.Basic

/-!
Values that every reader of JSON understands: all numbers in them are finite, and they are not too
deep.
-/
namespace BoardRules.Json

open Decimal (Binary64)

mutual

def depth : Json → Nat
  | .arr xs => depthItems xs + 1
  | .obj es => depthEntries es + 1
  | _ => 1

def depthItems : List Json → Nat
  | [] => 0
  | x :: xs => max (depth x) (depthItems xs)

def depthEntries : List (String × Json) → Nat
  | [] => 0
  | (_, x) :: es => max (depth x) (depthEntries es)

end

def isFinite : Binary64 → Bool
  | .finite .. => true
  | _ => false

mutual

def isPortable : Json → Bool
  | .float x => isFinite x
  | .arr xs => arePortable xs
  | .obj es => arePortableEntries es
  | _ => true

def arePortable : List Json → Bool
  | [] => true
  | x :: xs => isPortable x && arePortable xs

def arePortableEntries : List (String × Json) → Bool
  | [] => true
  | (_, x) :: es => isPortable x && arePortableEntries es

end

mutual

def portable : Json → Json
  | .float x => if isFinite x then .float x else .null
  | .arr xs => .arr (portableItems xs)
  | .obj es => .obj (portableEntries es)
  | v => v

def portableItems : List Json → List Json
  | [] => []
  | x :: xs => portable x :: portableItems xs

def portableEntries : List (String × Json) → List (String × Json)
  | [] => []
  | (k, x) :: es => (k, portable x) :: portableEntries es

end

end BoardRules.Json
