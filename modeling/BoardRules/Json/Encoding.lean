import BoardRules.Json.Read
import BoardRules.Text.Utf8

/-!
JSON text as bytes. Its first characters are in ASCII, so the zeros among the first bytes tell the
width and the order of its units. A mark of byte order in front of units of eight bits is dropped.
-/
namespace BoardRules.Json

open BoardRules.Text

inductive Encoding where
  | utf8
  | utf16 (bigEndian : Bool)
  | utf32 (bigEndian : Bool)
deriving Repr, DecidableEq

def Encoding.of : List Nat → Encoding
  | [0, _] => .utf16 true
  | [_, 0] => .utf16 false
  | a :: b :: c :: d :: _ =>
    if a = 0 then (if b = 0 then .utf32 true else .utf16 true)
    else if b = 0 then (if c = 0 ∧ d = 0 then .utf32 false else .utf16 false)
    else .utf8
  | _ => .utf8

def pairValue (bigEndian : Bool) (a b : Nat) : Nat :=
  if bigEndian then a * 0x100 + b else b * 0x100 + a

/-- Reads units of sixteen bits; the last one has to be complete. -/
def units16? (bigEndian : Bool) : List Nat → Option (List Nat)
  | [] => some []
  | [_] => none
  | a :: b :: bs => (units16? bigEndian bs).map (pairValue bigEndian a b :: ·)

/-- Reads units of thirty-two bits; each has to be complete and a code point. -/
def units32? (bigEndian : Bool) : List Nat → Option (List Nat)
  | [] => some []
  | a :: b :: c :: d :: bs =>
    let n :=
      if bigEndian then pairValue true a b * 0x10000 + pairValue true c d
      else pairValue false c d * 0x10000 + pairValue false a b
    if n < 0x110000 then (units32? bigEndian bs).map (n :: ·) else none
  | _ => none

/-- A text without the mark of byte order that it may start with. -/
def dropOrderMark : List Char → List Char
  | '\ufeff' :: cs => cs
  | cs => cs

/-- What a text in units of eight bits reads as when its bytes are those of another encoding. -/
def decode? (cs : List Char) : Option (List Char) :=
  -- only a text with zeros can be in another encoding
  if !(cs.take 4).contains '\x00' then some (dropOrderMark cs)
  else
    let bytes := cs.flatMap utf8Bytes
    match Encoding.of bytes with
    | .utf8 => some (dropOrderMark cs)
    | .utf16 bigEndian => (units16? bigEndian bytes).map joinUnits
    | .utf32 bigEndian => (units32? bigEndian bytes).map fun ns => ns.map unitChar

end BoardRules.Json
