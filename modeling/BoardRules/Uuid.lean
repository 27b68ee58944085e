import BoardRules.Json.Literal

/-!
Identifiers of 128 bits: their canonical text and the two ways of reading them.

`ofText?` is liberal: it drops every `urn:` and `uuid:`, braces at the ends and all hyphens, and
reads the 32 characters that are left as a hexadecimal integer, with everything an integer may be
written with. `ofStrict?` accepts the canonical grouping in either case, the same in braces or after
`urn:uuid:`, and 32 bare digits.
-/
namespace BoardRules

open BoardRules.Text Decimal

structure Uuid where
  toNat : Nat
  isLt : toNat < Nat.pow 2 128
deriving DecidableEq

namespace Uuid

/-- The identifier with a given number, if it has at most 128 bits. -/
def ofNat? (n : Nat) : Option Uuid :=
  if h : n < Nat.pow 2 128 then some ⟨n, h⟩ else none

def zero : Uuid := ⟨0, by decide⟩

instance : Inhabited Uuid := ⟨zero⟩

def grouped (cs : List Char) : List Char :=
  cs.take 8 ++ '-' :: (cs.drop 8).take 4 ++ '-' :: (cs.drop 12).take 4 ++
    '-' :: (cs.drop 16).take 4 ++ '-' :: cs.drop 20

/-- The canonical characters: lower case digits with hyphens between the groups. -/
def chars (u : Uuid) : List Char := grouped (hexDigits 32 u.toNat)

def text (u : Uuid) : String := String.ofList u.chars

instance : ToString Uuid := ⟨text⟩

/-- The characters left of an identifier's text once all decoration is removed. -/
def bare (cs : List Char) : List Char :=
  (stripChars (fun c => c == '\x7b' || c == '\x7d')
    (eraseAll "uuid:".toList (eraseAll "urn:".toList cs))).filter (· ≠ '-')

/-- Reads an identifier from the characters of a text, liberally. -/
def ofChars? (cs : List Char) : Option Uuid :=
  let digits := bare cs
  if digits.length = 32 then
    match readInteger 16 digits with
    | some (.ofNat n) => ofNat? n
    | _ => none
  else none

def ofText? (s : String) : Option Uuid := ofChars? s.toList

/-- Reads an identifier from any value by the text it is shown as; null and the empty text name
nothing. -/
def ofJson? : Json → Option Uuid
  | .null => none
  | v => ofText? v.shown

def ofDigits? (cs : List Char) : Option Uuid :=
  if cs.length = 32 && cs.all (fun c => (hexValue? c).isSome) then
    (readDigits 16 cs).bind ofNat?
  else none

def ofGrouped? (cs : List Char) : Option Uuid :=
  let digits := cs.filter (· ≠ '-')
  if grouped digits = cs then ofDigits? digits else none

def ofStrict? (s : String) : Option Uuid :=
  let cs := s.toList
  if cs.length = 32 then ofDigits? cs
  else if cs.length = 36 then ofGrouped? cs
  else if cs.length = 38 then
    if cs.head? = some '\x7b' ∧ cs.getLast? = some '\x7d' then
      ofGrouped? ((cs.drop 1).dropLast)
    else none
  else if cs.length = 45 then
    if "urn:uuid:".toList.isPrefixOf cs then ofGrouped? (cs.drop 9) else none
  else none

end Uuid
end BoardRules
