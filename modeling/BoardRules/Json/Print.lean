import BoardRules.Json.Basic
import BoardRules.Decimal.Shortest

/-!
JSON text. Every character outside U+0020 to U+007E is escaped, those beyond U+FFFF as a pair of
units, so the text is printable ASCII; objects keep their order.

The separators are a parameter: `tight` puts no space anywhere, `spaced` one after each comma and
colon.
-/
namespace BoardRules.Json

open Decimal BoardRules.Text

structure Separators where
  item : List Char
  member : List Char

def Separators.tight : Separators := ⟨[','], [':']⟩

def Separators.spaced : Separators := ⟨[',', ' '], [':', ' ']⟩

def escapeUnit (n : Nat) : List Char := '\\' :: 'u' :: hexDigits 4 n

def escapeChar (c : Char) : List Char :=
  if c = '"' then ['\\', '"']
  else if c = '\\' then ['\\', '\\']
  else if c = '\n' then ['\\', 'n']
  else if c = '\r' then ['\\', 'r']
  else if c = '\t' then ['\\', 't']
  else if c = '\x08' then ['\\', 'b']
  else if c = '\x0c' then ['\\', 'f']
  else if 0x20 ≤ c.toNat ∧ c.toNat ≤ 0x7e then [c]
  else if c.toNat < 0x10000 then escapeUnit c.toNat
  else
    let n := c.toNat - 0x10000
    escapeUnit (0xd800 + n / 0x400) ++ escapeUnit (0xdc00 + n % 0x400)

def escapeChars : List Char → List Char
  | [] => []
  | c :: cs => escapeChar c ++ escapeChars cs

def quote (s : String) : List Char := '"' :: escapeChars s.toList ++ ['"']

/-- Doubles are written as the shortest decimal that reads back; values that are no decimals by
their usual JSON names. -/
def floatLayout : Layout := { Layout.plain with notANumber := "NaN", infinity := "Infinity" }

mutual

def print (sep : Separators) : Json → List Char
  | .null => ['n', 'u', 'l', 'l']
  | .bool true => ['t', 'r', 'u', 'e']
  | .bool false => ['f', 'a', 'l', 's', 'e']
  | .int n => (intText n).toList
  | .float x => (x.text floatLayout).toList
  | .str s => quote s
  | .arr xs => '[' :: printItems sep xs ++ [']']
  | .obj es => '{' :: printEntries sep es ++ ['}']

def printItems (sep : Separators) : List Json → List Char
  | [] => []
  | [x] => print sep x
  | x :: xs => print sep x ++ sep.item ++ printItems sep xs

def printEntries (sep : Separators) : List (String × Json) → List Char
  | [] => []
  | [(k, v)] => quote k ++ sep.member ++ print sep v
  | (k, v) :: es => quote k ++ sep.member ++ print sep v ++ sep.item ++ printEntries sep es

end

def compact (v : Json) : String := String.ofList (v.print .tight)

def spaced (v : Json) : String := String.ofList (v.print .spaced)

end BoardRules.Json
