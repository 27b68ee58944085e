import BoardRules.Json.Print
import BoardRules.Text.Printable

/-!
The literal notation of values, used wherever a value that is not text stands inside a message, a
link or an identifier: `None`, `True`, `['a', 1.0]`, `\x7b'k': "it's"\x7d`.

A string is quoted with apostrophes, or with double quotes if it contains apostrophes and no double
quotes; what is not printable is escaped.
-/
namespace BoardRules.Json

open Decimal BoardRules.Text

/-- The quote that needs no escape inside the string, an apostrophe if there is a choice. -/
def literalQuote (cs : List Char) : Char :=
  if cs.contains '\'' && !cs.contains '"' then '"' else '\''

/-- A character as an escape of two, four or eight hexadecimal digits, whichever it needs. -/
def escapeByWidth (c : Char) : List Char :=
  if c.toNat < 0x100 then '\\' :: 'x' :: hexDigits 2 c.toNat
  else if c.toNat < 0x10000 then '\\' :: 'u' :: hexDigits 4 c.toNat
  else '\\' :: 'U' :: hexDigits 8 c.toNat

def literalChar (q : Char) (c : Char) : List Char :=
  if c = q ∨ c = '\\' then ['\\', c]
  else if c = '\n' then ['\\', 'n']
  else if c = '\r' then ['\\', 'r']
  else if c = '\t' then ['\\', 't']
  else if isPrintable c then [c]
  else escapeByWidth c

def literalText (s : String) : List Char :=
  let q := literalQuote s.toList
  q :: s.toList.flatMap (literalChar q) ++ [q]

mutual

def literalChars : Json → List Char
  | .null => "None".toList
  | .bool true => "True".toList
  | .bool false => "False".toList
  | .int n => (intText n).toList
  | .float x => (x.text Layout.plain).toList
  | .str s => literalText s
  | .arr xs => '[' :: literalItems xs ++ [']']
  | .obj es => '{' :: literalEntries es ++ ['}']

def literalItems : List Json → List Char
  | [] => []
  | [x] => literalChars x
  | x :: xs => literalChars x ++ [',', ' '] ++ literalItems xs

def literalEntries : List (String × Json) → List Char
  | [] => []
  | [(k, v)] => literalText k ++ [':', ' '] ++ literalChars v
  | (k, v) :: es =>
    literalText k ++ [':', ' '] ++ literalChars v ++ [',', ' '] ++ literalEntries es

end

def literal (v : Json) : String := String.ofList v.literalChars

def asciiLiteral (v : Json) : String :=
  String.ofList (v.literalChars.flatMap fun c => if c.toNat < 0x80 then [c] else escapeByWidth c)

/-- How a value is shown inside a text: a string as itself, anything else as a literal. -/
def shown : Json → String
  | .str s => s
  | v => v.literal

end BoardRules.Json
