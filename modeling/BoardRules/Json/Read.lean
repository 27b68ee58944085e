import BoardRules.Json.Basic

/-!
Reading JSON text. The text holds one value with blanks around its tokens; the names `NaN`,
`Infinity` and `-Infinity` stand for doubles. A number without fraction and exponent is an integer
of any size. In an object with a repeated key the last value wins.

Readers take the text that is left and give back the value with what follows it. The recursion of
values in values is bounded by a count, which `parse` sets to the length of the text: each level
consumes a character. Who reads texts of strangers sets `Limits` besides; of several faults in a
text the first one from the left is reported.
-/
namespace BoardRules.Json

open Decimal BoardRules.Text

inductive ParseFault where
  | malformed
  | longInteger
  | tooDeep
deriving Repr, DecidableEq

/-- How many digits an integer may have, and how many lists and objects may stand in each other. -/
structure Limits where
  digits : Option Nat := none
  depth : Option Nat := none

abbrev Parsed (α : Type) := Except ParseFault (α × List Char)

def isJsonBlank (c : Char) : Bool := c == ' ' || c == '\t' || c == '\n' || c == '\r'

def skipBlanks (cs : List Char) : List Char := cs.dropWhile isJsonBlank

def unit? (a b c d : Char) : Option Nat := do
  let a ← hexValue? a
  let b ← hexValue? b
  let c ← hexValue? c
  let d ← hexValue? d
  pure (((a * 16 + b) * 16 + c) * 16 + d)

def shortEscape? : Char → Option Char
  | '"' => some '"'
  | '\\' => some '\\'
  | '/' => some '/'
  | 'b' => some '\x08'
  | 'f' => some '\x0c'
  | 'n' => some '\n'
  | 'r' => some '\r'
  | 't' => some '\t'
  | _ => none

def isHighUnit (n : Nat) : Bool := 0xd800 ≤ n && n < 0xdc00

def isLowUnit (n : Nat) : Bool := 0xdc00 ≤ n && n < 0xe000

def pairChar (high low : Nat) : Char :=
  Char.ofNat (0x10000 + (high - 0xd800) * 0x400 + (low - 0xdc00))

/-- What stands for a unit that is half of a pair without its other half. -/
def replacement : Char := Char.ofNat 0xfffd

def unitChar (n : Nat) : Char :=
  if isHighUnit n || isLowUnit n then replacement else Char.ofNat n

/-- The characters of units; two that form a pair are one character. -/
def joinUnits : List Nat → List Char
  | [] => []
  | [n] => [unitChar n]
  | n :: m :: ns =>
    if isHighUnit n && isLowUnit m then pairChar n m :: joinUnits ns
    else unitChar n :: joinUnits (m :: ns)

/-- Reads the units of a string up to and with its closing quote. Controls have to be escaped. -/
def readUnits : List Char → Parsed (List Nat)
  | [] => .error .malformed
  | '"' :: cs => .ok ([], cs)
  | '\\' :: 'u' :: a :: b :: c :: d :: cs =>
    match unit? a b c d with
    | some n => (readUnits cs).map fun (ns, r) => (n :: ns, r)
    | none => .error .malformed
  | '\\' :: e :: cs =>
    match shortEscape? e with
    | some c => (readUnits cs).map fun (ns, r) => (c.toNat :: ns, r)
    | none => .error .malformed
  | c :: cs =>
    if c.toNat < 0x20 then .error .malformed
    else (readUnits cs).map fun (ns, r) => (c.toNat :: ns, r)

def readQuoted (cs : List Char) : Parsed String :=
  (readUnits cs).map fun (ns, r) => (String.ofList (joinUnits ns), r)

def readPart : List Char → List Char × List Char
  | '.' :: d :: cs =>
    if d.isDigit then (d :: cs.takeWhile Char.isDigit, cs.dropWhile Char.isDigit)
    else ([], '.' :: d :: cs)
  | cs => ([], cs)

def readScale : List Char → Option Int × List Char
  | [] => (none, [])
  | e :: cs =>
    let (negative, rest) := splitSign cs
    let digits := rest.takeWhile Char.isDigit
    if (e = 'e' ∨ e = 'E') ∧ !digits.isEmpty then
      let n : Int := digitsValue digits
      (some (if negative then -n else n), rest.dropWhile Char.isDigit)
    else (none, e :: cs)

/-- Reads a number without its sign: a zero alone, or digits that do not start with one, then an
optional fraction and an optional exponent. -/
def readNumber (l : Limits) (negative : Bool) : List Char → Parsed Json
  | [] => .error .malformed
  | d :: cs =>
    if !d.isDigit then .error .malformed
    else
      let whole := if d = '0' then [d] else d :: cs.takeWhile Char.isDigit
      let rest := if d = '0' then cs else cs.dropWhile Char.isDigit
      let (part, rest) := readPart rest
      let (scale, rest) := readScale rest
      if part.isEmpty && scale.isNone then
        if l.digits.any (· < whole.length) then .error .longInteger
        else
          let n : Int := digitsValue whole
          .ok (.int (if negative then -n else n), rest)
      else
        let e := scale.getD 0 - part.length
        .ok (.float (Binary64.ofDecimal negative (digitsValue (whole ++ part)) e), rest)

def readScalar (l : Limits) : List Char → Parsed Json
  | 'n' :: 'u' :: 'l' :: 'l' :: r => .ok (.null, r)
  | 't' :: 'r' :: 'u' :: 'e' :: r => .ok (.bool true, r)
  | 'f' :: 'a' :: 'l' :: 's' :: 'e' :: r => .ok (.bool false, r)
  | 'N' :: 'a' :: 'N' :: r => .ok (.float .nan, r)
  | 'I' :: 'n' :: 'f' :: 'i' :: 'n' :: 'i' :: 't' :: 'y' :: r => .ok (.float (.infinity false), r)
  | '-' :: 'I' :: 'n' :: 'f' :: 'i' :: 'n' :: 'i' :: 't' :: 'y' :: r =>
    .ok (.float (.infinity true), r)
  | '-' :: r => readNumber l true r
  | r => readNumber l false r

mutual

def readValue (l : Limits) : Nat → Nat → List Char → Parsed Json
  | 0, _, _ => .error .malformed
  | _ + 1, _, '"' :: cs => (readQuoted cs).map fun (s, r) => (.str s, r)
  | fuel + 1, level, '[' :: cs =>
    if l.depth.any (· ≤ level) then .error .tooDeep
    else
      match skipBlanks cs with
      | ']' :: r => .ok (.arr [], r)
      | r => (readItems l fuel (level + 1) r).map fun (xs, r) => (.arr xs, r)
  | fuel + 1, level, '{' :: cs =>
    if l.depth.any (· ≤ level) then .error .tooDeep
    else
      match skipBlanks cs with
      | '}' :: r => .ok (.obj [], r)
      | r =>
        (readMembers l fuel (level + 1) r).map fun (es, r) => (.obj (Entries.ofPairs es), r)
  | _ + 1, _, cs => readScalar l cs

def readItems (l : Limits) : Nat → Nat → List Char → Parsed (List Json)
  | 0, _, _ => .error .malformed
  | fuel + 1, level, cs =>
    match readValue l fuel level cs with
    | .error e => .error e
    | .ok (v, r) =>
      match skipBlanks r with
      | ',' :: r => (readItems l fuel level (skipBlanks r)).map fun (vs, r) => (v :: vs, r)
      | ']' :: r => .ok ([v], r)
      | _ => .error .malformed

def readMembers (l : Limits) : Nat → Nat → List Char → Parsed (List (String × Json))
  | 0, _, _ => .error .malformed
  | fuel + 1, level, '"' :: cs =>
    match readQuoted cs with
    | .error e => .error e
    | .ok (k, r) =>
      match skipBlanks r with
      | ':' :: r =>
        match readValue l fuel level (skipBlanks r) with
        | .error e => .error e
        | .ok (v, r) =>
          match skipBlanks r with
          | ',' :: r =>
            (readMembers l fuel level (skipBlanks r)).map fun (es, r) => ((k, v) :: es, r)
          | '}' :: r => .ok ([(k, v)], r)
          | _ => .error .malformed
      | _ => .error .malformed
  | _ + 1, _, _ => .error .malformed

end

def parse (l : Limits) (cs : List Char) : Except ParseFault Json :=
  match readValue l (cs.length + 1) 0 (skipBlanks cs) with
  | .ok (v, r) => if (skipBlanks r).isEmpty then .ok v else .error .malformed
  | .error e => .error e

def parseChars? (cs : List Char) : Option Json := (parse {} cs).toOption

def parse? (s : String) : Option Json := parseChars? s.toList

end BoardRules.Json
