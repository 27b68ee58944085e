import BoardRules.Json.Literal
import BoardRules.Decimal.Rounded

/-!
Messages with percent placeholders.

A placeholder takes the next argument: `%s` as it is shown, `%r` as a literal and `%a` as a literal
in ASCII; `%d`, `%x` and `%o` as an integer, `%e`, `%f` and `%g` as a double, `%c` as a character.
Flags, a width and a precision may stand in between; a star in place of either takes an argument of
its own. `%%` is a percent sign. Every argument has to be used.
-/
namespace BoardRules.Text

open Decimal

inductive FillFault where
  /-- A placeholder is left without an argument, or an argument without a placeholder. -/
  | countMismatch
  | wrongType
  /-- A placeholder is not complete, or unknown, or takes a number that is not finite. -/
  | badPlaceholder
  | outOfRange
  | tooLong
deriving Repr, DecidableEq

structure Placeholder where
  flags : List Char := []
  width : Nat := 0
  precision : Option Nat := none
  conversion : Char

/-- What is left of a message behind the part read so far, and the arguments not yet taken. -/
structure Unfilled where
  text : List Char
  args : List Json

def Unfilled.next : Unfilled → Except FillFault (Json × Unfilled)
  | ⟨_, []⟩ => .error .countMismatch
  | ⟨cs, v :: vs⟩ => .ok (v, ⟨cs, vs⟩)

/-- The integer that an integer placeholder takes from an argument that is not a double. -/
def wholeArgument? : Json → Option Int
  | .bool b => some (if b then 1 else 0)
  | .int n => some n
  | _ => none

/-- A number given by a star: the next argument, an integer of at most the given magnitude. -/
def Unfilled.star (limit : Int) (u : Unfilled) : Except FillFault (Int × Unfilled) := do
  let (v, u) ← u.next
  match wholeArgument? v with
  | none => .error .wrongType
  | some n => if -limit - 1 ≤ n ∧ n ≤ limit then .ok (n, u) else .error .outOfRange

/-- A number inside a placeholder: a star, or digits, or nothing at all for zero. -/
def Unfilled.amount (limit : Int) (u : Unfilled) : Except FillFault (Int × Unfilled) :=
  match u.text with
  | '*' :: cs => star limit { u with text := cs }
  | cs =>
    let n : Int := digitsValue (cs.takeWhile Char.isDigit)
    if limit < n then .error .badPlaceholder
    else .ok (n, { u with text := cs.dropWhile Char.isDigit })

def widthLimit : Int := Int.pow 2 63 - 1

def precisionLimit : Int := Int.pow 2 31 - 1

def lengthLimit : Nat := Nat.pow 2 28

def isFlag (c : Char) : Bool := c == '-' || c == '+' || c == ' ' || c == '0' || c == '#'

/-- Reads a placeholder behind its percent sign. A negative width stands for a width with the text
on the left, the least one of all for no width, and a negative precision for none of the characters.
A name in parentheses would need named arguments. -/
def Placeholder.read (u : Unfilled) : Except FillFault (Placeholder × Unfilled) := do
  if u.text.head? = some '(' then throw .wrongType
  let flags := u.text.takeWhile isFlag
  let (width, u) ← Unfilled.amount widthLimit { u with text := u.text.dropWhile isFlag }
  let flags := if width < 0 then '-' :: flags else flags
  let (precision, u) ← match u.text with
    | '.' :: cs => do
      let (n, u) ← Unfilled.amount precisionLimit { u with text := cs }
      pure (some n.toNat, u)
    | _ => pure (none, u)
  let text := match u.text with
    | c :: cs => if c == 'l' || c == 'h' || c == 'L' then cs else c :: cs
    | [] => []
  match text with
  | c :: cs =>
    let width := if width < -widthLimit then 0 else width.natAbs
    .ok (⟨flags, width, precision, c⟩, { u with text := cs })
  | [] => .error .badPlaceholder

namespace Placeholder

def sign (p : Placeholder) (negative : Bool) : List Char :=
  if negative then ['-']
  else if p.flags.contains '+' then ['+']
  else if p.flags.contains ' ' then [' ']
  else []

def isAlternate (p : Placeholder) : Bool := p.flags.contains '#'

def pad (p : Placeholder) (numeric : Bool) (sign digits : List Char) : List Char :=
  let missing := p.width - (sign.length + digits.length)
  if p.flags.contains '-' then sign ++ digits ++ List.replicate missing ' '
  else if numeric && p.flags.contains '0' then sign ++ List.replicate missing '0' ++ digits
  else List.replicate missing ' ' ++ sign ++ digits

def cut (p : Placeholder) (s : String) : List Char :=
  match p.precision with
  | some n => p.pad false [] (s.toList.take n)
  | none => p.pad false [] s.toList

def whole (p : Placeholder) (base : Nat) (mark : List Char) (n : Int) :
    Except FillFault (List Char) :=
  let least := p.precision.getD 0
  if precisionLimit - 3 < least then .error .outOfRange
  else if lengthLimit < least then .error .tooLong
  else
    let digits := Nat.toDigits base n.natAbs
    let digits := List.replicate (least - digits.length) '0' ++ digits
    .ok (p.pad true (p.sign (n < 0) ++ if p.isAlternate then mark else []) digits)

def truncated : Json → Except FillFault Int
  | .float x =>
    match x.truncate? with
    | some n => .ok n
    | none => .error (if x = .nan then .badPlaceholder else .outOfRange)
  | v =>
    match wholeArgument? v with
    | some n => .ok n
    | none => .error .wrongType

def double : Json → Except FillFault Binary64
  | .float x => .ok x
  | v =>
    match wholeArgument? v with
    | some n =>
      match Binary64.ofInt? n with
      | some x => .ok x
      | none => .error .outOfRange
    | none => .error .wrongType

def rounded (p : Placeholder) (layout : Nat → Int → List Char) : Binary64 → List Char
  | .nan => p.pad true (p.sign false) "nan".toList
  | .infinity negative => p.pad true (p.sign negative) "inf".toList
  | .finite negative m e => p.pad true (p.sign negative) (layout m e)

def character : Json → Except FillFault Char
  | .str s =>
    match s.toList with
    | [c] => .ok c
    | _ => .error .wrongType
  | v =>
    match wholeArgument? v with
    | some n =>
      if 0 ≤ n ∧ n.toNat.isValidChar then .ok (Char.ofNat n.toNat) else .error .outOfRange
    | none => .error .wrongType

/-- What an argument becomes in a placeholder. A double has a precision of six unless it is
given. -/
def fill (p : Placeholder) (v : Json) : Except FillFault (List Char) :=
  let places := p.precision.getD 6
  let integer (base : Nat) (mark : String) : Except FillFault (List Char) :=
    match wholeArgument? v with
    | some n => p.whole base mark.toList n
    | none => .error .wrongType
  let decimal (layout : Nat → Int → List Char) : Except FillFault (List Char) := do
    let x ← double v
    if lengthLimit < places then throw .tooLong
    return p.rounded layout x
  match p.conversion with
  | 's' => .ok (p.cut v.shown)
  | 'r' => .ok (p.cut v.literal)
  | 'a' => .ok (p.cut v.asciiLiteral)
  | 'd' | 'i' | 'u' => truncated v >>= p.whole 10 []
  | 'x' => integer 16 "0x"
  | 'X' => (integer 16 "0x").map fun cs => cs.map Char.toUpper
  | 'o' => integer 8 "0o"
  | 'f' => decimal (fixedText p.isAlternate places)
  | 'F' => (decimal (fixedText p.isAlternate places)).map fun cs => cs.map Char.toUpper
  | 'e' => decimal (scientificText 'e' p.isAlternate places)
  | 'E' => (decimal (scientificText 'e' p.isAlternate places)).map fun cs => cs.map Char.toUpper
  | 'g' => decimal (generalText 'e' p.isAlternate places)
  | 'G' => (decimal (generalText 'e' p.isAlternate places)).map fun cs => cs.map Char.toUpper
  | 'c' => (character v).map fun c => p.pad false [] [c]
  | _ => .error .badPlaceholder

end Placeholder

/-- Fills in the placeholders of a message. The count bounds the number of placeholders, each of
which is at least one character long. -/
def fillFrom : Nat → Unfilled → Except FillFault (List Char)
  | 0, _ => .ok []
  | fuel + 1, u => do
    let plain := u.text.takeWhile (· ≠ '%')
    match u.text.dropWhile (· ≠ '%') with
    | [] => if u.args.isEmpty then return plain else throw .countMismatch
    | [_] => throw .badPlaceholder
    | _ :: '%' :: cs => return plain ++ '%' :: (← fillFrom fuel { u with text := cs })
    | _ :: cs =>
      let (p, u) ← Placeholder.read { u with text := cs }
      let (v, u) ← u.next
      let tooWide := lengthLimit < p.width
      let value ← Placeholder.fill { p with width := if tooWide then 0 else p.width } v
      if tooWide then throw .tooLong
      return plain ++ value ++ (← fillFrom fuel u)

/-- Fills in a message. Without arguments it stays as it is. -/
def fillMessage (message : String) (args : List Json) : Except FillFault String :=
  if args.isEmpty then .ok message
  else (fillFrom (message.length + 1) ⟨message.toList, args⟩).map String.ofList

end BoardRules.Text
