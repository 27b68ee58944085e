import BoardRules.Decimal.Rounded
import BoardRules.Json.Basic
import BoardRules.Schema.Table

/-!
What a cell holds of a value that is put into it.

A column prefers text or numbers, and converts the other kind if nothing is lost: in a column of
text a number becomes text, in any other column a text that writes a number becomes that number. A
number that is an integer is stored as an integer. What is no number, no text and not null cannot be
stored; not-a-number is stored as null.
-/
namespace BoardRules.Schema

open Decimal BoardRules.Text

inductive CellFault where
  | outOfRange
  | noCell
deriving Repr, DecidableEq

def givenCell : Json → Except CellFault Json
  | .bool b => .ok (.int (if b then 1 else 0))
  | .int n => if fitsWord n then .ok (.int n) else .error .outOfRange
  | .float .nan => .ok .null
  | .arr _ | .obj _ => .error .noCell
  | v => .ok v

def ColumnType.isText : ColumnType → Bool
  | .uuid | .text | .varchar _ => true
  | _ => false

/-- The number of significant digits that a double keeps as text. -/
def textDigits : Nat := 15

def decimals (ds : List Char) : List Char :=
  let ds := trimZerosEnd ds
  if ds.isEmpty then ['0'] else ds

/-- A positive magnitude as text: written out from `10^-4` on if all of its digits before the point
are significant, else with a power of ten. -/
def magnitudeText (m : Nat) (e : Int) : List Char :=
  let (ds, power) := significantDigits roundHalfUp textDigits m e
  if power < -4 ∨ (textDigits : Int) ≤ power then
    ds.take 1 ++ '.' :: decimals (ds.drop 1) ++ powerText 'e' power
  else if power < 0 then
    '0' :: '.' :: decimals (List.replicate (-power - 1).toNat '0' ++ ds)
  else ds.take (power.toNat + 1) ++ '.' :: decimals (ds.drop (power.toNat + 1))

def doubleText : Binary64 → String
  | .nan => "NaN"
  | .infinity negative => if negative then "-Inf" else "Inf"
  | .finite negative m e =>
    if m = 0 then "0.0"
    else (if negative then "-" else "") ++ String.ofList (magnitudeText m e)

def integral? (x : Binary64) : Option Int :=
  x.toInt?.filter fun n => -Int.pow 2 63 < n && n < Int.pow 2 63 - 1

def storedDouble (x : Binary64) : Json :=
  match integral? x with
  | some n => .int n
  | none => .float x

/-- How many digits of a number are read: more do not fit into 64 bits. -/
def significandLimit : Nat := (Nat.pow 2 64 - 1 - 9) / 10

/-- Reads the digits of a significand, the first of them given. Those that do not fit count as
zeros. -/
def readSignificand (significand dropped : Nat) : List Char → Nat × Nat
  | [] => (significand, dropped)
  | c :: cs =>
    if significand < significandLimit then
      readSignificand (significand * 10 + (c.toNat - 0x30)) dropped cs
    else readSignificand significand (dropped + 1) cs

/-- The number that a text writes: an integer if it is written as one and fits into 64 bits, or else
a double. -/
def numberOfText? (s : String) : Option Json := do
  let (negative, cs) := splitSign (stripChars isAsciiBlank s.toList)
  let whole := cs.takeWhile Char.isDigit
  let rest := cs.dropWhile Char.isDigit
  let (part, tail) :=
    match rest with
    | '.' :: r => (r.takeWhile Char.isDigit, r.dropWhile Char.isDigit)
    | r => ([], r)
  if whole.isEmpty && part.isEmpty then none
  let exponent ← readExponent tail
  let n : Int := digitsValue whole
  let n := if negative then -n else n
  if rest.isEmpty && fitsWord n then return .int n
  let (significand, dropped) := readSignificand 0 0 (whole ++ part)
  return storedDouble (.ofDecimal negative significand (exponent + dropped - part.length))

def ColumnType.stored (t : ColumnType) (v : Json) : Json :=
  if t.isText then
    match v with
    | .int n => .str (intText n)
    | .float x => .str (doubleText x)
    | v => v
  else
    match v with
    | .str s => (numberOfText? s).getD v
    | .float x => storedDouble x
    | v => v

end BoardRules.Schema
