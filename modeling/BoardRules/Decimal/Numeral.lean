import BoardRules.Text.Blank
import BoardRules.Text.Search
import BoardRules.Text.DecimalDigit

/-!
Numbers as text. A numeral may use the digits of any script, may be surrounded by blanks and may
group its digits with single underscores; everything else about it is ASCII.

`readInteger` reads an integer in a base, `readDecimal` a decimal fraction with an exponent, an
infinity or a not-a-number; both read the whole text or nothing. An integer in base ten has at most
`digitLimit` digits, leading zeros counted.
-/
namespace BoardRules.Decimal

open BoardRules.Text

/-- ASCII blanks; the information separators U+001C to U+001F are not among them. -/
def isAsciiBlank (c : Char) : Bool :=
  c == ' ' || (0x09 ≤ c.toNat && c.toNat ≤ 0x0d)

/-- Writes the digits of every script with 0 to 9 and blanks beyond ASCII as spaces. A text with any
other character beyond ASCII is no numeral. -/
def toAscii? : List Char → Option (List Char)
  | [] => some []
  | c :: cs =>
    if c.toNat < 0x80 then (toAscii? cs).map (c :: ·)
    else if isBlank c then (toAscii? cs).map (' ' :: ·)
    else
      match digitValue? c with
      | some d => (toAscii? cs).map (hexDigit d :: ·)
      | none => none

def splitSign : List Char → Bool × List Char
  | '-' :: cs => (true, cs)
  | '+' :: cs => (false, cs)
  | cs => (false, cs)

/-- The value of a digit in a base of at most sixteen. -/
def digitIn? (base : Nat) (c : Char) : Option Nat :=
  (hexValue? c).filter (· < base)

/-- Reads the digits that follow a digit, with `value` read so far. A single underscore may stand
before a digit. -/
def readDigitsAfter (base : Nat) (value : Nat) : List Char → Option Nat
  | [] => some value
  | ['_'] => none
  | '_' :: c :: cs =>
    match digitIn? base c with
    | some d => readDigitsAfter base (value * base + d) cs
    | none => none
  | c :: cs =>
    match digitIn? base c with
    | some d => readDigitsAfter base (value * base + d) cs
    | none => none

def readDigits (base : Nat) : List Char → Option Nat
  | [] => none
  | c :: cs => (digitIn? base c).bind fun d => readDigitsAfter base d cs

/-- In base sixteen the digits may follow `0x` or `0x_`. -/
def dropBaseMark (base : Nat) (cs : List Char) : List Char :=
  match base, cs with
  | 16, '0' :: x :: rest =>
    if x = 'x' ∨ x = 'X' then (match rest with | '_' :: r => r | r => r) else cs
  | _, _ => cs

def digitLimit : Nat := 4300

/-- Whether a run of grouped digits is too long for its base. Only base ten has a limit, since its
digits take more than linear time to read. -/
def exceedsDigits (base : Nat) (cs : List Char) : Bool :=
  base == 10 && digitLimit < cs.countP Char.isDigit

/-- Reads an integer in a base: blanks, a sign, the base's mark, digits, blanks. -/
def readInteger (base : Nat) (cs : List Char) : Option Int := do
  let ascii ← toAscii? cs
  let (negative, digits) := splitSign (stripChars isAsciiBlank ascii)
  if exceedsDigits base digits then none
  let n ← readDigits base (dropBaseMark base digits)
  pure (if negative then -(n : Int) else n)

/-- A number read from text: `±coefficient · 10^exponent`, an infinity, or no number. -/
inductive Reading where
  | fraction (negative : Bool) (coefficient : Nat) (exponent : Int)
  | infinity (negative : Bool)
  | notANumber
deriving Repr, DecidableEq

def dropUnderscores : Option Char → List Char → Option (List Char)
  | _, [] => some []
  | before, '_' :: cs =>
    if before.any Char.isDigit && cs.head?.any Char.isDigit then dropUnderscores (some '_') cs
    else none
  | _, c :: cs => (dropUnderscores (some c) cs).map (c :: ·)

def digitsValue (cs : List Char) : Nat :=
  cs.foldl (fun n c => n * 10 + (c.toNat - 0x30)) 0

def readExponent : List Char → Option Int
  | [] => some 0
  | e :: cs =>
    if e = 'e' ∨ e = 'E' then
      let (negative, digits) := splitSign cs
      if digits.isEmpty || !digits.all Char.isDigit then none
      else some (if negative then -(digitsValue digits : Int) else digitsValue digits)
    else none

/-- Reads an unsigned decimal fraction: digits around an optional point, at least one digit in all,
and an optional exponent. -/
def readFraction (negative : Bool) (cs : List Char) : Option Reading :=
  let whole := cs.takeWhile Char.isDigit
  let rest := cs.dropWhile Char.isDigit
  let (part, tail) :=
    match rest with
    | '.' :: r => (r.takeWhile Char.isDigit, r.dropWhile Char.isDigit)
    | r => ([], r)
  if whole.isEmpty && part.isEmpty then none
  else (readExponent tail).map fun e =>
    .fraction negative (digitsValue (whole ++ part)) (e - part.length)

/-- Reads an unsigned number; the names of infinity and of not-a-number may be in any case. -/
def readMagnitude (negative : Bool) (cs : List Char) : Option Reading :=
  let name := String.ofList (cs.map Char.toLower)
  if name = "inf" ∨ name = "infinity" then some (.infinity negative)
  else if name = "nan" then some .notANumber
  else readFraction negative cs

/-- Reads a number from ASCII text without blanks or underscores. -/
def readPlain (cs : List Char) : Option Reading :=
  let (negative, magnitude) := splitSign cs
  readMagnitude negative magnitude

/-- Reads a decimal number: blanks, a sign, a magnitude, blanks; digits may be grouped. -/
def readDecimal (cs : List Char) : Option Reading := do
  let ascii ← toAscii? cs
  let plain ← dropUnderscores none (stripChars isAsciiBlank ascii)
  readPlain plain

def natText (n : Nat) : String := n.repr

def intText (n : Int) : String :=
  match n with
  | .ofNat m => natText m
  | .negSucc m => "-" ++ natText (m + 1)

end BoardRules.Decimal
