import BoardRules.Decimal.Numeral

/-!
Double precision numbers, as exact values: not-a-number, an infinity, or `±m · 2^e` with
`m < 2^53`. The exponent is at least −1074, and above that `m` uses all 53 bits, so each value has
one representation for each sign of zero.

`ofRatio` rounds a ratio to the nearest double, ties going to the even significand; integers and
decimal fractions are read through it. Comparison is exact: a finite double is an integer multiple
of `2^−1074`.
-/
namespace BoardRules.Decimal

inductive Binary64 where
  | nan
  | infinity (negative : Bool)
  | finite (negative : Bool) (significand : Nat) (exponent : Int)
deriving Repr, DecidableEq

def roundHalfEven (num den : Nat) : Nat :=
  let q := num / den
  let r := num % den
  if 2 * r < den then q
  else if den < 2 * r then q + 1
  else if q % 2 = 0 then q else q + 1

namespace Binary64

def zero (negative : Bool) : Binary64 := .finite negative 0 (-1074)

def minExponent : Int := -1074

def maxExponent : Int := 971

/-- The exponent `e` with `2^e ≤ num / den < 2^(e+1)`, for positive `num` and `den`. -/
def binaryOrder (num den : Nat) : Int :=
  let guess : Int := (Nat.log2 num : Int) - Nat.log2 den
  let below :=
    if 0 ≤ guess then num < den * Nat.pow 2 guess.toNat
    else num * Nat.pow 2 (-guess).toNat < den
  if below then guess - 1 else guess

/-- The double nearest to `±num / den`, ties going to the even significand; a magnitude that rounds
beyond the greatest double is infinite. -/
def ofRatio (negative : Bool) (num den : Nat) : Binary64 :=
  if num = 0 ∨ den = 0 then zero negative
  else
    let e := max (binaryOrder num den - 52) minExponent
    let m :=
      if 0 ≤ e then roundHalfEven num (den * Nat.pow 2 e.toNat)
      else roundHalfEven (num * Nat.pow 2 (-e).toNat) den
    let (m, e) := if m = Nat.pow 2 53 then (Nat.pow 2 52, e + 1) else (m, e)
    if e > maxExponent then .infinity negative else .finite negative m e

/-- The double nearest to an integer; `none` if that would be infinite. -/
def ofInt? (n : Int) : Option Binary64 :=
  match ofRatio (n < 0) n.natAbs 1 with
  | .infinity _ => none
  | x => some x

/-- The double nearest to `±coefficient · 10^exponent`. Exponents far outside the range of doubles
are settled by the number of digits alone. -/
def ofDecimal (negative : Bool) (coefficient : Nat) (exponent : Int) : Binary64 :=
  if coefficient = 0 then zero negative
  else
    let order : Int := (natText coefficient).length + exponent
    if order > 320 then .infinity negative
    else if order < -340 then zero negative
    else if 0 ≤ exponent then ofRatio negative (coefficient * Nat.pow 10 exponent.toNat) 1
    else ofRatio negative coefficient (Nat.pow 10 (-exponent).toNat)

def ofReading : Reading → Binary64
  | .fraction negative c e => ofDecimal negative c e
  | .infinity negative => .infinity negative
  | .notANumber => .nan

def units (negative : Bool) (significand : Nat) (exponent : Int) : Int :=
  let n : Int := significand * Int.pow 2 (exponent - minExponent).toNat
  if negative then -n else n

/-- The order of doubles; nothing compares with not-a-number. -/
def lt : Binary64 → Binary64 → Bool
  | .nan, _ => false
  | _, .nan => false
  | .infinity a, .infinity b => a && !b
  | .infinity a, .finite .. => a
  | .finite .., .infinity b => !b
  | .finite s m e, .finite s' m' e' => units s m e < units s' m' e'

/-- Equality of doubles as numbers: the zeros are equal, not-a-number differs from itself. -/
def eq : Binary64 → Binary64 → Bool
  | .infinity a, .infinity b => a == b
  | .finite s m e, .finite s' m' e' => units s m e == units s' m' e'
  | _, _ => false

def toInt? : Binary64 → Option Int
  | .finite s m e =>
    let magnitude : Option Nat :=
      if 0 ≤ e then some (m * Nat.pow 2 e.toNat)
      else if m % Nat.pow 2 (-e).toNat = 0 then some (m / Nat.pow 2 (-e).toNat) else none
    magnitude.map fun n => if s then -(n : Int) else n
  | _ => none

def truncate? : Binary64 → Option Int
  | .finite s m e =>
    let n : Nat := if 0 ≤ e then m * Nat.pow 2 e.toNat else m / Nat.pow 2 (-e).toNat
    some (if s then -(n : Int) else n)
  | _ => none

/-- Whether a double is a number other than zero; infinities and not-a-number are not zero. -/
def isNonzero : Binary64 → Bool
  | .finite _ m _ => m != 0
  | _ => true

@[simp] theorem lt_nan (x : Binary64) : lt x .nan = false := by cases x <;> rfl

@[simp] theorem nan_lt (x : Binary64) : lt .nan x = false := by cases x <;> rfl

theorem lt_asymm {x y : Binary64} (h : lt x y = true) : lt y x = false := by
  cases x <;> cases y <;> simp_all [lt]
  omega

end Binary64
end BoardRules.Decimal
