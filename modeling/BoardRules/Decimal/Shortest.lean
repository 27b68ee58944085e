import BoardRules.Decimal.Binary64

/-!
The shortest decimal that reads back as a given double, and its layout as text.

`shortest` tries one digit, two digits, and so on up to seventeen. On each decimal grid it looks at
the two neighbours of the value; the first grid with a neighbour that rounds to the value wins, and
of two such neighbours the nearer one.
-/
namespace BoardRules.Decimal

/-- The magnitudes that round to a double: those between `low / den` and `high / den`, the bounds
included for an even significand. The double itself is `value / den`. -/
structure RoundingInterval where
  low : Nat
  high : Nat
  value : Nat
  den : Nat
  closed : Bool
deriving Repr

/-- The rounding interval of `m · 2^e`. Below a power of two the next double is half as far. -/
def RoundingInterval.of (m : Nat) (e : Int) : RoundingInterval :=
  let below := if m = Nat.pow 2 52 ∧ Binary64.minExponent < e then 1 else 2
  let up := (e - 2).toNat
  { low := (4 * m - below) * Nat.pow 2 up
    high := (4 * m + 2) * Nat.pow 2 up
    value := 4 * m * Nat.pow 2 up
    den := Nat.pow 2 (2 - e).toNat
    closed := m % 2 = 0 }

/-- Whether `num / den'` lies in the interval, for a common scale of both. -/
def RoundingInterval.holds (i : RoundingInterval) (num scale : Nat) : Bool :=
  -- `num · scale` is the candidate in units of `1 / den`
  let x := num * scale
  if i.closed then i.low ≤ x && x ≤ i.high else i.low < x && x < i.high

structure Digits where
  digits : Nat
  exponent : Int
deriving Repr, DecidableEq

/-- The exponent `d` with `10^(d-1) ≤ num / den < 10^d`. -/
def decimalOrder (num den : Nat) : Int :=
  let guess : Int := ((natText num).length : Int) - (natText den).length
  let reaches (d : Int) : Bool :=
    -- `10^d ≤ num / den`
    if 0 ≤ d then den * Nat.pow 10 d.toNat ≤ num else den ≤ num * Nat.pow 10 (-d).toNat
  if reaches (guess + 1) then guess + 2 else if reaches guess then guess + 1 else guess

/-- The better of the value's two neighbours on the grid `10^k`, if one rounds to the value. -/
def onGrid (i : RoundingInterval) (k : Int) : Option Digits :=
  -- scaled by `10^-k` where `k` is negative, so that all are integers
  let ten := Nat.pow 10 (-k).toNat
  let step := i.den * Nat.pow 10 k.toNat
  let j : RoundingInterval :=
    { i with low := i.low * ten, high := i.high * ten, value := i.value * ten }
  let q := j.value / step
  let r := j.value % step
  let down := 0 < q && j.holds q step
  let up := j.holds (q + 1) step
  let takeUp := up && (!down || step < 2 * r || (2 * r == step && q % 2 == 1))
  if takeUp then some ⟨q + 1, k⟩ else if down then some ⟨q, k⟩ else none

/-- The first of the given digit counts whose grid has a neighbour that rounds to the value. -/
def firstGrid (i : RoundingInterval) (order : Int) : List Nat → Option Digits
  | [] => none
  | n :: ns => (onGrid i (order - n)).or (firstGrid i order ns)

def Digits.trimZeros : Nat → Digits → Digits
  | 0, d => d
  | fuel + 1, d =>
    if d.digits % 10 = 0 ∧ d.digits ≠ 0 then trimZeros fuel ⟨d.digits / 10, d.exponent + 1⟩ else d

/-- The shortest decimal that rounds to `m · 2^e`, for a positive `m`. -/
def shortest (m : Nat) (e : Int) : Digits :=
  let i := RoundingInterval.of m e
  let order := decimalOrder i.value i.den
  let found := firstGrid i order ((List.range 17).map (· + 1))
  (found.getD ⟨i.value / i.den, 0⟩).trimZeros 20

/-- How the text of a double is laid out: plain digits up to some size, else with an exponent. -/
structure Layout where
  /-- The least power of ten written without an exponent. -/
  leastPlain : Int
  firstScaled : Int
  exponentWidth : Nat
  /-- What follows an integer written without an exponent. -/
  integerTail : String
  notANumber : String
  infinity : String

/-- Numbers from `10^-4` up to `10^16` are written out, with `.0` after an integer; an exponent has
a sign and at least two digits. -/
def Layout.plain : Layout where
  leastPlain := -4
  firstScaled := 16
  exponentWidth := 2
  integerTail := ".0"
  notANumber := "nan"
  infinity := "inf"

def padLeft (width : Nat) (s : String) : String :=
  "".pushn '0' (width - s.length) ++ s

def Digits.text (l : Layout) (d : Digits) : String :=
  let ds := natText d.digits
  let n := ds.length
  -- the value is `0.ds · 10^point`
  let point : Int := n + d.exponent
  let power := point - 1
  if power < l.leastPlain ∨ l.firstScaled ≤ power then
    let whole := String.ofList (ds.toList.take 1)
    let part := String.ofList (ds.toList.drop 1)
    let sign := if power < 0 then "-" else "+"
    whole ++ (if part.isEmpty then "" else "." ++ part) ++ "e" ++ sign ++
      padLeft l.exponentWidth (natText power.natAbs)
  else if point ≤ 0 then "0." ++ "".pushn '0' (-point).toNat ++ ds
  else if n ≤ point.toNat then ds ++ "".pushn '0' (point.toNat - n) ++ l.integerTail
  else
    String.ofList (ds.toList.take point.toNat) ++ "." ++ String.ofList (ds.toList.drop point.toNat)

def Binary64.text (l : Layout) : Binary64 → String
  | .nan => l.notANumber
  | .infinity negative => (if negative then "-" else "") ++ l.infinity
  | .finite negative m e =>
    (if negative then "-" else "") ++
      (if m = 0 then "0" ++ l.integerTail else (shortest m e).text l)

end BoardRules.Decimal
