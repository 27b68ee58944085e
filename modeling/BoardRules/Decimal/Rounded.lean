import BoardRules.Decimal.Shortest

/-!
Doubles rounded to a given number of digits, which stand behind the point (`fixedText`) or count in
all (`scientificText`, `generalText`). The magnitude is taken exactly; where nothing else is said, a
half goes to the even digit.
-/
namespace BoardRules.Decimal

def paddedDigits (width n : Nat) : List Char := (padLeft width (natText n)).toList

def scaledRatio (m : Nat) (e : Int) : Nat × Nat := (m * Nat.pow 2 e.toNat, Nat.pow 2 (-e).toNat)

/-- The digits before and behind a point; the point itself is left out if nothing follows it, unless
it is asked for. -/
def pointed (keepPoint : Bool) (whole part : List Char) : List Char :=
  if part.isEmpty && !keepPoint then whole else whole ++ '.' :: part

def fixedText (keepPoint : Bool) (places m : Nat) (e : Int) : List Char :=
  let (num, den) := scaledRatio m e
  let ds := paddedDigits (places + 1) (roundHalfEven (num * Nat.pow 10 places) den)
  let point := ds.length - places
  pointed keepPoint (ds.take point) (ds.drop point)

def roundHalfUp (num den : Nat) : Nat := (2 * num + den) / (2 * den)

/-- The digits of a magnitude rounded to the given count, and the power of ten of the first one. -/
def significantDigits (round : Nat → Nat → Nat) (count m : Nat) (e : Int) : List Char × Int :=
  if m = 0 then (List.replicate count '0', 0)
  else
    let (num, den) := scaledRatio m e
    let order := decimalOrder num den
    let shift : Int := count - order
    let n := round (num * Nat.pow 10 shift.toNat) (den * Nat.pow 10 (-shift).toNat)
    -- rounding up may carry into one more digit
    if n = Nat.pow 10 count then ((natText (n / 10)).toList, order) else ((natText n).toList, order - 1)

def powerText (mark : Char) (power : Int) : List Char :=
  mark :: (if power < 0 then '-' else '+') :: paddedDigits 2 power.natAbs

/-- A magnitude as one digit, a fixed number of digits behind the point, and a power of ten. -/
def scientificText (mark : Char) (keepPoint : Bool) (places m : Nat) (e : Int) : List Char :=
  let (ds, power) := significantDigits roundHalfEven (places + 1) m e
  pointed keepPoint (ds.take 1) (ds.drop 1) ++ powerText mark power

def trimZerosEnd (ds : List Char) : List Char := (ds.reverse.dropWhile (· == '0')).reverse

/-- A magnitude with a given count of digits, at least one, in the shorter of both layouts: powers
of ten from −4 up to the count are written out. Zeros at the end are kept only on demand. -/
def generalText (mark : Char) (keepZeros : Bool) (count m : Nat) (e : Int) : List Char :=
  let count := max count 1
  let (ds, power) := significantDigits roundHalfEven count m e
  let trim (part : List Char) : List Char := if keepZeros then part else trimZerosEnd part
  if power < -4 ∨ count ≤ power then
    pointed keepZeros (ds.take 1) (trim (ds.drop 1)) ++ powerText mark power
  else if power < 0 then
    pointed keepZeros ['0'] (trim (List.replicate (-power - 1).toNat '0' ++ ds))
  else
    let point := power.toNat + 1
    pointed keepZeros (ds.take point) (trim (ds.drop point))

end BoardRules.Decimal
