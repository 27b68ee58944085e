/-!
Labels of host names in ASCII. The other characters of a label are written behind its ASCII ones, in
the order of their code points, as the steps of a walk through all positions that they could take.
A step is a number of variable length in base 36, the thresholds of its digits follow the size of
the steps before.
-/
namespace BoardRules.Url.Punycode

def digit (d : Nat) : Char := Char.ofNat (if d < 26 then 0x61 + d else 0x30 + (d - 26))

/-- The threshold of a digit, between 1 and 26. Positions count in steps of 36. -/
def threshold (bias position : Nat) : Nat := max 1 (min 26 (position - bias))

/-- The digits of a number, the least significant one first. The count bounds their number. -/
def digits (bias : Nat) : Nat → Nat → Nat → List Char
  | 0, _, _ => []
  | fuel + 1, position, n =>
    let t := threshold bias position
    if n < t then [digit n]
    else digit (t + (n - t) % (36 - t)) :: digits bias fuel (position + 36) ((n - t) / (36 - t))

/-- Halves a step again and again until it is small; also counts how often. -/
def shrink : Nat → Nat → Nat → Nat × Nat
  | 0, k, step => (k, step)
  | fuel + 1, k, step => if 455 < step then shrink fuel (k + 36) (step / 35) else (k, step)

/-- The bias after a step, of which there are `written` with the characters before. -/
def adapt (first : Bool) (written step : Nat) : Nat :=
  let step := if first then step / 700 else step / 2
  let (k, step) := shrink step 0 (step + step / written)
  k + 36 * step / (step + 38)

structure Progress where
  text : List Char := []
  step : Nat := 0
  bias : Nat := 72
  written : Nat
  first : Bool := true

def Progress.pass (code : Nat) (p : Progress) (c : Char) : Progress :=
  if c.toNat < code then { p with step := p.step + 1 }
  else if c.toNat = code then
    { text := p.text ++ digits p.bias (p.step + 1) 36 p.step
      step := 0
      bias := adapt p.first (p.written + 1) p.step
      written := p.written + 1
      first := false }
  else p

/-- Writes all occurrences of the given code points, which are in order and beyond `before`. -/
def Progress.write (label : List Char) (before : Nat) (p : Progress) : List Nat → Progress
  | [] => p
  | code :: codes =>
    let p := { p with step := p.step + (code - before) * (p.written + 1) }
    let p := label.foldl (Progress.pass code) p
    Progress.write label (code + 1) { p with step := p.step + 1 } codes

def encode (label : List Char) : List Char :=
  let plain := label.filter fun c => c.toNat < 0x80
  let codes := ((label.map Char.toNat).filter fun n => 0x80 ≤ n).eraseDups.mergeSort
  plain ++ (if plain.isEmpty then [] else ['-']) ++
    (Progress.write label 0x80 { written := plain.length } codes).text

end BoardRules.Url.Punycode
