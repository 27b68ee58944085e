/-!
Text as bytes. A character is written as one to four bytes; bytes that are no character read as the
replacement character, one for each part that cannot be continued.
-/
namespace BoardRules.Text

def replacement : Char := '\ufffd'

/-- The number of bytes that continue a leading byte, its own bits, and the range of the next
byte. -/
def leadingByte? (b : Nat) : Option (Nat × Nat × Nat × Nat) :=
  if 0xc2 ≤ b ∧ b ≤ 0xdf then some (1, b - 0xc0, 0x80, 0xbf)
  else if b = 0xe0 then some (2, 0, 0xa0, 0xbf)
  else if b = 0xed then some (2, 0xd, 0x80, 0x9f)
  else if 0xe1 ≤ b ∧ b ≤ 0xef then some (2, b - 0xe0, 0x80, 0xbf)
  else if b = 0xf0 then some (3, 0, 0x90, 0xbf)
  else if 0xf1 ≤ b ∧ b ≤ 0xf3 then some (3, b - 0xf0, 0x80, 0xbf)
  else if b = 0xf4 then some (3, 4, 0x80, 0x8f)
  else none

/-- How far a character is read: the continuing bytes it still needs, its bits so far, and the range
of the next byte. -/
abbrev Partial := Option (Nat × Nat × Nat × Nat)

/-- Reads bytes as UTF-8, going on with a character that has begun. -/
def utf8From : Partial → List Nat → List Char
  | none, [] => []
  | some _, [] => [replacement]
  | none, b :: bs =>
    if b < 0x80 then Char.ofNat b :: utf8From none bs
    else match leadingByte? b with
      | some p => utf8From (some p) bs
      | none => replacement :: utf8From none bs
  | some (n, bits, lo, hi), b :: bs =>
    if lo ≤ b ∧ b ≤ hi then
      let bits := bits * 64 + (b - 0x80)
      if n = 1 then Char.ofNat bits :: utf8From none bs
      else utf8From (some (n - 1, bits, 0x80, 0xbf)) bs
    else if b < 0x80 then replacement :: Char.ofNat b :: utf8From none bs
    else match leadingByte? b with
      | some p => replacement :: utf8From (some p) bs
      | none => replacement :: replacement :: utf8From none bs

def utf8 (bytes : List Nat) : List Char := utf8From none bytes

def utf8Bytes (c : Char) : List Nat :=
  let n := c.toNat
  if n < 0x80 then [n]
  else if n < 0x800 then [0xc0 + n / 0x40, 0x80 + n % 0x40]
  else if n < 0x10000 then [0xe0 + n / 0x1000, 0x80 + n / 0x40 % 0x40, 0x80 + n % 0x40]
  else
    [0xf0 + n / 0x40000, 0x80 + n / 0x1000 % 0x40, 0x80 + n / 0x40 % 0x40, 0x80 + n % 0x40]

end BoardRules.Text
