/-!
Blocks of adjacent characters in a text: whether one occurs, and its removal.
-/
namespace BoardRules.Text

/-- Whether `needle` occurs in a text as a block of adjacent characters. -/
def occursIn (needle : List Char) : List Char → Bool
  | [] => needle.isEmpty
  | c :: cs => needle.isPrefixOf (c :: cs) || occursIn needle cs

theorem occursIn_iff {needle hay : List Char} : occursIn needle hay = true ↔ needle <:+: hay := by
  induction hay with
  | nil => cases needle <;> simp [occursIn]
  | cons c cs ih => simp [occursIn, ih, List.infix_cons_iff]

/-- Removes the occurrences of `block` that a scan from the left meets, the first `skip` characters
being the rest of one already met. -/
def eraseFrom (block : List Char) : Nat → List Char → List Char
  | _, [] => []
  | skip + 1, _ :: cs => eraseFrom block skip cs
  | 0, c :: cs =>
    if block.isPrefixOf (c :: cs) then eraseFrom block (block.length - 1) cs
    else c :: eraseFrom block 0 cs

def eraseAll (block : List Char) (cs : List Char) : List Char := eraseFrom block 0 cs

theorem eraseAll_of_not_infix {block cs : List Char} (h : ¬ block <:+: cs) :
    eraseAll block cs = cs := by
  unfold eraseAll
  induction cs with
  | nil => rfl
  | cons c cs ih =>
    rw [List.infix_cons_iff, not_or] at h
    rw [eraseFrom, if_neg (by simpa using h.1), ih h.2]

/-- The text up to the first character that satisfies `p`, and the text after that character. -/
def splitFirst (p : Char → Bool) : List Char → Option (List Char × List Char)
  | [] => none
  | c :: cs => if p c then some ([], cs) else (splitFirst p cs).map fun (a, b) => (c :: a, b)

/-- Drops the characters at both ends that satisfy `p`. -/
def stripChars (p : Char → Bool) (cs : List Char) : List Char :=
  ((cs.dropWhile p).reverse.dropWhile p).reverse

def join (sep : List Char) : List (List Char) → List Char
  | [] => []
  | [p] => p
  | p :: ps => p ++ sep ++ join sep ps

end BoardRules.Text
