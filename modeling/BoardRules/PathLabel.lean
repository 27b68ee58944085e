import BoardRules.Text.DecimalDigit
import BoardRules.Text.Word
import BoardRules.Url.Escape

/-!
Labels for request paths. Identifiers and numbers in a path are replaced by a placeholder, so that
the number of labels stays bounded by the number of shapes that paths have.
-/
namespace BoardRules.PathLabel

open BoardRules.Text

def placeholder : List Char := "\x7bid\x7d".toList

def uuidLength : Nat := 36

/-- Whether a character may stand at a position of an identifier of version 1 to 5. -/
def fitsUuid (i : Nat) (c : Char) : Bool :=
  if i = 8 ∨ i = 13 ∨ i = 18 ∨ i = 23 then c == '-'
  else if i = 14 then '1' ≤ c && c ≤ '5'
  else if i = 19 then c == '8' || c == '9' || c == 'a' || c == 'b' || c == 'A' || c == 'B'
  else (hexValue? c).isSome

/-- Whether all characters fit the positions of an identifier from the given one on. -/
def fitsFrom : Nat → List Char → Bool
  | _, [] => true
  | i, c :: cs => fitsUuid i c && fitsFrom (i + 1) cs

def startsWithUuid (before : Option Char) (cs : List Char) : Bool :=
  let u := cs.take uuidLength
  u.length == uuidLength && fitsFrom 0 u && !isWord? before && !isWord? (cs.drop uuidLength).head?

/-- Replaces identifiers. The first `skip` characters belong to one already replaced. -/
def labelUuids : Nat → Option Char → List Char → List Char
  | _, _, [] => []
  | skip + 1, _, c :: cs => labelUuids skip (some c) cs
  | 0, before, c :: cs =>
    if startsWithUuid before (c :: cs) then placeholder ++ labelUuids (uuidLength - 1) (some c) cs
    else c :: labelUuids 0 (some c) cs

/-- The number of digits that a number right at the start of a text has; zero if a word goes on
after them. -/
def numberLength (cs : List Char) : Nat :=
  if isWord? (cs.dropWhile isDecimalDigit).head? then 0 else (cs.takeWhile isDecimalDigit).length

/-- Replaces numbers that follow a slash. The first `skip` characters belong to one already
replaced. -/
def labelNumbers : Nat → List Char → List Char
  | _, [] => []
  | skip + 1, _ :: cs => labelNumbers skip cs
  | 0, c :: cs =>
    if c = '/' ∧ numberLength cs ≠ 0 then c :: placeholder ++ labelNumbers (numberLength cs) cs
    else c :: labelNumbers 0 cs

def ofChars (cs : List Char) : List Char := labelNumbers 0 (labelUuids 0 none cs)

def ofPath (path : String) : String := String.ofList (ofChars path.toList)

/-- A path as it stands in the URL of a request: it begins with a slash unless it is empty, marks
that would end it are escaped, and blanks that no line contains are left out. -/
def inUrl (path : List Char) : List Char :=
  let rooted := match path with
    | [] | '/' :: _ => path
    | cs => '/' :: cs
  (Url.embed rooted).filter fun c => c != '\t' && c != '\r' && c != '\n'

def ofRequest (path : String) : String := String.ofList (ofChars (inUrl path.toList))

/-- The label of a request to a route that may have a format and a path of its own: the first of
them that is not empty, or else that of the request's path. -/
def resolve (format own : Option String) (path : String) : String :=
  let given (s : Option String) : Option String := s.filter (!·.isEmpty)
  ((given format).or (given own)).getD (ofRequest path)

end BoardRules.PathLabel
