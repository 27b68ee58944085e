import BoardRules.Text.DecimalDigit
import BoardRules.Text.Lowercase
import BoardRules.Text.Search
import BoardRules.Url.Escape
import BoardRules.Url.HostCharacter
import BoardRules.Url.Punycode

/-!
Hosts: addresses of four or of sixteen bytes, and names. The labels of a name are written in ASCII.
-/
namespace BoardRules.Url

open BoardRules.Text

/-- Whether a text writes a byte in decimal, without zeros in front. -/
def isByteText (cs : List Char) : Bool :=
  !cs.isEmpty && cs.length ≤ 3 && cs.all Char.isDigit && (cs.head? != some '0' || cs.length == 1) &&
    cs.foldl (fun n c => n * 10 + (c.toNat - 0x30)) 0 ≤ 255

def isShortAddress (cs : List Char) : Bool :=
  let parts := cs.splitOn '.'
  parts.length == 4 && parts.all isByteText

/-- The states that a character leads to on the search for four groups of digits with any character
between two of them: an even state begins a group, an odd one has seen a digit of it. -/
def groupStates (c : Char) (state : Nat) : List Nat :=
  (if c.isDigit then [state / 2 * 2 + 1] else []) ++
    if state % 2 = 1 ∧ state < 7 then [state + 1] else []

/-- Whether a text consists of four groups of digits with any character between two of them, so that
it is taken for an address of four bytes. -/
def looksLikeShortAddress (cs : List Char) : Bool :=
  (cs.foldl (fun states c => (states.flatMap (groupStates c)).eraseDups) [0]).contains 7

def isGroup (cs : List Char) : Bool :=
  !cs.isEmpty && cs.length ≤ 4 && cs.all fun c => (hexValue? c).isSome

/-- The groups of an address; an address of four bytes at its end counts as two. -/
def groupsOf? (cs : List Char) : Option (List (List Char)) :=
  let parts := cs.splitOn ':'
  if parts.length < 3 then none
  else
    match parts.getLast? with
    | some tail =>
      if tail.contains '.' then
        if isShortAddress tail then some (parts.dropLast ++ [['0'], ['0']]) else none
      else some parts
    | none => none

/-- Whether the groups on one side of a gap are groups; at the edge of the address there may be
none. -/
def isSide (groups : List (List Char)) : Bool := groups == [[]] || groups.all isGroup

def isGroups (groups : List (List Char)) : Bool :=
  let inner := (groups.drop 1).dropLast
  match inner.zipIdx.filter fun g => g.1.isEmpty with
  | [] => groups.length == 8 && groups.all isGroup
  | [(_, i)] =>
    let before := groups.take (i + 1)
    let after := groups.drop (i + 2)
    isSide before && isSide after && (before ++ after).countP (!·.isEmpty) < 8
  | _ => false

/-- Whether a text is an address of sixteen bytes, perhaps with a zone behind a percent sign. -/
def isLongAddress (cs : List Char) : Bool :=
  let zoned := match splitFirst (· == '%') cs with
    | some (address, zone) => if zone.isEmpty || zone.contains '%' then none else some address
    | none => some cs
  match zoned.bind groupsOf? with
  | some groups => isGroups groups
  | none => false

/-- Whether a label of a name is well formed but for its characters: it is not empty, has no hyphen
at an end and no two hyphens where those of a label in ASCII stand. -/
def isWellHyphenated (label : List Char) : Bool :=
  !label.isEmpty && label.head? != some '-' && label.getLast? != some '-' &&
    (label.drop 2).take 2 != ['-', '-']

/-- Whether a character that needs its neighbours may stand between them: a point between two `l`,
digits of Arabic script that are not mixed with those of Persian. -/
def fitsNeighbours (label before after : List Char) (c : Char) : Bool :=
  let extended (d : Char) : Bool := 0x6f0 ≤ d.toNat && d.toNat ≤ 0x6f9
  let arabic (d : Char) : Bool := 0x660 ≤ d.toNat && d.toNat ≤ 0x669
  if c.toNat = 0xb7 then before.getLast? == some 'l' && after.head? == some 'l'
  else if arabic c then !label.any extended
  else if extended c then !label.any arabic
  else false

def hasHostCharacters (label : List Char) : Bool :=
  label.zipIdx.all fun (c, i) =>
    isHostCharacter c || fitsNeighbours label (label.take i) (label.drop (i + 1)) c

def asciiMark : List Char := "xn--".toList

def labelLimit : Nat := 63

def asciiLabel? (label : List Char) : Option (List Char) :=
  let written :=
    if label.all (·.toNat < 0x80) then
      if asciiMark.isPrefixOf label then
        if label.length = 4 ∨ label.getLast? = some '-' then none else some label
      else if isWellHyphenated label && hasHostCharacters label then some label
      else none
    else if isWellHyphenated label && hasHostCharacters label then
      some (asciiMark ++ Punycode.encode label)
    else none
  written.filter fun cs => cs.length ≤ labelLimit

def isLabelDot (c : Char) : Bool := [0x2e, 0x3002, 0xff0e, 0xff61].contains c.toNat

/-- The greatest length of a name, apart from a point at its end. -/
def nameLimit : Nat := 253

/-- A name with its labels in ASCII, if all are well formed. A point may follow the last one. -/
def asciiName? (cs : List Char) : Option (List Char) := do
  let labels := cs.splitOnP isLabelDot
  let ends := labels.getLast? == some []
  let labels ← (if ends then labels.dropLast else labels).mapM asciiLabel?
  let name := join ['.'] labels ++ if ends then ['.'] else []
  if name.length ≤ nameLimit + (if ends then 1 else 0) then some name else none

/-- The characters that a name in ASCII may contain without being escaped. -/
def isSafeInName (c : Char) : Bool := "!$&'()*+,;=\"`\x7b\x7d%|\\".toList.contains c

/-- A host as it is written in a URL, without the brackets of a long address. -/
def host? (s : String) : Option String :=
  let cs := s.toList
  if cs.isEmpty then some ""
  else if looksLikeShortAddress cs then if isShortAddress cs then some s else none
  else if cs.head? = some '[' ∧ cs.getLast? = some ']' then
    let address := (cs.drop 1).dropLast
    if isLongAddress address then some (String.ofList address) else none
  else
    let lowered := (lower s).toList
    if cs.all (·.toNat < 0x80) then some (String.ofList (quote isSafeInName lowered))
    else (asciiName? lowered).map String.ofList

end BoardRules.Url
