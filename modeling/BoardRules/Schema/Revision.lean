import BoardRules.Decimal.Numeral
import BoardRules.Text.Search
import BoardRules.Text.Word

/-!
Revisions of a schema. They follow one another; how many of them are in force tells the state of a
database.

A target names the state to reach. `head` and `base` are the last and the first, a revision is named
by its identifier or the beginning of it, and `+1` or `head-1` count from a state. In front of any
of them a branch may stand, with an at sign behind it. Every revision of a history belongs to each
of its branches, and a branch has the names of its revisions.
-/
namespace BoardRules.Schema

open BoardRules.Text Decimal

abbrev History := List String

inductive TargetFault where
  | unreachable
  | noRevision
  | noStart
  | malformedRange
  | longCount
deriving Repr, DecidableEq

inductive Place where
  /-- Outside the history: the first revision is next on the way up, the last one on the way
  down. -/
  | outside
  | revision (index : Nat)
  | bottom
deriving Repr, DecidableEq

def Place.ofCount : Nat → Place
  | 0 => .outside
  | n + 1 => .revision n

def Place.count : Place → Nat
  | .revision i => i + 1
  | _ => 0

structure BranchName where
  branch : Option String
  name : Option String
deriving Repr, DecidableEq

def splitBranch (s : String) : Option String × String :=
  match splitFirst (· == '@') s.toList with
  | some (branch, rest) => (some (String.ofList branch), String.ofList rest)
  | none => (none, s)

def onBranch (branch : Option String) (name : String) : String :=
  match branch with
  | some b => b ++ "@" ++ name
  | none => name

namespace History

/-- The index of the revision that an identifier, or the beginning of one with more than three
characters, stands for. -/
def index (h : History) (name : String) : Except TargetFault Nat :=
  match h.zipIdx.find? fun r => r.1 == name with
  | some (_, i) => .ok i
  | none =>
    if name.isEmpty then .error .noRevision
    else
      match h.zipIdx.filter fun r => 3 < r.1.length && name.toList.isPrefixOf r.1.toList with
      | [(_, i)] => .ok i
      | _ => .error .unreachable

def check (h : History) (name : Option String) : Except TargetFault Unit :=
  match name with
  | some s => (h.index s).map fun _ => ()
  | none => .ok ()

def isHead (name : String) : Bool := name == "head" || name == "heads"

/-- The name of the revision that a name without a branch stands for; none for the base. -/
def plainName (h : History) (name : String) : Option String :=
  if isHead name then h.getLast? else if name = "base" then none else some name

def resolve (h : History) (s : String) : Except TargetFault BranchName := do
  let (branch, rest) := splitBranch s
  if isHead rest then h.check ((branch.filter (!·.isEmpty)).bind h.plainName)
  return ⟨branch, h.plainName rest⟩

def checkBranch (h : History) (branch : String) : Except TargetFault Unit := do
  let b ← h.resolve branch
  h.check (b.branch.filter (!·.isEmpty))
  h.check b.name

def place (h : History) (s : String) : Except TargetFault Place := do
  let b ← h.resolve s
  h.check (b.branch.filter (!·.isEmpty))
  match b.name with
  | some name => Place.revision <$> h.index name
  | none => return .outside

/-- Walks up along a branch; there is no place above the last revision. -/
def walkUp (h : History) (branch : Option String) (start : Place) (steps : Nat) :
    Except TargetFault (Option Place) := do
  if steps = 0 then return some start
  match branch with
  | some b => if start.count < h.length then h.checkBranch b else discard (h.resolve b)
  | none => pure ()
  let goal := start.count + steps
  return if goal ≤ h.length then some (.ofCount goal) else none

def walkDown (h : History) (start : Place) (steps : Nat) : Option Place :=
  if steps = 0 then some start
  else
    let above : Nat := match start with
      | .outside => h.length + 1
      | start => start.count
    if start = .bottom ∨ above < steps then none
    else if above = steps then some .bottom else some (.ofCount (above - steps))

end History

structure RelativeTarget where
  branch : Option String
  origin : Option String
  count : List Char
deriving Repr, DecidableEq

namespace RelativeTarget

/-- Reads a target that counts and has no branch; what follows the digits does not matter. -/
def ofChars? (branch : Option String) (cs : List Char) : Option RelativeTarget :=
  let word := cs.takeWhile isWord
  match cs.dropWhile isWord with
  | sign :: rest =>
    let digits := rest.takeWhile isDecimalDigit
    if (sign = '+' ∨ sign = '-') ∧ !digits.isEmpty then
      some ⟨branch, if word.isEmpty then none else some (String.ofList word), sign :: digits⟩
    else none
  | [] => none

/-- Reads a target that counts. Its branch is in one line and as short as possible. -/
def ofText? (s : String) : Option RelativeTarget :=
  let cs := s.toList
  let branched (i : Nat) : Option RelativeTarget :=
    let branch := cs.take i
    if branch.isEmpty || branch.contains '\n' || cs[i]? != some '@' then none
    else ofChars? (some (String.ofList branch)) (cs.drop (i + 1))
  ((List.range cs.length).findSome? branched).or (ofChars? none cs)

def steps (t : RelativeTarget) : Except TargetFault Int :=
  match readInteger 10 t.count with
  | some n => .ok n
  | none => .error .longCount

end RelativeTarget

/-- The number of revisions in force when a revision is the last; a target on the way up has to be a
revision. -/
def revisionCount : Option Place → Except TargetFault Nat
  | some (.revision i) => .ok (i + 1)
  | _ => .error .noRevision

namespace History

/-- The state that a target that does not count stands for on the way up; none for the base, or if
it is a negative number on a branch. Without a branch a negative number counts from the last
revision. -/
def namedAbove? (h : History) (target : String) : Except TargetFault (Option Nat) := do
  let b ← h.resolve target
  match b.name with
  | none => return none
  | some name =>
    match (readInteger 10 name.toList).filter (· < 0) with
    | some n =>
      if b.branch.isSome then return none
      else some <$> revisionCount (h.walkDown (.ofCount h.length) n.natAbs)
    | none => do
      h.check (b.branch.filter (!·.isEmpty))
      return some ((← h.index name) + 1)

def countedAbove (h : History) (present : Nat) (t : RelativeTarget) : Except TargetFault Nat := do
  let steps ← t.steps
  match t.origin with
  | none =>
    if steps ≤ 0 then throw .unreachable
    if let some b := t.branch then h.checkBranch b
    match ← h.walkUp t.branch (.ofCount present) steps.natAbs with
    | none => throw .unreachable
    | goal => revisionCount goal
  | some origin =>
    if 0 < steps then revisionCount (← h.walkUp t.branch (← h.place origin) steps.natAbs)
    else revisionCount (h.walkDown (← h.place (onBranch t.branch origin)) steps.natAbs)

/-- The state that a target stands for on the way up, if it is to be left at all. -/
def upTarget? (h : History) (present : Nat) (target : String) :
    Except TargetFault (Option Nat) :=
  match RelativeTarget.ofText? target with
  | some t => some <$> h.countedAbove present t
  | none => h.namedAbove? target

def downOrigin (h : History) (present : Nat) (t : RelativeTarget) : Except TargetFault Place :=
  match t.origin with
  | some origin => h.place (onBranch t.branch origin)
  | none =>
    match t.branch, h[present - 1]? with
    | none, _ => if present = 0 then .error .unreachable else .ok (.ofCount present)
    | some b, some id => do
      if present = 0 then
        let _ ← h.resolve b
        throw .noRevision
      h.checkBranch b
      h.place (onBranch b id)
    | some _, none => .error .unreachable

def countedBelow (h : History) (present : Nat) (t : RelativeTarget) :
    Except TargetFault Place := do
  let steps ← t.steps
  let goal ←
    if 0 ≤ steps then
      match t.origin with
      | some origin => h.walkUp t.branch (← h.place origin) steps.natAbs
      | none => throw .unreachable
    else pure (h.walkDown (← h.downOrigin present t) steps.natAbs)
  match goal with
  | none | some .outside => throw .unreachable
  | some p => return p

def afterBranch (s : String) : String :=
  String.ofList (s.toList.reverse.takeWhile (· != '@')).reverse

/-- The state that a target stands for on the way down; it may not be above the present one. -/
def downTarget (h : History) (present : Nat) (target : String) : Except TargetFault Nat := do
  let goal ← match RelativeTarget.ofText? target with
    | some t => h.countedBelow present t
    | none => h.place (afterBranch target)
  if goal.count ≤ present then return goal.count else throw .unreachable

/-- The state from which a script begins; without one, the base. -/
def scriptStart (h : History) (start : Option String) : Except TargetFault Nat :=
  match start with
  | none => .ok 0
  | some name => do
    if name = "base" then return 0
    match ← h.place name with
    | .revision i => return i + 1
    | _ => throw .noStart

end History

/-- Splits a range at its colon; without one there is only its end. -/
def splitRange (s : String) : Except TargetFault (Option String × String) :=
  match s.toList.splitOn ':' with
  | [a, b] => .ok (some (String.ofList a), String.ofList b)
  | [_] => .ok (none, s)
  | _ => .error .malformedRange

end BoardRules.Schema
