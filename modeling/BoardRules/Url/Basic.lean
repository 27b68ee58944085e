import BoardRules.Decimal.Numeral
import BoardRules.Url.Host

/-!
URLs: scheme, authority, path, query and fragment. `parse?` brings each part into its usual form,
that is letters of the scheme and the host in lower case, everything escaped that has to be, no port
where the scheme implies it, and no segments `.` and `..` in the path of a URL that has a scheme or
an authority.
-/
namespace BoardRules

open Decimal BoardRules.Text

/-- A URL, its parts in their usual form. Whatever is absent is empty, or none. -/
structure Url where
  scheme : String
  user : String
  host : String
  port : Option Int
  path : String
  query : Option String
  fragment : Option String
deriving Repr, DecidableEq

namespace Url

def lengthLimit : Nat := 65536

def isControl (c : Char) : Bool := c.toNat < 0x20 || c.toNat = 0x7f

def isVisibleExcept (others : String) (c : Char) : Bool :=
  0x21 ≤ c.toNat && c.toNat ≤ 0x7e && !others.contains c

/-- The characters that a path may contain without being escaped. -/
def isSafeInPath : Char → Bool := isVisibleExcept "\"#<>?`\x7b\x7d"

/-- The characters that a query may contain without being escaped. -/
def isSafeInQuery : Char → Bool := isVisibleExcept "\"#<>"

/-- The characters that a fragment may contain without being escaped. -/
def isSafeInFragment : Char → Bool := isVisibleExcept "\"<>`"

/-- The characters that a user's name and password may contain without being escaped. -/
def isSafeInUser : Char → Bool := isVisibleExcept "\"#<>?`\x7b\x7d/;=@[\\]^|"

/-- Splits a scheme off: letters, digits and a few marks up to a colon, a letter first, or nothing
at all before the colon. -/
def splitScheme (cs : List Char) : List Char × List Char :=
  let isMark (c : Char) : Bool := c.isAlphanum || c == '+' || c == '.' || c == '-'
  let scheme := cs.takeWhile isMark
  match cs.dropWhile isMark with
  | ':' :: rest => if scheme.head?.all Char.isAlpha then (scheme, rest) else ([], cs)
  | _ => ([], cs)

def splitAuthority : List Char → List Char × List Char
  | '/' :: '/' :: cs =>
    let ends (c : Char) : Bool := c == '/' || c == '?' || c == '#'
    (cs.takeWhile (!ends ·), cs.dropWhile (!ends ·))
  | cs => ([], cs)

/-- Splits at the first occurrence of a character; without it there is no second part. -/
def cutAt (c : Char) (cs : List Char) : List Char × Option (List Char) :=
  match splitFirst (· == c) cs with
  | some (a, b) => (a, some b)
  | none => (cs, none)

def cutAtLast (c : Char) (cs : List Char) : List Char × Option (List Char) :=
  let (a, b) := cutAt c cs.reverse
  (a.reverse, b.map List.reverse)

/-- Splits a host from the port behind it. A host in brackets ends with the last one. -/
def splitPort (cs : List Char) : List Char × List Char :=
  let (host, rest) :=
    match cs.head? == some '[', cutAtLast ']' cs with
    | true, (rest, some host) => (host ++ [']'], rest)
    | _, _ => (cs.takeWhile (· != ':'), cs.dropWhile (· != ':'))
  (host, if rest.head? = some ':' then rest.drop 1 else rest)

def impliedPort? (scheme : String) : Option Int :=
  [("ftp", 21), ("http", 80), ("https", 443), ("ws", 80), ("wss", 443)].lookup scheme

/-- The port of a URL, none if the scheme as it was written implies it; fails if it is no number. -/
def port? (scheme : String) (cs : List Char) : Option (Option Int) :=
  if cs.isEmpty then some none
  else (readInteger 10 cs).map fun n => if impliedPort? scheme = some n then none else some n

/-- Removes segments that stand for the same place or for the one above; above the first segment of
an absolute path there is nothing. The segments before come in reverse. -/
def climb (before : List (List Char)) : List (List Char) → List (List Char)
  | [] => before.reverse
  | s :: rest =>
    if s = ['.'] then climb before rest
    else if s = ['.', '.'] then climb (if before = [[]] then before else before.drop 1) rest
    else climb (s :: before) rest

/-- A path without segments that stand for the same place or for the one above. -/
def withoutDots (path : List Char) : List Char := join ['/'] (climb [] (path.splitOn '/'))

def parse? (s : String) : Option Url := do
  let cs := s.toList
  if lengthLimit < cs.length || cs.any isControl then none
  let (scheme, rest) := splitScheme cs
  let (authority, rest) := splitAuthority rest
  let (rest, fragment) := cutAt '#' rest
  let (path, query) := cutAt '?' rest
  let (authority, user) := cutAtLast '@' authority
  let (host, port) := splitPort authority
  let scheme := String.ofList scheme
  let user := String.ofList (quote isSafeInUser (user.getD []))
  let host ← host? (String.ofList host)
  let port ← port? scheme port
  let hasAuthority := !user.isEmpty || !host.isEmpty || port.isSome
  if hasAuthority && path.head?.any (· != '/') then none
  let isRelative := scheme.isEmpty && !hasAuthority
  if isRelative && (['/', '/'].isPrefixOf path || path.head? == some ':') then none
  let path := if isRelative then path else withoutDots path
  let text (isSafe : Char → Bool) (cs : List Char) : String := String.ofList (quote isSafe cs)
  return {
    scheme := scheme.toLower, user, host, port, path := text isSafeInPath path
    query := query.map (text isSafeInQuery), fragment := fragment.map (text isSafeInFragment) }

def isAbsolute (u : Url) : Bool := !u.scheme.isEmpty && !u.host.isEmpty

def location (u : Url) : String :=
  (if u.host.contains ':' then "[" ++ u.host ++ "]" else u.host) ++
    match u.port with
    | some n => ":" ++ intText n
    | none => ""

def text (u : Url) : String :=
  let authority := (if u.user.isEmpty then "" else u.user ++ "@") ++ u.location
  (if u.scheme.isEmpty then "" else u.scheme ++ ":") ++
    (if authority.isEmpty then "" else "//" ++ authority) ++ u.path ++
    (u.query.elim "" ("?" ++ ·)) ++ u.fragment.elim "" ("#" ++ ·)

def target (u : Url) : String :=
  (if u.path.isEmpty then "/" else u.path) ++ u.query.elim "" ("?" ++ ·)

def fromRoot (u : Url) : String := String.ofList ('/' :: u.target.toList.dropWhile (· == '/'))

end Url
end BoardRules
