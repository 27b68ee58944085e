import BoardRules.Text.DecimalDigit
import BoardRules.Text.Utf8

/-!
Percent escapes: a percent sign and two hexadecimal digits stand for a byte.
-/
namespace BoardRules.Url

open BoardRules.Text

/-- Replaces escapes; the bytes collected so far wait for the end of their run. -/
def unescapeFrom (bytes : List Nat) : List Char → List Char
  | '%' :: a :: b :: cs =>
    match hexValue? a, hexValue? b with
    | some x, some y => unescapeFrom (bytes ++ [16 * x + y]) cs
    | _, _ => utf8 bytes ++ '%' :: unescapeFrom [] (a :: b :: cs)
  | c :: cs => utf8 bytes ++ c :: unescapeFrom [] cs
  | [] => utf8 bytes
termination_by cs => cs.length

def unescape (cs : List Char) : List Char := unescapeFrom [] cs

def escapes (c : Char) : List Char :=
  (utf8Bytes c).flatMap fun b => '%' :: (hexDigits 2 b).map Char.toUpper

def embed (path : List Char) : List Char :=
  path.flatMap fun c => if c = '?' ∨ c = '#' ∨ c = '\\' then escapes c else [c]

def isUnreserved (c : Char) : Bool :=
  c.isAlphanum || c == '-' || c == '.' || c == '_' || c == '~'

/-- A character, escaped unless it needs no escape or is safe. -/
def escapeChar (isSafe : Char → Bool) (c : Char) : List Char :=
  if isUnreserved c || isSafe c then [c] else escapes c

def quote (isSafe : Char → Bool) : List Char → List Char
  | '%' :: a :: b :: cs =>
    if (hexValue? a).isSome && (hexValue? b).isSome then '%' :: a :: b :: quote isSafe cs
    else escapeChar isSafe '%' ++ quote isSafe (a :: b :: cs)
  | c :: cs => escapeChar isSafe c ++ quote isSafe cs
  | [] => []
termination_by cs => cs.length

end BoardRules.Url
