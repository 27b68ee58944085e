import BoardRules.FieldValue

/-!
Templates of mail subjects and bodies. A token names a value of a bucket, as `card.title` in double
braces does; rendering puts the value in its place, once and from left to right.

A token whose bucket is missing, or whose bucket has no such value to offer, stays as it is. A
bucket that is there renders absent values as the empty text.
-/
namespace BoardRules

open Decimal BoardRules.Text

namespace Json

def linkText (es : Entries) : String :=
  let url := es.getD "url"
  if url.isTruthy then url.shown else ""

mutual

/-- A value as a template shows it: booleans as Yes and No, an object by its `url`, a list by its
items. -/
def displayChars : Json → List Char
  | .null => []
  | .bool b => if b then "Yes".toList else "No".toList
  | .int n => (intText n).toList
  | .float x =>
    match x.toInt? with
    | some n => (intText n).toList
    | none => (x.text Layout.plain).toList
  | .str s => s.toList
  | .arr items => displayItems items
  | .obj es => (linkText es).toList

def displayItems : List Json → List Char
  | [] => []
  | [x] => displayChars x
  | x :: xs => displayChars x ++ [',', ' '] ++ displayItems xs

end

def display (v : Json) : String := String.ofList v.displayChars

end Json

inductive Bucket where
  | card
  | form
  | stage
  | pipe
deriving Repr, DecidableEq

def Bucket.ofName? : List Char → Option Bucket
  | ['c', 'a', 'r', 'd'] => some .card
  | ['f', 'o', 'r', 'm'] => some .form
  | ['s', 't', 'a', 'g', 'e'] => some .stage
  | ['p', 'i', 'p', 'e'] => some .pipe
  | _ => none

inductive TokenKey where
  | plain (name : String)
  | field (key : String)
deriving Repr, DecidableEq

def TokenKey.plainNames : List String := ["title", "description", "link", "name", "id"]

def TokenKey.fieldMark : List Char := "field.".toList

def TokenKey.ofChars? (cs : List Char) : Option TokenKey :=
  if plainNames.contains (String.ofList cs) then some (.plain (String.ofList cs))
  else if fieldMark.isPrefixOf cs && fieldMark.length < cs.length then
    some (.field (String.ofList (cs.drop fieldMark.length)))
  else none

structure Token where
  bucket : Bucket
  key : TokenKey
deriving Repr, DecidableEq

def Token.isSupported : Token → Bool
  | ⟨.card, .field _⟩ => true
  | ⟨_, .field _⟩ => false
  | ⟨.card, .plain n⟩ => n == "title" || n == "description"
  | ⟨.form, .plain n⟩ => n == "link" || n == "name" || n == "id"
  | ⟨_, .plain n⟩ => n == "name"

def Token.read? : List Char → Option (Token × Nat)
  | '\x7b' :: '\x7b' :: cs => do
    let inner := cs.takeWhile (· ≠ '\x7d')
    let after := cs.dropWhile (· ≠ '\x7d')
    let (name, rest) ← splitFirst (· == '.') inner
    let bucket ← Bucket.ofName? name
    let key ← TokenKey.ofChars? rest
    if ['\x7d', '\x7d'].isPrefixOf after then some (⟨bucket, key⟩, inner.length + 4) else none
  | _ => none

/-- The values that a template may use; a bucket may be missing. -/
structure RenderContext where
  card : Option Entries := none
  form : Option Entries := none
  stage : Option Entries := none
  pipe : Option Entries := none

def RenderContext.bucket? (c : RenderContext) : Bucket → Option Entries
  | .card => c.card
  | .form => c.form
  | .stage => c.stage
  | .pipe => c.pipe

def Token.value (t : Token) (es : Entries) : Json :=
  match t.key with
  | .plain name => es.getD name
  | .field key => (es.getD "fields").entries.getD key

/-- What stands in a token's place; nothing if the token stays. -/
def RenderContext.replacement? (c : RenderContext) (t : Token) : Option (List Char) :=
  if t.isSupported then (c.bucket? t.bucket).map fun es => (t.value es).displayChars else none

inductive Piece where
  | char (c : Char)
  | token (t : Token) (text : List Char)
deriving Repr, DecidableEq

/-- The pieces of a text, the first characters of which belong to a token already taken. -/
def Piece.splitFrom : Nat → List Char → List Piece
  | _, [] => []
  | taken + 1, _ :: xs => splitFrom taken xs
  | 0, x :: xs =>
    match Token.read? (x :: xs) with
    | none => .char x :: splitFrom 0 xs
    | some (t, n) => .token t ((x :: xs).take n) :: splitFrom (n - 1) xs

def Piece.split (text : String) : List Piece := splitFrom 0 text.toList

def Piece.token? : Piece → Option Token
  | .char _ => none
  | .token t _ => some t

def RenderContext.renderPiece (c : RenderContext) : Piece → List Char
  | .char x => [x]
  | .token t text => (c.replacement? t).getD text

def RenderContext.render (c : RenderContext) (text : String) : String :=
  String.ofList ((Piece.split text).flatMap c.renderPiece)

/-- Whether a token finds an object wherever it looks for its value in the value of its bucket. -/
def Token.fits (t : Token) (bucket : Json) : Bool :=
  match t.key, bucket with
  | _, .null => true
  | .plain _, .obj _ => true
  | .field _, .obj es => (Entries.getD es "fields").isObject || !(Entries.getD es "fields").isTruthy
  | _, _ => false

def Bucket.name : Bucket → String
  | .card => "card"
  | .form => "form"
  | .stage => "stage"
  | .pipe => "pipe"

namespace RenderContext

def ofEntries (es : Entries) : RenderContext :=
  let bucket? (b : Bucket) : Option Entries :=
    match es.getD b.name with
    | .obj values => some values
    | _ => none
  { card := bucket? .card, form := bucket? .form, stage := bucket? .stage, pipe := bucket? .pipe }

def serves (values : Json) (text : String) : Bool :=
  (Piece.split text).all fun p =>
    match p.token? with
    | some t => values.isObject && (!t.isSupported || t.fits (values.entries.getD t.bucket.name))
    | none => true

/-- The context that values of any shape make up for a text; nothing if a token of the text looks
for its value where there is no object. -/
def forText? (values : Json) (text : String) : Option RenderContext :=
  if serves values text then some (ofEntries values.entries) else none

end RenderContext

def formLink (baseUrl cardId formId : String) : String :=
  let base := (baseUrl.toList.reverse.dropWhile (· == '/')).reverse
  String.ofList base ++ "/form/" ++ cardId ++ "/" ++ formId

/-- The body of a mail that sends a form link without a template. -/
def defaultLinkBody (formName link : String) : String :=
  "<p>Hello,</p>" ++
  "<p>Please fill out the following form: <strong>" ++ formName ++ "</strong></p>" ++
  "<p><a href=\"" ++ link ++ "\">Open form</a></p>" ++
  "<p>Or copy this link: " ++ link ++ "</p>"

end BoardRules
