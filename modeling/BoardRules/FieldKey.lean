import BoardRules.Card
import BoardRules.FieldValue
import BoardRules.Text.Lowercase

/-!
Keys under which a rule finds a value. A key that starts with `form:` names a response: the form,
by its display name or its identifier, stands before the first full stop, the key of the response
after it. Every other key names a field of the card.

`form:Intake.email` is the response `email` of the latest submission of the form Intake.
-/
namespace BoardRules

open BoardRules.Text

inductive FieldKey where
  | field (key : String)
  | response (form key : String)
  | malformed
deriving Repr, DecidableEq

namespace FieldKey

def formMark : List Char := "form:".toList

def dropLastLineFeed (cs : List Char) : List Char :=
  if cs.getLast? = some '\n' then cs.dropLast else cs

/-- Reads what follows the mark: a form, a full stop, and the key of a response on one line. -/
def ofReference (cs : List Char) : FieldKey :=
  match splitFirst (· == '.') cs with
  | some (form, rest) =>
    let key := dropLastLineFeed rest
    if form.isEmpty || key.isEmpty || key.contains '\n' then .malformed
    else .response (String.ofList (trimChars form)) (String.ofList key)
  | none => .malformed

def ofText (s : String) : FieldKey :=
  let cs := s.toList
  if formMark.isPrefixOf cs then ofReference (cs.drop formMark.length) else .field s

end FieldKey

/-- Whether a submission is one of the form a reference names: by display name, ignoring case and
surrounding blanks, or by identifier. -/
def SubmissionView.isOf (s : SubmissionView) (form : String) : Bool :=
  lower (trim s.formName) == lower form || s.formId.text == form

def latest? {α : Type} (time : α → Moment) : List α → Option α
  | [] => none
  | a :: as =>
    match latest? time as with
    | some b => if (time a).before (time b) then some b else some a
    | none => some a

namespace CardView

/-- The value of a response in the latest submission of a form. -/
def response (card : CardView) (form key : String) : Json :=
  match latest? SubmissionView.submittedAt (card.submissions.filter (·.isOf form)) with
  | some s => s.responses.named.getD key
  | none => .null

/-- The value a key points to, `null` if there is none. -/
def value (card : CardView) : FieldKey → Json
  | .field key => card.fields.getD key
  | .response form key => card.response form key
  | .malformed => .null

end CardView
end BoardRules
