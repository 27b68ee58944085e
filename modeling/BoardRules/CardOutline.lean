import BoardRules.Condition
import BoardRules.Json.Shape

/-!
A card of which only the outline is sure: its fields, the names of its submitted forms and their
responses may be values of any shape. A rule that looks for something in fields or responses fails
unless they are an object, and one that looks for a form fails unless all names are text. Where
nothing fails, an outline answers as the card would.
-/
namespace BoardRules

structure SubmissionOutline where
  formId : Uuid
  formName : Json
  responses : Json
  submittedAt : Moment

structure CardOutline where
  fields : Json := .empty
  submissions : List SubmissionOutline := []

/-- The submission; without a name if it is no text, and without responses if they are no object. -/
def SubmissionOutline.view (s : SubmissionOutline) : SubmissionView :=
  ⟨s.formId, s.formName.text?.getD "", { named := s.responses.entries }, s.submittedAt⟩

namespace CardOutline

def view (card : CardOutline) : CardView where
  id := .zero
  title := ""
  fields := card.fields.entries
  submissions := card.submissions.map SubmissionOutline.view

def latestOf? (card : CardOutline) (form : String) : Option SubmissionOutline :=
  latest? SubmissionOutline.submittedAt (card.submissions.filter (·.view.isOf form))

def memberOf (v : Json) (key : String) : Except NoMember Json :=
  match v with
  | .obj es => .ok (Entries.getD es key)
  | v => .error ⟨v.typeName, "get"⟩

def value (card : CardOutline) : FieldKey → Except NoMember Json
  | .field key => memberOf card.fields key
  | .response form key =>
    match card.submissions.find? fun s => s.formName.text?.isNone with
    | some s => .error ⟨s.formName.typeName, "strip"⟩
    | none =>
      match card.latestOf? form with
      | some s => memberOf s.responses key
      | none => .ok .null
  | .malformed => .ok .null

end CardOutline

def Conditions.ruleHoldsIn (card : CardOutline) (raw : Json) : ExceptT NoMember Option Bool :=
  match Rule.ofJson? raw with
  | none => pure false
  | some rule =>
    match card.value (FieldKey.ofText rule.key) with
    | .error f => throw f
    | .ok _ => (rule.holds? card.view).map .ok

/-- Whether conditions hold for an outline; no answer for an integer too large to be compared. -/
def Conditions.holdIn (c : Conditions) (card : CardOutline) : ExceptT NoMember Option Bool := do
  let results ← c.rules.mapM (ruleHoldsIn card)
  return if c.isAny then results.any id else results.all id

end BoardRules
