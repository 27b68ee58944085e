import BoardRules.Json.Shape
import BoardRules.Moment
import BoardRules.Uuid

/-!
A card as rules see it: its fields, the stage it is in with that stage's forms, and the forms
submitted for it.
-/
namespace BoardRules

structure FormView where
  id : Uuid
  name : String
deriving DecidableEq

structure StageView where
  id : Uuid
  name : String
  pipeId : Uuid
  pipeName : String
  forms : List FormView := []

def StageView.findForm? (stage : StageView) (id : String) : Option FormView :=
  stage.forms.find? fun f => f.id.text == id

structure SubmissionView where
  formId : Uuid
  formName : String
  responses : Mapping
  submittedAt : Moment

structure CardView where
  id : Uuid
  title : String
  description : Option String := none
  fields : Entries := []
  stage : Option StageView := none
  submissions : List SubmissionView := []

end BoardRules
