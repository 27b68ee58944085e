import BoardRules.Action
import BoardRules.Moment
import BoardRules.Uuid

/-!
The rows that a board is stored in, table by table. Rows stand in the order in which they were
written; references are not checked.
-/
namespace BoardRules

structure PipeRow where
  id : Uuid
  name : String
deriving DecidableEq

structure StageRow where
  id : Uuid
  pipe : Uuid
  name : String
  position : Int := 0
deriving DecidableEq

structure FormRow where
  id : Uuid
  stage : Uuid
  name : String
  created : Moment
deriving DecidableEq

structure TemplateRow where
  id : Uuid
  name : String
  subject : String
  body : String
  fromEmail : Option String := none
  fromName : Option String := none
  toEmail : Option String := none
  cc : Option String := none
  bcc : Option String := none
deriving DecidableEq

structure CardRow where
  id : Uuid
  stage : Option Uuid := none
  title : String
  description : Option String := none
  updatedAt : Moment
deriving DecidableEq

structure FieldRow where
  card : Uuid
  key : String
  type : String := "text"
  value : Json := .null
  position : Int
  updatedAt : Moment
deriving DecidableEq

structure SubmissionRow where
  card : Uuid
  form : Uuid
  responses : Json
  submitterEmail : Option String := none
  submittedAt : Moment
deriving DecidableEq

structure HistoryRow where
  card : Uuid
  movedAt : Moment
  fromStage : Option Uuid
  fromName : Option String
  toStage : Uuid
  toName : String
deriving DecidableEq

structure AutomationRow where
  id : Uuid
  pipe : Uuid
  name : String
  enabled : Bool := true
  triggerType : String
  triggerConfig : Json := .empty
  conditions : Json := .null
  actions : Json := .arr []
  position : Option Int := none
  created : Moment
deriving DecidableEq

structure LogRow where
  card : Uuid
  automation : Uuid
  executedAt : Moment
  status : String
  triggerType : String
  conditionsMet : Option Bool
  actions : List Json
  error : Option String
deriving DecidableEq

structure Store where
  pipes : List PipeRow := []
  stages : List StageRow := []
  forms : List FormRow := []
  templates : List TemplateRow := []
  cards : List CardRow := []
  fields : List FieldRow := []
  submissions : List SubmissionRow := []
  history : List HistoryRow := []
  automations : List AutomationRow := []
  logs : List LogRow := []
deriving DecidableEq

namespace Store

def pipe? (s : Store) (id : Uuid) : Option PipeRow := s.pipes.find? fun p => p.id == id

def stage? (s : Store) (id : Uuid) : Option StageRow := s.stages.find? fun t => t.id == id

def form? (s : Store) (id : Uuid) : Option FormRow := s.forms.find? fun f => f.id == id

def template? (s : Store) (id : Uuid) : Option TemplateRow := s.templates.find? fun t => t.id == id

def card? (s : Store) (id : Uuid) : Option CardRow := s.cards.find? fun c => c.id == id

def fieldsOf (s : Store) (card : Uuid) : List FieldRow := s.fields.filter fun f => f.card == card

theorem id_of_stage? {s : Store} {id : Uuid} {row : StageRow} (h : s.stage? id = some row) :
    row.id = id := by
  simpa using List.find?_some h

theorem id_of_form? {s : Store} {id : Uuid} {row : FormRow} (h : s.form? id = some row) :
    row.id = id := by
  simpa using List.find?_some h

theorem id_of_card? {s : Store} {id : Uuid} {row : CardRow} (h : s.card? id = some row) :
    row.id = id := by
  simpa using List.find?_some h

end Store
end BoardRules
