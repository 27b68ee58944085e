import BoardRules.Board.Change
import BoardRules.Engine.Events

/-!
What users do on the board: look at a card, move it, set a field, submit a form. A change is stored
first and published then; what the automations make of the event does not touch the request.
-/
namespace BoardRules

structure CardSheet where
  card : CardRow
  fields : List FieldRow

structure Submission where
  id : String
  row : SubmissionRow

def FieldRow.toJson (f : FieldRow) : Json :=
  .obj [("key", .str f.key), ("type", .str f.type), ("value", f.value)]

def CardSheet.toJson (c : CardSheet) : Json :=
  .obj [("id", .str c.card.id.text), ("stage_id", Json.ofText? (c.card.stage.map Uuid.text)),
    ("title", .str c.card.title), ("description", Json.ofText? c.card.description),
    ("updated_at", .int c.card.updatedAt.shown), ("fields", .arr (c.fields.map FieldRow.toJson))]

def CardSheet.freeValues (c : CardSheet) : List Json := c.fields.map FieldRow.value

def Submission.freeValues (s : Submission) : List Json := s.row.responses.entries.map Prod.snd

def Submission.toJson (s : Submission) : Json :=
  .obj [("id", .str s.id), ("card_id", .str s.row.card.text), ("form_id", .str s.row.form.text),
    ("responses", s.row.responses), ("submitter_email", Json.ofText? s.row.submitterEmail),
    ("submitted_at", .int s.row.submittedAt.shown)]

namespace Board

def logger : String := "flowlane.board"

def rows (env : Environment) : Engine Store := do
  if env.boardFails then Engine.raise .database
  return (← get).store

def commit (change : Store → Store) : Engine Unit :=
  modify fun w => { w with store := change w.store }

def sheet (card : CardRow) : Engine CardSheet := do
  return ⟨card, (← get).store.fieldRows card.id⟩

def showCard (env : Environment) (card : Uuid) : Engine (Except BoardFailure CardSheet) := do
  match (← rows env).findCard card with
  | .error f => return .error f
  | .ok row => .ok <$> sheet row

/-- Moves a card; a card that is in the stage already stays as it is. -/
def moveCard (env : Environment) (handOver : HandOver) (card stage : Uuid) :
    Engine (Except BoardFailure CardSheet) := do
  match (← rows env).userMove card stage with
  | .error f => return .error f
  | .ok (row, none) => .ok <$> sheet row
  | .ok (row, some move) =>
    let time ← Engine.now
    commit fun s => s.applyMove move time
    Engine.log .info logger "board.card.moved"
      [("card_id", .str move.card.text), ("stage_id", .str move.toStage.text)]
    Engine.publish env handOver (BoardEvent.stageChanged move).envelope
    .ok <$> sheet { row with stage := some move.toStage, updatedAt := time }

def setField (env : Environment) (handOver : HandOver) (card : Uuid) (key type : String)
    (value : Json) : Engine (Except BoardFailure CardSheet) := do
  let s ← rows env
  match s.findCard card with
  | .error f => return .error f
  | .ok row =>
    let time ← Engine.now
    commit fun s => s.setField row.id key type value time
    Engine.publish env handOver
      (BoardEvent.fieldChanged row.id (s.pipeOf row) key value).envelope
    .ok <$> sheet { row with updatedAt := time }

def nextSubmission : Engine String := do
  let n := (← get).submitted + 1
  modify fun w => { w with submitted := n }
  return "submission-" ++ Decimal.natText n

def submit (env : Environment) (handOver : HandOver) (card : CardRow) (form : FormRow)
    (responses : Entries) (email : Option String) : Engine Submission := do
  let s ← rows env
  let row : SubmissionRow :=
    { card := card.id, form := form.id, responses := .obj responses, submitterEmail := email
      submittedAt := ← Engine.now }
  let id ← nextSubmission
  commit fun s => s.addSubmission row
  Engine.publish env handOver
    (BoardEvent.formSubmitted card.id (s.pipeOfForm form) form.id id).envelope
  return ⟨id, row⟩

def submitForm (env : Environment) (handOver : HandOver) (card form : Uuid) (responses : Entries)
    (email : Option String) : Engine (Except BoardFailure Submission) := do
  let s ← rows env
  match s.findCard card, s.findForm form with
  | .error f, _ => return .error f
  | .ok _, .error f => return .error f
  | .ok card, .ok form => .ok <$> submit env handOver card form responses email

end Board
end BoardRules
