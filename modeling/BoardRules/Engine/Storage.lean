import BoardRules.Engine.World
import BoardRules.Store.Change
import BoardRules.Store.Query

/-!
The engine's access to the storage. Each operation is one access, which may fail as a whole; a write
that fails or does not find what it is to change leaves the store as it was.
-/
namespace BoardRules

/-- A reference to a row, as it came from outside: how it is shown, and the identifier it names, if
it names one. -/
structure RowRef where
  text : String
  id? : Option Uuid
deriving DecidableEq

namespace RowRef

def ofJson (v : Json) : RowRef := ⟨v.shown, Uuid.ofJson? v⟩

def ofText (s : String) : RowRef := ⟨s, Uuid.ofText? s⟩

def ofUuid (u : Uuid) : RowRef := ⟨u.text, some u⟩

end RowRef

namespace Engine

variable {α : Type}

/-- Counts an access to the storage; whether it fails. -/
def access (env : Environment) : Engine Bool := do
  let w ← get
  set { w with accesses := w.accesses + 1 }
  return env.storageFails w.accesses

def reading (env : Environment) (query : Store → Except ReadFault α) : Engine α := do
  if ← access env then raise .storageRead
  match query (← get).store with
  | .ok a => return a
  | .error f => raise (.read f)

def writing (env : Environment) (missing : Fault) (change : Moment → Store → Option (α × Store)) :
    Engine α := do
  if ← access env then raise .storageWrite
  let time ← now
  match change time (← get).store with
  | some (a, store) =>
    modify fun w => { w with store }
    return a
  | none => raise missing

def noCard : Fault := .action (.notFound .card)

/-- The automations of a pipe and a trigger type in the order in which they run; nothing if there is
no such pipe. -/
def loadAutomations (env : Environment) (pipe : RowRef) (triggerType : String) :
    Engine (Option (List AutomationView)) :=
  match pipe.id? with
  | none => return none
  | some id => spanning "automation.store.load_automations" do
    annotate "pipe_id" (.str id.text)
    annotate "trigger_type" (.str triggerType)
    let rows ← reading env fun s => .ok ((s.pipe? id).map fun _ => s.automationRows id triggerType)
    match rows with
    | none => return none
    | some rows =>
      annotate "automation_count" (.int rows.length)
      some <$> rows.mapM fun row => ofExcept (row.view.mapError Fault.read)

def loadCard (env : Environment) (card : RowRef) : Engine (Option CardView) :=
  match card.id? with
  | none => return none
  | some id => reading env fun s =>
    match s.card? id with
    | none => .ok none
    | some row => some <$> s.cardView row

def loadStage (env : Environment) (stage : RowRef) : Engine (Option StageView) :=
  match stage.id? with
  | none => return none
  | some id => reading env fun s =>
    match s.stage? id with
    | none => .ok none
    | some row => some <$> s.stageView row

def loadTemplate (env : Environment) (template : RowRef) : Engine (Option TemplateRow) :=
  match template.id? with
  | none => return none
  | some id => reading env fun s => .ok (s.template? id)

def moveCard (env : Environment) (card : RowRef) (target : StageView) : Engine CardMove :=
  spanning "automation.store.move_card" do
    annotate "card_id" (.str card.text)
    annotate "stage_id" (.str target.id.text)
    match card.id? with
    | none => raise noCard
    | some id => writing env noCard fun time s => do
      let row ← s.card? id
      let move := Store.moveOf row (s.stageOf row) target.id target.name target.pipeId
      return (move, s.applyMove move time)

def updateField (env : Environment) (card : RowRef) (key : String) (value : Json) : Engine Unit :=
  match card.id? with
  | none => raise noCard
  | some id => writing env noCard fun time s => do
    let row ← s.card? id
    return ((), s.writeField row.id key value time)

/-- What an entry of the audit log says, apart from the time. -/
structure LogEntry where
  card : RowRef
  automation : Uuid
  status : String
  triggerType : String
  conditionsMet : Option Bool
  actions : List Json
  error : Option String

/-- Adds an entry to the audit log. A card reference that is no identifier cannot be written. -/
def appendLog (env : Environment) (e : LogEntry) : Engine Unit :=
  writing env .storageWrite fun time s => do
    let card ← e.card.id?
    return ((), s.addLog
      { card, automation := e.automation, executedAt := time, status := e.status
        triggerType := e.triggerType, conditionsMet := e.conditionsMet, actions := e.actions
        error := e.error })

/-- What is wrong with an entry of the audit log as it is shown: its status has to be one of three,
its actions objects. -/
def logRowErrors (row : LogRow) : List FieldError :=
  (if ["success", "skipped", "error"].contains row.status then []
    else [⟨[.key "status"], .unknownChoice⟩]) ++
  (row.actions.zipIdx.filterMap fun (a, i) =>
    if a.isObject then none
    else some ⟨[.key "actions_executed", .index i], .notObject⟩)

def checkLogRow (row : LogRow) : Engine LogRow :=
  match logRowErrors row with
  | [] => return row
  | es => raise (.invalid "AutomationLogRead" es)

def listLogs (env : Environment) (card : RowRef) : Engine (List LogRow) :=
  match card.id? with
  | none => return []
  | some id => do
    let rows ← reading env fun s => .ok (s.logsOf id)
    rows.mapM checkLogRow

end Engine
end BoardRules
