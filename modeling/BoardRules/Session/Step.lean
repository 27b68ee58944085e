import BoardRules.Engine.Cascade
import BoardRules.Http.Server

/-!
Steps of a session: everything that can be asked of a board and its automations, one thing at a
time, and what comes of it.
-/
namespace BoardRules

open Engine (LogEntry)

inductive StorageCall where
  | loadAutomations (pipe : RowRef) (triggerType : String)
  | loadCard (card : RowRef)
  | loadStage (stage : RowRef)
  | loadTemplate (template : RowRef)
  | moveCard (card stage : RowRef)
  | updateField (card : RowRef) (key : String) (value : Json)
  | appendLog (entry : LogEntry)
  | listLogs (card : RowRef)

inductive Step where
  | run (triggerType : String) (card pipe : RowRef) (told : Json) (depth : Option Int)
  | execute (action : Json) (card : RowRef) (depth : Int)
  | evaluate (conditions : Json) (card : RowRef)
  | storage (call : StorageCall)
  | listLogs (card : RowRef)
  | publish (envelope : Json)
  /-- An event that goes to those who listen, without an envelope being completed. -/
  | deliver (event : String) (payload : Json)
  | job (payload : Json)
  | request (r : Http.Request)
  | add (rows : Json)
  | dropTables
  | look

inductive StepResult where
  | nothing
  | report (r : Report)
  | record (r : ActionRecord)
  | truth (b : Bool)
  | automations (found : Option (List AutomationView))
  | card (found : Option CardView)
  | stage (found : Option StageView)
  | template (found : Option TemplateRow)
  | moved (move : CardMove)
  | logs (rows : List LogRow)
  | reply (r : Http.Reply)
  | stored (s : Store)

namespace Engine

def moveToFound (env : Environment) (card : RowRef) (stage : RowRef) : Engine CardMove := do
  match ← loadStage env stage with
  | some target => moveCard env card target
  | none => spanning "automation.store.move_card" do
    annotate "card_id" (.str card.text)
    raise (.read (.dangling "id"))

def makeCall (env : Environment) : StorageCall → Engine StepResult
  | .loadAutomations pipe triggerType => .automations <$> loadAutomations env pipe triggerType
  | .loadCard card => .card <$> loadCard env card
  | .loadStage stage => .stage <$> loadStage env stage
  | .loadTemplate template => .template <$> loadTemplate env template
  | .moveCard card stage => .moved <$> moveToFound env card stage
  | .updateField card key value => do
    updateField env card key value
    return .nothing
  | .appendLog entry => do
    appendLog env entry
    return .nothing
  | .listLogs card => .logs <$> listLogs env card

end Engine
end BoardRules
