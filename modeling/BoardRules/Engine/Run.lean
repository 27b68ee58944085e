import BoardRules.Engine.Perform
import BoardRules.Trigger

/-!
A run: the automations of a pipe that a trigger sets off for a card. Each automation that matches
has its conditions checked and its actions carried out in order until one fails, and leaves one
entry in the audit log. A failing automation does not stop the ones after it.
-/
namespace BoardRules

inductive ExecutionStatus where
  | success
  | skipped
  | error
deriving Repr, DecidableEq

def ExecutionStatus.word : ExecutionStatus → String
  | .success => "success"
  | .skipped => "skipped"
  | .error => "error"

structure Execution where
  status : ExecutionStatus
  conditionsMet : Option Bool := none
  actions : List ActionRecord := []
  error : Option String := none

structure ReportDetail where
  name : String
  id : Uuid
  isMatch : Bool
  config : Entries
  execution : Option Execution := none

structure Report where
  found : Nat := 0
  matched : Nat := 0
  executed : List String := []
  skipped : List String := []
  failed : List String := []
  details : List ReportDetail := []

namespace Execution

def notMet : Execution where
  status := .skipped
  conditionsMet := some false
  error := some "Conditions not met"

/-- The execution that the records of its actions make up; the last of them may have failed. -/
def ofRecords (conditionsMet : Option Bool) (records : List ActionRecord) : Execution :=
  match records.findSome? ActionRecord.error? with
  | some message => { status := .error, conditionsMet, actions := records, error := some message }
  | none => { status := .success, conditionsMet, actions := records }

def toJson (e : Execution) : Json :=
  .obj [("status", .str e.status.word),
    ("conditions_met", (e.conditionsMet.map Json.bool).getD .null),
    ("actions_executed", .arr (e.actions.map ActionRecord.toJson)),
    ("error_message", Json.ofText? e.error)]

end Execution

def ReportDetail.toJson (d : ReportDetail) : Json :=
  .obj [("name", .str d.name), ("id", .str d.id.text), ("matched", .bool d.isMatch),
    ("trigger_config", .obj d.config), ("execution", (d.execution.map Execution.toJson).getD .null)]

def ReportDetail.freeValues (d : ReportDetail) : List Json :=
  d.config.map Prod.snd ++
    match d.execution with
    | some e => e.actions.flatMap ActionRecord.freeValues
    | none => []

def Report.freeValues (r : Report) : List Json := r.details.flatMap ReportDetail.freeValues

def Report.toJson (r : Report) : Json :=
  let names (ns : List String) : Json := .arr (ns.map Json.str)
  .obj [("automations_found", .int r.found), ("automations_matched", .int r.matched),
    ("automations_executed", names r.executed), ("automations_skipped", names r.skipped),
    ("automations_failed", names r.failed), ("details", .arr (r.details.map ReportDetail.toJson))]

/-- A key that is no text, as a place in a mapping. An integer that does not fit into a word is
written out. -/
def strayStep : Json → LocStep
  | .bool b => .index (if b then 1 else 0)
  | .int n => if fitsWord n then .index n else .key (Decimal.intText n)
  | k => .key k.literal

/-- What is wrong with a configuration that is to be reported: all of its keys have to be text. -/
def configErrors (config : Mapping) : List FieldError :=
  config.stray.map fun e => ⟨[.key "trigger_config", strayStep e.1, .key "[key]"], .notText⟩

namespace Engine

def evaluate (env : Environment) (conditions : Json) (card : RowRef) : Engine Bool :=
  match Conditions.ofJson? conditions with
  | none => return false
  | some c => do
    match ← loadCard env card with
    | none =>
      log .warning "flowlane.automations.conditions" "automation.conditions.card_missing"
        [("card_id", .str card.text)]
      return false
    | some view =>
      match c.hold? view with
      | some b => return b
      | none => raise .tooLarge

/-- Carries out actions in order, up to the first that fails. -/
def performAll (env : Environment) (handOver : HandOver) (ctx : ActionContext) :
    List Json → Engine (List ActionRecord)
  | [] => return []
  | payload :: payloads => do
    let record ← perform env handOver ctx payload
    match record.error? with
    | some _ => return [record]
    | none => return record :: (← performAll env handOver ctx payloads)

def enter (env : Environment) (automation : AutomationView) (card : RowRef) (triggerType : String)
    (e : Execution) : Engine Unit := do
  appendLog env {
    card, triggerType
    automation := automation.id
    status := e.status.word
    conditionsMet := e.conditionsMet
    actions := e.actions.map ActionRecord.logEntry
    error := e.error }
  count "automation_executions_total" [("trigger_type", triggerType), ("status", e.status.word)]
  log (if e.status = .error then .warning else .info) runLogger "automation.executed"
    [("automation_id", .str automation.id.text), ("automation_name", .str automation.name),
      ("card_id", .str card.text), ("trigger_type", .str triggerType),
      ("status", .str e.status.word), ("error", Json.ofText? e.error)]

/-- Checks the conditions of an automation, if it has rules: null if it has none. -/
def gate (env : Environment) (automation : AutomationView) (card : RowRef) :
    Engine (Option Bool) := do
  let conditions := Json.obj (automation.conditions.getD [])
  if conditionsGiven conditions then
    some <$> evaluate env conditions card
  else return none

/-- How an automation fares: its conditions are checked, then its actions are carried out. -/
def execution (env : Environment) (handOver : HandOver) (automation : AutomationView)
    (card : RowRef) (depth : Int) : Engine Execution := do
  match ← gate env automation card with
  | some false => return .notMet
  | met =>
    let ctx := { card, automation := automation.id, depth }
    let records ← performAll env handOver ctx automation.actions
    return .ofRecords met records

/-- Executes an automation for a card and enters how it fared into the audit log. -/
def execute (env : Environment) (handOver : HandOver) (automation : AutomationView)
    (card : RowRef) (triggerType : String) (depth : Int) : Engine Execution :=
  spanning "automation.execute" do
    annotate "automation_id" (.str automation.id.text)
    annotate "card_id" (.str card.text)
    let e ← execution env handOver automation card depth
    enter env automation card triggerType e
    annotate "status" (.str e.status.word)
    return e

def examine (triggerType : String) (occasion : Occasion) (a : AutomationView) :
    Engine (AutomationView × ReportDetail) := do
  let isMatch ←
    ofExcept ((occasion.suits triggerType (.obj a.config.named)).mapError Fault.noMember)
  match configErrors a.config with
  | [] => return (a, { name := a.name, id := a.id, isMatch, config := a.config.named })
  | es => raise (.invalid "AutomationReportDetail" es)

def executeMatching (env : Environment) (handOver : HandOver) (card : RowRef)
    (triggerType : String) (depth : Int) :
    List (AutomationView × ReportDetail) → Engine (List ReportDetail)
  | [] => return []
  | (a, d) :: rest => do
    let d ←
      if d.isMatch then do
        let e ← execute env handOver a card triggerType depth
        pure { d with execution := some e }
      else pure d
    return d :: (← executeMatching env handOver card triggerType depth rest)

def namesOf (details : List ReportDetail) (status : ExecutionStatus) : List String :=
  (details.filter fun d => d.execution.any fun e => e.status = status).map ReportDetail.name

def reportOf (details : List ReportDetail) : Report where
  found := details.length
  matched := details.countP ReportDetail.isMatch
  executed := namesOf details .success
  skipped := namesOf details .skipped
  failed := namesOf details .error
  details := details

def runLoaded (env : Environment) (handOver : HandOver) (triggerType : String) (card pipe : RowRef)
    (occasion : Occasion) (depth : Int) (automations : List AutomationView) :
    Engine Report := do
  let examined ← automations.mapM (examine triggerType occasion)
  let details ← executeMatching env handOver card triggerType depth examined
  let report := reportOf details
  annotate "automations_found" (.int report.found)
  annotate "automations_matched" (.int report.matched)
  log .info runLogger "automation.run.finished"
    [("card_id", .str card.text), ("pipe_id", .str pipe.text), ("trigger_type", .str triggerType),
      ("cascade_depth", .int depth)]
  return report

def runInSpan (env : Environment) (handOver : HandOver) (triggerType : String)
    (card pipe : RowRef) (occasion : Occasion) (depth : Int) : Engine Report := do
  annotate "trigger_type" (.str triggerType)
  annotate "card_id" (.str card.text)
  annotate "pipe_id" (.str pipe.text)
  annotate "cascade_depth" (.int depth)
  annotate "correlation_id" (← get).ambient.correlationShown
  match ← loadAutomations env pipe triggerType with
  | none =>
    log .warning runLogger "automation.pipe_not_found"
      [("pipe_id", .str pipe.text), ("card_id", .str card.text),
        ("trigger_type", .str triggerType)]
    return {}
  | some automations =>
    runLoaded env handOver triggerType card pipe occasion depth automations

def countRun (triggerType : String) : Engine Unit := do
  count "automation_runs_total" [("trigger_type", triggerType)]
  count "automation_run_duration_seconds_count" [("trigger_type", triggerType)]

def run (env : Environment) (handOver : HandOver) (triggerType : String) (card pipe : RowRef)
    (occasion : Occasion) (depth : Int) : Engine Report :=
  withDepth depth do
    let result ← outcome
      (spanning "automation.run" (runInSpan env handOver triggerType card pipe occasion depth))
    countRun triggerType
    ofExcept result

def configured (env : Environment) : Engine Unit :=
  match env.misconfigured with
  | [] => return ()
  | es => raise (.invalid "Settings" es)

def occasionOf (raw : Json) : Engine Occasion :=
  match Occasion.ofJson raw with
  | .ok o => return o
  | .error es => raise (.invalid "TriggerContext" es)

/-- Runs the automations that a trigger sets off, with what is told about the happening still to be
read, at the ambient depth unless another one is given. -/
def runOn (env : Environment) (handOver : HandOver) (triggerType : String) (card pipe : RowRef)
    (told : Json) (depth : Option Int) : Engine Report := do
  let occasion ← occasionOf told
  let depth := depth.getD (← get).ambient.depthOrZero
  run env handOver triggerType card pipe occasion depth

end Engine
end BoardRules
