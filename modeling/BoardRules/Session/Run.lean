import BoardRules.Session.Step

/-!
Running a session: its steps one after another, each in a context of its own. The cascades that a
step hands over are run when the step is over, if they are run at all.
-/
namespace BoardRules

inductive CascadeMode where
  | pool
  | closed
  | queue
  | worked
  | broken
deriving Repr, DecidableEq

/-- A session: what stays the same from step to step, and what has become of the world. -/
structure Session where
  settings : Checked Settings
  mode : CascadeMode := .pool
  mailer : Option MailService := none
  /-- Whether the automations behind requests and events are without a database. -/
  cutOff : Bool := false
  dropped : Bool := false
  world : World := {}

/-- What came of a step, all that could be seen meanwhile, and the reports of the jobs worked off
after it. -/
structure SessionEntry where
  result : Except Fault StepResult
  effects : List Effect
  reports : List (Except Fault Report)

namespace CascadeMode

def handOver : CascadeMode → HandOver
  | .pool => Engine.openPool
  | .closed => Engine.closedPool
  | .queue | .worked => Engine.jobQueue
  | .broken => Engine.brokenQueue

/-- What happens to the requests left by a step; the reports of jobs. -/
def finish (env : Environment) : CascadeMode → Engine (List (Except Fault Report))
  | .pool => do
    let _ ← Engine.settle env (Engine.runOnWorker env Engine.openPool)
    return []
  | .worked =>
    Engine.settle env fun r => Engine.outcome (Engine.runJob env Engine.jobQueue r.toPayload)
  | _ => do
    modify fun w => { w with queue := [] }
    return []

end CascadeMode

namespace Session

def usedSettings (s : Session) : Settings := s.settings.toOption.getD {}

def settingErrors (s : Session) : List FieldError :=
  match s.settings with
  | .ok _ => []
  | .error es => es

def environment (s : Session) : Environment where
  baseUrl := s.usedSettings.appBaseUrl
  maxDepth := s.usedSettings.maxCascadeDepth
  misconfigured := s.settingErrors
  mailer := s.mailer
  storageFails := fun _ => s.dropped
  boardFails := s.dropped

def outerEnvironment (s : Session) : Environment :=
  if s.cutOff then { s.environment with storageFails := fun _ => true } else s.environment

def site (s : Session) : Http.Site where
  settings := s.usedSettings
  env := s.outerEnvironment
  handOver := s.mode.handOver

/-- Adds rows to what is stored. Once the tables are gone there is nowhere to put them. -/
def addRows (s : Session) (given : Json) : Engine Unit := do
  let rows ← Engine.ofExcept ((Store.ofJson given).mapError Fault.rows)
  if s.dropped && rows ≠ {} then Engine.raise .database
  let store ← Engine.ofExcept (((← get).store.add rows).mapError Fault.rows)
  modify fun w => { w with store }

def act (s : Session) : Step → Engine StepResult
  | .run triggerType card pipe told depth => do
    Engine.configured s.environment
    .report <$> Engine.runOn s.environment s.mode.handOver triggerType card pipe told depth
  | .execute action card depth => do
    Engine.configured s.environment
    .record <$> Engine.perform s.environment s.mode.handOver
      { card, automation := .zero, depth } action
  | .evaluate conditions card => do
    Engine.configured s.environment
    .truth <$> Engine.evaluate s.environment conditions card
  | .storage call => Engine.makeCall s.environment call
  | .listLogs card => do
    Engine.configured s.environment
    .logs <$> Engine.listLogs s.environment card
  | .publish (.obj envelope) => do
    Engine.publish s.outerEnvironment s.mode.handOver envelope
    return .nothing
  | .publish envelope => Engine.raise (.noMember ⟨envelope.typeName, "get"⟩)
  | .deliver event payload => do
    Engine.deliver s.outerEnvironment s.mode.handOver event payload
    return .nothing
  | .job payload => .report <$> Engine.runJob s.environment s.mode.handOver payload
  | .request r => .reply <$> Http.serve s.site r
  | .add rows => do
    s.addRows rows
    return .nothing
  | .dropTables => return .nothing
  | .look => do
    if s.dropped then Engine.raise .database
    return .stored (← get).store

def program (s : Session) (ambient : Ambient) (step : Step) :
    Engine (Except Fault StepResult × List (Except Fault Report)) := do
  let result ← Engine.outcome (Engine.withAmbient (fun _ => ambient) (s.act step))
  return (result, ← s.mode.finish s.environment)

def opening (w : World) (index : Nat) : World :=
  { w with step := index, trace := [], spans := [], ambient := {}, queue := [] }

def entryOf (w : World) :
    Except Fault (Except Fault StepResult × List (Except Fault Report)) → SessionEntry
  | .ok (result, reports) => ⟨result, w.trace.reverse, reports⟩
  | .error f => ⟨.error f, w.trace.reverse, []⟩

def take (s : Session) (index : Nat) (ambient : Ambient) (step : Step) : SessionEntry × Session :=
  let (outcome, w) := (s.program ambient step).exec (opening s.world index)
  (entryOf w outcome, { s with world := w, dropped := s.dropped || step matches .dropTables })

def runFrom (s : Session) (index : Nat) : List (Ambient × Step) → List SessionEntry × Session
  | [] => ([], s)
  | (ambient, step) :: rest =>
    let (entry, s) := s.take index ambient step
    let (entries, s) := s.runFrom (index + 1) rest
    (entry :: entries, s)

def run (s : Session) (steps : List (Ambient × Step)) : List SessionEntry × Session :=
  s.runFrom 0 steps

/-- What is stored in the end; nothing once the tables are gone. -/
def stored (s : Session) : Option Store := if s.dropped then none else some s.world.store

end Session
end BoardRules
