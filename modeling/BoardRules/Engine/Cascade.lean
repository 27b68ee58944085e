import BoardRules.Engine.Run

/-!
Cascades: running requests that were handed over, and what they hand over in turn, until none is
left. Requests are run in the order in which they were handed over, outside of everything that was
under way when they were.

A request that a run hands over is deeper than the run by one and no deeper than is allowed; so the
requests left by a generation are deeper than the generation, and the number of generations is
bounded.
-/
namespace BoardRules.Engine

/-- Runs the automations of the stage that a card has entered, under the correlation id of the
request. -/
def runCascade (env : Environment) (handOver : HandOver) (request : CascadeRequest) :
    Engine Report :=
  withCorrelation request.correlation do
    run env handOver "card_enters_stage" (.ofText request.cardId) (.ofText request.pipeId)
      (.told { stageId := some request.stageId }) request.depth

/-- Runs a program outside of everything under way, with a fresh ambient context. -/
def detached {α : Type} (body : Engine α) : Engine α := do
  let w ← get
  set { w with spans := [], ambient := {} }
  let result ← outcome body
  modify fun w' => { w' with spans := w.spans, ambient := w.ambient }
  ofExcept result

/-- Runs a request on a worker of the pool. A fault is logged and goes no further. -/
def runOnWorker (env : Environment) (handOver : HandOver) (request : CascadeRequest) :
    Engine Unit := do
  match ← outcome (runCascade env handOver request) with
  | .ok _ => pure ()
  | .error f =>
    logFault cascadeLogger "automation_cascade_failed" (failureFields request (cutError f.message))

def runJob (env : Environment) (handOver : HandOver) (payload : Json) : Engine Report := do
  configured env
  match CascadeRequest.ofPayload payload with
  | .ok request => runCascade env handOver request
  | .error f => raise (.payload f)

/-- How many generations of requests there can be, counting that of a request itself. -/
def generations (env : Environment) (request : CascadeRequest) : Nat :=
  (env.maxDepth + 1 - request.depth).toNat + 1

def generationsOf (env : Environment) (queue : List CascadeRequest) : Nat :=
  (queue.map (generations env)).foldl max 0

variable {α : Type}

/-- Runs the queue empty, generation by generation, up to a number of generations. -/
def settleFor (runOne : CascadeRequest → Engine α) : Nat → Engine (List α)
  | 0 => return []
  | n + 1 => do
    let queue := (← get).queue
    if queue.isEmpty then return []
    else
      modify fun w => { w with queue := [] }
      let results ← queue.mapM fun request => detached (runOne request)
      return results ++ (← settleFor runOne n)

def settle (env : Environment) (runOne : CascadeRequest → Engine α) : Engine (List α) := do
  settleFor runOne (generationsOf env (← get).queue)

end BoardRules.Engine
