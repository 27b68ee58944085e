import BoardRules.Engine.Storage

/-!
Scheduling the cascade that follows a move: unless it would be deeper than is allowed, a request is
handed over to whoever runs cascades.
-/
namespace BoardRules

/-- Takes a request for a cascade over; whether it will be run. -/
abbrev HandOver := CascadeRequest → Engine Bool

namespace Engine

def runLogger : String := "flowlane.automations"

def cascadeLogger : String := "flowlane.automations.cascade"

def requestAfter (move : CardMove) (depth : Int) (correlation : Json) : CascadeRequest where
  cardId := move.card.text
  pipeId := move.pipe.text
  stageId := move.toStage.text
  depth := depth
  correlation := correlation

def blockCascade (env : Environment) (move : CardMove) (depth : Int) : Engine Bool := do
  log .warning runLogger "automation_cascade_blocked"
    [("reason", .str "MAX_DEPTH"), ("card_id", .str move.card.text),
      ("stage_id", .str move.toStage.text), ("cascade_depth", .int depth),
      ("max_depth", .int env.maxDepth)]
  count "automation_cascade_blocks_total" [("reason", "MAX_DEPTH")]
  return false

/-- Schedules the cascade that follows a move made at a depth; whether it will be run. -/
def scheduleCascade (env : Environment) (handOver : HandOver) (move : CardMove) (depth : Int) :
    Engine Bool := do
  let next := depth + 1
  if env.maxDepth < next then blockCascade env move next
  else
    let request := requestAfter move next (← get).ambient.correlation
    if ← handOver request then
      log .info runLogger "automation.cascade.scheduled"
        [("card_id", .str request.cardId), ("stage_id", .str request.stageId),
          ("cascade_depth", .int next)]
      return true
    else return false

def refusalFields (request : CascadeRequest) (error : String) : Entries :=
  [("card_id", .str request.cardId), ("stage_id", .str request.stageId), ("error", .str error)]

def failureFields (request : CascadeRequest) (error : String) : Entries :=
  [("card_id", .str request.cardId), ("pipe_id", .str request.pipeId),
    ("stage_id", .str request.stageId), ("cascade_depth", .int request.depth),
    ("error", .str error)]

def poolClosed : String := "cannot schedule new futures after shutdown"

def enqueue (request : CascadeRequest) : Engine Unit :=
  modify fun w => { w with queue := w.queue ++ [request] }

def openPool : HandOver := fun request => do
  emit (.cascade request true)
  enqueue request
  return true

def closedPool : HandOver := fun request => do
  logFault cascadeLogger "automation_cascade_enqueue_failed" (refusalFields request poolClosed)
  emit (.cascade request false)
  return false

def jobQueue : HandOver := fun request => do
  emit (.job request)
  enqueue request
  log .info cascadeLogger "automation.cascade.enqueued"
    [("card_id", .str request.cardId), ("stage_id", .str request.stageId),
      ("cascade_depth", .int request.depth)]
  return true

def brokenQueue : HandOver := fun request => do
  logFault cascadeLogger "automation_cascade_enqueue_failed" (refusalFields request "broker down")
  return false

end Engine
end BoardRules
