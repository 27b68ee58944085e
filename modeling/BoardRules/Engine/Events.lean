import BoardRules.Engine.Run
import BoardRules.Envelope
import BoardRules.EventBus

/-!
Publishing events. The automations listen to the events of the board; whatever becomes of the run
that an event sets off, publishing it succeeds.
-/
namespace BoardRules

inductive Listener where
  | lifecycle
  | automations
deriving Repr, DecidableEq

def Listener.bus : EventBus Listener :=
  EventBus.subscribeAll {}
    [("system.started", .lifecycle), ("card.stage_changed", .automations),
      ("card.field_changed", .automations), ("form.submitted", .automations)]

namespace Engine

def lifecycleLogger : String := "flowlane.lifecycle"

/-- Runs the automations that an event sets off, under the event's correlation id and at the depth
noted in it. A fault is logged and goes no further. -/
def answer (env : Environment) (handOver : HandOver) (event : String) (r : EventRun) :
    Engine Unit :=
  withCorrelation r.correlation do
    let card := RowRef.ofJson r.card
    let result ← outcome do
      configured env
      let depth ← ofExcept (r.noted.notedDepth.mapError Fault.integer)
      runOn env handOver r.trigger card (.ofJson r.pipe) r.context (some depth)
    match result with
    | .ok _ => pure ()
    | .error f =>
      logFault lifecycleLogger "automation_auto_run_failed"
        [("event_name", .str event), ("card_id", .str card.text),
          ("error", .str (cutError f.message))]

def hear (env : Environment) (handOver : HandOver) (event : String) (payload : Json) :
    Listener → Engine Unit
  | .lifecycle => log .info lifecycleLogger "system_event" [("event_name", .str event)]
  | .automations =>
    match EventRun.of? event payload with
    | some r => answer env handOver event r
    | none => pure ()

def deliver (env : Environment) (handOver : HandOver) (event : String) (payload : Json) :
    Engine Unit :=
  (Listener.bus.handlers event).forM (hear env handOver event payload)

/-- Publishes an event: its envelope is completed and recorded, then delivered under its name. -/
def publish (env : Environment) (handOver : HandOver) (envelope : Entries) : Engine Unit := do
  let envelope := Envelope.complete (← get).ambient envelope
  emit (.event envelope)
  match Envelope.eventName? envelope with
  | some event => deliver env handOver event (.obj envelope)
  | none => pure ()

end Engine
end BoardRules
