/-!
An event bus inside one process. Handlers subscribe to event names; publishing calls those that were
subscribed when it began, each once and in the order of their first subscription. A handler may
subscribe others while it runs: they hear later events only.
-/
namespace BoardRules

/-- The subscriptions of a bus, in the order they were made. -/
structure EventBus (H : Type) where
  subscriptions : List (String × H) := []
deriving Repr

namespace EventBus

variable {H : Type} [DecidableEq H]

def handlers (bus : EventBus H) (event : String) : List H :=
  (bus.subscriptions.filter fun s => s.1 == event).map Prod.snd

def subscribe (bus : EventBus H) (event : String) (handler : H) : EventBus H :=
  if (event, handler) ∈ bus.subscriptions then bus
  else ⟨bus.subscriptions ++ [(event, handler)]⟩

def subscribeAll (bus : EventBus H) (subscriptions : List (String × H)) : EventBus H :=
  subscriptions.foldl (fun b s => b.subscribe s.1 s.2) bus

/-- Calls handlers one after another; each makes its subscriptions when it is called. -/
def call (onCall : H → List (String × H)) (bus : EventBus H) (hs : List H) : EventBus H :=
  hs.foldl (fun b h => b.subscribeAll (onCall h)) bus

/-- Publishes an event: the handlers called, in order, and the bus afterwards. -/
def publish (onCall : H → List (String × H)) (bus : EventBus H) (event : String) :
    List H × EventBus H :=
  (bus.handlers event, call onCall bus (bus.handlers event))

inductive Step (H P : Type) where
  | subscribe (event : String) (handler : H)
  | publish (event : String) (payload : P)
  | clear

structure Call (H P : Type) where
  handler : H
  event : String
  payload : P

variable {P : Type}

def step (onCall : H → List (String × H)) (bus : EventBus H) :
    Step H P → List (Call H P) × EventBus H
  | .subscribe event handler => ([], bus.subscribe event handler)
  | .publish event payload =>
    let (hs, bus) := bus.publish onCall event
    (hs.map fun h => ⟨h, event, payload⟩, bus)
  | .clear => ([], {})

def run (onCall : H → List (String × H)) (bus : EventBus H) :
    List (Step H P) → List (List (Call H P))
  | [] => []
  | s :: ss =>
    let (calls, bus) := bus.step onCall s
    calls :: bus.run onCall ss

end EventBus
end BoardRules
