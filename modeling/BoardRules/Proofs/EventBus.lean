import BoardRules.EventBus
import Mathlib.Data.List.Basic
import Mathlib.Data.List.Nodup

/-! What an event bus delivers. Whatever has been done with a bus, it holds the subscriptions that
were made since it was last cleared, each once and in the order in which they were first made; so a
publication calls the handlers that were there for the event when it began. -/
namespace BoardRules.EventBus

variable {H P : Type} [DecidableEq H]

/-- One thing done with a bus, and what each handler subscribes if it is called on that occasion. -/
structure Visit (H P : Type) where
  step : Step H P
  onCall : H → List (String × H)

/-- What is done with a bus and the calls that come of it, where handlers may do something else each
time they are called. -/
def course (bus : EventBus H) : List (Visit H P) → List (Visit H P × List (Call H P))
  | [] => []
  | v :: vs =>
    let (calls, bus) := bus.step v.onCall v.step
    (v, calls) :: bus.course vs

/-- A run is a course on which handlers do the same each time. -/
theorem run_eq_course (onCall : H → List (String × H)) (bus : EventBus H) (steps : List (Step H P)) :
    bus.run onCall steps = (bus.course (steps.map (⟨·, onCall⟩))).map Prod.snd := by
  induction steps generalizing bus with
  | nil => rfl
  | cons s ss ih => simp [run, course, ih]

/-- The subscriptions made by the end of a visit, given those made before it and the calls that it
led to. -/
def Visit.extend (made : List (String × H)) : Visit H P × List (Call H P) → List (String × H)
  | (⟨.subscribe event handler, _⟩, _) => made ++ [(event, handler)]
  | (⟨.publish .., onCall⟩, calls) => made ++ calls.flatMap fun c => onCall c.handler
  | (⟨.clear, _⟩, _) => []

/-- The subscriptions made since the last clearing, by whomever, the earliest first. A subscription
stands here as often as it was made. -/
def standing (past : List (Visit H P × List (Call H P))) : List (String × H) :=
  past.foldl Visit.extend []

/-- A bus holds each of the subscriptions made once, in the order in which they were first made. -/
structure Holds (bus : EventBus H) (made : List (String × H)) : Prop where
  nodup : bus.subscriptions.Nodup
  mem : ∀ s, s ∈ bus.subscriptions ↔ s ∈ made
  ordered : bus.subscriptions.Pairwise fun s t => made.idxOf s < made.idxOf t

theorem holds_empty : Holds ({} : EventBus H) [] := ⟨.nil, fun _ => .rfl, .nil⟩

variable {bus : EventBus H} {made : List (String × H)}

theorem Holds.subscribe (hholds : Holds bus made) (event : String) (handler : H) :
    Holds (bus.subscribe event handler) (made ++ [(event, handler)]) := by
  -- what has been made before keeps its place
  have hkept : ∀ s ∈ bus.subscriptions, (made ++ [(event, handler)]).idxOf s = made.idxOf s :=
    fun s hs => List.idxOf_append_of_mem ((hholds.mem s).1 hs)
  have hordered : bus.subscriptions.Pairwise fun s t =>
      (made ++ [(event, handler)]).idxOf s < (made ++ [(event, handler)]).idxOf t := by
    refine hholds.ordered.imp_of_mem fun hs ht hlt => ?_
    rwa [hkept _ hs, hkept _ ht]
  unfold EventBus.subscribe
  split_ifs with hheld
  · have hmade := (hholds.mem _).1 hheld
    refine ⟨hholds.nodup, fun s => ?_, hordered⟩
    rw [hholds.mem, List.mem_append, List.mem_singleton]
    exact ⟨.inl, fun h => h.elim id fun h => h ▸ hmade⟩
  · have hnew : (event, handler) ∉ made := fun h => hheld ((hholds.mem _).2 h)
    refine ⟨hholds.nodup.append (List.nodup_singleton _) (by simpa using hheld), fun s => ?_, ?_⟩
    · rw [List.mem_append, List.mem_append, hholds.mem]
    · refine List.pairwise_append.2 ⟨hordered, List.pairwise_singleton .., fun s hs t ht => ?_⟩
      rw [List.mem_singleton.1 ht, hkept s hs, List.idxOf_append_of_notMem hnew]
      have := List.idxOf_lt_length_of_mem ((hholds.mem s).1 hs)
      omega

theorem Holds.subscribeAll (hholds : Holds bus made) (ss : List (String × H)) :
    Holds (bus.subscribeAll ss) (made ++ ss) := by
  induction ss generalizing bus made with
  | nil => simpa [EventBus.subscribeAll] using hholds
  | cons s ss ih => simpa [EventBus.subscribeAll] using ih (hholds.subscribe s.1 s.2)

theorem Holds.call (hholds : Holds bus made) (onCall : H → List (String × H)) (hs : List H) :
    Holds (call onCall bus hs) (made ++ hs.flatMap onCall) := by
  induction hs generalizing bus made with
  | nil => simpa [EventBus.call] using hholds
  | cons h hs ih => simpa [EventBus.call] using ih (hholds.subscribeAll (onCall h))

theorem Holds.step (hholds : Holds bus made) (v : Visit H P) :
    Holds (bus.step v.onCall v.step).2 (Visit.extend made (v, (bus.step v.onCall v.step).1)) := by
  obtain ⟨step, onCall⟩ := v
  cases step with
  | subscribe event handler => exact hholds.subscribe event handler
  | publish event payload =>
    simpa [Visit.extend, EventBus.step, EventBus.publish, List.flatMap_map] using
      hholds.call onCall (bus.handlers event)
  | clear => exact holds_empty

/-- A course goes on from a bus that holds what was made on it so far. -/
theorem course_append (hholds : Holds bus made) (before after : List (Visit H P)) :
    ∃ bus' : EventBus H, bus'.Holds ((bus.course before).foldl Visit.extend made) ∧
      bus.course (before ++ after) = bus.course before ++ bus'.course after := by
  induction before generalizing bus made with
  | nil => exact ⟨bus, hholds, rfl⟩
  | cons v before ih =>
    obtain ⟨bus', hholds', hcourse⟩ := ih (hholds.step v)
    exact ⟨bus', hholds', congrArg ((v, _) :: ·) hcourse⟩

/-- The handlers for an event: those that subscribed to it, each once, in the order in which they
first did. -/
theorem Holds.handlers (hholds : Holds bus made) (event : String) :
    (bus.handlers event).Nodup ∧ (∀ h, h ∈ bus.handlers event ↔ (event, h) ∈ made) ∧
      (bus.handlers event).Pairwise fun h k =>
        made.idxOf (event, h) < made.idxOf (event, k) := by
  have hevent : ∀ s ∈ bus.subscriptions.filter (·.1 == event), s = (event, s.2) := fun s hs =>
    Prod.ext (by simpa using (List.mem_filter.1 hs).2) rfl
  refine ⟨?_, fun h => ?_, ?_⟩
  · refine (hholds.nodup.filter _).map_on fun s hs t ht heq => ?_
    rw [hevent s hs, hevent t ht, heq]
  · rw [← hholds.mem]
    simp only [EventBus.handlers, List.mem_map, List.mem_filter, beq_iff_eq]
    exact ⟨fun ⟨s, ⟨hs, he⟩, hh⟩ => by rwa [← he, ← hh], fun h => ⟨_, ⟨h, rfl⟩, rfl⟩⟩
  · refine List.pairwise_map.2 ((hholds.ordered.filter _).imp_of_mem fun hs ht hlt => ?_)
    rwa [← hevent _ hs, ← hevent _ ht]

/-- Whatever was done with a bus before and is done with it later, a publication calls with its
payload the handlers that subscribed to its event since the last clearing, directly or in answer to
an earlier publication: each once, in the order in which they first did. What they subscribe when
they are called is left to later publications. -/
theorem publication_delivered (before after : List (Visit H P)) (event : String) (payload : P)
    (onCall : H → List (String × H)) :
    ∃ (hs : List H) (later : List (Visit H P × List (Call H P))),
      course {} (before ++ ⟨.publish event payload, onCall⟩ :: after) = course {} before ++
        (⟨.publish event payload, onCall⟩, hs.map (⟨·, event, payload⟩)) :: later ∧
      hs.Nodup ∧ (∀ h, h ∈ hs ↔ (event, h) ∈ standing (course {} before)) ∧
      hs.Pairwise fun h k => (standing (course {} before)).idxOf (event, h) <
        (standing (course {} before)).idxOf (event, k) := by
  obtain ⟨bus, hholds, hcourse⟩ := course_append holds_empty before
    (⟨.publish event payload, onCall⟩ :: after)
  exact ⟨bus.handlers event, _, hcourse, hholds.handlers event⟩

/-- A handler that subscribes another, and itself once more, is called alone the first time. -/
example : (run (fun h => if h = 0 then [("moved", 1), ("moved", 0)] else []) ({} : EventBus Nat)
      [.subscribe "moved" 0, .publish "moved" 'a', .publish "moved" 'b']).map
        (List.map fun c => (c.handler, c.payload)) = [[], [(0, 'a')], [(0, 'b'), (1, 'b')]] := by
  decide

end BoardRules.EventBus
