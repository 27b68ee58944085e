import BoardRules.Proofs.Engine.Trace

/-! What the engine counts, and where it says so. A journal tells what happens when a program is
run, in order. It recounts the program if the counters of the automations and the audit log go on
just as it tells, whichever way the program ends. -/
namespace BoardRules

/-- Something that the engine counts. -/
inductive Occurrence where
  /-- A run is over. -/
  | ran (triggerType : String) (raised : Bool)
  /-- An action has come to a record. -/
  | acted (type status : String)
  /-- A card has been moved so deep that no cascade may follow. -/
  | blocked
  /-- An automation has been entered into the audit log. -/
  | entered (row : LogRow)

namespace Occurrence

/-- The counter that is counted up, and the labels under which it is. -/
def count : Occurrence → String × List (String × String)
  | ran triggerType _ => ("automation_runs_total", [("trigger_type", triggerType)])
  | acted type status =>
    ("automation_actions_total", [("action_type", type), ("status", status)])
  | blocked => ("automation_cascade_blocks_total", [("reason", "MAX_DEPTH")])
  | entered row =>
    ("automation_executions_total", [("trigger_type", row.triggerType), ("status", row.status)])

def row? : Occurrence → Option LogRow
  | entered row => some row
  | _ => none

end Occurrence

def automationCounters : List String :=
  ["automation_runs_total", "automation_actions_total", "automation_cascade_blocks_total",
    "automation_executions_total"]

theorem Occurrence.counter_mem (o : Occurrence) : o.count.1 ∈ automationCounters := by
  cases o <;> simp [count, automationCounters]

namespace World

/-- How far a counter has come under labels. -/
def reading (w : World) (counter : String) (labels : List (String × String)) : Nat :=
  (w.trace.filterMap Effect.count?).count (counter, labels)

/-- What the counters of the automations have counted, the latest first. -/
def counted (w : World) : List (String × List (String × String)) :=
  (w.trace.filterMap Effect.count?).filter fun c => automationCounters.contains c.1

theorem reading_eq (w : World) {counter : String} (h : counter ∈ automationCounters)
    (labels : List (String × String)) :
    w.reading counter labels = w.counted.count (counter, labels) := by
  unfold reading counted
  rw [List.count_filter]
  simpa using h

theorem counted_noted (w : World) {e : Effect} (h : e.count? = none) :
    (w.noted e).counted = w.counted := by
  unfold counted noted
  rw [List.filterMap_cons_none h]

theorem counted_noted_count (w : World) (counter : String) (labels : List (String × String)) :
    (w.noted (.count counter labels)).counted =
      if automationCounters.contains counter then (counter, labels) :: w.counted
      else w.counted := by
  have htrace : (w.noted (.count counter labels)).trace.filterMap Effect.count? =
      (counter, labels) :: w.trace.filterMap Effect.count? := rfl
  unfold counted
  rw [htrace, List.filter_cons]

end World

/-- From one world to another, the counters and the audit log go on as is told. -/
structure Tally (js : List Occurrence) (w w' : World) : Prop where
  counted : w'.counted = (js.map Occurrence.count).reverse ++ w.counted
  logs : w'.store.logs = w.store.logs ++ js.filterMap Occurrence.row?

namespace Tally

variable {js js' : List Occurrence} {w w' w₁ w₂ : World}

theorem trans (h : Tally js w w₁) (h' : Tally js' w₁ w₂) : Tally (js ++ js') w w₂ where
  counted := by
    rw [h'.counted, h.counted, List.map_append, List.reverse_append, List.append_assoc]
  logs := by rw [h'.logs, h.logs, List.filterMap_append, List.append_assoc]

theorem nothing (hcounted : w'.counted = w.counted) (hlogs : w'.store.logs = w.store.logs) :
    Tally [] w w' :=
  ⟨hcounted, hlogs.trans (List.append_nil _).symm⟩

/-- What happens is told, and then nothing more happens. -/
theorem before (h : Tally js w w₁) (h' : Tally [] w₁ w₂) : Tally js w w₂ := by
  have hboth := h.trans h'
  rwa [List.append_nil] at hboth

/-- A count by itself. -/
theorem noted (w : World) (o : Occurrence) (hrow : o.row? = none) :
    Tally [o] w (w.noted (.count o.count.1 o.count.2)) where
  counted := by
    rw [World.counted_noted_count, if_pos (by simpa using o.counter_mem)]
    rfl
  logs := by
    rw [List.filterMap_cons_none hrow]
    exact (List.append_nil _).symm

/-- An entry is counted once it is written. -/
theorem entered (row : LogRow) (htrace : w'.trace = w.trace)
    (hlogs : w'.store.logs = w.store.logs ++ [row]) :
    Tally [.entered row] w (w'.noted (.count (Occurrence.entered row).count.1
      (Occurrence.entered row).count.2)) where
  counted := by
    rw [World.counted_noted_count, if_pos (by simpa using (Occurrence.entered row).counter_mem)]
    unfold World.counted
    rw [htrace]
    rfl
  logs := hlogs

end Tally

/-- Nothing is counted by the automations, and nothing is entered into the audit log. -/
abbrev Silent (w w' : World) : Prop := Tally [] w w'

theorem Silent.law : PlainLaw Silent where
  unseen := fun htrace _ _ hlogs =>
    .nothing (by unfold World.counted; rw [htrace]) hlogs
  trans := fun h h' => h.trans h'
  told := fun w e _ he => .nothing (w.counted_noted he) rfl

/-- The other counters are none of the automations'. -/
theorem silent_count {counter : String} (hother : automationCounters.contains counter = false)
    (labels : List (String × String)) : Engine.Keeps Silent (Engine.count counter labels) :=
  fun w => .nothing ((w.counted_noted_count counter labels).trans
    (if_neg (by rw [hother]; exact Bool.false_ne_true))) rfl

/-- Tells what happens from a world on. -/
abbrev Journal := World → List Occurrence

namespace Journal

open Engine

variable {α β : Type}

def nothing : Journal := fun _ => []

/-- What happens after a program, if that comes to something. -/
def after (x : Engine α) (F : α → Journal) : Journal := fun w =>
  match exec x w with
  | (.ok a, w') => F a w'
  | (.error _, _) => []

theorem after_ok {x : Engine α} {w w' : World} {a : α} (h : exec x w = (.ok a, w'))
    (F : α → Journal) : after x F w = F a w' := by
  unfold after
  rw [h]

theorem after_error {x : Engine α} {w w' : World} {f : Fault} (h : exec x w = (.error f, w'))
    (F : α → Journal) : after x F w = [] := by
  unfold after
  rw [h]

def Recounts (J : Journal) (body : Engine α) : Prop := ∀ w, Tally (J w) w (exec body w).2

namespace Recounts

variable {J : Journal} {x : Engine α} {f : α → Engine β} {F : α → Journal}

theorem silent (h : Keeps Silent x) : nothing.Recounts x := h

theorem bind (hx : J.Recounts x) (hf : ∀ a, (F a).Recounts (f a)) :
    Recounts (fun w => J w ++ after x F w) (x >>= f) := by
  intro w
  have hw := hx w
  dsimp only
  rcases hexec : exec x w with ⟨e | a, w₁⟩
  · rw [hexec] at hw
    rw [after_error hexec, exec_bind_error hexec, List.append_nil]
    exact hw
  · rw [hexec] at hw
    rw [after_ok hexec, exec_bind_ok hexec]
    exact hw.trans (hf a w₁)

theorem after_silent (hx : Keeps Silent x) (hf : ∀ a, (F a).Recounts (f a)) :
    (after x F).Recounts (x >>= f) :=
  bind (silent hx) hf

theorem before_silent (hx : J.Recounts x) (hf : ∀ a, Keeps Silent (f a)) :
    J.Recounts (x >>= f) := by
  intro w
  have hw := hx w
  rcases hexec : exec x w with ⟨e | a, w₁⟩
  · rw [hexec] at hw
    rw [exec_bind_error hexec]
    exact hw
  · rw [hexec] at hw
    rw [exec_bind_ok hexec]
    exact hw.before (hf a w₁)

theorem map (g : α → β) (hx : J.Recounts x) : J.Recounts (g <$> x) := by
  intro w
  rw [exec_map]
  exact hx w

theorem outcome (hx : J.Recounts x) : J.Recounts (Engine.outcome x) := by
  intro w
  rw [exec_outcome]
  exact hx w

theorem spanning (name : String) (hx : J.Recounts x) :
    Recounts (fun w => J (w.opened name)) (Engine.spanning name x) := by
  intro w
  rw [exec_spanning]
  have hopened : Tally [] w (w.opened name) := .nothing rfl rfl
  exact (hopened.trans (hx _)).before (Silent.law.closeSpan _ _)

theorem withAmbient (change : Ambient → Ambient) (hx : J.Recounts x) :
    Recounts (fun w => J (w.within (change w.ambient))) (Engine.withAmbient change x) := by
  intro w
  rw [exec_withAmbient]
  have hx := hx (w.within (change w.ambient))
  exact ⟨hx.counted, hx.logs⟩

/-- Outside of everything under way, the same happens. -/
theorem detached (hx : J.Recounts x) :
    Recounts (fun w => J { w with spans := [], ambient := {} }) (Engine.detached x) := by
  intro w
  rw [exec_detached]
  have hx := hx { w with spans := [], ambient := {} }
  exact ⟨hx.counted, hx.logs⟩

end Recounts
end Journal
end BoardRules
