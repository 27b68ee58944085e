import BoardRules.Proofs.Engine.Exec

/-! What the laws of the engine are about. A ledger leaves out of a world what is written down for
its observers only: spans, the clock, the number of accesses and all of the trace apart from three
counts. A program is quiet if it leaves the ledger as it is; a law holds of every program that is
quiet, and of every program put together from programs that it holds of. -/
namespace BoardRules

namespace Effect

def isAcceptance : Effect → Bool
  | .log line =>
    line.logger == Engine.mailLogger &&
      (line.message == "automation.email.sent" || line.message == "automation.email.recorded")
  | _ => false

def isRun : Effect → Bool
  | .count counter _ => counter == "automation_runs_total"
  | _ => false

def isBlock : Effect → Bool
  | .count counter _ => counter == "automation_cascade_blocks_total"
  | _ => false

end Effect

/-- What is stored and under way, and how many mails were accepted, runs are over and cascades were
refused. -/
structure Ledger where
  store : Store
  queue : List CascadeRequest
  ambient : Ambient
  step : Nat
  accepted : Nat
  runs : Nat
  blocks : Nat

def World.ledger (w : World) : Ledger where
  store := w.store
  queue := w.queue
  ambient := w.ambient
  step := w.step
  accepted := w.trace.countP Effect.isAcceptance
  runs := w.trace.countP Effect.isRun
  blocks := w.trace.countP Effect.isBlock

namespace World

variable {w w' : World}

theorem store_of_ledger (h : w'.ledger = w.ledger) : w'.store = w.store :=
  congrArg Ledger.store h

theorem queue_of_ledger (h : w'.ledger = w.ledger) : w'.queue = w.queue :=
  congrArg Ledger.queue h

theorem ambient_of_ledger (h : w'.ledger = w.ledger) : w'.ambient = w.ambient :=
  congrArg Ledger.ambient h

theorem step_of_ledger (h : w'.ledger = w.ledger) : w'.step = w.step :=
  congrArg Ledger.step h

@[simp] theorem ledger_opened (w : World) (name : String) : (w.opened name).ledger = w.ledger := rfl

@[simp] theorem ledger_within (w : World) (a : Ambient) :
    (w.within a).ledger = { w.ledger with ambient := a } := rfl

theorem ledger_noted (w : World) (e : Effect) :
    (w.noted e).ledger = { w.ledger with
      accepted := w.ledger.accepted + if e.isAcceptance then 1 else 0
      runs := w.ledger.runs + if e.isRun then 1 else 0
      blocks := w.ledger.blocks + if e.isBlock then 1 else 0 } := by
  simp only [ledger, noted, List.countP_cons]

theorem ledger_noted_eq {e : Effect} (ha : e.isAcceptance = false) (hr : e.isRun = false)
    (hb : e.isBlock = false) (w : World) : (w.noted e).ledger = w.ledger := by
  simp [ledger_noted, ha, hr, hb]

@[simp] theorem ledger_closed (w : World) (fault : Option Fault) :
    (w.closed fault).ledger = w.ledger := by
  obtain ⟨store, ambient, _ | ⟨s, ss⟩, trace, queue, step, tick, accesses, mails, submitted⟩ := w
  · rfl
  · rfl

end World

/-- A relation that programs may keep to from beginning to end: it does not look beyond ledgers, it
can be followed step by step, and it holds of a part that runs in another ambient context. -/
structure Law (R : World → World → Prop) : Prop where
  quiet : ∀ {w w'}, w'.ledger = w.ledger → R w w'
  trans : ∀ {w₁ w₂ w₃}, R w₁ w₂ → R w₂ w₃ → R w₁ w₃
  within : ∀ {w w'} (a : Ambient), R (w.within a) w' → R w (w'.within w.ambient)

def Still (w w' : World) : Prop := w'.ledger = w.ledger

theorem Still.law : Law Still where
  quiet := fun h => h
  trans := fun h h' => h'.trans h
  within := by
    intro w w' a h
    have hstore := congrArg (fun l : Ledger => { l with ambient := w.ambient }) h
    exact hstore

namespace Engine

variable {α β : Type} {R : World → World → Prop}

/-- Whichever way a program ends, the worlds before and after are related. -/
def Keeps (R : World → World → Prop) (body : Engine α) : Prop := ∀ w, R w (exec body w).2

/-- A program that leaves the ledger as it is. -/
abbrev Quiet (body : Engine α) : Prop := Keeps Still body

namespace Keeps

theorem of_quiet (law : Law R) {body : Engine α} (h : Quiet body) : Keeps R body :=
  fun w => law.quiet (h w)

theorem pure (law : Law R) (a : α) : Keeps R (Pure.pure a : Engine α) := fun _ => law.quiet rfl

/-- One part after the other. The second need keep to the relation only where the first has led
to. -/
theorem seq (trans : ∀ w₁ w₂ w₃, R w₁ w₂ → R w₂ w₃ → R w₁ w₃) {x : Engine α} {f : α → Engine β}
    (hx : Keeps R x) (hf : ∀ w a w₁, exec x w = (.ok a, w₁) → R w₁ (exec (f a) w₁).2) :
    Keeps R (x >>= f) := by
  intro w
  have hw := hx w
  rw [exec_bind]
  cases hxw : exec x w with
  | mk r w₁ =>
    rw [hxw] at hw
    cases r with
    | error e => exact hw
    | ok a => exact trans _ _ _ hw (hf w a w₁ hxw)

theorem bind_of (law : Law R) {x : Engine α} {f : α → Engine β} (hx : Keeps R x)
    (hf : ∀ w a w₁, exec x w = (.ok a, w₁) → R w₁ (exec (f a) w₁).2) : Keeps R (x >>= f) :=
  seq (R := R) (fun _ _ _ => law.trans) hx hf

theorem bind (law : Law R) {x : Engine α} {f : α → Engine β} (hx : Keeps R x)
    (hf : ∀ a, Keeps R (f a)) : Keeps R (x >>= f) :=
  bind_of law hx fun _ a w₁ _ => hf a w₁

theorem map (g : α → β) {x : Engine α} (hx : Keeps R x) : Keeps R (g <$> x) := by
  intro w
  rw [exec_map]
  exact hx w

theorem withAmbient (law : Law R) (change : Ambient → Ambient) {body : Engine α}
    (h : Keeps R body) : Keeps R (Engine.withAmbient change body) := by
  intro w
  rw [exec_withAmbient]
  exact law.within _ (h _)

theorem outcome {body : Engine α} (h : Keeps R body) : Keeps R (Engine.outcome body) := by
  intro w
  rw [exec_outcome]
  exact h w

theorem spanning (law : Law R) (name : String) {body : Engine α} (h : Keeps R body) :
    Keeps R (Engine.spanning name body) := by
  intro w
  rw [exec_spanning]
  exact law.trans (law.quiet (w.ledger_opened name))
    (law.trans (h _) (law.quiet (World.ledger_closed _ _)))

theorem mapM (law : Law R) {f : α → Engine β} (hf : ∀ a, Keeps R (f a)) :
    ∀ l : List α, Keeps R (l.mapM f)
  | [] => pure law []
  | a :: l => by
    rw [List.mapM_cons]
    exact bind law (hf a) fun b => bind law (mapM law hf l) fun bs => pure law (b :: bs)

end Keeps

theorem quiet_get : Quiet (get : Engine World) := fun _ => rfl

theorem quiet_annotate (key : String) (v : Json) : Quiet (annotate key v) := by
  rintro ⟨store, ambient, _ | ⟨s, ss⟩, trace, queue, step, tick, accesses, mails, submitted⟩
  · rfl
  · rfl

theorem quiet_markFailed (description : String) : Quiet (markFailed description) := by
  rintro ⟨store, ambient, _ | ⟨s, ss⟩, trace, queue, step, tick, accesses, mails, submitted⟩
  · rfl
  · rfl

/-- Only the lines about mails are counted. -/
theorem quiet_log (logger : String) (h : logger ≠ mailLogger) (level : LogLevel) (message : String)
    (fields : Entries) : Quiet (log level logger message fields) := by
  intro w
  rw [exec_log]
  exact World.ledger_noted_eq (by simp [Effect.isAcceptance, h]) rfl rfl w

theorem quiet_logFault (logger : String) (h : logger ≠ mailLogger) (message : String)
    (fields : Entries) : Quiet (logFault logger message fields) := by
  intro w
  exact World.ledger_noted_eq (by simp [Effect.isAcceptance, h]) rfl rfl w

theorem quiet_count (counter : String) (hr : counter ≠ "automation_runs_total")
    (hb : counter ≠ "automation_cascade_blocks_total") (labels : List (String × String)) :
    Quiet (count counter labels) := by
  intro w
  rw [exec_count]
  exact World.ledger_noted_eq rfl (by simp [Effect.isRun, hr]) (by simp [Effect.isBlock, hb]) w

/-- A program that comes to its end and leaves the ledger as it is. -/
def Passes (body : Engine Unit) : Prop :=
  ∀ w, ∃ w', exec body w = (.ok (), w') ∧ w'.ledger = w.ledger

theorem passes_annotate (key : String) (v : Json) : Passes (annotate key v) :=
  fun w => ⟨_, rfl, quiet_annotate key v w⟩

theorem passes_annotateOf (key : String) (v : World → Json) :
    Passes (get >>= fun w => annotate key (v w)) :=
  fun w => ⟨_, rfl, quiet_annotate key (v w) w⟩

theorem passes_log (logger : String) (h : logger ≠ mailLogger) (level : LogLevel)
    (message : String) (fields : Entries) : Passes (log level logger message fields) :=
  fun w => ⟨_, rfl, quiet_log logger h level message fields w⟩

theorem Passes.exec_eq {body : Engine Unit} (hbody : Passes body) (w : World) :
    exec body w = (.ok (), (exec body w).2) := by
  obtain ⟨w', hexec, -⟩ := hbody w
  rw [hexec]

theorem Passes.ledger_eq {body : Engine Unit} (hbody : Passes body) (w : World) :
    (exec body w).2.ledger = w.ledger := by
  obtain ⟨w', hexec, hledger⟩ := hbody w
  rw [hexec]
  exact hledger

theorem Passes.bind {x y : Engine Unit} (hx : Passes x) (hy : Passes y) :
    Passes (x >>= fun _ => y) := by
  intro w
  obtain ⟨w₁, hexec₁, hledger₁⟩ := hx w
  obtain ⟨w₂, hexec₂, hledger₂⟩ := hy w₁
  exact ⟨w₂, (exec_bind_ok hexec₁ _).trans hexec₂, hledger₂.trans hledger₁⟩

/-- A write that fails, or that finds nothing to change, leaves the ledger as it is; any other
replaces what is stored. -/
theorem writing_cases (env : Environment) (missing : Fault)
    (change : Moment → Store → Option (α × Store)) (w : World) :
    (∃ w', exec (writing env missing change) w = (.error .storageWrite, w') ∧
      env.storageFails w.accesses = true ∧ w'.ledger = w.ledger) ∨
    (∃ w', exec (writing env missing change) w = (.error missing, w') ∧
      change (.live w.step w.tick) w.store = none ∧ w'.ledger = w.ledger) ∨
    ∃ a store w', exec (writing env missing change) w = (.ok a, w') ∧
      change (.live w.step w.tick) w.store = some (a, store) ∧
      w'.ledger = { w.ledger with store := store } := by
  rw [exec_writing]
  cases hfails : env.storageFails w.accesses with
  | true => exact .inl ⟨_, rfl, rfl, rfl⟩
  | false =>
    cases hchange : change (.live w.step w.tick) w.store with
    | none => exact .inr (.inl ⟨_, rfl, rfl, rfl⟩)
    | some p => exact .inr (.inr ⟨p.1, p.2, _, rfl, rfl, rfl⟩)

/-- Where a write replaces what is stored, the change decides. -/
theorem Keeps.writing (law : Law R) (env : Environment) (missing : Fault)
    {change : Moment → Store → Option (α × Store)}
    (hchange : ∀ {w w' time a store}, change time w.store = some (a, store) →
      w'.ledger = { w.ledger with store := store } → R w w') :
    Keeps R (Engine.writing env missing change) := by
  intro w
  rcases writing_cases env missing change w with
    ⟨w', hexec, -, hledger⟩ | ⟨w', hexec, -, hledger⟩ | ⟨a, store, w', hexec, hsome, hledger⟩
  · rw [hexec]
    exact law.quiet hledger
  · rw [hexec]
    exact law.quiet hledger
  · rw [hexec]
    exact hchange hsome hledger

end Engine
end BoardRules
