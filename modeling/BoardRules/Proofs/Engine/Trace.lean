import BoardRules.Proofs.Engine.Ledger

/-! What the engine writes down for its observers. By itself it only adds to the trace: lines under
the ambient correlation id, counts, spans, and mails with that id in their header. A law that allows
for this holds of every program that is put together from the engine's own steps. -/
namespace BoardRules

/-- What stands in the header of a mail for a correlation id. -/
def Json.header (correlation : Json) : Json := if correlation.isTruthy then correlation else .null

/-- What the engine writes down by itself under a correlation id. -/
inductive Effect.Told (correlation : Json) : Effect → Prop where
  | log (line : LogLine) (hline : line.correlation = correlation) : Told correlation (.log line)
  | count (counter : String) (labels : List (String × String)) :
    Told correlation (.count counter labels)
  | span (span : Span) (parent : Option String) : Told correlation (.span span parent)
  | recorded (payload : Entries) : Told correlation (.mail none payload)
  | posted (address : String) (payload : Entries) :
    Told correlation (.mail (some (address, correlation.header)) payload)

def Effect.event? : Effect → Option Entries
  | .event envelope => some envelope
  | _ => none

/-- The events that have been published, the latest first. -/
def World.events (w : World) : List Entries := w.trace.filterMap Effect.event?

/-- Which counter an effect counts up, under which labels. -/
def Effect.count? : Effect → Option (String × List (String × String))
  | .count counter labels => some (counter, labels)
  | _ => none

/-- What a program looks up in the world is there when it goes on. -/
theorem Engine.Keeps.get_bind {α : Type} {R : World → World → Prop} {f : World → Engine α}
    (hf : ∀ w, R w (exec (f w) w).2) : Keeps R (get >>= f) := by
  intro w
  rw [exec_bind_ok (exec_get w)]
  exact hf w

/-- A relation that the engine's own steps keep to as long as they neither count nor enter anything
into the audit log. -/
structure PlainLaw (R : World → World → Prop) : Prop where
  unseen : ∀ {w w' : World}, w'.trace = w.trace → w'.ambient = w.ambient → w'.queue = w.queue →
    w'.store.logs = w.store.logs → R w w'
  trans : ∀ {w₁ w₂ w₃}, R w₁ w₂ → R w₂ w₃ → R w₁ w₃
  told : ∀ (w : World) (e : Effect), e.Told w.ambient.correlation → e.count? = none →
    R w (w.noted e)

/-- A relation that the engine's own steps keep to: it looks at the trace, at the ambient context
and at what is put aside, it can be followed step by step, and it allows for what is told. -/
structure StepLaw (R : World → World → Prop) : Prop extends PlainLaw R where
  stored : ∀ {w w' : World}, w'.trace = w.trace → w'.ambient = w.ambient → w'.queue = w.queue →
    R w w'
  counted : ∀ (w : World) (counter : String) (labels : List (String × String)),
    R w (w.noted (.count counter labels))

/-- One that also allows for a part that runs at another depth, as a whole run does. -/
structure TraceLaw (R : World → World → Prop) : Prop extends StepLaw R where
  inDepth : ∀ {w w' : World} (depth : Option Int), R (w.within { w.ambient with depth }) w' →
    R w (w'.within w.ambient)

namespace PlainLaw

open Engine

variable {α β : Type} {R : World → World → Prop} {env : Environment}

section

variable (law : PlainLaw R)

include law

theorem refl (w : World) : R w w := law.unseen rfl rfl rfl rfl
theorem pure (a : α) : Keeps R (Pure.pure a : Engine α) := law.refl

theorem raise (f : Fault) : Keeps R (Engine.raise f : Engine α) := law.refl

theorem ofExcept (r : Except Fault α) : Keeps R (Engine.ofExcept r) := by
  intro w
  rw [exec_ofExcept]
  exact law.refl w

theorem bind {x : Engine α} {f : α → Engine β} (hx : Keeps R x) (hf : ∀ a, Keeps R (f a)) :
    Keeps R (x >>= f) :=
  Keeps.seq (R := R) (fun _ _ _ => law.trans) hx fun _ a w₁ _ => hf a w₁

theorem mapM {f : α → Engine β} (hf : ∀ a, Keeps R (f a)) : ∀ l : List α, Keeps R (l.mapM f)
  | [] => law.pure []
  | a :: l => by
    rw [List.mapM_cons]
    exact law.bind (hf a) fun b => law.bind (mapM hf l) fun bs => law.pure (b :: bs)

theorem log (level : LogLevel) (logger message : String) (fields : Entries) :
    Keeps R (Engine.log level logger message fields) :=
  fun w => law.told w _ (.log _ rfl) rfl

theorem logFault (logger message : String) (fields : Entries) :
    Keeps R (Engine.logFault logger message fields) :=
  fun w => law.told w _ (.log _ rfl) rfl

theorem annotate (key : String) (v : Json) : Keeps R (Engine.annotate key v) := by
  rintro ⟨store, ambient, _ | ⟨s, ss⟩, trace, queue, step, tick, accesses, mails, submitted⟩
  · exact law.unseen rfl rfl rfl rfl
  · exact law.unseen rfl rfl rfl rfl

theorem markFailed (description : String) : Keeps R (Engine.markFailed description) := by
  rintro ⟨store, ambient, _ | ⟨s, ss⟩, trace, queue, step, tick, accesses, mails, submitted⟩
  · exact law.unseen rfl rfl rfl rfl
  · exact law.unseen rfl rfl rfl rfl

theorem closeSpan (fault : Option Fault) : Keeps R (Engine.closeSpan fault) := by
  rintro ⟨store, ambient, _ | ⟨s, ss⟩, trace, queue, step, tick, accesses, mails, submitted⟩
  · exact law.unseen rfl rfl rfl rfl
  · exact law.trans (law.told _ (.span _ (ss.head?.map Span.name)) (.span _ _) rfl)
      (law.unseen rfl rfl rfl rfl)

theorem spanning (name : String) {body : Engine α} (hbody : Keeps R body) :
    Keeps R (Engine.spanning name body) := by
  intro w
  rw [exec_spanning]
  have hopened : R w (w.opened name) := law.unseen rfl rfl rfl rfl
  exact law.trans hopened (law.trans (hbody _) (law.closeSpan _ _))

theorem reading (query : Store → Except ReadFault α) : Keeps R (Engine.reading env query) := by
  intro w
  rw [exec_reading]
  exact law.unseen rfl rfl rfl rfl

/-- A write need not be looked into if it leaves the audit log as it is. -/
theorem writing (missing : Fault) {change : Moment → Store → Option (α × Store)}
    (hlogs : ∀ {time s a s'}, change time s = some (a, s') → s'.logs = s.logs) :
    Keeps R (Engine.writing env missing change) := by
  intro w
  rw [exec_writing]
  split
  · exact law.unseen rfl rfl rfl rfl
  · split
    · rename_i hchange
      exact law.unseen rfl rfl rfl (hlogs hchange)
    · exact law.unseen rfl rfl rfl rfl

end
end PlainLaw

namespace StepLaw

open Engine

variable {R : World → World → Prop} {env : Environment}

section

variable (law : StepLaw R)

include law

theorem count (counter : String) (labels : List (String × String)) :
    Keeps R (Engine.count counter labels) :=
  fun w => law.counted w counter labels

theorem appendLog (entry : LogEntry) : Keeps R (Engine.appendLog env entry) := by
  intro w
  unfold Engine.appendLog
  rw [exec_writing]
  split
  · exact law.stored rfl rfl rfl
  · split <;> exact law.stored rfl rfl rfl

end
end StepLaw

theorem TraceLaw.withDepth {α : Type} {R : World → World → Prop} (law : TraceLaw R) (depth : Int)
    {body : Engine α} (hbody : Engine.Keeps R body) :
    Engine.Keeps R (Engine.withDepth depth body) := by
  intro w
  unfold Engine.withDepth
  rw [Engine.exec_withAmbient]
  exact law.inDepth (some depth) (hbody _)

end BoardRules
