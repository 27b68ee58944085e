import BoardRules.Engine.Cascade

/-! How programs of the engine run, combinator by combinator. A program is opened by these equations
and by the laws of `Ledger`; what stands above them does not look into the monad. -/
namespace BoardRules

def World.noted (w : World) (e : Effect) : World := { w with trace := e :: w.trace }

def World.opened (w : World) (name : String) : World := { w with spans := { name } :: w.spans }

def World.closed (w : World) (fault : Option Fault) : World :=
  (Engine.exec (Engine.closeSpan fault) w).2

def World.accessed (w : World) : World := { w with accesses := w.accesses + 1 }

def World.ticked (w : World) : World := { w with tick := w.tick + 1 }

def World.storing (w : World) (store : Store) : World := { w with store }

def World.within (w : World) (ambient : Ambient) : World := { w with ambient }

theorem World.ambient_within (w : World) (ambient : Ambient) :
    (w.within ambient).ambient = ambient := rfl

namespace Engine

variable {α β : Type}

@[simp] theorem exec_pure (a : α) (w : World) : exec (pure a) w = (.ok a, w) := rfl

theorem exec_bind (x : Engine α) (f : α → Engine β) (w : World) :
    exec (x >>= f) w =
      match exec x w with
      | (.ok a, w₁) => exec (f a) w₁
      | (.error e, w₁) => (.error e, w₁) := by
  simp only [exec, ExceptT.run_bind, StateT.run_bind]
  change (match StateT.run (ExceptT.run x) w with | (a, s) => _) = _
  rcases StateT.run (ExceptT.run x) w with ⟨a | e, w₁⟩ <;> rfl

theorem exec_bind_ok {x : Engine α} {w w₁ : World} {a : α} (h : exec x w = (.ok a, w₁))
    (f : α → Engine β) : exec (x >>= f) w = exec (f a) w₁ := by
  rw [exec_bind, h]

theorem exec_bind_error {x : Engine α} {w w₁ : World} {e : Fault} (h : exec x w = (.error e, w₁))
    (f : α → Engine β) : exec (x >>= f) w = (.error e, w₁) := by
  rw [exec_bind, h]

theorem exec_bind_eq_ok {x : Engine α} {f : α → Engine β} {w w₂ : World} {b : β} :
    exec (x >>= f) w = (.ok b, w₂) ↔
      ∃ a w₁, exec x w = (.ok a, w₁) ∧ exec (f a) w₁ = (.ok b, w₂) := by
  rw [exec_bind]
  rcases exec x w with ⟨e | a, w₁⟩
  · simp
  · constructor
    · intro h
      exact ⟨a, w₁, rfl, h⟩
    · rintro ⟨a', w', h, h'⟩
      cases h
      exact h'

theorem exec_map (g : α → β) (x : Engine α) (w : World) :
    exec (g <$> x) w = ((exec x w).1.map g, (exec x w).2) := by
  have hmap : g <$> x = x >>= fun a => pure (g a) := (bind_pure_comp g x).symm
  rw [hmap, exec_bind]
  rcases exec x w with ⟨e | a, w₁⟩ <;> rfl

@[simp] theorem exec_ofExcept (r : Except Fault α) (w : World) :
    exec (ofExcept r) w = (r, w) := by
  cases r <;> rfl

/-- What follows a program goes on from what that has come to. -/
theorem exec_bind_eq (x : Engine α) (f : α → Engine β) (w : World) :
    exec (x >>= f) w = exec (ofExcept (exec x w).1 >>= f) (exec x w).2 := by
  rw [exec_bind, exec_bind (ofExcept _), exec_ofExcept]

@[simp] theorem exec_get (w : World) : exec (get : Engine World) w = (.ok w, w) := rfl

@[simp] theorem exec_modify (f : World → World) (w : World) :
    exec (modify f : Engine Unit) w = (.ok (), f w) := rfl

@[simp] theorem exec_outcome (x : Engine α) (w : World) :
    exec (outcome x) w = (.ok (exec x w).1, (exec x w).2) := rfl

@[simp] theorem exec_emit (e : Effect) (w : World) : exec (emit e) w = (.ok (), w.noted e) := rfl

@[simp] theorem exec_log (level : LogLevel) (logger message : String) (fields : Entries)
    (w : World) :
    exec (log level logger message fields) w =
      (.ok (), w.noted (.log
        { level, logger, message, correlation := w.ambient.correlation, fields })) := rfl

@[simp] theorem exec_count (counter : String) (labels : List (String × String)) (w : World) :
    exec (count counter labels) w = (.ok (), w.noted (.count counter labels)) := rfl

@[simp] theorem exec_now (w : World) : exec now w = (.ok (.live w.step w.tick), w.ticked) := rfl

@[simp] theorem exec_access (env : Environment) (w : World) :
    exec (access env) w = (.ok (env.storageFails w.accesses), w.accessed) := rfl

@[simp] theorem exec_closeSpan (fault : Option Fault) (w : World) :
    exec (closeSpan fault) w = (.ok (), w.closed fault) := rfl

/-- A program in a span ends as it does without one. -/
theorem exec_spanning (name : String) (body : Engine α) (w : World) :
    exec (spanning name body) w =
      ((exec body (w.opened name)).1,
        (exec body (w.opened name)).2.closed (faultOf (exec body (w.opened name)).1)) := by
  have hopen : exec (modify fun w : World => { w with spans := { name } :: w.spans }) w
      = (.ok (), w.opened name) := rfl
  rw [spanning, exec_bind_ok hopen, exec_bind_ok (exec_outcome body _),
    exec_bind_ok (exec_closeSpan _ _), exec_ofExcept]

theorem exec_withAmbient (change : Ambient → Ambient) (body : Engine α) (w : World) :
    exec (withAmbient change body) w =
      ((exec body (w.within (change w.ambient))).1,
        (exec body (w.within (change w.ambient))).2.within w.ambient) := by
  have henter : exec (modify fun v : World => { v with ambient := change w.ambient }) w
      = (.ok (), w.within (change w.ambient)) := rfl
  rw [withAmbient, exec_bind_ok (exec_get w), exec_bind_ok henter,
    exec_bind_ok (exec_outcome body _), exec_bind_ok (exec_modify _ _), exec_ofExcept]
  rfl

theorem exec_detached (body : Engine α) (w : World) :
    exec (detached body) w =
      ((exec body { w with spans := [], ambient := {} }).1,
        { (exec body { w with spans := [], ambient := {} }).2 with
          spans := w.spans, ambient := w.ambient }) := by
  have hstart : exec (set { w with spans := [], ambient := {} } : Engine Unit) w =
      (.ok (), { w with spans := [], ambient := {} }) := rfl
  unfold detached
  rw [exec_bind_ok (exec_get w), exec_bind_ok hstart, exec_bind_ok (exec_outcome _ _),
    exec_bind_ok (exec_modify _ _), exec_ofExcept]

/-- A read fails as an access, or answers from what is stored. -/
theorem exec_reading (env : Environment) (query : Store → Except ReadFault α) (w : World) :
    exec (reading env query) w =
      (if env.storageFails w.accesses then .error .storageRead
        else (query w.store).mapError Fault.read, w.accessed) := by
  rw [reading, exec_bind_ok (exec_access env w)]
  cases env.storageFails w.accesses
  · simp only [Bool.false_eq_true, ↓reduceIte]
    rw [exec_bind_ok (exec_get _)]
    have hstore : w.accessed.store = w.store := rfl
    rw [hstore]
    cases query w.store <;> rfl
  · rfl

/-- A write fails as an access, finds nothing to change, or changes what is stored as a whole. -/
theorem exec_writing (env : Environment) (missing : Fault)
    (change : Moment → Store → Option (α × Store)) (w : World) :
    exec (writing env missing change) w =
      if env.storageFails w.accesses then (.error .storageWrite, w.accessed)
      else
        match change (.live w.step w.tick) w.store with
        | some (a, store) => (.ok a, w.accessed.ticked.storing store)
        | none => (.error missing, w.accessed.ticked) := by
  rw [writing, exec_bind_ok (exec_access env w)]
  cases env.storageFails w.accesses
  · simp only [Bool.false_eq_true, ↓reduceIte]
    rw [exec_bind_ok (exec_now _), exec_bind_ok (exec_get _)]
    change exec (match change (.live w.step w.tick) w.store with
      | some (a, store) => _ | none => _) _ = _
    rcases change (.live w.step w.tick) w.store with _ | ⟨a, store⟩ <;> rfl
  · rfl

end Engine
end BoardRules
