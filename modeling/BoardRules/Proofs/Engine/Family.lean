import BoardRules.Proofs.Engine.Ledger

/-! Families of programs: a program for each of several settings in which it may run. A law of
families is kept by every way in which the engine puts programs together, so it is enough to look at
what they are put together from. Nothing depends on what is told to observers only, that is on spans
and on what is written down besides mails and requests for cascades. -/
namespace BoardRules

/-- Whether an effect goes out: a mail, or a request for a cascade. -/
def Effect.isOutgoing : Effect → Bool
  | .mail .. | .cascade .. | .job .. => true
  | _ => false

/-- What has gone out, the latest first. -/
def World.sent (w : World) : List Effect := w.trace.filter Effect.isOutgoing

/-- A world without what is told to observers only. -/
def World.bare (w : World) : World := { w with spans := [], trace := w.sent }

section

variable {w w' : World} (h : w'.bare = w.bare)

include h

theorem World.store_of_bare : w'.store = w.store := (congrArg World.store h :)

theorem World.queue_of_bare : w'.queue = w.queue := (congrArg World.queue h :)

theorem World.ambient_of_bare : w'.ambient = w.ambient := (congrArg World.ambient h :)

theorem World.sent_of_bare : w'.sent = w.sent := (congrArg World.trace h :)

theorem World.accesses_of_bare : w'.accesses = w.accesses := (congrArg World.accesses h :)

end

theorem World.bare_noted {e : Effect} (he : e.isOutgoing = false) (w : World) :
    (w.noted e).bare = w.bare := by
  unfold bare sent noted
  simp [he]

@[simp] theorem World.bare_opened (w : World) (name : String) : (w.opened name).bare = w.bare := rfl

@[simp] theorem World.bare_closed (w : World) (fault : Option Fault) :
    (w.closed fault).bare = w.bare := by
  obtain ⟨store, ambient, _ | ⟨s, ss⟩, trace, queue, step, tick, accesses, mails, submitted⟩ := w
  · rfl
  · rfl

namespace Engine

variable {ι α β : Type}

/-- What a program can come to. -/
def Yields (x : Engine α) (a : α) : Prop := ∃ w w', exec x w = (.ok a, w')

/-- A program that comes to its end and does nothing but tell. -/
def Tells (body : Engine Unit) : Prop := ∀ w, ∃ w', exec body w = (.ok (), w') ∧ w'.bare = w.bare

namespace Tells

theorem bind {x y : Engine Unit} (hx : Tells x) (hy : Tells y) : Tells (x >>= fun _ => y) := by
  intro w
  obtain ⟨w₁, hexec₁, hbare₁⟩ := hx w
  obtain ⟨w₂, hexec₂, hbare₂⟩ := hy w₁
  exact ⟨w₂, (exec_bind_ok hexec₁ _).trans hexec₂, hbare₂.trans hbare₁⟩

theorem annotate (key : String) (v : Json) : Tells (Engine.annotate key v) := by
  rintro ⟨store, ambient, _ | ⟨s, ss⟩, trace, queue, step, tick, accesses, mails, submitted⟩
  · exact ⟨_, rfl, rfl⟩
  · exact ⟨_, rfl, rfl⟩

theorem annotateOf (key : String) (v : World → Json) :
    Tells (get >>= fun w => Engine.annotate key (v w)) :=
  fun w => annotate key (v w) w

theorem markFailed (description : String) : Tells (Engine.markFailed description) := by
  rintro ⟨store, ambient, _ | ⟨s, ss⟩, trace, queue, step, tick, accesses, mails, submitted⟩
  · exact ⟨_, rfl, rfl⟩
  · exact ⟨_, rfl, rfl⟩

theorem log (level : LogLevel) (logger message : String) (fields : Entries) :
    Tells (Engine.log level logger message fields) :=
  fun w => ⟨_, rfl, World.bare_noted rfl w⟩

theorem logFault (logger message : String) (fields : Entries) :
    Tells (Engine.logFault logger message fields) :=
  fun w => ⟨_, rfl, World.bare_noted rfl w⟩

theorem count (counter : String) (labels : List (String × String)) :
    Tells (Engine.count counter labels) :=
  fun w => ⟨_, rfl, World.bare_noted rfl w⟩

theorem opening (name : String) :
    Tells (modify fun w : World => { w with spans := { name } :: w.spans }) :=
  fun w => ⟨_, rfl, w.bare_opened name⟩

theorem closeSpan (fault : Option Fault) : Tells (Engine.closeSpan fault) :=
  fun w => ⟨_, rfl, w.bare_closed fault⟩

end Tells

/-- A property of whatever follows an attempt, if it catches the failures of actions only. -/
theorem ofCatching {C : Engine β → Prop} {f : Except Fault α → Engine β}
    (hraise : ∀ e, C (raise e)) (hok : ∀ a, C (f (.ok a)))
    (hfailure : ∀ a, C (f (.error (.action a))))
    (hother : ∀ e, (∀ a, e ≠ .action a) → f (.error e) = raise e) (r : Except Fault α) :
    C (f r) := by
  cases r with
  | ok a => exact hok a
  | error e =>
    by_cases he : ∃ a, e = .action a
    · obtain ⟨a, rfl⟩ := he
      exact hfailure a
    · rw [hother e fun a ha => he ⟨a, ha⟩]
      exact hraise e

/-- A property of families of programs, kept by the ways in which programs are put together. What
follows a part may rely on the part's having come to something. Failures of actions may be caught,
other faults are only held up. -/
structure FamilyLaw (J : (α : Type) → (ι → Engine α) → Prop) : Prop where
  pure : ∀ {α : Type} (a : α), J α fun _ => Pure.pure a
  raise : ∀ {α : Type} (f : Fault), J α fun _ => Engine.raise f
  told : ∀ {body : Engine Unit}, Tells body → J Unit fun _ => body
  bind : ∀ {α β : Type} {x : ι → Engine α} {f : ι → α → Engine β}, J α x →
    (∀ a, (∃ i, Yields (x i) a) → J β fun i => f i a) → J β fun i => x i >>= f i
  asked : ∀ {α : Type} {f : ι → Ambient → Engine α}, (∀ a, J α fun i => f i a) →
    J α fun i => get >>= fun w => f i w.ambient
  withAmbient : ∀ {α : Type} (change : Ambient → Ambient) {x : ι → Engine α}, J α x →
    J α fun i => Engine.withAmbient change (x i)
  held : ∀ {α : Type} {x : ι → Engine α} {tell : Except Fault α → Engine Unit}, J α x →
    (∀ r, Tells (tell r)) →
    J α fun i => outcome (x i) >>= fun r => tell r >>= fun _ => Engine.ofExcept r
  caught : ∀ {α β : Type} {x : ι → Engine α} {f : Except Fault α → Engine β}, J α x →
    (∀ a, J β fun _ => f (.ok a)) → (∀ a, J β fun _ => f (.error (.action a))) →
    (∀ e, (∀ a, e ≠ .action a) → f (.error e) = Engine.raise e) →
    J β fun i => outcome (x i) >>= f

namespace FamilyLaw

variable {J : (α : Type) → (ι → Engine α) → Prop} (law : FamilyLaw J)

include law

/-- One part after the other, whatever the first comes to. -/
theorem seq {x : ι → Engine α} {f : ι → α → Engine β} (hx : J α x) (hf : ∀ a, J β fun i => f i a) :
    J β fun i => x i >>= f i :=
  law.bind hx fun a _ => hf a

theorem ofExcept (r : Except Fault α) : J α fun _ => Engine.ofExcept r := by
  cases r with
  | error f => exact law.raise f
  | ok a => exact law.pure a

theorem map (g : α → β) {x : ι → Engine α} (hx : J α x) : J β fun i => g <$> x i := by
  have hmap : (fun i => g <$> x i) = fun i => x i >>= fun a => Pure.pure (g a) := by
    funext i
    exact (bind_pure_comp g (x i)).symm
  rw [hmap]
  exact law.seq hx fun a => law.pure (g a)

theorem mapM {f : ι → α → Engine β} (hf : ∀ a, J β fun i => f i a) :
    ∀ l : List α, J (List β) fun i => l.mapM (f i)
  | [] => by
    simp only [List.mapM_nil]
    exact law.pure []
  | a :: l => by
    simp only [List.mapM_cons]
    exact law.seq (hf a) fun b => law.seq (mapM hf l) fun bs => law.pure (b :: bs)

theorem spanning (name : String) {x : ι → Engine α} (hx : J α x) :
    J α fun i => Engine.spanning name (x i) := by
  unfold Engine.spanning
  refine law.seq (law.told (Tells.opening name)) fun _ => ?_
  exact law.held hx fun r => Tells.closeSpan (faultOf r)

end FamilyLaw

/-- A relation between worlds that does not look at what is told, that can be followed step by step
and that holds of a part in another ambient context, as a law of single programs. -/
theorem FamilyLaw.keeps {R : World → World → Prop} (hbare : ∀ {w w'}, w'.bare = w.bare → R w w')
    (htrans : ∀ {w₁ w₂ w₃}, R w₁ w₂ → R w₂ w₃ → R w₁ w₃)
    (hwithin : ∀ {w w'} (a : Ambient), R (w.within a) w' → R w (w'.within w.ambient)) :
    FamilyLaw fun (α : Type) (x : Unit → Engine α) => Keeps R (x ()) where
  pure := fun _ _ => hbare rfl
  raise := fun _ _ => hbare rfl
  told := by
    intro body hbody w
    obtain ⟨w', hexec, hw'⟩ := hbody w
    rw [hexec]
    exact hbare hw'
  bind := by
    intro α β x f hx hf
    exact Keeps.seq (R := R) (fun _ _ _ => htrans) hx fun w a w₁ hexec =>
      hf a ⟨(), w, w₁, hexec⟩ w₁
  asked := by
    intro α f hf w
    rw [exec_bind_ok (exec_get w)]
    exact hf w.ambient w
  withAmbient := by
    intro α change x hx w
    rw [exec_withAmbient]
    exact hwithin _ (hx _)
  held := by
    intro α x tell hx htell w
    obtain ⟨w', hexec, hw'⟩ := htell (exec (x ()) w).1 (exec (x ()) w).2
    rw [exec_bind_ok (exec_outcome _ _), exec_bind_ok hexec, exec_ofExcept]
    exact htrans (hx w) (hbare hw')
  caught := by
    intro α β x f hx hok hfailure hother w
    rw [exec_bind_ok (exec_outcome _ _)]
    exact htrans (hx w) (ofCatching (C := Keeps R) (fun _ _ => hbare rfl) hok hfailure hother _ _)

end Engine
end BoardRules
