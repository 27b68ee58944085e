import BoardRules.Proofs.Engine.Sending
import BoardRules.Proofs.Run.Family
import BoardRules.Proofs.Store.Sound

/-! What a failure of the storage cuts off. What a run does can be told as a list of deeds: accesses
to the storage, each with what it does there, and what goes out. If an access fails, the run has
done the deeds before it and ends; which deeds there are does not depend on what fails later. -/
namespace BoardRules

/-- What an access to the storage does if it does not fail. -/
inductive Operation where
  | read
  | moved (move : CardMove) (time : Moment)
  | wrote (card : Uuid) (key : String) (value : Json) (time : Moment)
  | entered (row : LogRow)
  /-- A write that does not find what it is to change. -/
  | missed

namespace Operation

def apply (s : Store) : Operation → Store
  | read | missed => s
  | moved move time => s.applyMove move time
  | wrote card key value time => s.writeField card key value time
  | entered row => s.addLog row

/-- How a run ends if the access fails. -/
def fault : Operation → Fault
  | read => .storageRead
  | _ => .storageWrite

theorem kind_fault (op : Operation) : op.fault.kind = "StorageFailureError" := by
  cases op <;> rfl

theorem fault_ne_action (op : Operation) (a : ActionFailure) : op.fault ≠ .action a := by
  cases op <;> simp [fault]

def entry? : Operation → Option LogRow
  | entered row => some row
  | _ => none

end Operation

inductive Deed where
  | operation (op : Operation)
  | sent (effect : Effect)

namespace Deed

def apply (s : Store) : Deed → Store
  | operation op => op.apply s
  | sent _ => s

def isOperation : Deed → Bool
  | operation _ => true
  | sent _ => false

def effect? : Deed → Option Effect
  | operation _ => none
  | sent effect => some effect

def entry? : Deed → Option LogRow
  | operation op => op.entry?
  | sent _ => none

end Deed

def operations (deeds : List Deed) : Nat := deeds.countP Deed.isOperation

def sendings (deeds : List Deed) : List Effect := deeds.filterMap Deed.effect?

def entries (deeds : List Deed) : List LogRow := deeds.filterMap Deed.entry?

def Store.after (s : Store) (deeds : List Deed) : Store := deeds.foldl Deed.apply s

@[simp] theorem operations_append (d d' : List Deed) :
    operations (d ++ d') = operations d + operations d' := List.countP_append

@[simp] theorem sendings_append (d d' : List Deed) :
    sendings (d ++ d') = sendings d ++ sendings d' := List.filterMap_append

@[simp] theorem entries_append (d d' : List Deed) :
    entries (d ++ d') = entries d ++ entries d' := List.filterMap_append

theorem entries_nil_append {d d' : List Deed} (h : entries d = []) (h' : entries d' = []) :
    entries (d ++ d') = [] := by
  rw [entries_append, h, h']
  rfl

@[simp] theorem Store.after_append (s : Store) (d d' : List Deed) :
    s.after (d ++ d') = (s.after d).after d' := List.foldl_append

section

variable (effects : List Effect)

theorem Store.after_sent (s : Store) : s.after (effects.map Deed.sent) = s := by
  induction effects with
  | nil => rfl
  | cons _ _ ih => exact ih

theorem operations_sent : operations (effects.map Deed.sent) = 0 := by
  induction effects with
  | nil => rfl
  | cons _ _ ih => exact ih

theorem sendings_sent : sendings (effects.map Deed.sent) = effects := by
  induction effects with
  | nil => rfl
  | cons e _ ih => exact congrArg (e :: ·) ih

theorem entries_sent : entries (effects.map Deed.sent) = [] := by
  induction effects with
  | nil => rfl
  | cons _ _ ih => exact ih

end

/-- The audit log tells of what has been entered, in order. -/
theorem Store.logs_after (s : Store) (deeds : List Deed) :
    (s.after deeds).logs = s.logs ++ entries deeds := by
  induction deeds generalizing s with
  | nil => exact (List.append_nil _).symm
  | cons deed deeds ih =>
    have hcons : s.after (deed :: deeds) = (deed.apply s).after deeds := rfl
    have hentries : entries (deed :: deeds) = deed.entry?.toList ++ entries deeds := by
      unfold entries
      rw [List.filterMap_cons]
      cases deed.entry? <;> rfl
    have hlogs : (deed.apply s).logs = s.logs ++ deed.entry?.toList := by
      cases deed with
      | sent effect => exact (List.append_nil _).symm
      | operation op =>
        cases op with
        | wrote card key value time =>
          exact (Store.logs_writeField s card key value time).trans (List.append_nil _).symm
        | entered row => rfl
        | _ => exact (List.append_nil _).symm
    rw [hcons, ih, hlogs, hentries, List.append_assoc]

/-- From one world to another, certain deeds are done. -/
structure Does (deeds : List Deed) (w w' : World) : Prop where
  store : w'.store = w.store.after deeds
  sent : w'.sent = (sendings deeds).reverse ++ w.sent
  accesses : w'.accesses = w.accesses + operations deeds

/-- From one world to another, certain deeds are done and one more access to the storage has
failed. -/
structure Stopped (before : List Deed) (w w' : World) : Prop where
  store : w'.store = w.store.after before
  sent : w'.sent = (sendings before).reverse ++ w.sent
  accesses : w'.accesses = w.accesses + operations before + 1

/-- Whether so many accesses do not fail, from a certain one on. -/
def Spares (fails : Nat → Bool) (start n : Nat) : Prop := ∀ k < n, fails (start + k) = false

theorem Spares.add {fails : Nat → Bool} {start m n : Nat} (h : Spares fails start (m + n)) :
    Spares fails start m ∧ Spares fails (start + m) n := by
  refine ⟨fun k hk => h k (by omega), fun k hk => ?_⟩
  rw [Nat.add_assoc]
  exact h (m + k) (by omega)

def never : Nat → Bool := fun _ => false

/-- How a program goes that does certain deeds if no access fails: the same as long as these
accesses do not fail, and up to the first of them that fails. -/
structure Severed {α : Type} (w : World) (deeds : List Deed)
    (course : (Nat → Bool) → Except Fault α × World) : Prop where
  does : Does deeds w (course never).2
  spared : ∀ fails, Spares fails w.accesses (operations deeds) → course fails = course never
  cut : ∀ before op after, deeds = before ++ .operation op :: after → ∀ fails,
    Spares fails w.accesses (operations before) →
    fails (w.accesses + operations before) = true →
    ∃ w', course fails = (.error op.fault, w') ∧ Stopped before w w'

theorem append_eq_split {α : Type} {d d' before after : List α} {x : α}
    (h : d ++ d' = before ++ x :: after) :
    (∃ rest, d = before ++ x :: rest) ∨
      ∃ start, before = d ++ start ∧ d' = start ++ x :: after := by
  rcases List.append_eq_append_iff.mp h with ⟨start, hbefore, hd'⟩ | ⟨rest, hd, hx⟩
  · exact .inr ⟨start, hbefore, hd'⟩
  · cases rest with
    | nil =>
      refine .inr ⟨[], ?_, hx.symm⟩
      rw [hd, List.append_nil, List.append_nil]
    | cons y rest =>
      cases hx
      exact .inl ⟨rest, hd⟩

namespace Does

variable {d d' : List Deed} {w w₁ w₂ : World}

theorem of_bare (h : w₁.bare = w.bare) : Does [] w w₁ :=
  ⟨World.store_of_bare h, World.sent_of_bare h, World.accesses_of_bare h⟩

theorem trans (h : Does d w w₁) (h' : Does d' w₁ w₂) : Does (d ++ d') w w₂ where
  store := by rw [h'.store, h.store, Store.after_append]
  sent := by
    rw [h'.sent, h.sent, sendings_append, List.reverse_append, List.append_assoc]
  accesses := by rw [h'.accesses, h.accesses, operations_append, Nat.add_assoc]

theorem stopped (h : Does d w w₁) (h' : Stopped d' w₁ w₂) : Stopped (d ++ d') w w₂ where
  store := by rw [h'.store, h.store, Store.after_append]
  sent := by
    rw [h'.sent, h.sent, sendings_append, List.reverse_append, List.append_assoc]
  accesses := by
    rw [h'.accesses, h.accesses, operations_append]
    omega

end Does

theorem Stopped.still {before : List Deed} {w w₁ w₂ : World} (h : Stopped before w w₁)
    (h' : Does [] w₁ w₂) : Stopped before w w₂ :=
  ⟨h'.store.trans h.store, h'.sent.trans h.sent, h'.accesses.trans h.accesses⟩

namespace Severed

open Engine

variable {α β : Type} {w w' : World} {d d' : List Deed}
  {course : (Nat → Bool) → Except Fault α × World}

/-- What does not depend on the storage goes the same whatever fails. -/
theorem steady {r : Except Fault α} {w' : World} (hcourse : ∀ fails, course fails = (r, w'))
    (hdoes : Does d w w') (hnone : operations d = 0) : Severed w d course where
  does := by rw [hcourse]; exact hdoes
  spared := fun fails _ => (hcourse fails).trans (hcourse never).symm
  cut := by
    rintro before op after rfl
    have hone : operations [.operation op] = 1 := rfl
    have hsplit : before ++ .operation op :: after = before ++ [.operation op] ++ after := by simp
    rw [hsplit, operations_append, operations_append, hone] at hnone
    omega

theorem of_bare {r : Except Fault α} (hcourse : ∀ fails, course fails = (r, w'))
    (hbare : w'.bare = w.bare) : Severed w [] course :=
  steady hcourse (.of_bare hbare) rfl

/-- A single access, which fails or not. -/
theorem operation {op : Operation} {p : Except Fault α × World}
    (hdoes : Does [.operation op] w p.2)
    (hpassed : ∀ fails, fails w.accesses = false → course fails = p)
    (hfailed : ∀ fails, fails w.accesses = true → course fails = (.error op.fault, w.accessed)) :
    Severed w [.operation op] course where
  does := by rw [hpassed never rfl]; exact hdoes
  spared := fun fails hspares =>
    (hpassed fails (hspares 0 Nat.one_pos)).trans (hpassed never rfl).symm
  cut := by
    intro before op' after hsplit fails _ hfails
    cases before with
    | nil =>
      cases hsplit
      exact ⟨w.accessed, hfailed fails hfails, rfl, rfl, rfl⟩
    | cons deed before => cases before <;> cases hsplit

/-- A part from another starting point that has the same storage. -/
theorem start (h : Severed w' d course) (hsame : Does [] w w') : Severed w d course where
  does := hsame.trans h.does
  spared := by
    have haccesses : w'.accesses = w.accesses := hsame.accesses
    rw [← haccesses]
    exact h.spared
  cut := by
    intro before op after hsplit fails hspares hfails
    have haccesses : w'.accesses = w.accesses := hsame.accesses
    rw [← haccesses] at hspares hfails
    obtain ⟨v, hcourse, hstopped⟩ := h.cut before op after hsplit fails hspares hfails
    exact ⟨v, hcourse, hsame.stopped hstopped⟩

/-- One part after the other. Failures of the storage are not held up by what follows. -/
theorem andThen (h : Severed w d course)
    (next : (Nat → Bool) → Except Fault α × World → Except Fault β × World)
    (hnext : Severed (course never).2 d' fun fails => next fails (course never))
    (hfault : ∀ fails (op : Operation) v, ∃ v', next fails (.error op.fault, v) =
      (.error op.fault, v') ∧ Does [] v v') :
    Severed w (d ++ d') fun fails => next fails (course fails) where
  does := h.does.trans hnext.does
  spared := by
    intro fails hspares
    rw [operations_append] at hspares
    obtain ⟨hfirst, hsecond⟩ := hspares.add
    rw [h.spared fails hfirst]
    rw [← h.does.accesses] at hsecond
    exact hnext.spared fails hsecond
  cut := by
    intro before op after hsplit fails hspares hfails
    rcases append_eq_split hsplit with ⟨rest, hd⟩ | ⟨begun, rfl, hd'⟩
    · obtain ⟨v, hcourse, hstopped⟩ := h.cut before op rest hd fails hspares hfails
      obtain ⟨v', hended, hsame⟩ := hfault fails op v
      exact ⟨v', by rw [hcourse, hended], hstopped.still hsame⟩
    · rw [operations_append] at hspares
      rw [operations_append, ← Nat.add_assoc] at hfails
      obtain ⟨hfirst, hsecond⟩ := hspares.add
      rw [← h.does.accesses] at hsecond hfails
      obtain ⟨v', hended, hstopped⟩ := hnext.cut begun op after hd' fails hsecond hfails
      exact ⟨v', by rw [h.spared fails hfirst, hended], h.does.stopped hstopped⟩

end Severed

open Engine

/-- Programs, one for each way in which accesses may fail, that can be told as deeds; these fit the
store and the result that the program comes to if none fails. -/
def Cut {α : Type} (S : Store → Except Fault α → List Deed → Prop)
    (x : (Nat → Bool) → Engine α) : Prop :=
  ∀ w, ∃ deeds, S w.store (exec (x never) w).1 deeds ∧
    Severed w deeds fun fails => exec (x fails) w

namespace Cut

variable {α β : Type} {S S₁ : Store → Except Fault α → List Deed → Prop}
  {x : (Nat → Bool) → Engine α}

theorem pure (a : α) (ha : ∀ s, S s (.ok a) []) : Cut S fun _ => Pure.pure a :=
  fun w => ⟨[], ha w.store, .of_bare (fun _ => rfl) rfl⟩

theorem raise (f : Fault) (hf : ∀ s, S s (.error f) []) : Cut S fun _ => Engine.raise f :=
  fun w => ⟨[], hf w.store, .of_bare (fun _ => rfl) rfl⟩

/-- One part after the other. What follows may rely on what the first part has come to. -/
theorem bind {T : α → Store → Except Fault β → List Deed → Prop}
    {U : Store → Except Fault β → List Deed → Prop} {f : (Nat → Bool) → α → Engine β}
    (hx : Cut S x) (hf : ∀ a, Yields (x never) a → Cut (T a) fun fails => f fails a)
    (herror : ∀ s e d, S s (.error e) d → U s (.error e) d)
    (hok : ∀ w a w₁ d r d', exec (x never) w = (.ok a, w₁) → S w.store (.ok a) d →
      T a w₁.store r d' → U w.store r (d ++ d')) : Cut U fun fails => x fails >>= f fails := by
  intro w
  obtain ⟨d, hS, hsevered⟩ := hx w
  simp only [exec_bind_eq (x _)]
  have hfault : ∀ fails (op : Operation) v, ∃ v',
      exec (Engine.ofExcept (.error op.fault) >>= f fails) v = (.error op.fault, v') ∧
        Does [] v v' :=
    fun _ op v => ⟨v, exec_bind_error (exec_ofExcept _ v) _, .of_bare rfl⟩
  cases hexec : exec (x never) w with
  | mk r w₁ =>
    rw [hexec] at hS
    cases r with
    | error e =>
      have hstops : ∀ fails, exec (Engine.ofExcept (.error e) >>= f fails) w₁ = (.error e, w₁) :=
        fun _ => exec_bind_error (exec_ofExcept _ w₁) _
      refine ⟨d ++ [], ?_,
        hsevered.andThen (fun fails r => exec (Engine.ofExcept r.1 >>= f fails) r.2) ?_ hfault⟩
      · rw [hstops, List.append_nil]
        exact herror _ _ _ hS
      · rw [hexec]
        exact .of_bare hstops rfl
    | ok a =>
      have hgoes : ∀ fails, exec (Engine.ofExcept (.ok a) >>= f fails) w₁ = exec (f fails a) w₁ :=
        fun _ => exec_bind_ok (exec_ofExcept _ w₁) _
      obtain ⟨d', hT, hsevered'⟩ := hf a ⟨w, w₁, hexec⟩ w₁
      refine ⟨d ++ d', ?_,
        hsevered.andThen (fun fails r => exec (Engine.ofExcept r.1 >>= f fails) r.2) ?_ hfault⟩
      · rw [hgoes]
        exact hok w a w₁ d _ d' hexec hS hT
      · rw [hexec]
        simp only [hgoes]
        exact hsevered'

/-- Telling something first makes no difference. -/
theorem tell {body : Engine Unit} (hbody : Tells body) (hx : Cut S x) :
    Cut S fun fails => body >>= fun _ => x fails := by
  intro w
  obtain ⟨w₁, hexec, hbare⟩ := hbody w
  obtain ⟨deeds, hS, hsevered⟩ := hx w₁
  rw [World.store_of_bare hbare] at hS
  simp only [exec_bind_ok hexec]
  exact ⟨deeds, hS, hsevered.start (.of_bare hbare)⟩

theorem withAmbient (change : Ambient → Ambient) (hx : Cut S x) :
    Cut S fun fails => Engine.withAmbient change (x fails) := by
  intro w
  obtain ⟨deeds, hS, hsevered⟩ := hx (w.within (change w.ambient))
  simp only [exec_withAmbient]
  have hnext := hsevered.andThen (fun _ r => (r.1, r.2.within w.ambient))
    (.steady (fun _ => rfl) (d := []) ⟨rfl, rfl, rfl⟩ rfl) fun _ op v => ⟨_, rfl, rfl, rfl, rfl⟩
  rw [List.append_nil] at hnext
  exact ⟨deeds, hS, hnext.start ⟨rfl, rfl, rfl⟩⟩

/-- Holding a fault up in order to tell of it makes no difference. -/
theorem held {tell : Except Fault α → Engine Unit} (htell : ∀ r, Tells (tell r)) (hx : Cut S x) :
    Cut S fun fails =>
      outcome (x fails) >>= fun r => tell r >>= fun _ => Engine.ofExcept r := by
  intro w
  obtain ⟨deeds, hS, hsevered⟩ := hx w
  have hend : ∀ (r : Except Fault α) v, ∃ v', exec (tell r >>= fun _ => Engine.ofExcept r) v =
      (r, v') ∧ v'.bare = v.bare := by
    intro r v
    obtain ⟨v', hexec, hbare⟩ := htell r v
    exact ⟨v', by rw [exec_bind_ok hexec, exec_ofExcept], hbare⟩
  obtain ⟨v, hexec, hbare⟩ := hend (exec (x never) w).1 (exec (x never) w).2
  simp only [exec_bind_ok (exec_outcome _ _)]
  have hnext := hsevered.andThen
    (fun _ r => exec (tell r.1 >>= fun _ => Engine.ofExcept r.1) r.2)
    (.of_bare (fun _ => hexec) hbare) fun _ op v => by
      obtain ⟨v', hexec', hbare'⟩ := hend (.error op.fault) v
      exact ⟨v', hexec', .of_bare hbare'⟩
  rw [List.append_nil] at hnext
  refine ⟨deeds, ?_, hnext⟩
  rw [hexec]
  exact hS

/-- Nor does catching the failures of actions: no failure of the storage is one. -/
theorem caught {T : Except Fault α → Store → Except Fault β → List Deed → Prop}
    {U : Store → Except Fault β → List Deed → Prop} {f : Except Fault α → Engine β}
    (hx : Cut S x) (hf : ∀ r, Cut (T r) fun _ => f r)
    (hother : ∀ e, (∀ a, e ≠ .action a) → f (.error e) = Engine.raise e)
    (hU : ∀ s s' r d r' d', S s r d → T r s' r' d' → U s r' (d ++ d')) :
    Cut U fun fails => outcome (x fails) >>= f := by
  intro w
  obtain ⟨d, hS, hsevered⟩ := hx w
  obtain ⟨d', hT, hsevered'⟩ := hf (exec (x never) w).1 (exec (x never) w).2
  simp only [exec_bind_ok (exec_outcome _ _)]
  refine ⟨d ++ d', hU _ _ _ _ _ _ hS hT,
    hsevered.andThen (fun _ r => exec (f r.1) r.2) hsevered' ?_⟩
  intro _ op v
  rw [hother op.fault op.fault_ne_action]
  exact ⟨v, rfl, .of_bare rfl⟩

theorem spanning (name : String) (hx : Cut S x) :
    Cut S fun fails => Engine.spanning name (x fails) := by
  unfold Engine.spanning
  exact tell (Tells.opening name) (held (fun r => Tells.closeSpan (faultOf r)) hx)

/-- An access that reads. -/
theorem reading {env : Environment} (query : Store → Except ReadFault α)
    (hS : ∀ s r, S s r [.operation .read]) :
    Cut S fun fails => Engine.reading (env.failing fails) query := by
  intro w
  simp only [exec_reading]
  refine ⟨[.operation .read], hS _ _,
    .operation (p := ((query w.store).mapError Fault.read, w.accessed)) ⟨rfl, rfl, rfl⟩ ?_ ?_⟩
  · intro fails hpassed
    have hread : (env.failing fails).storageFails w.accesses = false := hpassed
    rw [hread, if_neg Bool.false_ne_true]
  · intro fails hfailed
    have hread : (env.failing fails).storageFails w.accesses = true := hfailed
    rw [hread, if_pos rfl]
    rfl

/-- An access that writes, and finds what it is to change or not. -/
theorem writing {env : Environment} (missing : Fault) {change : Moment → Store → Option (α × Store)}
    (hmissed : ∀ s, S s (.error missing) [.operation .missed])
    (hchanged : ∀ time s a s', change time s = some (a, s') →
      ∃ op : Operation, op.fault = .storageWrite ∧ s' = op.apply s ∧ S s (.ok a) [.operation op]) :
    Cut S fun fails => Engine.writing (env.failing fails) missing change := by
  intro w
  simp only [exec_writing]
  have hcut : ∀ (op : Operation) (p : Except Fault α × World), op.fault = .storageWrite →
      Does [.operation op] w p.2 → Severed w [.operation op] fun fails =>
        if (env.failing fails).storageFails w.accesses then (.error .storageWrite, w.accessed)
        else p := by
    intro op p hfault hdoes
    rw [← hfault]
    exact .operation hdoes (fun _ hpassed => if_neg (Bool.eq_false_iff.mp hpassed))
      fun _ hfailed => if_pos hfailed
  cases hchange : change (.live w.step w.tick) w.store with
  | none => exact ⟨[.operation .missed], hmissed _, hcut .missed _ rfl ⟨rfl, rfl, rfl⟩⟩
  | some p =>
    obtain ⟨op, hfault, hstore, hS⟩ := hchanged _ _ _ _ hchange
    exact ⟨[.operation op], hS, hcut op _ hfault ⟨hstore, rfl, rfl⟩⟩

end Cut

/-- A program that has nothing to do with the storage, though something may go out. -/
def Engine.Apart {α : Type} (body : Engine α) : Prop :=
  ∀ w, ∃ effects, (exec body w).2.store = w.store ∧ (exec body w).2.accesses = w.accesses ∧
    (exec body w).2.sent = effects ++ w.sent

/-- Whether taking a request over has nothing to do with the storage. -/
def HandOver.Apart (h : HandOver) : Prop := ∀ request, Engine.Apart (h request)

/-- Deeds that enter nothing into the audit log. -/
def Unentered {α : Type} (_ : Store) (_ : Except Fault α) (deeds : List Deed) : Prop :=
  entries deeds = []

namespace Unentered

variable {α : Type} {env : Environment} {h : HandOver}

theorem apart {body : Engine α} (hbody : Engine.Apart body) : Cut Unentered fun _ => body := by
  intro w
  obtain ⟨effects, hstore, haccesses, hsent⟩ := hbody w
  refine ⟨effects.reverse.map Deed.sent, entries_sent _,
    .steady (fun _ => rfl) ⟨?_, ?_, ?_⟩ (operations_sent _)⟩
  · rw [Store.after_sent]
    exact hstore
  · rw [sendings_sent, List.reverse_reverse]
    exact hsent
  · rw [operations_sent]
    exact haccesses

theorem apart_send (m : Message) : Engine.Apart (send env m) := by
  intro w
  obtain ⟨w', hexec, mails, hemits⟩ := exec_send env m w
  rw [hexec]
  exact ⟨_, (congrArg World.store hemits :), (congrArg World.accesses hemits :),
    (congrArg World.trace hemits :)⟩

/-- Actions enter nothing into the audit log. -/
theorem actingLaw (hapart : h.Apart) (card : Option Uuid) :
    ActingLaw (fun (α : Type) (x : (Nat → Bool) → Engine α) => Cut Unentered x) env id
      (fun _ => h) card where
  pure := fun a => Cut.pure a fun _ => rfl
  raise := fun f => Cut.raise f fun _ => rfl
  told := by
    intro body hbody w
    obtain ⟨w', hexec, hbare⟩ := hbody w
    exact ⟨[], rfl, .of_bare (fun _ => hexec) hbare⟩
  bind := by
    intro α β x f hx hf
    exact hx.bind (fun a ha => hf a ⟨never, ha⟩) (fun _ _ _ h => h)
      fun _ _ _ _ _ _ _ h h' => entries_nil_append h h'
  asked := by
    intro α f hf w
    obtain ⟨deeds, hS, hsevered⟩ := hf w.ambient w
    simp only [exec_bind_ok (exec_get w)]
    exact ⟨deeds, hS, hsevered⟩
  withAmbient := fun change _ hx => hx.withAmbient change
  held := fun hx htell => hx.held htell
  caught := by
    intro α β x f hx hok hfailure hother
    exact hx.caught (T := fun _ => Unentered)
      (ofCatching (C := fun body => Cut Unentered fun _ => body)
        (fun e => Cut.raise e fun _ => rfl) hok hfailure hother)
      hother fun _ _ _ _ _ _ h h' => entries_nil_append h h'
  reading := fun query _ => Cut.reading query fun _ _ => rfl
  moved := by
    intro id stage _
    refine Cut.writing noCard (fun _ => rfl) fun time s move s' hsome => ?_
    obtain ⟨row, -, hmoved⟩ := Option.bind_eq_some_iff.mp hsome
    cases hmoved
    exact ⟨.moved _ time, rfl, rfl, rfl⟩
  wrote := by
    intro id key value _
    refine Cut.writing noCard (fun _ => rfl) fun time s _ s' hsome => ?_
    obtain ⟨row, -, hwrote⟩ := Option.bind_eq_some_iff.mp hsome
    cases hwrote
    exact ⟨.wrote _ key value time, rfl, rfl, rfl⟩
  mailed := fun m => apart (apart_send m)
  handed := fun request _ => apart (hapart request)

end Unentered

/-- What is done from one entry of the audit log up to the next. -/
structure Turn where
  acts : List Deed
  row : LogRow

namespace Turn

def deeds (t : Turn) : List Deed := t.acts ++ [.operation (.entered t.row)]

/-- Turns that each end with their entry and enter nothing before. -/
def Orderly (turns : List Turn) : Prop := ∀ t ∈ turns, entries t.acts = []

theorem entries_deeds {t : Turn} (h : entries t.acts = []) : entries t.deeds = [t.row] := by
  unfold deeds
  rw [entries_append, h]
  rfl

theorem entries_turns {turns : List Turn} (h : Orderly turns) :
    entries (turns.flatMap deeds) = turns.map row := by
  induction turns with
  | nil => rfl
  | cons t turns ih =>
    obtain ⟨ht, hturns⟩ := List.forall_mem_cons.mp h
    rw [List.flatMap_cons, entries_append, entries_deeds ht, ih hturns]
    rfl

end Turn

/-- The deeds of automations that are executed in turn, as far as it goes: each but the last, which
may have been broken off, has its entry. -/
def InTurn (ids : List Uuid) (deeds : List Deed) : Prop :=
  ∃ turns rest, deeds = turns.flatMap Turn.deeds ++ rest ∧ Turn.Orderly turns ∧ entries rest = [] ∧
    (turns.map fun t => t.row.automation) <+: ids

namespace InTurn

variable {ids : List Uuid} {d d' : List Deed}

theorem broken (h : entries d = []) : InTurn ids d :=
  ⟨[], d, rfl, by simp [Turn.Orderly], h, by simp⟩

theorem opened (h : entries d = []) (h' : InTurn ids d') : InTurn ids (d ++ d') := by
  obtain ⟨turns, rest, rfl, horderly, hrest, hids⟩ := h'
  cases turns with
  | nil => exact broken (by simpa [h] using hrest)
  | cons t turns =>
    obtain ⟨ht, hturns⟩ := List.forall_mem_cons.mp horderly
    refine ⟨⟨d ++ t.acts, t.row⟩ :: turns, rest, by simp [Turn.deeds], ?_, hrest, hids⟩
    exact List.forall_mem_cons.mpr ⟨entries_nil_append h ht, hturns⟩

theorem cons {row : LogRow} (h : entries d = []) (h' : InTurn ids d') :
    InTurn (row.automation :: ids) (d ++ [.operation (.entered row)] ++ d') := by
  obtain ⟨turns, rest, rfl, horderly, hrest, hids⟩ := h'
  refine ⟨⟨d, row⟩ :: turns, rest, by simp [Turn.deeds], ?_, hrest, ?_⟩
  · exact List.forall_mem_cons.mpr ⟨h, horderly⟩
  · exact List.cons_prefix_cons.mpr ⟨rfl, hids⟩

end InTurn

/-- What is done while an automation is executed: acts, and at the end its entry. -/
def Executed (automation : Uuid) {α : Type} (_ : Store) (r : Except Fault α) (deeds : List Deed) :
    Prop :=
  match r with
  | .ok _ => ∃ acts row, deeds = acts ++ [.operation (.entered row)] ∧ entries acts = [] ∧
      row.automation = automation
  | .error _ => entries deeds = []

def matchingIds (examined : List (AutomationView × ReportDetail)) : List Uuid :=
  (examined.filter fun p => p.2.isMatch).map fun p => p.1.id

/-- The automations that match, in order, if they can be looked up at all. -/
def Store.matching (s : Store) (triggerType : String) (pipe : RowRef) (occasion : Occasion) :
    List Uuid :=
  match s.opening triggerType pipe occasion with
  | .ok (some examined) => matchingIds examined
  | _ => []

theorem Cut.afterwards {α β : Type} {S : Store → Except Fault α → List Deed → Prop}
    {U : Store → Except Fault β → List Deed → Prop} {x : (Nat → Bool) → Engine α} {y : α → Engine β}
    (hx : Cut S x) (hy : ∀ a w, ∃ b w', exec (y a) w = (.ok b, w') ∧ w'.bare = w.bare)
    (herror : ∀ s e d, S s (.error e) d → U s (.error e) d)
    (hok : ∀ s a b d, S s (.ok a) d → U s (.ok b) d) : Cut U fun fails => x fails >>= y := by
  have hrest : ∀ a, Cut (fun _ r d => (∃ b, r = .ok b) ∧ d = []) fun _ => y a := by
    intro a w
    obtain ⟨b, w', hexec, hbare⟩ := hy a w
    exact ⟨[], ⟨⟨b, by rw [hexec]⟩, rfl⟩, .of_bare (fun _ => hexec) hbare⟩
  refine hx.bind (fun a _ => hrest a) herror fun w a w₁ d r d' _ hS hT => ?_
  obtain ⟨⟨b, rfl⟩, rfl⟩ := hT
  rw [List.append_nil]
  exact hok _ _ _ _ hS

namespace Engine

variable {env : Environment} {h : HandOver}

theorem cut_enter (a : AutomationView) (card : RowRef) (triggerType : String) (e : Execution) :
    Cut (Executed a.id) fun fails => enter (env.failing fails) a card triggerType e := by
  unfold enter
  have hwritten : Cut (Executed a.id) fun fails => appendLog (env.failing fails)
      { card, triggerType, automation := a.id, status := e.status.word
        conditionsMet := e.conditionsMet, actions := e.actions.map ActionRecord.logEntry
        error := e.error } := by
    refine Cut.writing .storageWrite (fun _ => rfl) fun time s _ s' hsome => ?_
    obtain ⟨id, -, hentered⟩ := Option.bind_eq_some_iff.mp hsome
    cases hentered
    exact ⟨.entered _, rfl, rfl, [], _, rfl, rfl, rfl⟩
  refine hwritten.afterwards (fun _ w => ?_) (fun _ _ _ h => h) fun _ _ _ _ h => h
  obtain ⟨w', hexec, hbare⟩ := Tells.bind (Tells.count _ _) (Tells.log _ _ _ _) w
  exact ⟨(), w', hexec, hbare⟩

section

variable (hapart : h.Apart)

include hapart

theorem cut_execute (a : AutomationView) (card : RowRef) (triggerType : String) (depth : Int) :
    Cut (Executed a.id) fun fails => execute (env.failing fails) h a card triggerType depth := by
  unfold execute
  have law : ActingLaw (fun (α : Type) (x : (Nat → Bool) → Engine α) => Cut Unentered x) env id
      (fun _ => h) card.id? := Unentered.actingLaw hapart card.id?
  have hexecution : Cut Unentered fun fails => execution (env.failing fails) h a card depth :=
    law.toReadingLaw.execution (fun ctx payload hctx _ => law.attempt ctx hctx payload) a
  refine Cut.spanning _ (Cut.tell (Tells.annotate _ _) (Cut.tell (Tells.annotate _ _)
    (hexecution.bind (T := fun _ => Executed a.id) (fun e _ => ?_) (fun _ _ _ h => h) ?_)))
  · refine (cut_enter a card triggerType e).afterwards (fun _ w => ?_) (fun _ _ _ h => h)
      fun _ _ _ _ h => h
    obtain ⟨w', hexec, hbare⟩ := Tells.annotate "status" (.str e.status.word) w
    exact ⟨e, w', exec_bind_ok hexec _, hbare⟩
  · intro w e w₁ d r d' _ hd hd'
    cases r with
    | error f => exact entries_nil_append hd hd'
    | ok e' =>
      obtain ⟨acts, row, rfl, hacts, hrow⟩ := hd'
      exact ⟨d ++ acts, row, (List.append_assoc _ _ _).symm, entries_nil_append hd hacts, hrow⟩

theorem cut_executeMatching (card : RowRef) (triggerType : String) (depth : Int) :
    ∀ examined, Cut (fun _ _ => InTurn (matchingIds examined)) fun fails =>
      executeMatching (env.failing fails) h card triggerType depth examined
  | [] => Cut.pure [] fun _ => .broken rfl
  | p :: rest => by
    have ih := cut_executeMatching card triggerType depth rest
    simp only [executeMatching_cons]
    have hrest : ∀ d, Cut (fun _ _ => InTurn (matchingIds rest)) fun fails =>
        executeMatching (env.failing fails) h card triggerType depth rest >>= fun ds =>
          pure (d :: ds) := fun d =>
      ih.afterwards (fun ds w => ⟨_, w, rfl, rfl⟩) (fun _ _ _ h => h) fun _ _ _ _ h => h
    unfold turn
    cases hmatch : p.2.isMatch with
    | false =>
      have hids : matchingIds (p :: rest) = matchingIds rest := by simp [matchingIds, hmatch]
      rw [hids]
      simp only [Bool.false_eq_true, ↓reduceIte, pure_bind]
      exact hrest p.2
    | true =>
      have hids : matchingIds (p :: rest) = p.1.id :: matchingIds rest := by
        simp [matchingIds, hmatch]
      rw [hids]
      simp only [↓reduceIte, bind_map_left]
      refine (cut_execute hapart p.1 card triggerType depth).bind (fun _ _ => hrest _)
        (fun _ _ _ hd => .broken hd) fun w e w₁ d r d' _ hd hd' => ?_
      obtain ⟨acts, row, rfl, hacts, hrow⟩ := hd
      rw [← hrow]
      exact .cons hacts hd'

theorem cut_runInSpan (triggerType : String) (card pipe : RowRef) (occasion : Occasion)
    (depth : Int) : Cut (fun s _ => InTurn (s.matching triggerType pipe occasion)) fun fails =>
      runInSpan (env.failing fails) h triggerType card pipe occasion depth := by
  simp only [runInSpan_eq]
  have law : ActingLaw (fun (α : Type) (x : (Nat → Bool) → Engine α) => Cut Unentered x) env id
      (fun _ => h) card.id? := Unentered.actingLaw hapart card.id?
  have hopened : Cut Unentered fun fails => opened (env.failing fails) triggerType pipe occasion :=
    law.toReadingLaw.opened triggerType pipe occasion
  refine Cut.tell (tells_showRun triggerType card pipe depth) (hopened.bind
    (T := fun found _ _ => InTurn (matchingIds (found.getD []))) (fun found _ => ?_)
    (fun _ _ _ hd => .broken hd) fun w found w₁ d r d' hexec hd hd' => ?_)
  · cases found with
    | none =>
      intro w
      obtain ⟨w', hexec, hbare⟩ := Tells.log .warning runLogger "automation.pipe_not_found"
        [("pipe_id", .str pipe.text), ("card_id", .str card.text),
          ("trigger_type", .str triggerType)] w
      exact ⟨[], .broken rfl, .of_bare (fun _ => exec_bind_ok hexec _) hbare⟩
    | some examined =>
      refine (cut_executeMatching hapart card triggerType depth examined).afterwards
        (fun details w => ?_) (fun _ _ _ h => h) fun _ _ _ _ h => h
      have htold : Tells (tellRun triggerType card pipe depth (reportOf details)) :=
        Tells.bind (Tells.annotate _ _) (Tells.bind (Tells.annotate _ _) (Tells.log _ _ _ _))
      obtain ⟨w', hexec, hbare⟩ := htold w
      exact ⟨_, w', exec_bind_ok hexec _, hbare⟩
  · obtain ⟨-, hopening⟩ := (Reads.opened triggerType pipe occasion).eq_ok hexec
    have hmatching : w.store.matching triggerType pipe occasion = matchingIds (found.getD []) := by
      unfold Store.matching
      rw [hopening]
      cases found <;> rfl
    rw [hmatching]
    exact .opened hd hd'

theorem cut_run (triggerType : String) (card pipe : RowRef) (occasion : Occasion) (depth : Int) :
    Cut (fun s _ => InTurn (s.matching triggerType pipe occasion)) fun fails =>
      run (env.failing fails) h triggerType card pipe occasion depth := by
  unfold run withDepth
  exact Cut.withAmbient _ (Cut.held (fun _ => Tells.bind (Tells.count _ _) (Tells.count _ _))
    (Cut.spanning _ (cut_runInSpan hapart triggerType card pipe occasion depth)))

end
end Engine

/-- Every access that is made is one of the deeds. -/
theorem exists_operation {n : Nat} :
    ∀ {deeds : List Deed}, n < operations deeds →
      ∃ before op after, deeds = before ++ .operation op :: after ∧ operations before = n
  | [], h => absurd h (Nat.not_lt_zero n)
  | .sent effect :: deeds, h => by
    have hrest : n < operations deeds := by
      simpa [operations, List.countP_cons, Deed.isOperation] using h
    obtain ⟨before, op, after, rfl, hn⟩ := exists_operation hrest
    exact ⟨.sent effect :: before, op, after, rfl,
      by simpa [operations, List.countP_cons, Deed.isOperation] using hn⟩
  | .operation op :: deeds, h => by
    cases n with
    | zero => exact ⟨[], op, deeds, rfl, rfl⟩
    | succ n =>
      have hrest : n < operations deeds := by
        simpa [operations, List.countP_cons, Deed.isOperation] using h
      obtain ⟨before, op', after, rfl, hn⟩ := exists_operation hrest
      exact ⟨.operation op :: before, op', after, rfl,
        by simpa [operations, List.countP_cons, Deed.isOperation] using hn⟩

/-- Up to any access, some of the turns are over and nothing has been entered since. -/
theorem turns_before {op : Operation} {after rest : List Deed} (hrest : entries rest = []) :
    ∀ {turns : List Turn} {before : List Deed}, Turn.Orderly turns →
      turns.flatMap Turn.deeds ++ rest = before ++ .operation op :: after →
      ∃ done later part, turns = done ++ later ∧ before = done.flatMap Turn.deeds ++ part ∧
        entries part = []
  | [], before, _, hsplit => by
    refine ⟨[], [], before, rfl, rfl, ?_⟩
    have hentries : entries (before ++ .operation op :: after) = [] := by rw [← hsplit]; exact hrest
    rw [entries_append] at hentries
    exact (List.append_eq_nil_iff.mp hentries).1
  | t :: turns, before, horderly, hsplit => by
    obtain ⟨ht, hturns⟩ := List.forall_mem_cons.mp horderly
    rw [List.flatMap_cons, List.append_assoc] at hsplit
    rcases append_eq_split hsplit with ⟨others, ht'⟩ | ⟨begun, rfl, hlater⟩
    · refine ⟨[], t :: turns, before, rfl, rfl, ?_⟩
      rcases append_eq_split ht' with ⟨others', hacts⟩ | ⟨begun, rfl, hlast⟩
      · rw [hacts, entries_append] at ht
        exact (List.append_eq_nil_iff.mp ht).1
      · cases begun with
        | nil => rw [List.append_nil]; exact ht
        | cons deed begun => cases begun <;> cases hlast
    · obtain ⟨done, later, part, rfl, rfl, hpart⟩ := turns_before hrest hturns hlater
      exact ⟨t :: done, later, part, rfl, by simp, hpart⟩

/-- How a run ends that a failing access breaks off: certain turns are over and part of another is
done. Those turns keep what they did and have their entries; nothing else is entered. -/
structure BrokenOff (done : List Turn) (part : List Deed) (op : Operation) (w : World)
    (ended : Except Fault Report × World) : Prop where
  raised : ended.1 = .error op.fault
  kind : op.fault.kind = "StorageFailureError"
  stopped : Stopped (done.flatMap Turn.deeds ++ part) w ended.2
  logs : ended.2.store.logs = w.store.logs ++ done.map Turn.row

theorem BrokenOff.of_stopped {done : List Turn} {part : List Deed} {op : Operation} {w : World}
    {ended : Except Fault Report × World} (hdone : Turn.Orderly done) (hpart : entries part = [])
    (hraised : ended.1 = .error op.fault)
    (hstopped : Stopped (done.flatMap Turn.deeds ++ part) w ended.2) :
    BrokenOff done part op w ended where
  raised := hraised
  kind := op.kind_fault
  stopped := hstopped
  logs := by
    rw [hstopped.store, Store.logs_after, entries_append, Turn.entries_turns hdone, hpart,
      List.append_nil]

namespace Engine

theorem apart_openPool : HandOver.Apart openPool := fun _ _ => ⟨[_], rfl, rfl, rfl⟩

theorem apart_closedPool : HandOver.Apart closedPool := fun _ _ => ⟨[_], rfl, rfl, rfl⟩

theorem apart_jobQueue : HandOver.Apart jobQueue := fun _ _ => ⟨[_], rfl, rfl, rfl⟩

theorem apart_brokenQueue : HandOver.Apart brokenQueue := fun _ _ => ⟨[], rfl, rfl, rfl⟩

/-- A failure of the storage cuts a run exactly where it happens. What a run does if no access to
the storage fails are certain deeds, in turns of the matching automations that each end with an
entry in the audit log. Whichever of its accesses is the first to fail, the run has done the deeds
before it and nothing else, and raises the failure; if none of them fails, it is the same run. -/
theorem run_cutByFailure (env : Environment) {h : HandOver} (hapart : h.Apart)
    (triggerType : String) (card pipe : RowRef) (occasion : Occasion) (depth : Int) (w : World) :
    ∃ turns rest, Turn.Orderly turns ∧ entries rest = [] ∧
      (turns.map fun t => t.row.automation) <+: w.store.matching triggerType pipe occasion ∧
      Does (turns.flatMap Turn.deeds ++ rest) w
        (exec (run (env.failing never) h triggerType card pipe occasion depth) w).2 ∧
      (∀ fails, Spares fails w.accesses (operations (turns.flatMap Turn.deeds ++ rest)) →
        exec (run (env.failing fails) h triggerType card pipe occasion depth) w =
          exec (run (env.failing never) h triggerType card pipe occasion depth) w) ∧
      ∀ n < operations (turns.flatMap Turn.deeds ++ rest), ∀ fails, Spares fails w.accesses n →
        fails (w.accesses + n) = true →
        ∃ done later part op after, turns = done ++ later ∧
          turns.flatMap Turn.deeds ++ rest =
            (done.flatMap Turn.deeds ++ part) ++ .operation op :: after ∧
          operations (done.flatMap Turn.deeds ++ part) = n ∧
          BrokenOff done part op w
            (exec (run (env.failing fails) h triggerType card pipe occasion depth) w) := by
  have hcut : Cut (fun s _ => InTurn (s.matching triggerType pipe occasion)) fun fails =>
      run (env.failing fails) h triggerType card pipe occasion depth :=
    cut_run hapart triggerType card pipe occasion depth
  obtain ⟨deeds, ⟨turns, rest, hdeeds, horderly, hrest, hids⟩, hsevered⟩ := hcut w
  rw [hdeeds] at hsevered
  refine ⟨turns, rest, horderly, hrest, hids, hsevered.does, hsevered.spared, ?_⟩
  intro n hn fails hspares hfails
  obtain ⟨before, op, after, hsplit, rfl⟩ := exists_operation hn
  obtain ⟨done, later, part, rfl, rfl, hpart⟩ := turns_before hrest horderly hsplit
  obtain ⟨w', hexec, hstopped⟩ := hsevered.cut _ op after hsplit fails hspares hfails
  have hdone : Turn.Orderly done := fun t ht => horderly t (List.mem_append_left later ht)
  refine ⟨done, later, part, op, after, rfl, hsplit, rfl, .of_stopped hdone hpart ?_ ?_⟩
  · rw [hexec]
  · rw [hexec]
    exact hstopped

/-- On the small board a run makes five accesses, and here the last one fails. -/
theorem run_cutByFailure_sample :
    ∃ done part op, operations (done.flatMap Turn.deeds ++ part) = 4 ∧
      BrokenOff done part op { store := Store.sample }
        (exec (run (Environment.sample.failing fun k => k == 4) openPool "card_enters_stage"
          (.ofUuid ⟨3, by decide⟩) (.ofUuid ⟨1, by decide⟩) .untold 0)
          { store := Store.sample }) := by
  obtain ⟨turns, rest, -, -, -, hdoes, -, hcut⟩ := run_cutByFailure Environment.sample
    apart_openPool "card_enters_stage" (.ofUuid ⟨3, by decide⟩) (.ofUuid ⟨1, by decide⟩) .untold 0
    { store := Store.sample }
  have hnever : Environment.sample.failing never = Environment.sample := rfl
  have hfive : (exec (run Environment.sample openPool "card_enters_stage" (.ofUuid ⟨3, by decide⟩)
      (.ofUuid ⟨1, by decide⟩) .untold 0) { store := Store.sample }).2.accesses = 5 := by
    decide +kernel
  have haccesses : 5 = 0 + operations (turns.flatMap Turn.deeds ++ rest) := by
    rw [← hfive, ← hnever]
    exact hdoes.accesses
  obtain ⟨done, -, part, op, -, -, -, hn, hbroken⟩ := hcut 4 (by omega)
    (fun k => k == 4) (fun k hk => by simp; omega) rfl
  exact ⟨done, part, op, hn, hbroken⟩

end Engine
end BoardRules
