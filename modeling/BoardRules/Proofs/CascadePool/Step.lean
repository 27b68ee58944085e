import BoardRules.CascadePool
import BoardRules.Engine.Incident
import Mathlib.Data.List.Basic

/-! The steps of a pool of workers, one by one, and the states that they lead to. Jobs are numbered
in the order in which the pool takes them; who dispatched each of them is kept beside the state. -/
namespace BoardRules.CascadePool

variable {R : Type}

namespace Incident

def started? : Incident R → Option Nat
  | .started i _ => some i
  | _ => none

def accepted? : Incident R → Option Nat
  | .accepted i => some i
  | _ => none

def raised? : Incident R → Option Nat
  | .raised i _ => some i
  | _ => none

def map {S : Type} (f : R → S) : Incident R → Incident S
  | .refused r => .refused (f r)
  | .started i r => .started i (f r)
  | .raised i r => .raised i (f r)
  | .accepted i => .accepted i

end Incident

namespace State

/-- The jobs that workers took up, in the order in which they did. -/
def started (s : State R) : List Nat := s.history.reverse.filterMap Incident.started?

/-- The jobs whose dispatch has returned, in the order in which it did. -/
def accepted (s : State R) : List Nat := s.history.reverse.filterMap Incident.accepted?

/-- The jobs whose runner raised. -/
def raised (s : State R) : List Nat := s.history.reverse.filterMap Incident.raised?

def progress? (s : State R) (i : Nat) : Option (Progress R) := s.jobs[i]?.map (·.progress)

def callback? (s : State R) (i : Nat) : Option Callback := s.jobs[i]?.map (·.callback)

/-- The requests that the pool has taken, in the order in which it did. -/
def requests (s : State R) : List R := s.jobs.map (·.request)

/-- A job that has been given its callback and not ended yet. -/
def await (s : State R) (i : Nat) : State R :=
  s.modifyJob i fun j => { j with callback := .waiting }

def withCalls (s : State R) (calls : List (Nat × Bool)) : State R := { s with calls }

def shut (s : State R) : State R := { s with closed := true }

section Views

variable (s : State R) (i k : Nat) (p : Progress R) (r : R) (e : Incident R)
  (calls : List (Nat × Bool))

theorem progress?_modifyJob (f : Job R → Job R) (hf : ∀ j, (f j).progress = j.progress) :
    (s.modifyJob i f).progress? k = s.progress? k := by
  simp only [progress?, modifyJob, List.getElem?_modify]
  split_ifs <;> cases s.jobs[k]? <;> simp [hf]

theorem callback?_modifyJob (f : Job R → Job R) (hf : ∀ j, (f j).callback = j.callback) :
    (s.modifyJob i f).callback? k = s.callback? k := by
  simp only [callback?, modifyJob, List.getElem?_modify]
  split_ifs <;> cases s.jobs[k]? <;> simp [hf]

theorem requests_modifyJob (f : Job R → Job R) (hf : ∀ j, (f j).request = j.request) :
    (s.modifyJob i f).requests = s.requests := by
  refine List.ext_getElem? fun k => ?_
  simp only [requests, modifyJob, List.getElem?_map, List.getElem?_modify]
  split_ifs <;> cases s.jobs[k]? <;> simp [hf]

@[simp, grind =] theorem length_requests : s.requests.length = s.jobs.length := by simp [requests]

@[simp, grind =] theorem progress?_record : (s.record e).progress? k = s.progress? k := rfl
@[simp, grind =] theorem callback?_record : (s.record e).callback? k = s.callback? k := rfl
@[simp, grind =] theorem requests_record : (s.record e).requests = s.requests := rfl
@[simp, grind =] theorem length_record : (s.record e).jobs.length = s.jobs.length := rfl
@[simp, grind =] theorem calls_record : (s.record e).calls = s.calls := rfl
@[simp, grind =] theorem pending_record : (s.record e).pending = s.pending := rfl
@[simp, grind =] theorem history_record : (s.record e).history = e :: s.history := rfl

@[simp, grind =] theorem progress?_withCalls : (s.withCalls calls).progress? k = s.progress? k := rfl
@[simp, grind =] theorem callback?_withCalls : (s.withCalls calls).callback? k = s.callback? k := rfl
@[simp, grind =] theorem requests_withCalls : (s.withCalls calls).requests = s.requests := rfl
@[simp, grind =] theorem length_withCalls : (s.withCalls calls).jobs.length = s.jobs.length := rfl
@[simp, grind =] theorem calls_withCalls : (s.withCalls calls).calls = calls := rfl
@[simp, grind =] theorem pending_withCalls : (s.withCalls calls).pending = s.pending := rfl
@[simp, grind =] theorem history_withCalls : (s.withCalls calls).history = s.history := rfl

@[simp, grind =] theorem progress?_shut : s.shut.progress? k = s.progress? k := rfl
@[simp, grind =] theorem requests_shut : s.shut.requests = s.requests := rfl
@[simp, grind =] theorem history_shut : s.shut.history = s.history := rfl

@[simp, grind =] theorem progress?_addPending : (s.addPending i).progress? k = s.progress? k := rfl
@[simp, grind =] theorem callback?_addPending : (s.addPending i).callback? k = s.callback? k := rfl
@[simp, grind =] theorem requests_addPending : (s.addPending i).requests = s.requests := rfl
@[simp, grind =] theorem length_addPending : (s.addPending i).jobs.length = s.jobs.length := rfl
@[simp, grind =] theorem calls_addPending : (s.addPending i).calls = s.calls := rfl
@[simp, grind =] theorem pending_addPending : (s.addPending i).pending = i :: s.pending := rfl
@[simp, grind =] theorem history_addPending : (s.addPending i).history = s.history := rfl

@[simp, grind =] theorem progress?_enqueue : (s.enqueue r).progress? k =
    if k = s.jobs.length then some .queued else s.progress? k := by
  simp only [progress?, enqueue, List.getElem?_append]
  grind

@[simp, grind =] theorem callback?_enqueue : (s.enqueue r).callback? k =
    if k = s.jobs.length then some .absent else s.callback? k := by
  simp only [callback?, enqueue, List.getElem?_append]
  grind

@[simp, grind =] theorem requests_enqueue : (s.enqueue r).requests = s.requests ++ [r] := by
  simp [requests, enqueue]

@[simp, grind =] theorem length_enqueue : (s.enqueue r).jobs.length = s.jobs.length + 1 := by
  simp [enqueue]

@[simp, grind =] theorem pending_enqueue : (s.enqueue r).pending = s.pending := rfl

@[simp, grind =] theorem progress?_setProgress : (s.setProgress i p).progress? k =
    if i = k then (s.progress? k).map fun _ => p else s.progress? k := by
  simp only [progress?, setProgress, modifyJob, List.getElem?_modify]
  split_ifs <;> cases s.jobs[k]? <;> rfl

@[simp, grind =] theorem callback?_setProgress : (s.setProgress i p).callback? k = s.callback? k :=
  s.callback?_modifyJob i k _ fun _ => rfl

@[simp, grind =] theorem requests_setProgress : (s.setProgress i p).requests = s.requests :=
  s.requests_modifyJob i _ fun _ => rfl

@[simp, grind =] theorem length_setProgress : (s.setProgress i p).jobs.length = s.jobs.length := by
  simp [setProgress, modifyJob]

@[simp, grind =] theorem calls_setProgress : (s.setProgress i p).calls = s.calls := rfl
@[simp, grind =] theorem pending_setProgress : (s.setProgress i p).pending = s.pending := rfl
@[simp, grind =] theorem history_setProgress : (s.setProgress i p).history = s.history := rfl

@[simp, grind =] theorem progress?_clear : (s.clear i).progress? k = s.progress? k :=
  s.progress?_modifyJob i k _ fun _ => rfl

@[simp, grind =] theorem callback?_clear : (s.clear i).callback? k =
    if i = k then (s.callback? k).map fun _ => .called else s.callback? k := by
  simp only [callback?, clear, modifyJob, List.getElem?_modify]
  split_ifs <;> cases s.jobs[k]? <;> rfl

@[simp, grind =] theorem requests_clear : (s.clear i).requests = s.requests :=
  s.requests_modifyJob i _ fun _ => rfl

@[simp, grind =] theorem length_clear : (s.clear i).jobs.length = s.jobs.length := by
  simp [clear, modifyJob]

@[simp, grind =] theorem calls_clear : (s.clear i).calls = s.calls := rfl
@[simp, grind =] theorem pending_clear : (s.clear i).pending = s.pending.filter (· ≠ i) := rfl
@[simp, grind =] theorem history_clear : (s.clear i).history = s.history := rfl

@[simp, grind =] theorem progress?_await : (s.await i).progress? k = s.progress? k :=
  s.progress?_modifyJob i k _ fun _ => rfl

@[simp, grind =] theorem callback?_await : (s.await i).callback? k =
    if i = k then (s.callback? k).map fun _ => .waiting else s.callback? k := by
  simp only [callback?, await, modifyJob, List.getElem?_modify]
  split_ifs <;> cases s.jobs[k]? <;> rfl

@[simp, grind =] theorem requests_await : (s.await i).requests = s.requests :=
  s.requests_modifyJob i _ fun _ => rfl

@[simp, grind =] theorem length_await : (s.await i).jobs.length = s.jobs.length := by
  simp [await, modifyJob]


theorem progress?_lt {s : State R} {i : Nat} {p : Progress R} (h : s.progress? i = some p) :
    i < s.jobs.length := by
  obtain ⟨j, hjob, -⟩ := Option.map_eq_some_iff.1 h
  exact (List.getElem?_eq_some_iff.1 hjob).1

/-- The oldest job of the queue: none before it is queued. -/
theorem oldest?_eq_some {s : State R} {i : Nat} (holdest : s.oldest? = some i) :
    s.progress? i = some .queued ∧ ∀ k < i, s.progress? k ≠ some .queued := by
  obtain ⟨hlt, hqueued, hbefore⟩ := List.findIdx?_eq_some_iff_getElem.1 holdest
  have hprogress (k : Nat) (hk : k < s.jobs.length) :
      s.progress? k = some .queued ↔ (s.jobs[k].progress.isQueued = true) := by
    rw [progress?, List.getElem?_eq_getElem hk, Option.map_some, Option.some.injEq]
    cases s.jobs[k].progress <;> simp [Progress.isQueued]
  exact ⟨(hprogress i hlt).2 hqueued, fun k hk h =>
    hbefore k hk ((hprogress k (by omega)).1 h)⟩

end Views

/-- A callback is called at once if the job has ended, and else waits for that. -/
theorem attach_cases (s : State R) (i : Nat) :
    (s.progress? i = some .ended ∧ s.attach i = s.clear i) ∨
      (s.progress? i ≠ some .ended ∧ s.attach i = s.await i) := by
  unfold attach progress?
  split
  · next j hjob =>
    split_ifs with hended
    · refine .inl ⟨?_, rfl⟩
      rw [hjob, Option.map_some]
      cases hp : j.progress <;> simp_all [Progress.isEnded]
    · refine .inr ⟨?_, rfl⟩
      rw [hjob, Option.map_some, ne_eq, Option.some.injEq]
      exact fun hp => hended (by rw [hp]; rfl)
  · next hnone =>
    refine .inr ⟨by simp [hnone], ?_⟩
    simp [await, modifyJob, List.modify_eq_self (List.getElem?_eq_none_iff.1 hnone)]

section Attach

variable (s : State R) (i k : Nat)

@[simp, grind =] theorem progress?_attach : (s.attach i).progress? k = s.progress? k := by
  rcases s.attach_cases i with ⟨-, h⟩ | ⟨-, h⟩ <;> simp [h]

@[simp, grind =] theorem requests_attach : (s.attach i).requests = s.requests := by
  rcases s.attach_cases i with ⟨-, h⟩ | ⟨-, h⟩ <;> simp [h]

@[simp, grind =] theorem length_attach : (s.attach i).jobs.length = s.jobs.length := by
  rcases s.attach_cases i with ⟨-, h⟩ | ⟨-, h⟩ <;> simp [h]

@[simp, grind =] theorem calls_attach : (s.attach i).calls = s.calls := by
  rcases s.attach_cases i with ⟨-, h⟩ | ⟨-, h⟩ <;> rw [h] <;> rfl

@[simp, grind =] theorem closed_attach : (s.attach i).closed = s.closed := by
  rcases s.attach_cases i with ⟨-, h⟩ | ⟨-, h⟩ <;> rw [h] <;> rfl

@[simp, grind =] theorem history_attach : (s.attach i).history = s.history := by
  rcases s.attach_cases i with ⟨-, h⟩ | ⟨-, h⟩ <;> rw [h] <;> rfl

theorem callback?_attach_of_ne {i k : Nat} (hne : k ≠ i) :
    (s.attach i).callback? k = s.callback? k := by
  rcases s.attach_cases i with ⟨-, h⟩ | ⟨-, h⟩ <;> simp [h, hne.symm]

/-- What attaching a callback comes to for a job that has none. -/
theorem attach_absent {s : State R} {i : Nat} (habsent : s.callback? i = some .absent) :
    (s.progress? i = some .ended ∧ (s.attach i).callback? i = some .called ∧
        (s.attach i).pending = s.pending.filter (· ≠ i)) ∨
      ((s.attach i).callback? i = some .waiting ∧ (s.attach i).pending = s.pending) := by
  rcases s.attach_cases i with ⟨hended, h⟩ | ⟨-, h⟩ <;> rw [h]
  · exact .inl ⟨hended, by simp [habsent], rfl⟩
  · exact .inr ⟨by simp [habsent], rfl⟩

end Attach

end State

/-- Who dispatches the job that a step adds, if it adds one: a caller from outside, or a job whose
runner does. -/
def Label.origins (s : State R) : Label R → List (Option Nat)
  | .submit _ => if s.closed then [] else [none]
  | .runnerSubmit i => if s.closed then [] else [some i]
  | _ => []

/-- The states that steps lead to, in whatever order callers, workers and the owner take them, with
the origin of each job. Where runners of one request may do different things, `R` tells them
apart. -/
inductive Reaches (workers : Nat) (runner : R → Script R) : State R → List (Option Nat) → Prop where
  | initial : Reaches workers runner {} []
  | step {s s' : State R} {origins : List (Option Nat)} (l : Label R)
      (hreaches : Reaches workers runner s origins) (hstep : s.step workers runner l = some s') :
      Reaches workers runner s' (origins ++ l.origins s)

/-- What a step comes to, with the origin of the job that it adds. -/
inductive Stepped (workers : Nat) (runner : R → Script R) (s : State R) :
    State R → List (Option Nat) → Prop where
  | refused (r : R) (hclosed : s.closed = true) :
      Stepped workers runner s (s.record (.refused r)) []
  | submitted (r : R) (hopen : s.closed = false) :
      Stepped workers runner s
        ((s.enqueue r).withCalls (s.calls ++ [(s.jobs.length, false)])) [none]
  | noted (i : Nat) (hcall : (i, false) ∈ s.calls) :
      Stepped workers runner s ((s.addPending i).withCalls
        (s.calls.map fun c => if c = (i, false) then (i, true) else c)) []
  | registered (i : Nat) (hcall : (i, true) ∈ s.calls) :
      Stepped workers runner s
        (((s.attach i).withCalls (s.calls.filter (· ≠ (i, true)))).record (.accepted i)) []
  | started (i : Nat) (r : R) (hrequest : s.requests[i]? = some r) (holdest : s.oldest? = some i)
      (hfree : s.busy < workers) :
      Stepped workers runner s
        ((s.setProgress i (.running (runner r))).record (.started i r)) []
  | runnerRefused (i : Nat) (r : R) (next : Bool → Script R)
      (hprogress : s.progress? i = some (.running (.dispatch r next))) (hclosed : s.closed = true) :
      Stepped workers runner s
        ((s.setProgress i (.running (next false))).record (.refused r)) []
  | runnerSubmitted (i : Nat) (r : R) (next : Bool → Script R)
      (hprogress : s.progress? i = some (.running (.dispatch r next))) (hopen : s.closed = false) :
      Stepped workers runner s
        ((s.enqueue r).setProgress i (.dispatching s.jobs.length false (next true))) [some i]
  | runnerNoted (i c : Nat) (rest : Script R)
      (hprogress : s.progress? i = some (.dispatching c false rest)) :
      Stepped workers runner s ((s.addPending c).setProgress i (.dispatching c true rest)) []
  | runnerRegistered (i c : Nat) (rest : Script R)
      (hprogress : s.progress? i = some (.dispatching c true rest)) :
      Stepped workers runner s
        (((s.attach c).setProgress i (.running rest)).record (.accepted c)) []
  | finished (i : Nat) (r : R) (raises : Bool) (hrequest : s.requests[i]? = some r)
      (hprogress : s.progress? i = some (.running (.done raises))) :
      Stepped workers runner s (if raises then (s.setProgress i .ended).record (.raised i r)
        else s.setProgress i .ended) []
  | calledBack (i : Nat) (hended : s.progress? i = some .ended)
      (hwaiting : s.callback? i = some .waiting) : Stepped workers runner s (s.clear i) []
  | shut : Stepped workers runner s s.shut []

theorem stepped_of_step {workers : Nat} {runner : R → Script R} {s s' : State R} {l : Label R}
    (hstep : s.step workers runner l = some s') : Stepped workers runner s s' (l.origins s) := by
  cases l with
  | submit r =>
    simp only [State.step, Label.origins] at hstep ⊢
    split_ifs at hstep ⊢ with hclosed
    · exact Option.some.inj hstep ▸ .refused r hclosed
    · exact Option.some.inj hstep ▸ .submitted r (by simpa using hclosed)
  | note i =>
    simp only [State.step, Option.ite_none_right_eq_some] at hstep
    exact Option.some.inj hstep.2 ▸ .noted i hstep.1
  | register i =>
    simp only [State.step, Option.ite_none_right_eq_some] at hstep
    exact Option.some.inj hstep.2 ▸ .registered i hstep.1
  | start i =>
    simp only [State.step] at hstep
    split at hstep
    · next j hjob =>
      simp only [Option.ite_none_right_eq_some] at hstep
      exact Option.some.inj hstep.2 ▸
        .started i j.request (by simp [State.requests, hjob]) hstep.1.1 hstep.1.2
    · cases hstep
  | runnerSubmit i =>
    simp only [State.step, Label.origins] at hstep ⊢
    split at hstep
    · next r next _ hjob =>
      have hprogress : s.progress? i = some (.running (.dispatch r next)) := by
        simp [State.progress?, hjob]
      split_ifs at hstep ⊢ with hclosed
      · exact Option.some.inj hstep ▸ .runnerRefused i r next hprogress hclosed
      · exact Option.some.inj hstep ▸ .runnerSubmitted i r next hprogress (by simpa using hclosed)
    · cases hstep
  | runnerNote i =>
    simp only [State.step] at hstep
    split at hstep
    · next c rest _ hjob =>
      exact Option.some.inj hstep ▸ .runnerNoted i c rest (by simp [State.progress?, hjob])
    · cases hstep
  | runnerRegister i =>
    simp only [State.step] at hstep
    split at hstep
    · next c rest _ hjob =>
      exact Option.some.inj hstep ▸ .runnerRegistered i c rest (by simp [State.progress?, hjob])
    · cases hstep
  | finish i =>
    simp only [State.step] at hstep
    split at hstep
    · next r raises _ hjob =>
      exact Option.some.inj hstep ▸ .finished i r raises (by simp [State.requests, hjob])
        (by simp [State.progress?, hjob])
    · cases hstep
  | callBack i =>
    simp only [State.step] at hstep
    split at hstep
    · next _ hjob =>
      exact Option.some.inj hstep ▸
        .calledBack i (by simp [State.progress?, hjob]) (by simp [State.callback?, hjob])
    · cases hstep
  | shutdown => exact Option.some.inj hstep ▸ .shut

theorem Stepped.closed {workers : Nat} {runner : R → Script R} {s s' : State R}
    {added : List (Option Nat)} (hstepped : Stepped workers runner s s' added)
    (hclosed : s.closed = true) : s'.closed = true := by
  cases hstepped with
  | registered i => exact (s.closed_attach i).trans hclosed
  | runnerRegistered _ i => exact (s.closed_attach i).trans hclosed
  | finished i r raises => cases raises <;> exact hclosed
  | shut => rfl
  | _ => exact hclosed

end BoardRules.CascadePool
