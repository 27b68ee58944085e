/-!
A pool of workers that run requests in the background.

Accepting a request takes three steps of whoever dispatches it: the request is queued, noted as
pending, and given a callback. A worker takes the oldest queued request, runs it and ends it; then
the callback clears the note. Steps of different callers and workers interleave freely: `step` takes
one of them, and does nothing where it is not possible.

What a runner does is a script: it may dispatch further requests and may raise in the end.
-/
namespace BoardRules.CascadePool

variable {R : Type}

/-- What the runner of a request does. It goes on according to whether a request it dispatches is
accepted. -/
inductive Script (R : Type) where
  | done (raises : Bool)
  | dispatch (request : R) (next : Bool → Script R)

inductive Progress (R : Type) where
  | queued
  | running (script : Script R)
  /-- The job is dispatching a request of its own, which has been accepted; `noted` tells whether it
  has been noted as pending. -/
  | dispatching (child : Nat) (noted : Bool) (rest : Script R)
  | ended

inductive Callback where
  | absent
  | waiting
  | called
deriving Repr, DecidableEq

structure Job (R : Type) where
  request : R
  progress : Progress R := .queued
  callback : Callback := .absent

inductive Incident (R : Type) where
  | refused (request : R)
  | started (job : Nat) (request : R)
  | raised (job : Nat) (request : R)
  | accepted (job : Nat)
deriving Repr, DecidableEq

/-- The state of a pool. Jobs are numbered in the order in which they were queued. -/
structure State (R : Type) where
  jobs : List (Job R) := []
  pending : List Nat := []
  /-- The dispatches that outside callers have under way: the job, and whether it has been noted. -/
  calls : List (Nat × Bool) := []
  closed : Bool := false
  history : List (Incident R) := []

/-- A step of a caller, a worker or the owner. Steps of a job are taken by its worker. -/
inductive Label (R : Type) where
  | submit (request : R)
  | note (job : Nat)
  | register (job : Nat)
  | start (job : Nat)
  | runnerSubmit (job : Nat)
  | runnerNote (job : Nat)
  | runnerRegister (job : Nat)
  | finish (job : Nat)
  | callBack (job : Nat)
  | shutdown

namespace Progress

def isBusy : Progress R → Bool
  | .running _ | .dispatching .. => true
  | _ => false

def isQueued : Progress R → Bool
  | .queued => true
  | _ => false

def isEnded : Progress R → Bool
  | .ended => true
  | _ => false

end Progress

namespace State

def modifyJob (s : State R) (i : Nat) (f : Job R → Job R) : State R :=
  { s with jobs := s.jobs.modify i f }

def setProgress (s : State R) (i : Nat) (p : Progress R) : State R :=
  s.modifyJob i fun j => { j with progress := p }

def record (s : State R) (e : Incident R) : State R := { s with history := e :: s.history }

def enqueue (s : State R) (request : R) : State R :=
  { s with jobs := s.jobs ++ [{ request }] }

def addPending (s : State R) (i : Nat) : State R := { s with pending := i :: s.pending }

def clear (s : State R) (i : Nat) : State R :=
  { s.modifyJob i (fun j => { j with callback := .called }) with
    pending := s.pending.filter (· ≠ i) }

/-- Gives a job a callback; it is called at once if the job has ended already. -/
def attach (s : State R) (i : Nat) : State R :=
  match s.jobs[i]? with
  | some j => if j.progress.isEnded then s.clear i
    else s.modifyJob i fun j => { j with callback := .waiting }
  | none => s

def busy (s : State R) : Nat := s.jobs.countP (·.progress.isBusy)

def oldest? (s : State R) : Option Nat := s.jobs.findIdx? (·.progress.isQueued)

def step (workers : Nat) (runner : R → Script R) (s : State R) : Label R → Option (State R)
  | .submit r =>
    if s.closed then some (s.record (.refused r))
    else some { s.enqueue r with calls := s.calls ++ [(s.jobs.length, false)] }
  | .note i =>
    if (i, false) ∈ s.calls then
      some { s.addPending i with
        calls := s.calls.map fun c => if c = (i, false) then (i, true) else c }
    else none
  | .register i =>
    if (i, true) ∈ s.calls then
      some ({ s.attach i with calls := s.calls.filter (· ≠ (i, true)) }.record (.accepted i))
    else none
  | .start i =>
    match s.jobs[i]? with
    | some j =>
      if s.oldest? = some i ∧ s.busy < workers then
        some ((s.setProgress i (.running (runner j.request))).record (.started i j.request))
      else none
    | none => none
  | .runnerSubmit i =>
    match s.jobs[i]? with
    | some { progress := .running (.dispatch r next), .. } =>
      if s.closed then some ((s.setProgress i (.running (next false))).record (.refused r))
      else some ((s.enqueue r).setProgress i (.dispatching s.jobs.length false (next true)))
    | _ => none
  | .runnerNote i =>
    match s.jobs[i]? with
    | some { progress := .dispatching c false rest, .. } =>
      some ((s.addPending c).setProgress i (.dispatching c true rest))
    | _ => none
  | .runnerRegister i =>
    match s.jobs[i]? with
    | some { progress := .dispatching c true rest, .. } =>
      some (((s.attach c).setProgress i (.running rest)).record (.accepted c))
    | _ => none
  | .finish i =>
    match s.jobs[i]? with
    | some { request, progress := .running (.done raises), .. } =>
      let s := s.setProgress i .ended
      some (if raises then s.record (.raised i request) else s)
    | _ => none
  | .callBack i =>
    match s.jobs[i]? with
    | some { progress := .ended, callback := .waiting, .. } => some (s.clear i)
    | _ => none
  | .shutdown => some { s with closed := true }

/-- The next step of a job, apart from being taken up. -/
def jobLabel? (i : Nat) (j : Job R) : Option (Label R) :=
  match j.progress, j.callback with
  | .running (.dispatch _ _), _ => some (.runnerSubmit i)
  | .running (.done _), _ => some (.finish i)
  | .dispatching _ false _, _ => some (.runnerNote i)
  | .dispatching _ true _, _ => some (.runnerRegister i)
  | .ended, .waiting => some (.callBack i)
  | _, _ => none

/-- A step that is possible without a new request: first one of an outside caller, then one of a job
taken up, then the taking up of a job. -/
def next? (s : State R) : Option (Label R) :=
  match s.calls with
  | (i, noted) :: _ => some (if noted then .register i else .note i)
  | [] =>
    match s.jobs.zipIdx.findSome? fun (j, i) => jobLabel? i j with
    | some l => some l
    | none => s.oldest?.map .start

def settle (workers : Nat) (runner : R → Script R) : Nat → State R → State R
  | 0, s => s
  | fuel + 1, s =>
    match s.next?.bind (s.step workers runner) with
    | some s => settle workers runner fuel s
    | none => s

/-- What has happened since an earlier state, the earliest first. -/
def since (s earlier : State R) : List (Incident R) :=
  (s.history.take (s.history.length - earlier.history.length)).reverse

end State
end BoardRules.CascadePool
