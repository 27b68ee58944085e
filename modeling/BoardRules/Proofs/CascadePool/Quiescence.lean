import BoardRules.Proofs.CascadePool.Attention
import BoardRules.Proofs.CascadePool.Order
import Mathlib.Logic.Relation

/-! Quiescence of a pool of workers. Whatever the order of steps, what the pool has taken is run
once; when no step is left all of it has been run; and while nothing is pending, nothing that was
dispatched is still to be done, by whatever it was dispatched. -/
namespace BoardRules.CascadePool

variable {R : Type} {workers : Nat} {runner : R → Script R} {s : State R}
  {origins : List (Option Nat)}

namespace State

/-- Nothing can happen any more by itself: all that remains possible is a new request and to shut
the pool. -/
def AtRest (workers : Nat) (runner : R → Script R) (s : State R) : Prop :=
  ∀ l s', s.step workers runner l = some s' → (∃ r, l = .submit r) ∨ l = .shutdown

theorem job_of_progress? {i : Nat} {p : Progress R} (hprogress : s.progress? i = some p) :
    ∃ request callback, s.jobs[i]? = some ⟨request, p, callback⟩ ∧
      s.callback? i = some callback := by
  obtain ⟨⟨request, q, callback⟩, hjob, rfl⟩ := Option.map_eq_some_iff.1 hprogress
  exact ⟨request, callback, hjob, by simp [callback?, hjob]⟩

namespace AtRest

theorem calls (hrest : s.AtRest workers runner) : s.calls = [] := by
  refine List.eq_nil_iff_forall_not_mem.2 fun ⟨i, noted⟩ hcall => ?_
  cases noted with
  | false => rcases hrest (.note i) _ (if_pos hcall) with ⟨r, h⟩ | h <;> cases h
  | true => rcases hrest (.register i) _ (if_pos hcall) with ⟨r, h⟩ | h <;> cases h

theorem progress (hrest : s.AtRest workers runner) {i : Nat} {p : Progress R}
    (hprogress : s.progress? i = some p) : p = .queued ∨ p = .ended := by
  obtain ⟨request, callback, hjob, -⟩ := job_of_progress? hprogress
  match p with
  | .queued => exact .inl rfl
  | .ended => exact .inr rfl
  | .running (.dispatch r next) =>
    have hstep : ∃ s', s.step workers runner (.runnerSubmit i) = some s' := by
      simp only [step, hjob]
      split_ifs <;> exact ⟨_, rfl⟩
    rcases hrest _ _ hstep.choose_spec with ⟨r, h⟩ | h <;> cases h
  | .running (.done raises) =>
    rcases hrest (.finish i) _ (by simp only [step, hjob]; rfl) with ⟨r, h⟩ | h <;> cases h
  | .dispatching c false rest =>
    rcases hrest (.runnerNote i) _ (by simp only [step, hjob]; rfl) with ⟨r, h⟩ | h <;> cases h
  | .dispatching c true rest =>
    rcases hrest (.runnerRegister i) _ (by simp only [step, hjob]; rfl) with ⟨r, h⟩ | h <;> cases h

theorem callback (hrest : s.AtRest workers runner) {i : Nat}
    (hended : s.progress? i = some .ended) : s.callback? i ≠ some .waiting := by
  intro hwaiting
  obtain ⟨request, callback, hjob, hcallback⟩ := job_of_progress? hended
  cases hcallback.symm.trans hwaiting
  rcases hrest (.callBack i) _ (by simp only [step, hjob]; rfl) with ⟨r, h⟩ | h <;> cases h

/-- As long as there is a worker, a queue does not stand still: all jobs have ended. -/
theorem ended (hrest : s.AtRest workers runner) (hworkers : 0 < workers) {i : Nat}
    (hlt : i < s.jobs.length) : s.progress? i = some .ended := by
  have hprogress : s.progress? i = some s.jobs[i].progress := by
    simp [progress?, List.getElem?_eq_getElem hlt]
  refine hprogress.trans (congrArg some ((hrest.progress hprogress).resolve_left fun hqueued => ?_))
  obtain ⟨k, holdest⟩ : ∃ k, s.oldest? = some k := by
    rw [← Option.isSome_iff_exists, oldest?, List.findIdx?_isSome, List.any_eq_true]
    exact ⟨_, List.getElem_mem hlt, by rw [hqueued]; rfl⟩
  have hfree : s.busy = 0 := by
    refine List.countP_eq_zero.2 fun j hj => ?_
    obtain ⟨q, hjob⟩ := List.mem_iff_getElem?.1 hj
    rcases hrest.progress (i := q) (p := j.progress) (by simp [progress?, hjob]) with h | h <;>
      simp [h, Progress.isBusy]
  obtain ⟨request, callback, hjob, -⟩ := job_of_progress? (oldest?_eq_some holdest).1
  have hstep : ∃ s', s.step workers runner (.start k) = some s' := by
    simp only [step, hjob, holdest, hfree, hworkers, and_self, if_true]
    exact ⟨_, rfl⟩
  rcases hrest _ _ hstep.choose_spec with ⟨r, h⟩ | h <;> cases h

end AtRest
end State

/-- A job that the runner of another dispatched. -/
def Dispatched (origins : List (Option Nat)) (parent child : Nat) : Prop :=
  origins[child]? = some (some parent)

namespace Attended

/-- While nothing is pending, what is accepted has ended. -/
theorem ended_of_accepted (hattended : Attended s origins) (hidle : s.pending = []) {i : Nat}
    (haccepted : i ∈ s.accepted) : s.progress? i = some .ended := by
  rcases (hattended.accepted i).1 haccepted with hwaiting | hcalled
  · have := hattended.waiting i hwaiting
    rw [hidle] at this
    cases this
  · exact hattended.called i hcalled

/-- A runner that has ended has nothing in its hands: what it dispatched is accepted. -/
theorem accepted_of_dispatched (hattended : Attended s origins) {p c : Nat}
    (hended : s.progress? p = some .ended) (hdispatched : Dispatched origins p c) :
    c ∈ s.accepted := by
  have hlt : c < s.jobs.length :=
    hattended.length ▸ (List.getElem?_eq_some_iff.1 hdispatched).1
  have hcallback : s.callback? c = some s.jobs[c].callback := by
    simp [State.callback?, List.getElem?_eq_getElem hlt]
  rw [hattended.accepted, hcallback]
  cases hc : s.jobs[c].callback with
  | absent =>
    rw [hc] at hcallback
    rcases hattended.absent c hcallback with ⟨b, hcall⟩ | ⟨q, b, rest, hq⟩
    · have := hdispatched.symm.trans (hattended.outside c b hcall).1
      cases this
    · have := hdispatched.symm.trans (hattended.inside q c b rest hq).1
      cases this
      cases hended.symm.trans hq
  | waiting => exact .inl rfl
  | called => exact .inr rfl

theorem ended_of_idle (hattended : Attended s origins) (hidle : s.pending = []) {i c : Nat}
    (haccepted : i ∈ s.accepted) (hdescends : Relation.ReflTransGen (Dispatched origins) i c) :
    s.progress? c = some .ended := by
  induction hdescends with
  | refl => exact hattended.ended_of_accepted hidle haccepted
  | tail _ hdispatched ih =>
    exact hattended.ended_of_accepted hidle (hattended.accepted_of_dispatched ih hdispatched)

theorem accepted_of_rest (hattended : Attended s origins) (hworkers : 0 < workers)
    (hrest : s.AtRest workers runner) {i : Nat} (hlt : i < s.jobs.length) : i ∈ s.accepted := by
  have hcallback : s.callback? i = some s.jobs[i].callback := by
    simp [State.callback?, List.getElem?_eq_getElem hlt]
  rw [hattended.accepted, hcallback]
  cases hc : s.jobs[i].callback with
  | absent =>
    rw [hc] at hcallback
    rcases hattended.absent i hcallback with ⟨b, hcall⟩ | ⟨q, b, rest, hq⟩
    · rw [hrest.calls] at hcall
      cases hcall
    · cases (hrest.ended hworkers (State.progress?_lt hq)).symm.trans hq
  | waiting => exact .inl rfl
  | called => exact .inr rfl

theorem pending_of_rest (hattended : Attended s origins) (hworkers : 0 < workers)
    (hrest : s.AtRest workers runner) : s.pending = [] := by
  refine List.eq_nil_iff_forall_not_mem.2 fun i hi => ?_
  have hknown := hattended.pending i hi
  have hlt : i < s.jobs.length := by
    by_contra hge
    simp [State.callback?, List.getElem?_eq_none (not_lt.1 hge)] at hknown
  have haccepted := (hattended.accepted i).1 (hattended.accepted_of_rest hworkers hrest hlt)
  have hwaiting := hrest.callback (hrest.ended hworkers hlt)
  rcases hknown with h | h <;> simp_all

end Attended

section Log

variable (request : R → CascadeRequest) (correlation : Incident R → Json)
  (reason : Incident R → String)

/-- The log lines of what has happened, the latest first. -/
def State.lines (s : State R) : List LogLine :=
  s.history.filterMap fun e => (e.map request).line? (correlation e) (reason e)

/-- A dispatch by which the pool comes to `s'`: it takes the request, as the last of those it has
taken; or it is shut and refuses it, with a line. -/
structure Dispatches (s s' : State R) (r : R) : Prop where
  taken : s.closed = false → s'.requests = s.requests ++ [r] ∧
    s'.lines request correlation reason = s.lines request correlation reason
  refused : s.closed = true → s'.requests = s.requests ∧ ∃ line,
    s'.lines request correlation reason = line :: s.lines request correlation reason ∧
    line.message = "automation_cascade_enqueue_failed" ∧
    ∃ why, line.fields = Engine.refusalFields (request r) why

/-- What holds of a pool at any time. -/
structure Accountable (workers : Nat) (runner : R → Script R) (s : State R)
    (origins : List (Option Nat)) : Prop where
  /-- Runs are of what the pool has taken, one of each at most, in the order in which it took it. -/
  runs : ∃ n ≤ s.jobs.length, s.started = List.range n
  /-- A run is of what its job asks for. -/
  asked : ∀ i r, .started i r ∈ s.history → s.requests[i]? = some r
  /-- With one worker, a run begins when the earlier ones have ended. -/
  single : workers = 1 → ∀ i j, i < j → j ∈ s.started → s.progress? i = some .ended
  /-- A dispatch returns once, with a job for what the pool took. -/
  accepted : s.accepted.Nodup ∧ ∀ i ∈ s.accepted, i < s.jobs.length
  /-- When no step is left, what the pool has taken has been run once and to the end, its dispatch
  has returned, and nothing is pending. -/
  rest : 0 < workers → s.AtRest workers runner → s.pending = [] ∧
    s.started = List.range s.jobs.length ∧
    ∀ i < s.jobs.length, i ∈ s.accepted ∧ s.progress? i = some .ended
  /-- While nothing is pending, what has been dispatched has ended, and so has all that its runner
  dispatched, and what their runners did. -/
  idle : s.pending = [] → ∀ i ∈ s.accepted, ∀ c,
    Relation.ReflTransGen (Dispatched origins) i c → s.progress? c = some .ended
  /-- A runner raises at the end of its run alone, so once at most. -/
  raised : s.raised.Nodup ∧ ∀ i ∈ s.raised, s.progress? i = some .ended
  /-- A runner that raises leaves one line; but for that it is to all others as if it had not. -/
  raises : ∀ i raises, s.progress? i = some (.running (.done raises)) → ∃ r s',
    s.requests[i]? = some r ∧ s.step workers runner (.finish i) = some s' ∧
    s'.progress? i = some .ended ∧ (∀ k ≠ i, s'.jobs[k]? = s.jobs[k]?) ∧
    s'.pending = s.pending ∧ s'.calls = s.calls ∧ s'.closed = s.closed ∧
    if raises then i ∉ s.raised ∧ i ∈ s'.raised ∧ ∃ line,
      s'.lines request correlation reason = line :: s.lines request correlation reason ∧
      line.message = "automation_cascade_failed" ∧
      ∃ why, line.fields = Engine.failureFields (request r) why
    else s'.history = s.history
  /-- A caller can dispatch at any time. If it is refused it has no dispatch under way. -/
  dispatches : ∀ r, ∃ s', s.step workers runner (.submit r) = some s' ∧
    Dispatches request correlation reason s s' r ∧ (s.closed = true → s'.calls = s.calls)
  /-- A runner can dispatch when it comes to that, and goes on as it is answered. -/
  cascades : ∀ i r next, s.progress? i = some (.running (.dispatch r next)) → ∃ s',
    s.step workers runner (.runnerSubmit i) = some s' ∧
    Dispatches request correlation reason s s' r ∧
    (s.closed = true → s'.progress? i = some (.running (next false)))
  /-- A pool that is shut stays so. -/
  shut : ∀ l s', s.step workers runner l = some s' → s.closed = true ∨ l = .shutdown →
    s'.closed = true

variable {request correlation reason}

@[simp] theorem State.lines_record (s : State R) (e : Incident R) :
    (s.record e).lines request correlation reason =
      ((e.map request).line? (correlation e) (reason e)).toList ++
        s.lines request correlation reason := by
  cases h : (e.map request).line? (correlation e) (reason e) <;>
    simp [State.lines, State.record, h]

/-- A refusal leaves its line, whoever it is for. -/
theorem dispatches_refused {s' : State R} {r : R} (hclosed : s.closed = true)
    (hrequests : s'.requests = s.requests) (hhistory : s'.history = s.history) :
    Dispatches request correlation reason s (s'.record (.refused r)) r := by
  have hlines : s'.lines request correlation reason = s.lines request correlation reason := by
    rw [State.lines, hhistory, State.lines]
  refine ⟨fun hopen => by simp [hclosed] at hopen, fun _ => ⟨hrequests, ?_⟩⟩
  rw [State.lines_record, hlines]
  exact ⟨_, rfl, rfl, Engine.poolClosed, rfl⟩

theorem dispatches_taken {s' : State R} {r : R} (hopen : s.closed = false)
    (hrequests : s'.requests = s.requests ++ [r]) (hhistory : s'.history = s.history) :
    Dispatches request correlation reason s s' r :=
  ⟨fun _ => ⟨hrequests, by rw [State.lines, hhistory, State.lines]⟩,
    fun hclosed => by simp [hopen] at hclosed⟩

/-- Whatever the order in which callers, workers and the owner of a pool take their steps, whatever
runners dispatch and whether they raise, the pool accounts for all that it was given. -/
theorem pool_accountable (hreaches : Reaches workers runner s origins) :
    Accountable request correlation reason workers runner s origins := by
  have hordered := hreaches.ordered
  have hattended := hreaches.attended
  constructor
  case runs => exact ⟨_, hordered.bound, hordered.taken⟩
  case asked => exact hordered.asked
  case single =>
    intro hone i j hij hj
    rw [hordered.taken, List.mem_range] at hj
    have hlt : i < s.jobs.length := by have := hordered.bound; omega
    have hprogress : s.progress? i = some s.jobs[i].progress := by
      simp [State.progress?, List.getElem?_eq_getElem hlt]
    cases hp : s.jobs[i].progress with
    | queued =>
      have := ((hordered.queued i).1 (hp ▸ hprogress)).1
      omega
    | running | dispatching =>
      have := hordered.single hone i _ hprogress (by rw [hp]; rfl)
      omega
    | ended => rw [hprogress, hp]
  case accepted =>
    refine ⟨hattended.once, fun i hi => ?_⟩
    by_contra hge
    rw [hattended.accepted] at hi
    simp [State.callback?, List.getElem?_eq_none (not_lt.1 hge)] at hi
  case rest =>
    intro hworkers hrest
    refine ⟨hattended.pending_of_rest hworkers hrest, ?_, fun i hlt =>
      ⟨hattended.accepted_of_rest hworkers hrest hlt, hrest.ended hworkers hlt⟩⟩
    -- a job that has ended is not one of those that still wait
    rw [hordered.taken, hordered.bound.eq_of_not_lt fun hlt => ?_]
    have hqueued := (hordered.queued _).2 ⟨Nat.le_refl _, hlt⟩
    cases hqueued.symm.trans (hrest.ended hworkers hlt)
  case idle => exact fun hidle i haccepted c => hattended.ended_of_idle hidle haccepted
  case raised => exact ⟨hordered.once, hordered.failed⟩
  case raises =>
    intro i raises hprogress
    obtain ⟨r, callback, hjob, -⟩ := State.job_of_progress? hprogress
    refine ⟨r, _, by simp [State.requests, hjob], by simp only [State.step, hjob]; rfl, ?_⟩
    have hothers (k : Nat) (hk : k ≠ i) : (s.setProgress i .ended).jobs[k]? = s.jobs[k]? := by
      simp [State.setProgress, State.modifyJob, hk.symm]
    cases raises with
    | false => exact ⟨by simp [hprogress], hothers, rfl, rfl, rfl, rfl⟩
    | true =>
      have hnew : i ∉ s.raised := fun hmem => by
        cases hprogress.symm.trans (hordered.failed i hmem)
      refine ⟨by simp [hprogress], hothers, rfl, rfl, rfl, hnew, ?_, _,
        State.lines_record _ _, rfl, _, rfl⟩
      simp [State.raised, Incident.raised?]
  case dispatches =>
    intro r
    cases hclosed : s.closed with
    | true =>
      exact ⟨s.record (.refused r), if_pos hclosed, dispatches_refused hclosed rfl rfl,
        fun _ => rfl⟩
    | false =>
      exact ⟨(s.enqueue r).withCalls _, if_neg (by simp [hclosed]),
        dispatches_taken hclosed (State.requests_enqueue s r) rfl,
          fun hrefused => absurd hrefused Bool.noConfusion⟩
  case cascades =>
    intro i r next hprogress
    obtain ⟨_, callback, hjob, -⟩ := State.job_of_progress? hprogress
    cases hclosed : s.closed with
    | true =>
      refine ⟨(s.setProgress i (.running (next false))).record (.refused r), ?_,
        dispatches_refused hclosed (by simp) rfl, fun _ => by simp [hprogress]⟩
      simp only [State.step, hjob, hclosed, if_true]
    | false =>
      refine ⟨(s.enqueue r).setProgress i (.dispatching s.jobs.length false (next true)), ?_,
        dispatches_taken hclosed (by simp) rfl,
          fun hrefused => absurd hrefused Bool.noConfusion⟩
      simp [State.step, hjob, hclosed]
  case shut =>
    rintro l s' hstep (hclosed | rfl)
    · exact (stepped_of_step hstep).closed hclosed
    · cases hstep
      rfl

end Log

/-- A runner that dispatches another request, ends by raising, and leaves the other one to be run:
with one worker, and the pool shut before it is. -/
theorem pool_accountable_sample :
    let runner : Nat → Script Nat
      | 0 => .dispatch 1 fun _ => .done true
      | _ => .done false
    ∃ s : State Nat, s.requests = [0, 1] ∧ s.started = [0, 1] ∧ s.raised = [0] ∧
      s.closed = true ∧ Reaches 1 runner s [none, some 0] ∧
      Accountable (fun n => ⟨toString n, "", "", 0, .null⟩) (fun _ => .null) (fun _ => "")
        1 runner s [none, some 0] := by
  intro runner
  have hdispatched := (((((Reaches.initial : Reaches 1 runner {} []).step (.submit 0) rfl).step
    (.start 0) rfl).step (.runnerSubmit 0) rfl).step (.note 0) rfl).step (.runnerNote 0) rfl
  have hraised := ((hdispatched.step (.runnerRegister 0) rfl).step (.finish 0) rfl).step
    .shutdown rfl
  have hreaches := (((hraised.step (.register 0) rfl).step (.start 1) rfl).step (.finish 1)
    rfl).step (.callBack 1) rfl
  exact ⟨_, rfl, rfl, rfl, rfl, hreaches, pool_accountable hreaches⟩

end BoardRules.CascadePool
