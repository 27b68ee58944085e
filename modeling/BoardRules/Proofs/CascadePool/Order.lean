import BoardRules.Proofs.CascadePool.Step
import Mathlib.Data.List.Nodup
import Mathlib.Data.List.Range

/-! The order of work in a pool: jobs are taken up in the order in which the pool took them, each at
most once, and where there is one worker each has ended before the next is taken up. -/
namespace BoardRules.CascadePool

variable {R : Type} {workers : Nat} {runner : R → Script R} {s : State R}

/-- The jobs that have been taken up are the earliest; the others are queued. -/
structure Ordered (workers : Nat) (s : State R) : Prop where
  taken : s.started = List.range s.started.length
  bound : s.started.length ≤ s.jobs.length
  queued : ∀ i, s.progress? i = some .queued ↔ s.started.length ≤ i ∧ i < s.jobs.length
  asked : ∀ i r, .started i r ∈ s.history → s.requests[i]? = some r
  once : s.raised.Nodup
  failed : ∀ i ∈ s.raised, s.progress? i = some .ended
  single : workers = 1 → ∀ i p, s.progress? i = some p → p.isBusy = true → s.started.length = i + 1

theorem ordered_initial : Ordered workers ({} : State R) :=
  ⟨rfl, Nat.le_refl _, by simp [State.progress?], by simp, List.nodup_nil, by simp [State.raised],
    by simp [State.progress?]⟩

namespace Ordered

/-- Nothing changes in the order of work when no job gets on and none is taken up. -/
theorem of_same {s' : State R} (hordered : Ordered workers s)
    (hprogress : ∀ i, s'.progress? i = s.progress? i) (hrequests : s'.requests = s.requests)
    (hhistory : s'.history = s.history) : Ordered workers s' := by
  have hlength : s'.jobs.length = s.jobs.length := by
    rw [← State.length_requests, hrequests, State.length_requests]
  have hstarted : s'.started = s.started := by rw [State.started, hhistory, State.started]
  have hraised : s'.raised = s.raised := by rw [State.raised, hhistory, State.raised]
  constructor
  · rw [hstarted]; exact hordered.taken
  · rw [hstarted, hlength]; exact hordered.bound
  · simpa only [hprogress, hstarted, hlength] using hordered.queued
  · simpa only [hhistory, hrequests] using hordered.asked
  · rw [hraised]; exact hordered.once
  · simpa only [hraised, hprogress] using hordered.failed
  · simpa only [hprogress, hstarted] using hordered.single

theorem record (hordered : Ordered workers s) {e : Incident R} (hstarted : e.started? = none)
    (hraised : e.raised? = none) : Ordered workers (s.record e) := by
  have hstarted' : (s.record e).started = s.started := by simp [State.started, hstarted]
  have hraised' : (s.record e).raised = s.raised := by simp [State.raised, hraised]
  constructor
  · rw [hstarted']; exact hordered.taken
  · rw [hstarted']; exact hordered.bound
  · rw [hstarted']; exact hordered.queued
  · intro i r hmem
    rcases List.mem_cons.1 hmem with rfl | hmem
    · cases hstarted
    · exact hordered.asked i r hmem
  · rw [hraised']; exact hordered.once
  · rw [hraised']; exact hordered.failed
  · rw [hstarted']; exact hordered.single

theorem enqueue (hordered : Ordered workers s) (r : R) : Ordered workers (s.enqueue r) := by
  have hbound := hordered.bound
  have hfresh : s.progress? s.jobs.length = none := by simp [State.progress?]
  constructor
  · exact hordered.taken
  · rw [State.length_enqueue]
    exact Nat.le_succ_of_le hbound
  · intro i
    have hqueued := hordered.queued i
    change _ ↔ s.started.length ≤ i ∧ _
    simp only [State.progress?_enqueue, State.length_enqueue]
    grind
  · intro i r' hmem
    rw [State.requests_enqueue, List.getElem?_append_left]
    · exact hordered.asked i r' hmem
    · exact (List.getElem?_eq_some_iff.1 (hordered.asked i r' hmem)).1
  · exact hordered.once
  · intro i hmem
    have hended := hordered.failed i hmem
    grind
  · intro hone i p hp hbusy
    rw [State.progress?_enqueue] at hp
    split_ifs at hp with hnew
    · cases hp; cases hbusy
    · exact hordered.single hone i p hp hbusy

/-- A job that has been taken up gets on. -/
theorem setProgress (hordered : Ordered workers s) {i : Nat} {p : Progress R} (p' : Progress R)
    (hprogress : s.progress? i = some p) (hbusy : p.isBusy = true) (hp' : p'.isQueued = false) :
    Ordered workers (s.setProgress i p') := by
  constructor
  · exact hordered.taken
  · rw [State.length_setProgress]
    exact hordered.bound
  · intro k
    have hqueued := hordered.queued k
    change _ ↔ s.started.length ≤ k ∧ _
    rw [State.progress?_setProgress, State.length_setProgress]
    split_ifs with hik
    · subst hik
      rw [← hqueued, hprogress]
      cases p <;> cases p' <;> simp_all [Progress.isBusy, Progress.isQueued]
    · exact hqueued
  · simpa using hordered.asked
  · exact hordered.once
  · intro k hmem
    have hended := hordered.failed k hmem
    rw [State.progress?_setProgress, if_neg]
    · exact hended
    · rintro rfl
      rw [hended] at hprogress
      cases hprogress; cases hbusy
  · intro hone k q hq hbusy'
    rw [State.progress?_setProgress] at hq
    split_ifs at hq with hik
    · exact hik ▸ hordered.single hone i p hprogress hbusy
    · exact hordered.single hone k q hq hbusy'

/-- The oldest job of the queue is the next in order. -/
theorem oldest (hordered : Ordered workers s) {i : Nat} (holdest : s.oldest? = some i) :
    i = s.started.length ∧ i < s.jobs.length := by
  obtain ⟨hqueued, hbefore⟩ := State.oldest?_eq_some holdest
  obtain ⟨hle, hlt⟩ := (hordered.queued i).1 hqueued
  refine ⟨hle.eq_of_not_lt' fun hlt' => ?_, hlt⟩
  exact hbefore _ hlt' ((hordered.queued _).2 ⟨Nat.le_refl _, by omega⟩)

theorem not_busy_of_free {i : Nat} {p : Progress R} (hfree : s.busy < 1)
    (hprogress : s.progress? i = some p) : p.isBusy = false := by
  obtain ⟨j, hjob, rfl⟩ := Option.map_eq_some_iff.1 hprogress
  have hnone := List.countP_eq_zero.1 (Nat.lt_one_iff.1 hfree) j (List.mem_of_getElem? hjob)
  simpa using hnone

theorem start (hordered : Ordered workers s) {i : Nat} {r : R}
    (hrequest : s.requests[i]? = some r) (holdest : s.oldest? = some i)
    (hfree : s.busy < workers) :
    Ordered workers ((s.setProgress i (.running (runner r))).record (.started i r)) := by
  obtain ⟨hnext, hlt⟩ := hordered.oldest holdest
  have hqueued : s.progress? i = some .queued := (hordered.queued i).2 ⟨hnext.ge, hlt⟩
  have hstarted : ((s.setProgress i (.running (runner r))).record (.started i r)).started =
      s.started ++ [i] := by simp [State.started, Incident.started?]
  have hraised : ((s.setProgress i (.running (runner r))).record (.started i r)).raised =
      s.raised := by simp [State.raised, Incident.raised?]
  constructor
  · rw [hstarted, List.length_append, List.length_singleton, List.range_succ, ← hordered.taken,
      ← hnext]
  · rw [hstarted]
    simp
    omega
  · intro k
    have hk := hordered.queued k
    rw [hstarted, List.length_append, List.length_singleton]
    simp only [State.progress?_record, State.progress?_setProgress, State.length_record,
      State.length_setProgress]
    split_ifs with hik
    · subst hik
      simp [hqueued]
      omega
    · rw [hk]
      omega
  · intro k r' hmem
    rcases List.mem_cons.1 hmem with heq | hmem
    · cases heq
      simpa using hrequest
    · simpa using hordered.asked k r' hmem
  · rw [hraised]; exact hordered.once
  · intro k hmem
    have hended := hordered.failed k (hraised ▸ hmem)
    rw [State.progress?_record, State.progress?_setProgress, if_neg]
    · exact hended
    · rintro rfl
      rw [hqueued] at hended
      cases hended
  · intro hone k p hp hbusy
    rw [State.progress?_record, State.progress?_setProgress] at hp
    rw [hstarted, List.length_append, List.length_singleton]
    split_ifs at hp with hik
    · omega
    · rw [not_busy_of_free (hone ▸ hfree) hp] at hbusy
      cases hbusy

theorem raise (hordered : Ordered workers s) {i : Nat} (r : R)
    (hprogress : s.progress? i = some (.running (.done true))) :
    Ordered workers ((s.setProgress i .ended).record (.raised i r)) := by
  have hended := hordered.setProgress .ended hprogress rfl rfl
  have hraised : ((s.setProgress i .ended).record (.raised i r)).raised = s.raised ++ [i] := by
    simp [State.raised, Incident.raised?]
  have hnew : i ∉ s.raised := fun hmem => by
    have := hordered.failed i hmem
    rw [hprogress] at this
    cases this
  have hstarted : ((s.setProgress i .ended).record (.raised i r)).started = s.started := by
    simp [State.started, Incident.started?]
  constructor
  · rw [hstarted]; exact hordered.taken
  · rw [hstarted]; exact hended.bound
  · rw [hstarted]; exact hended.queued
  · intro k r' hmem
    rcases List.mem_cons.1 hmem with heq | hmem
    · cases heq
    · exact hended.asked k r' hmem
  · rw [hraised]
    exact List.Nodup.append hordered.once (List.nodup_singleton i) (by simpa using hnew)
  · intro k hmem
    rw [hraised, List.mem_append, List.mem_singleton] at hmem
    rcases hmem with hmem | rfl
    · exact hended.failed k hmem
    · simp [hprogress]
  · rw [hstarted]; exact hended.single

theorem attach (hordered : Ordered workers s) (i : Nat) : Ordered workers (s.attach i) :=
  hordered.of_same (by simp) (by simp) (by simp)

theorem stepped {s' : State R} {origins : List (Option Nat)} (hordered : Ordered workers s)
    (hstepped : Stepped workers runner s s' origins) : Ordered workers s' := by
  cases hstepped with
  | refused r => exact hordered.record rfl rfl
  | submitted r => exact (hordered.enqueue r).of_same (by simp) (by simp) (by simp)
  | noted i => exact hordered.of_same (by simp) (by simp) (by simp)
  | registered i =>
    exact ((hordered.attach i).of_same (by simp) (by simp) (by simp)).record rfl rfl
  | started i r hrequest holdest hfree => exact hordered.start hrequest holdest hfree
  | runnerRefused i r next hprogress =>
    exact (hordered.setProgress _ hprogress rfl rfl).record rfl rfl
  | runnerSubmitted i r next hprogress =>
    have hlt := State.progress?_lt hprogress
    have hprogress' : (s.enqueue r).progress? i = some (.running (.dispatch r next)) := by
      rw [State.progress?_enqueue, if_neg (Nat.ne_of_lt hlt), hprogress]
    exact (hordered.enqueue r).setProgress _ hprogress' rfl rfl
  | runnerNoted i c rest hprogress =>
    have hsame : Ordered workers (s.addPending c) := hordered.of_same (by simp) (by simp) (by simp)
    exact hsame.setProgress _ hprogress rfl rfl
  | runnerRegistered i c rest hprogress =>
    have hprogress' : (s.attach c).progress? i = some (.dispatching c true rest) := by
      simpa using hprogress
    exact ((hordered.attach c).setProgress _ hprogress' rfl rfl).record rfl rfl
  | finished i r raises _ hprogress =>
    cases raises with
    | false => exact hordered.setProgress _ hprogress rfl rfl
    | true => exact hordered.raise r hprogress
  | calledBack i => exact hordered.of_same (by simp) (by simp) (by simp)
  | shut => exact hordered.of_same (by simp) (by simp) (by simp)

end Ordered

theorem Reaches.ordered {origins : List (Option Nat)} (hreaches : Reaches workers runner s origins) :
    Ordered workers s := by
  induction hreaches with
  | initial => exact ordered_initial
  | step l _ hstep ih => exact ih.stepped (stepped_of_step hstep)

end BoardRules.CascadePool
