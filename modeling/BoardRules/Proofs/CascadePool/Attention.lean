import BoardRules.Proofs.CascadePool.Step
import Mathlib.Data.List.Nodup

/-! What becomes of the jobs that a pool has taken. Each is in the hands of whoever dispatches it
until it has its callback; from then on it is pending, until the callback clears it. -/
namespace BoardRules.CascadePool

variable {R : Type} {workers : Nat} {runner : R → Script R} {s : State R}
  {origins : List (Option Nat)}

/-- A job without a callback is in the hands of the caller or of the runner that dispatched it, and
pending once it is noted; a job with a callback is accepted, and pending until it is called. -/
structure Attended (s : State R) (origins : List (Option Nat)) : Prop where
  length : origins.length = s.jobs.length
  apart : (s.calls.map Prod.fst).Nodup
  outside : ∀ i b, (i, b) ∈ s.calls →
    origins[i]? = some none ∧ s.callback? i = some .absent ∧ (b = true → i ∈ s.pending)
  inside : ∀ p c b rest, s.progress? p = some (.dispatching c b rest) →
    origins[c]? = some (some p) ∧ s.callback? c = some .absent ∧ (b = true → c ∈ s.pending)
  absent : ∀ i, s.callback? i = some .absent →
    (∃ b, (i, b) ∈ s.calls) ∨ ∃ p b rest, s.progress? p = some (.dispatching i b rest)
  waiting : ∀ i, s.callback? i = some .waiting → i ∈ s.pending
  called : ∀ i, s.callback? i = some .called → s.progress? i = some .ended
  pending : ∀ i ∈ s.pending, s.callback? i = some .absent ∨ s.callback? i = some .waiting
  accepted : ∀ i, i ∈ s.accepted ↔ s.callback? i = some .waiting ∨ s.callback? i = some .called
  once : s.accepted.Nodup

theorem attended_initial : Attended ({} : State R) [] := by
  constructor <;> simp [State.progress?, State.callback?, State.accepted]

namespace Attended

theorem record (hattended : Attended s origins) {e : Incident R} (he : e.accepted? = none) :
    Attended (s.record e) origins := by
  have haccepted : (s.record e).accepted = s.accepted := by simp [State.accepted, he]
  constructor
  · exact hattended.length
  · exact hattended.apart
  · exact hattended.outside
  · exact hattended.inside
  · exact hattended.absent
  · exact hattended.waiting
  · exact hattended.called
  · exact hattended.pending
  · rw [haccepted]; exact hattended.accepted
  · rw [haccepted]; exact hattended.once

/-- A job gets on that has nothing in its hands, before or after. -/
theorem setProgress (hattended : Attended s origins) {i : Nat} {p : Progress R} (p' : Progress R)
    (hprogress : s.progress? i = some p) (hp : ∀ c b rest, p ≠ .dispatching c b rest)
    (hended : p ≠ .ended) (hp' : ∀ c b rest, p' ≠ .dispatching c b rest) :
    Attended (s.setProgress i p') origins := by
  constructor
  · grind [hattended.length]
  · exact hattended.apart
  · grind [hattended.outside]
  · grind [hattended.inside]
  · intro k hk
    refine (hattended.absent k (by simpa using hk)).imp_right ?_
    rintro ⟨q, b, rest, h⟩
    exact ⟨q, b, rest, by grind⟩
  · grind [hattended.waiting]
  · grind [hattended.called]
  · grind [hattended.pending]
  · change ∀ i, i ∈ s.accepted ↔ _
    grind [hattended.accepted]
  · exact hattended.once

/-- What is known of the jobs that are there stays so when another is added. -/
private theorem origin_kept {origin : Option Nat} {k : Nat} {o : Option Nat}
    (h : origins[k]? = some o) : (origins ++ [origin])[k]? = some o := by
  rw [List.getElem?_append_left (List.getElem?_eq_some_iff.1 h).1, h]

theorem origin_new (hattended : Attended s origins) (origin : Option Nat) :
    (origins ++ [origin])[s.jobs.length]? = some origin := by
  rw [← hattended.length, List.getElem?_concat_length]

/-- A job is added, in the hands of a caller. -/
theorem submitted (hattended : Attended s origins) (r : R) :
    Attended ((s.enqueue r).withCalls (s.calls ++ [(s.jobs.length, false)]))
      (origins ++ [none]) := by
  have hlength := hattended.length
  have hnew := hattended.origin_new none
  have hcallback : s.callback? s.jobs.length = none := by simp [State.callback?]
  have hprogress : s.progress? s.jobs.length = none := by simp [State.progress?]
  constructor
  · simp [hlength]
  · have happart := hattended.apart
    have hout : s.jobs.length ∉ s.calls.map Prod.fst := by
      intro hmem
      obtain ⟨⟨k, b⟩, hcall, rfl⟩ := List.mem_map.1 hmem
      have := (hattended.outside _ _ hcall).2.1
      simp_all
    rw [State.calls_withCalls, List.map_append]
    exact List.Nodup.append happart (List.nodup_singleton _) (by simpa using hout)
  · intro k b hcall
    rcases List.mem_append.1 hcall with hcall | hcall
    · obtain ⟨horigin, habsent, hpending⟩ := hattended.outside k b hcall
      refine ⟨origin_kept horigin, ?_, hpending⟩
      grind
    · cases List.mem_singleton.1 hcall
      exact ⟨hnew, by simp, fun hb => absurd hb Bool.false_ne_true⟩
  · intro p c b rest hp
    obtain ⟨horigin, habsent, hpending⟩ := hattended.inside p c b rest (by grind)
    exact ⟨origin_kept horigin, by grind, hpending⟩
  · intro k hk
    rw [State.callback?_withCalls, State.callback?_enqueue] at hk
    split_ifs at hk with hkn
    · exact .inl ⟨false, by simp [hkn]⟩
    · refine (hattended.absent k hk).imp (Exists.imp fun b h => by simp [h]) ?_
      rintro ⟨p, b, rest, h⟩
      exact ⟨p, b, rest, by grind⟩
  · grind [hattended.waiting]
  · grind [hattended.called]
  · grind [hattended.pending]
  · change ∀ i, i ∈ s.accepted ↔ _
    grind [hattended.accepted]
  · exact hattended.once

/-- A job is added, in the hands of the runner of another. -/
theorem runnerSubmitted (hattended : Attended s origins) {i : Nat} {r : R}
    {next : Bool → Script R} (hprogress : s.progress? i = some (.running (.dispatch r next))) :
    Attended ((s.enqueue r).setProgress i (.dispatching s.jobs.length false (next true)))
      (origins ++ [some i]) := by
  have hlt := State.progress?_lt hprogress
  have hlength := hattended.length
  have hnew := hattended.origin_new (some i)
  have hcallback : s.callback? s.jobs.length = none := by simp [State.callback?]
  have hprogress' : s.progress? s.jobs.length = none := by simp [State.progress?]
  constructor
  · simp [hlength]
  · exact hattended.apart
  · intro k b hcall
    obtain ⟨horigin, habsent, hpending⟩ := hattended.outside k b hcall
    exact ⟨origin_kept horigin, by grind, hpending⟩
  · intro p c b rest hp
    by_cases hpi : i = p
    · subst hpi
      rw [State.progress?_setProgress, if_pos rfl, State.progress?_enqueue,
        if_neg (Nat.ne_of_lt hlt),
        hprogress, Option.map_some, Option.some.injEq, Progress.dispatching.injEq] at hp
      obtain ⟨rfl, rfl, -⟩ := hp
      exact ⟨hnew, by simp, fun hb => absurd hb Bool.false_ne_true⟩
    · obtain ⟨horigin, habsent, hpending⟩ := hattended.inside p c b rest (by grind)
      exact ⟨origin_kept horigin, by grind, hpending⟩
  · intro k hk
    rw [State.callback?_setProgress, State.callback?_enqueue] at hk
    split_ifs at hk with hkn
    · exact .inr ⟨i, false, next true, by grind⟩
    · refine (hattended.absent k hk).imp_right ?_
      rintro ⟨p, b, rest, h⟩
      exact ⟨p, b, rest, by grind⟩
  · grind [hattended.waiting]
  · grind [hattended.called]
  · grind [hattended.pending]
  · change ∀ i, i ∈ s.accepted ↔ _
    grind [hattended.accepted]
  · exact hattended.once

theorem noted (hattended : Attended s origins) {i : Nat} (hcall : (i, false) ∈ s.calls) :
    Attended ((s.addPending i).withCalls
      (s.calls.map fun c => if c = (i, false) then (i, true) else c)) origins := by
  have hout := hattended.outside i false hcall
  have hcalls (k : Nat) (b : Bool) :
      (k, b) ∈ (s.calls.map fun c => if c = (i, false) then (i, true) else c) ↔
        (k, b) = (i, true) ∨ ((k, b) ∈ s.calls ∧ (k, b) ≠ (i, false)) := by
    rw [List.mem_map]
    constructor
    · rintro ⟨c, hc, heq⟩
      split_ifs at heq with hci
      · exact .inl heq.symm
      · exact .inr ⟨heq ▸ hc, heq ▸ hci⟩
    · rintro (heq | ⟨hmem, hne⟩)
      · exact ⟨_, hcall, by simp [heq]⟩
      · exact ⟨_, hmem, if_neg hne⟩
  constructor
  · exact hattended.length
  · have hfst : (s.calls.map fun c => if c = (i, false) then (i, true) else c).map Prod.fst =
        s.calls.map Prod.fst := by
      rw [List.map_map]
      refine List.map_congr_left fun c _ => ?_
      by_cases hc : c = (i, false) <;> simp [hc]
    rw [State.calls_withCalls, hfst]
    exact hattended.apart
  · intro k b hmem
    rcases (hcalls k b).1 hmem with heq | ⟨hmem, -⟩
    · cases heq
      exact ⟨hout.1, hout.2.1, fun _ => List.mem_cons_self⟩
    · obtain ⟨horigin, habsent, hpending⟩ := hattended.outside k b hmem
      exact ⟨horigin, habsent, fun hb => List.mem_cons_of_mem _ (hpending hb)⟩
  · intro p c b rest hp
    obtain ⟨horigin, habsent, hpending⟩ := hattended.inside p c b rest hp
    exact ⟨horigin, habsent, fun hb => List.mem_cons_of_mem _ (hpending hb)⟩
  · intro k hk
    refine (hattended.absent k hk).imp_left ?_
    rintro ⟨b, hmem⟩
    by_cases heq : (k, b) = (i, false)
    · cases heq
      exact ⟨true, (hcalls i true).2 (.inl rfl)⟩
    · exact ⟨b, (hcalls k b).2 (.inr ⟨hmem, heq⟩)⟩
  · exact fun k hk => List.mem_cons_of_mem _ (hattended.waiting k hk)
  · exact hattended.called
  · intro k hk
    rcases List.mem_cons.1 hk with rfl | hk
    · exact .inl hout.2.1
    · exact hattended.pending k hk
  · exact hattended.accepted
  · exact hattended.once

theorem runnerNoted (hattended : Attended s origins) {i c : Nat} {rest : Script R}
    (hprogress : s.progress? i = some (.dispatching c false rest)) :
    Attended ((s.addPending c).setProgress i (.dispatching c true rest)) origins := by
  have hin := hattended.inside i c false rest hprogress
  constructor
  · simpa using hattended.length
  · exact hattended.apart
  · grind [hattended.outside]
  · intro p d b rest' hp
    by_cases hpi : i = p
    · subst hpi
      rw [State.progress?_setProgress, if_pos rfl, State.progress?_addPending, hprogress,
        Option.map_some, Option.some.injEq, Progress.dispatching.injEq] at hp
      obtain ⟨rfl, rfl, -⟩ := hp
      grind
    · grind [hattended.inside]
  · intro k hk
    refine (hattended.absent k (by simpa using hk)).imp_right ?_
    rintro ⟨p, b, rest', h⟩
    by_cases hpi : i = p
    · subst hpi
      exact ⟨i, true, rest, by grind⟩
    · exact ⟨p, b, rest', by grind⟩
  · grind [hattended.waiting]
  · grind [hattended.called]
  · grind [hattended.pending]
  · change ∀ i, i ∈ s.accepted ↔ _
    grind [hattended.accepted]
  · exact hattended.once

/-- A job whose callback has been called, or waits for the end of the job, is out of the hands of
whoever dispatched it. -/
theorem released (hattended : Attended s origins) {i : Nat} {s' : State R}
    (habsent : s.callback? i = some .absent) (hpending : i ∈ s.pending)
    (hlength : s'.jobs.length = s.jobs.length)
    (hhistory : s'.history = .accepted i :: s.history)
    (hattach : (s.progress? i = some .ended ∧ s'.callback? i = some .called ∧
        s'.pending = s.pending.filter (· ≠ i)) ∨
      (s'.callback? i = some .waiting ∧ s'.pending = s.pending))
    (hcallback : ∀ k, k ≠ i → s'.callback? k = s.callback? k)
    (hended : ∀ k, s.progress? k = some .ended → s'.progress? k = some .ended)
    (hcalls : ∀ k b, (k, b) ∈ s'.calls → k ≠ i ∧ (k, b) ∈ s.calls)
    (hapart : (s'.calls.map Prod.fst).Nodup)
    (hinside : ∀ p c b rest, s'.progress? p = some (.dispatching c b rest) →
      c ≠ i ∧ s.progress? p = some (.dispatching c b rest))
    (hkept : ∀ k, k ≠ i → ((∃ b, (k, b) ∈ s.calls) ∨
        ∃ p b rest, s.progress? p = some (.dispatching k b rest)) →
      (∃ b, (k, b) ∈ s'.calls) ∨ ∃ p b rest, s'.progress? p = some (.dispatching k b rest)) :
    Attended s' origins := by
  have haccepted : s'.accepted = s.accepted ++ [i] := by
    simp [State.accepted, hhistory, Incident.accepted?]
  have hnew : i ∉ s.accepted := by
    rw [hattended.accepted, habsent]
    simp
  constructor
  · rw [hattended.length, hlength]
  · exact hapart
  · grind [hattended.outside]
  · grind [hattended.inside]
  · intro k hk
    have hki : k ≠ i := by grind
    exact hkept k hki (hattended.absent k (hcallback k hki ▸ hk))
  · grind [hattended.waiting]
  · grind [hattended.called]
  · grind [hattended.pending]
  · grind [hattended.accepted]
  · rw [haccepted]
    exact List.Nodup.append hattended.once (List.nodup_singleton i) (by simpa using hnew)

theorem registered (hattended : Attended s origins) {i : Nat} (hcall : (i, true) ∈ s.calls) :
    Attended (((s.attach i).withCalls (s.calls.filter (· ≠ (i, true)))).record (.accepted i))
      origins := by
  obtain ⟨horigin, habsent, hpending⟩ := hattended.outside i true hcall
  have hcalls (k : Nat) (b : Bool) (hmem : (k, b) ∈ s.calls.filter (· ≠ (i, true))) :
      k ≠ i ∧ (k, b) ∈ s.calls := by
    simp only [ne_eq, decide_not, List.mem_filter, Bool.not_eq_true', decide_eq_false_iff_not]
      at hmem
    refine ⟨fun hki => hmem.2 ?_, hmem.1⟩
    exact List.inj_on_of_nodup_map hattended.apart hmem.1 hcall hki
  refine hattended.released habsent (hpending rfl) (by simp) (by simp)
    (State.attach_absent habsent) (fun k hne => s.callback?_attach_of_ne hne) (by simp) hcalls
    (hattended.apart.sublist (List.filter_sublist.map _)) ?_ ?_
  · intro p c b rest hp
    have hp' : s.progress? p = some (.dispatching c b rest) := by simpa using hp
    refine ⟨?_, hp'⟩
    rintro rfl
    have := (hattended.inside p c b rest hp').1
    simp [horigin] at this
  · intro k hne hheld
    refine hheld.imp (Exists.imp fun b hmem => ?_) (by simp)
    simp [hmem, hne]

theorem runnerRegistered (hattended : Attended s origins) {i c : Nat} {rest : Script R}
    (hprogress : s.progress? i = some (.dispatching c true rest)) :
    Attended (((s.attach c).setProgress i (.running rest)).record (.accepted c)) origins := by
  obtain ⟨horigin, habsent, hpending⟩ := hattended.inside i c true rest hprogress
  refine hattended.released habsent (hpending rfl) (by simp) (by simp) ?_ ?_ ?_ ?_
    (by simpa using hattended.apart) ?_ ?_
  · simpa using State.attach_absent habsent
  · intro k hne
    simpa using s.callback?_attach_of_ne hne
  · intro k hk
    have hki : i ≠ k := by
      rintro rfl
      simp [hprogress] at hk
    simpa [hki] using hk
  · intro k b hmem
    have hmem' : (k, b) ∈ s.calls := by simpa using hmem
    refine ⟨?_, hmem'⟩
    rintro rfl
    have := (hattended.outside k b hmem').1
    simp [horigin] at this
  · intro p d b rest' hp
    rw [State.progress?_record, State.progress?_setProgress, State.progress?_attach] at hp
    split_ifs at hp with hip
    · simp [← hip, hprogress] at hp
    · refine ⟨?_, hp⟩
      rintro rfl
      have := (hattended.inside p d b rest' hp).1
      simp_all
  · intro k hne hheld
    refine hheld.imp (Exists.imp fun b hmem => by simpa using hmem) ?_
    rintro ⟨p, b, rest', hp⟩
    have hip : i ≠ p := by
      rintro rfl
      simp_all
    exact ⟨p, b, rest', by simpa [hip] using hp⟩

theorem calledBack (hattended : Attended s origins) {i : Nat}
    (hended : s.progress? i = some .ended) (hwaiting : s.callback? i = some .waiting) :
    Attended (s.clear i) origins := by
  constructor
  · grind [hattended.length]
  · exact hattended.apart
  · grind [hattended.outside]
  · grind [hattended.inside]
  · intro k hk
    refine (hattended.absent k (by grind)).imp_right ?_
    rintro ⟨p, b, rest, h⟩
    exact ⟨p, b, rest, by grind⟩
  · grind [hattended.waiting]
  · grind [hattended.called]
  · grind [hattended.pending]
  · change ∀ i, i ∈ s.accepted ↔ _
    grind [hattended.accepted]
  · exact hattended.once

theorem stepped {s' : State R} {added : List (Option Nat)} (hattended : Attended s origins)
    (hstepped : Stepped workers runner s s' added) : Attended s' (origins ++ added) := by
  cases hstepped with
  | refused r => simpa using hattended.record (e := .refused r) rfl
  | submitted r => exact hattended.submitted r
  | noted i hcall => simpa using hattended.noted hcall
  | registered i hcall => simpa using hattended.registered hcall
  | started i r _ holdest _ =>
    have hqueued := (State.oldest?_eq_some holdest).1
    simpa using (hattended.setProgress (.running (runner r)) hqueued nofun nofun nofun).record
      (e := .started i r) rfl
  | runnerRefused i r next hprogress =>
    simpa using (hattended.setProgress (.running (next false)) hprogress nofun nofun nofun).record
      (e := .refused r) rfl
  | runnerSubmitted i r next hprogress => exact hattended.runnerSubmitted hprogress
  | runnerNoted i c rest hprogress => simpa using hattended.runnerNoted hprogress
  | runnerRegistered i c rest hprogress => simpa using hattended.runnerRegistered hprogress
  | finished i r raises _ hprogress =>
    have hended := hattended.setProgress .ended hprogress nofun nofun nofun
    cases raises with
    | false => simpa using hended
    | true => simpa using hended.record (e := .raised i r) rfl
  | calledBack i hended hwaiting => simpa using hattended.calledBack hended hwaiting
  | shut =>
    rw [List.append_nil]
    exact ⟨hattended.length, hattended.apart, hattended.outside, hattended.inside,
      hattended.absent, hattended.waiting, hattended.called, hattended.pending,
      hattended.accepted, hattended.once⟩

end Attended

theorem Reaches.attended (hreaches : Reaches workers runner s origins) : Attended s origins := by
  induction hreaches with
  | initial => exact attended_initial
  | step l _ hstep ih => exact ih.stepped (stepped_of_step hstep)

end BoardRules.CascadePool
