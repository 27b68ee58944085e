import BoardRules.Proofs.Cascade.Unfold
import BoardRules.Proofs.Run.Trace
import BoardRules.Proofs.Uuid

/-! The correlation id of cascades. A request is run under its own correlation id, whatever it is
that is going on where it is run; so what a run writes down and hands over bears the id that the run
was asked for under, and so does all that comes of it. -/
namespace BoardRules

/-- Whether an effect bears a correlation id, if it is one that tells of any. The line about a
cascade that has failed is written outside of it. -/
def Effect.Bears (correlation : Json) : Effect → Prop
  | .log line =>
    line.message ≠ "automation_cascade_failed" → line.correlation = correlation
  | .count .. | .span .. | .mail none _ => True
  | .served _ told => told = correlation
  | .mail (some (_, header)) _ => header = correlation
  | .cascade request _ | .job request => request.correlation = correlation
  | .event envelope => envelope.get? "correlation_id" = some correlation

/-- From one world to another, nothing is written down or put aside under any other correlation
id. -/
structure Sends (correlation : Json) (w w' : World) : Prop where
  ambient : w'.ambient = w.ambient
  trace : ∃ effects, w'.trace = effects ++ w.trace ∧ ∀ e ∈ effects, e.Bears correlation
  queue : ∃ requests, w'.queue = w.queue ++ requests ∧
    ∀ request ∈ requests, request.correlation = correlation

/-- What is done while the correlation id is ambient. -/
def SendsUnder (correlation : Json) (w w' : World) : Prop :=
  w.ambient.correlation = correlation → Sends correlation w w'

theorem Effect.Told.bears {correlation : Json} (htruthy : correlation.isTruthy = true)
    {e : Effect} (h : e.Told correlation) : e.Bears correlation := by
  cases h with
  | log line hline => exact fun _ => hline
  | posted address payload =>
    unfold Bears Json.header
    rw [if_pos htruthy]
  | _ => exact trivial

namespace Sends

variable {correlation : Json} {w w' w₁ w₂ w₃ : World}

theorem unseen (htrace : w'.trace = w.trace) (hambient : w'.ambient = w.ambient)
    (hqueue : w'.queue = w.queue) : Sends correlation w w' where
  ambient := hambient
  trace := ⟨[], htrace, by simp⟩
  queue := ⟨[], by rw [hqueue, List.append_nil], by simp⟩

theorem trans (h : Sends correlation w₁ w₂) (h' : Sends correlation w₂ w₃) :
    Sends correlation w₁ w₃ where
  ambient := h'.ambient.trans h.ambient
  trace := by
    obtain ⟨effects, htrace, hall⟩ := h.trace
    obtain ⟨effects', htrace', hall'⟩ := h'.trace
    exact ⟨effects' ++ effects, by rw [htrace', htrace, List.append_assoc],
      List.forall_mem_append.mpr ⟨hall', hall⟩⟩
  queue := by
    obtain ⟨requests, hqueue, hall⟩ := h.queue
    obtain ⟨requests', hqueue', hall'⟩ := h'.queue
    exact ⟨requests ++ requests', by rw [hqueue', hqueue, List.append_assoc],
      List.forall_mem_append.mpr ⟨hall, hall'⟩⟩

theorem noted {e : Effect} (he : e.Bears correlation) (w : World) :
    Sends correlation w (w.noted e) where
  ambient := rfl
  trace := ⟨[e], rfl, by simpa using he⟩
  queue := ⟨[], (List.append_nil _).symm, by simp⟩

/-- What is done in another ambient context counts as well. -/
theorem within {a : Ambient} (h : Sends correlation (w.within a) w') :
    Sends correlation w (w'.within w.ambient) :=
  ⟨rfl, h.trace, h.queue⟩

end Sends

theorem SendsUnder.law {correlation : Json} (htruthy : correlation.isTruthy = true) :
    TraceLaw (SendsUnder correlation) where
  unseen := fun htrace hambient hqueue _ _ => .unseen htrace hambient hqueue
  trans := by
    intro w₁ w₂ w₃ h h' hw
    have hfirst := h hw
    refine hfirst.trans (h' ?_)
    rw [hfirst.ambient]
    exact hw
  told := fun w e he _ hw => .noted ((hw ▸ he).bears htruthy) w
  inDepth := fun _ h hw => (h hw).within
  stored := fun htrace hambient hqueue _ => .unseen htrace hambient hqueue
  counted := fun w counter labels _ => .noted (e := .count counter labels) trivial w

namespace Engine

variable {α : Type} {env : Environment} {h : HandOver} {correlation : Json}

/-- A request for a stage that a card has entered is the run of that card in its pipe, told of that
stage, at the depth and under the correlation id of the request. -/
theorem runCascade_entered (env : Environment) (h : HandOver) (card pipe stage : Uuid) (depth : Int)
    (correlation : Json) :
    runCascade env h ⟨card.text, pipe.text, stage.text, depth, correlation⟩ =
      Engine.withCorrelation correlation (run env h "card_enters_stage" (.ofUuid card)
        (.ofUuid pipe) (.told { stageId := some stage.text }) depth) := by
  have hnamed : ∀ u : Uuid, RowRef.ofText u.text = .ofUuid u := by
    intro u
    unfold RowRef.ofText RowRef.ofUuid
    rw [Uuid.ofText?_text]
  unfold runCascade
  rw [hnamed, hnamed]

/-- A request that has been written down and read again is run as it is, once the settings are found
to be right. -/
theorem runJob_toPayload (env : Environment) (h : HandOver) (request : CascadeRequest) :
    runJob env h request.toPayload = configured env >>= fun _ => runCascade env h request := by
  unfold runJob
  rw [CascadeRequest.ofPayload_toPayload]

theorem Keeps.withCorrelation {body : Engine α} (hbody : Keeps (SendsUnder correlation) body) :
    Keeps (Sends correlation) (Engine.withCorrelation correlation body) := by
  intro w
  unfold Engine.withCorrelation
  rw [exec_withAmbient]
  exact (hbody _ rfl).within

theorem sends_enqueue {request : CascadeRequest} (hrequest : request.correlation = correlation)
    (w : World) : Sends correlation w (w.handed request true) :=
  ⟨rfl, ⟨[], rfl, by simp⟩, ⟨[request], rfl, by simpa using hrequest⟩⟩

theorem sendsUnder_openPool : HandOver.Keeps (SendsUnder correlation) openPool := by
  intro request w hrequest hw
  rw [hw] at hrequest
  exact (Sends.noted (e := .cascade request true) hrequest w).trans (sends_enqueue hrequest _)

section

variable (htruthy : correlation.isTruthy = true)

include htruthy

theorem sendsUnder_jobQueue : HandOver.Keeps (SendsUnder correlation) jobQueue := by
  intro request w hrequest hw
  rw [hw] at hrequest
  have hnoted := (Sends.noted (e := .job request) hrequest w).trans (sends_enqueue hrequest _)
  refine hnoted.trans ((SendsUnder.law htruthy).log _ _ _ _ _ ?_)
  exact hw

theorem sendsUnder_closedPool : HandOver.Keeps (SendsUnder correlation) closedPool := by
  intro request w hrequest hw
  have hlogged : SendsUnder correlation w _ :=
    (SendsUnder.law htruthy).logFault cascadeLogger "automation_cascade_enqueue_failed"
      (refusalFields request poolClosed) w
  rw [hw] at hrequest
  exact (hlogged hw).trans (.noted (e := .cascade request false) hrequest _)

theorem sendsUnder_brokenQueue : HandOver.Keeps (SendsUnder correlation) brokenQueue :=
  fun _ w _ => (SendsUnder.law htruthy).logFault _ _ _ w

section

variable (hover : h.Keeps (SendsUnder correlation)) {request : CascadeRequest}
  (hrequest : request.correlation = correlation)

include hover hrequest

theorem sends_runCascade : Keeps (Sends correlation) (runCascade env h request) := by
  unfold runCascade
  rw [hrequest]
  exact Keeps.withCorrelation ((SendsUnder.law htruthy).run hover _ _ _ _ _)

variable (env)

theorem sends_runOnWorker : Keeps (Sends correlation) (runOnWorker env h request) := by
  unfold runOnWorker
  refine Keeps.seq (R := Sends correlation) (fun _ _ _ => Sends.trans)
    (sends_runCascade htruthy hover hrequest).outcome fun w r w₁ _ => ?_
  cases r with
  | ok report => exact .unseen rfl rfl rfl
  | error f =>
    exact .noted (e := .log _) (fun hother => absurd rfl hother) w₁

theorem sends_runJob : Keeps (Sends correlation) (runJob env h request.toPayload) := by
  rw [runJob_toPayload]
  refine Keeps.seq (R := Sends correlation) (fun _ _ _ => Sends.trans) ?_ fun _ _ w₁ _ =>
    sends_runCascade htruthy hover hrequest w₁
  unfold configured
  split <;> exact fun _ => .unseen rfl rfl rfl

end
end

theorem sends_detached {body : Engine α} (hbody : Keeps (Sends correlation) body) :
    Keeps (Sends correlation) (detached body) := by
  intro w
  rw [exec_detached]
  have hinside := hbody { w with spans := [], ambient := {} }
  exact ⟨rfl, hinside.trace, hinside.queue⟩

end Engine

open Engine

/-- Whether every request that is put aside is one under a correlation id. -/
def World.Owes (correlation : Json) (w : World) : Prop :=
  ∀ request ∈ w.queue, request.correlation = correlation

/-- From requests under a correlation id to what has come of them. -/
structure Settles (correlation : Json) (w w' : World) : Prop where
  trace : ∃ effects, w'.trace = effects ++ w.trace ∧ ∀ e ∈ effects, e.Bears correlation
  queue : w'.Owes correlation

/-- What workers make of the requests that are put aside. They take any of them, in any order, and
run it outside of everything that is under way, in this process or as a job; what its run hands over
is put aside in turn. -/
inductive Worked (env : Environment) (h : HandOver) : World → World → Prop where
  | done (w : World) : Worked env h w w
  | ran {w w' : World} (before : List CascadeRequest) (request : CascadeRequest)
    (after : List CascadeRequest) (hqueue : w.queue = before ++ request :: after)
    (hrest : Worked env h
      (exec (detached (runOnWorker env h request)) (w.pending (before ++ after))).2 w') :
    Worked env h w w'
  | job {w w' : World} (before : List CascadeRequest) (request : CascadeRequest)
    (after : List CascadeRequest) (hqueue : w.queue = before ++ request :: after)
    (hrest : Worked env h
      (exec (detached (runJob env h request.toPayload)) (w.pending (before ++ after))).2 w') :
    Worked env h w w'

namespace Settles

variable {correlation : Json} {w w' w₁ w₂ w₃ : World}

theorem refl (howes : w.Owes correlation) : Settles correlation w w := ⟨⟨[], rfl, by simp⟩, howes⟩

theorem trans (h : Settles correlation w₁ w₂) (h' : Settles correlation w₂ w₃) :
    Settles correlation w₁ w₃ where
  trace := by
    obtain ⟨effects, htrace, hall⟩ := h.trace
    obtain ⟨effects', htrace', hall'⟩ := h'.trace
    exact ⟨effects' ++ effects, by rw [htrace', htrace, List.append_assoc],
      List.forall_mem_append.mpr ⟨hall', hall⟩⟩
  queue := h'.queue

theorem of_sends (howes : w.Owes correlation) (h : Sends correlation w w') :
    Settles correlation w w' where
  trace := h.trace
  queue := by
    obtain ⟨requests, hqueue, hall⟩ := h.queue
    unfold World.Owes
    rw [hqueue]
    exact List.forall_mem_append.mpr ⟨howes, hall⟩

end Settles

/-- From what is put aside to what has come of it, if it is under a correlation id. -/
def Clears (correlation : Json) (w w' : World) : Prop :=
  w.Owes correlation → Settles correlation w w'

theorem Clears.trans {correlation : Json} (w₁ w₂ w₃ : World) (h : Clears correlation w₁ w₂)
    (h' : Clears correlation w₂ w₃) : Clears correlation w₁ w₃ :=
  fun howes => (h howes).trans (h' (h howes).queue)

namespace Engine

variable {α : Type} {env : Environment} {h : HandOver} {correlation : Json} {w w' : World}

/-- Taking one request from those that are put aside. -/
theorem settles_taken {body : Engine α} {before after : List CascadeRequest}
    {request : CascadeRequest} (howes : w.Owes correlation)
    (hqueue : w.queue = before ++ request :: after)
    (hbody : request.correlation = correlation → Keeps (Sends correlation) body) :
    Settles correlation w (exec (detached body) (w.pending (before ++ after))).2 := by
  unfold World.Owes at howes
  rw [hqueue, List.forall_mem_append, List.forall_mem_cons] at howes
  obtain ⟨hbefore, hrequest, hafter⟩ := howes
  have hrest : (w.pending (before ++ after)).Owes correlation :=
    List.forall_mem_append.mpr ⟨hbefore, hafter⟩
  have hsettled := Settles.of_sends hrest (sends_detached (hbody hrequest) _)
  exact ⟨hsettled.trace, hsettled.queue⟩

/-- All that comes of requests under a correlation id bears it, to any depth and in any order. -/
theorem settles_of_worked (htruthy : correlation.isTruthy = true)
    (hover : h.Keeps (SendsUnder correlation)) (hworked : Worked env h w w')
    (howes : w.Owes correlation) : Settles correlation w w' := by
  induction hworked with
  | done w => exact .refl howes
  | ran before request after hqueue _ ih =>
    have htaken := settles_taken howes hqueue (sends_runOnWorker env htruthy hover)
    exact htaken.trans (ih htaken.queue)
  | job before request after hqueue _ ih =>
    have htaken := settles_taken howes hqueue (sends_runJob env htruthy hover)
    exact htaken.trans (ih htaken.queue)

section

variable {runOne : CascadeRequest → Engine α}
  (hone : ∀ request, request.correlation = correlation → Keeps (Sends correlation) (runOne request))

include hone

theorem sends_generation (queue : List CascadeRequest)
    (hqueue : ∀ request ∈ queue, request.correlation = correlation) :
    Keeps (Sends correlation) (queue.mapM fun request => detached (runOne request)) := by
  induction queue with
  | nil => exact fun _ => .unseen rfl rfl rfl
  | cons request queue ih =>
    obtain ⟨hrequest, hrest⟩ := List.forall_mem_cons.mp hqueue
    rw [List.mapM_cons]
    refine Keeps.seq (R := Sends correlation) (fun _ _ _ => Sends.trans)
      (sends_detached (hone request hrequest)) fun _ _ w₁ _ => ?_
    exact Keeps.seq (R := Sends correlation) (fun _ _ _ => Sends.trans) (ih hrest)
      (fun _ _ _ _ => .unseen rfl rfl rfl) w₁

/-- So do workers that go on generation by generation, up to a number of generations. -/
theorem clears_settleFor (n : Nat) : Keeps (Clears correlation) (settleFor runOne n) := by
  induction n with
  | zero => exact fun _ howes => .refl howes
  | succ n ih =>
    intro w howes
    unfold settleFor
    rw [exec_bind_ok (exec_get w)]
    dsimp only
    split
    · exact .refl howes
    · rw [exec_bind_ok (exec_modify _ w)]
      -- the generation is taken off as a whole, so it runs with nothing put aside before it
      have hnone : (w.pending []).Owes correlation := by simp [World.Owes, World.pending]
      have hsettled := Keeps.seq (R := Clears correlation) Clears.trans
        (fun v howed => .of_sends howed (sends_generation hone w.queue howes v))
        (fun _ results v _ => Keeps.seq (R := Clears correlation) Clears.trans ih
          (f := fun rest => pure (results ++ rest)) (fun _ _ _ _ howed => .refl howed) v)
        (w.pending []) hnone
      exact ⟨hsettled.trace, hsettled.queue⟩

theorem settles_settle (howes : w.Owes correlation) :
    Settles correlation w (exec (settle env runOne) w).2 := by
  unfold settle
  rw [exec_bind_ok (exec_get w)]
  exact clears_settleFor hone _ w howes

end
end Engine
end BoardRules
