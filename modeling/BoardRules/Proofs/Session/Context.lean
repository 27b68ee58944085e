import BoardRules.Proofs.Board.Trace
import BoardRules.Proofs.Cascade.Depth
import BoardRules.Proofs.Cascade.Unfold

/-! The ambient context of runs. Whichever way a run, a cascade or the answer to an event ends, the
context is afterwards what it was before. In between, every step of a run is made in the context of
that run, whatever runs have come to their end, or have failed, inside of the steps before it. -/
namespace BoardRules

/-- The ambient context is afterwards what it was before. -/
def Restored (w w' : World) : Prop := w'.ambient = w.ambient

/-- Whether the context is restored whenever a request is taken over, whatever comes of it. -/
def HandOver.Restores (h : HandOver) : Prop := ∀ request, Engine.Keeps Restored (h request)

namespace Engine

variable {α : Type} {env : Environment} {h : HandOver}

theorem restored_withAmbient (change : Ambient → Ambient) (body : Engine α) :
    Keeps Restored (withAmbient change body) := by
  intro w
  rw [exec_withAmbient]
  rfl

theorem restored_run (triggerType : String) (card pipe : RowRef) (occasion : Occasion)
    (depth : Int) : Keeps Restored (run env h triggerType card pipe occasion depth) := by
  unfold run withDepth
  exact restored_withAmbient _ _

/-- What is told of the happening is read first; after that the run is one at the depth that is
given, or at the ambient one. -/
theorem exec_runOn (env : Environment) (h : HandOver) (triggerType : String) (card pipe : RowRef)
    (told : Json) (depth : Option Int) (w : World) :
    exec (runOn env h triggerType card pipe told depth) w =
      match Occasion.ofJson told with
      | .ok occasion => exec (run env h triggerType card pipe occasion
          (depth.getD w.ambient.depthOrZero)) w
      | .error es => (.error (.invalid "TriggerContext" es), w) := by
  unfold runOn occasionOf
  cases Occasion.ofJson told with
  | ok occasion => rw [exec_bind_ok (exec_pure _ _), exec_bind_ok (exec_get _)]
  | error es => exact exec_bind_error rfl _

theorem restored_runOn (triggerType : String) (card pipe : RowRef) (told : Json)
    (depth : Option Int) : Keeps Restored (runOn env h triggerType card pipe told depth) := by
  intro w
  rw [exec_runOn]
  cases Occasion.ofJson told with
  | ok occasion => exact restored_run _ _ _ _ _ w
  | error es => rfl

theorem restored_runCascade (env : Environment) (h : HandOver) (request : CascadeRequest) :
    Keeps Restored (runCascade env h request) := by
  unfold runCascade withCorrelation
  exact restored_withAmbient _ _

theorem restored_hear (event : String) (payload : Json) :
    Keeps Restored (hear env h event payload .automations) := by
  intro w
  unfold hear
  cases EventRun.of? event payload with
  | some r => exact ambient_answer event r w
  | none => rfl

/-- Runs a request before the action that asked for it goes on, which ends in a fault if that run
does. -/
def atOnce (env : Environment) (h : HandOver) : HandOver := fun request => do
  let _ ← runCascade env h request
  return true

/-- It does not take one that restores the context to run a request in place. -/
theorem restores_inPlace (env : Environment) (h : HandOver) : (inPlace env h).Restores := by
  intro request w
  unfold inPlace
  rw [exec_bind_ok (exec_outcome _ _), exec_pure]
  exact restored_runCascade env h request w

theorem restores_atOnce (env : Environment) (h : HandOver) : (atOnce env h).Restores := by
  intro request w
  have hran := restored_runCascade env h request w
  unfold atOnce
  rw [exec_bind]
  generalize exec (runCascade env h request) w = result at hran
  obtain ⟨f | report, w'⟩ := result
  · exact hran
  · exact hran

end Engine

theorem CascadeMode.restores_handOver (mode : CascadeMode) : mode.handOver.Restores := by
  intro request w
  cases mode <;> rfl

namespace Engine

variable {α : Type} {env : Environment} {h : HandOver}

/-- A step of the engine's own in a context: it writes down one thing at most, under the correlation
id of the context, and puts nothing aside. -/
structure OwnStep (a : Ambient) (w w' : World) : Prop where
  before : w.ambient = a
  after : w'.ambient = a
  trace : w'.trace = w.trace ∨ ∃ e, e.Told a.correlation ∧ w'.trace = e :: w.trace
  queue : w'.queue = w.queue

/-- All that goes on from one world to another is done in one context, which each step finds and
leaves: a step of the engine's own, or a request of that context's correlation id and one deeper
than its depth, which is handed over. -/
inductive Stays (env : Environment) (h : HandOver) (a : Ambient) : World → World → Prop where
  | own {w w' : World} (hstep : OwnStep a w w') : Stays env h a w w'
  | handed {w : World} {request : CascadeRequest} {depth : Int} (hbefore : w.ambient = a)
    (hcorrelation : request.correlation = a.correlation) (hcontext : a.depth = some depth)
    (hdepth : request.depth = depth + 1) (hallowed : request.depth ≤ env.maxDepth)
    (hafter : (exec (h request) w).2.ambient = a) : Stays env h a w (exec (h request) w).2
  | trans {w₁ w₂ w₃ : World} (hfirst : Stays env h a w₁ w₂) (hrest : Stays env h a w₂ w₃) :
    Stays env h a w₁ w₃

theorem Stays.after {a : Ambient} {w w' : World} (hstays : Stays env h a w w') :
    w'.ambient = a := by
  induction hstays with
  | own hstep => exact hstep.after
  | handed _ _ _ _ _ hafter => exact hafter
  | trans _ _ _ ih => exact ih

/-- What is done as long as a context is ambient. -/
def StaysFrom (env : Environment) (h : HandOver) (a : Ambient) (w w' : World) : Prop :=
  w.ambient = a → Stays env h a w w'

theorem StaysFrom.law (env : Environment) (h : HandOver) (a : Ambient) :
    StepLaw (StaysFrom env h a) where
  unseen := fun htrace hambient hqueue _ hw => .own ⟨hw, hambient.trans hw, .inl htrace, hqueue⟩
  trans := fun hfirst hrest hw => .trans (hfirst hw) (hrest (hfirst hw).after)
  told := fun _ e he _ hw => .own ⟨hw, hw, .inr ⟨e, hw ▸ he, rfl⟩, rfl⟩
  stored := fun htrace hambient hqueue hw => .own ⟨hw, hambient.trans hw, .inl htrace, hqueue⟩
  counted := fun _ counter labels hw =>
    .own ⟨hw, hw, .inr ⟨.count counter labels, .count _ _, rfl⟩, rfl⟩

/-- A taker for the requests of a run at a depth; it refuses all others. -/
def onlyBelow (env : Environment) (depth : Int) (h : HandOver) : HandOver := fun request =>
  if request.depth = depth + 1 ∧ request.depth ≤ env.maxDepth then h request else pure false

theorem agreeBelow_onlyBelow (env : Environment) (depth : Int) (h : HandOver) :
    AgreeBelow env depth h (onlyBelow env depth h) := by
  intro request hdepth hallowed
  unfold onlyBelow
  rw [if_pos ⟨hdepth, hallowed⟩]

theorem keeps_onlyBelow (hrestores : h.Restores) (correlation : Json) (depth : Int) :
    (onlyBelow env depth h).Keeps (StaysFrom env h ⟨correlation, some depth⟩) := by
  intro request w hcorrelation hw
  unfold onlyBelow
  split
  case isTrue hbelow =>
    refine .handed hw ?_ rfl hbelow.1 hbelow.2 ((hrestores request w).trans hw)
    rw [hcorrelation, hw]
  case isFalse => exact .own ⟨hw, hw, .inl rfl, rfl⟩

/-- A context is set, all that goes on is done in it, and the one before is restored. -/
def RunsIn (env : Environment) (h : HandOver) (a : Ambient) (w w' : World) : Prop :=
  ∃ inside, Stays env h a (w.within a) inside ∧ w' = inside.within w.ambient

theorem runsIn_run (env : Environment) (hrestores : h.Restores) (triggerType : String)
    (card pipe : RowRef) (occasion : Occasion) (depth : Int) (w : World) :
    RunsIn env h ⟨w.ambient.correlation, some depth⟩ w
      (exec (run env h triggerType card pipe occasion depth) w).2 := by
  have law := StaysFrom.law env h ⟨w.ambient.correlation, some depth⟩
  rw [run_congr (agreeBelow_onlyBelow env depth h)]
  unfold run withDepth
  rw [exec_withAmbient]
  refine ⟨_, ?_, rfl⟩
  exact law.runInside (keeps_onlyBelow hrestores _ _) triggerType card pipe occasion depth _ rfl

theorem runsIn_runCascade (hrestores : h.Restores) (request : CascadeRequest) (w : World) :
    RunsIn env h ⟨request.correlation, some request.depth⟩ w
      (exec (runCascade env h request) w).2 := by
  obtain ⟨inside, hstays, hexec⟩ := runsIn_run env hrestores "card_enters_stage"
    (.ofText request.cardId) (.ofText request.pipeId)
    (.told { stageId := some request.stageId }) request.depth
    (w.within { w.ambient with correlation := request.correlation })
  unfold runCascade withCorrelation
  rw [exec_withAmbient]
  refine ⟨inside, hstays, ?_⟩
  rw [hexec]
  rfl

theorem runsIn_runOn (hrestores : h.Restores) (triggerType : String) (card pipe : RowRef)
    (told : Json) (depth : Option Int) (w : World) :
    (∃ e, exec (runOn env h triggerType card pipe told depth) w = (.error e, w)) ∨
      RunsIn env h ⟨w.ambient.correlation, some (depth.getD w.ambient.depthOrZero)⟩ w
        (exec (runOn env h triggerType card pipe told depth) w).2 := by
  rw [exec_runOn]
  cases Occasion.ofJson told with
  | ok occasion => exact .inr (runsIn_run env hrestores triggerType card pipe occasion _ w)
  | error es => exact .inl ⟨_, rfl⟩

/-- How an event is answered: under the correlation id of the event there is no run or one, at the
depth noted in the event, and then a line at most is written down. -/
def AnswersIn (env : Environment) (h : HandOver) (r : EventRun) (w w' : World) : Prop :=
  ∃ before after,
    (before = w.within { w.ambient with correlation := r.correlation } ∨
      ∃ depth, r.noted.notedDepth = .ok depth ∧
        RunsIn env h ⟨r.correlation, some depth⟩
          (w.within { w.ambient with correlation := r.correlation }) before) ∧
    OwnStep { w.ambient with correlation := r.correlation } before after ∧
    w' = after.within w.ambient

/-- The run that an event asks for need not begin: the settings may be wrong, or what is noted of
the depth or told of the happening may not be read. -/
theorem runsIn_eventRun (hrestores : h.Restores) (r : EventRun) (w : World) :
    (exec (eventRun env h r) w).2 = w ∨ ∃ depth, r.noted.notedDepth = .ok depth ∧
      RunsIn env h ⟨w.ambient.correlation, some depth⟩ w (exec (eventRun env h r) w).2 := by
  unfold eventRun configured
  cases env.misconfigured with
  | cons e es => exact .inl rfl
  | nil =>
    rw [exec_bind_ok (exec_pure () w)]
    cases hdepth : r.noted.notedDepth with
    | error f => exact .inl rfl
    | ok depth =>
      have hread : exec (ofExcept ((Except.ok depth : Except IntegerFault Int).mapError
        Fault.integer)) w = (.ok depth, w) := rfl
      rw [exec_bind_ok hread]
      rcases runsIn_runOn hrestores r.trigger (.ofJson r.card) (.ofJson r.pipe) r.context
        (some depth) w with ⟨e, hexec⟩ | hruns
      · exact .inl (by rw [hexec])
      · exact .inr ⟨depth, rfl, hruns⟩

theorem answersIn_answer (hrestores : h.Restores) (event : String) (r : EventRun) (w : World) :
    AnswersIn env h r w (exec (answer env h event r) w).2 := by
  have hanswer : answer env h event r = withCorrelation r.correlation
      (outcome (eventRun env h r) >>= _) := rfl
  rw [hanswer, withCorrelation, exec_withAmbient]
  dsimp only
  rw [exec_bind_ok (exec_outcome _ _)]
  generalize hinside : w.within { w.ambient with correlation := r.correlation } = inside
  have hambient : inside.ambient = { w.ambient with correlation := r.correlation } := by
    rw [← hinside]
    rfl
  have hran : (exec (eventRun env h r) inside).2 = inside ∨ _ :=
    runsIn_eventRun hrestores r inside
  have hrestored : (exec (eventRun env h r) inside).2.ambient = inside.ambient := by
    rcases hran with hstill | ⟨depth, -, after, -, hafter⟩
    · rw [hstill]
    · rw [hafter]
      rfl
  have hbefore := hrestored.trans hambient
  rw [hambient] at hran
  subst hinside
  generalize exec (eventRun env h r) _ = ran at *
  obtain ⟨f | report, v⟩ := ran
  · refine ⟨v, _, hran, ?_, rfl⟩
    exact ⟨hbefore, hbefore, .inr ⟨_, .log _ (congrArg Ambient.correlation hbefore), rfl⟩, rfl⟩
  · exact ⟨v, v, hran, ⟨hbefore, hbefore, .inl rfl, rfl⟩, rfl⟩

/-- What hearing of an event comes to: nothing if it asks for no run, else its answer. -/
theorem exec_hear (env : Environment) (h : HandOver) (event : String) (payload : Json) (w : World) :
    exec (hear env h event payload .automations) w =
      match EventRun.of? event payload with
      | some r => exec (answer env h event r) w
      | none => (.ok (), w) := by
  unfold hear
  cases EventRun.of? event payload <;> rfl

/-- **The ambient context is restored on every exit.** Whoever takes requests over and however they
end, a run, a cascade and the answer to an event leave the context as they find it, set or not. So
does whoever takes requests over in one of the modes, or runs them inside of the action that asks
for them, at any nesting, whether a fault of theirs ends that action or not. Where requests are
taken over in such a way, all that goes on in a run is done in the context of that run, and every
request that it hands over is one of that context. -/
theorem context_restored (env : Environment) (h : HandOver) :
    (∀ triggerType card pipe occasion depth,
      Keeps Restored (run env h triggerType card pipe occasion depth)) ∧
    (∀ triggerType card pipe told depth,
      Keeps Restored (runOn env h triggerType card pipe told depth)) ∧
    (∀ request, Keeps Restored (runCascade env h request)) ∧
    (∀ event payload, Keeps Restored (hear env h event payload .automations)) ∧
    (∀ mode : CascadeMode, mode.handOver.Restores) ∧
    (inPlace env h).Restores ∧ (atOnce env h).Restores ∧
    (h.Restores →
      (∀ triggerType card pipe occasion depth w,
        RunsIn env h ⟨w.ambient.correlation, some depth⟩ w
          (exec (run env h triggerType card pipe occasion depth) w).2) ∧
      (∀ triggerType card pipe told depth w,
        (∃ e, exec (runOn env h triggerType card pipe told depth) w = (.error e, w)) ∨
          RunsIn env h ⟨w.ambient.correlation, some (depth.getD w.ambient.depthOrZero)⟩ w
            (exec (runOn env h triggerType card pipe told depth) w).2) ∧
      (∀ request w, RunsIn env h ⟨request.correlation, some request.depth⟩ w
        (exec (runCascade env h request) w).2) ∧
      ∀ event payload w,
        match EventRun.of? event payload with
        | some r => AnswersIn env h r w (exec (hear env h event payload .automations) w).2
        | none => exec (hear env h event payload .automations) w = (.ok (), w)) := by
  refine ⟨restored_run, restored_runOn, restored_runCascade env h, restored_hear,
    CascadeMode.restores_handOver, restores_inPlace env h, restores_atOnce env h,
    fun hrestores => ⟨runsIn_run env hrestores, runsIn_runOn hrestores,
      runsIn_runCascade hrestores, ?_⟩⟩
  intro event payload w
  rw [exec_hear]
  cases EventRun.of? event payload with
  | some r => exact answersIn_answer hrestores event r w
  | none => rfl

/-- The small environment, in which the fifth access to the storage fails: it is the first one of
the cascade that follows the first move. -/
def failingAt (access : Nat) : Environment :=
  { Environment.sample with storageFails := (· == access) }

/-- On the small board: a run under a correlation id, from where no depth is set, moves the card.
The cascade is run at once and cannot read its automations, which ends the run around it. -/
theorem context_restored_failing : ∃ w',
    exec (run (failingAt 4) (atOnce (failingAt 4) openPool) "card_enters_stage"
        (.ofUuid ⟨3, by decide⟩) (.ofUuid ⟨1, by decide⟩) .untold 0)
      { store := Store.sample, ambient := { correlation := .str "abc-123" } } =
        (.error .storageRead, w') ∧
    w'.store.history.length = 1 ∧ w'.ambient = { correlation := .str "abc-123" } ∧
    RunsIn (failingAt 4) (atOnce (failingAt 4) openPool) ⟨.str "abc-123", some 0⟩
      { store := Store.sample, ambient := { correlation := .str "abc-123" } } w' := by
  have hrestored := context_restored (failingAt 4) (atOnce (failingAt 4) openPool)
  have hkept := hrestored.1 "card_enters_stage" (.ofUuid ⟨3, by decide⟩) (.ofUuid ⟨1, by decide⟩)
    .untold 0 { store := Store.sample, ambient := { correlation := .str "abc-123" } }
  have hruns := (hrestored.2.2.2.2.2.2.2 (restores_atOnce _ _)).1 "card_enters_stage"
    (.ofUuid ⟨3, by decide⟩) (.ofUuid ⟨1, by decide⟩) .untold 0
    { store := Store.sample, ambient := { correlation := .str "abc-123" } }
  have hends : faultOf (exec (run (failingAt 4) (atOnce (failingAt 4) openPool)
        "card_enters_stage" (.ofUuid ⟨3, by decide⟩) (.ofUuid ⟨1, by decide⟩) .untold 0)
      { store := Store.sample, ambient := { correlation := .str "abc-123" } }).1 =
        some .storageRead ∧
      (exec (run (failingAt 4) (atOnce (failingAt 4) openPool)
        "card_enters_stage" (.ofUuid ⟨3, by decide⟩) (.ofUuid ⟨1, by decide⟩) .untold 0)
        { store := Store.sample,
          ambient := { correlation := .str "abc-123" } }).2.store.history.length = 1 := by
    decide +kernel
  generalize exec (run _ _ _ _ _ _ _) _ = ran at *
  obtain ⟨f | report, w'⟩ := ran
  · obtain ⟨hfault, hmoved⟩ := hends
    cases hfault
    exact ⟨w', rfl, hmoved, hkept, hruns⟩
  · cases hends.1

end Engine
end BoardRules
