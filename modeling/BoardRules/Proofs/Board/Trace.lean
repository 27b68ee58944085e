import BoardRules.Proofs.Board.Automation
import BoardRules.Proofs.Run.Trace

/-! What a user's request to the board writes down. Besides what the engine tells by itself there is
the event of the change, and what the automations make of it. -/
namespace BoardRules

open Engine

namespace TraceLaw

variable {R : World → World → Prop} {env : Environment} {h : HandOver}

section

variable (law : TraceLaw R)

include law

section

variable (hover : h.Keeps R)

include hover

/-- The run that an event asks for is under the correlation id of the event. -/
theorem answer (event : String) (r : EventRun) (w : World)
    (hwithin : ∀ w', R (w.within { w.ambient with correlation := r.correlation }) w' →
      R w (w'.within w.ambient)) : R w (exec (Engine.answer env h event r) w).2 := by
  unfold Engine.answer withCorrelation
  rw [exec_withAmbient]
  refine hwithin _ (law.bind (Keeps.outcome ?_) (fun result => ?_) _)
  · exact law.bind law.configured fun _ => law.bind (law.ofExcept _) fun depth =>
      law.runOn hover r.trigger _ _ r.context (some depth)
  · cases result with
    | ok report => exact law.pure ()
    | error f => exact law.logFault _ _ _

theorem hear (event : BoardEvent) (a : Ambient) (w : World)
    (hwithin : ∀ w', R (w.within { w.ambient with correlation := a.correlation.textOrNull }) w' →
      R w (w'.within w.ambient)) :
    R w (exec (Engine.hear env h event.name (.obj (Envelope.complete a event.envelope))
      .automations) w).2 := by
  unfold Engine.hear
  rw [event.of?_envelope]
  cases event.pipe? with
  | none => exact law.refl w
  | some pipe => exact law.answer hover event.name (event.eventRun a pipe) w hwithin

end

end
end TraceLaw

namespace PlainLaw

variable {R : World → World → Prop} {env : Environment} {h : HandOver}

section

variable (law : PlainLaw R)

include law

theorem moved (w : World) (move : CardMove) : R w (w.moved move) := by
  have hstored : R w (w.ticked.storing (w.store.applyMove move (.live w.step w.tick))) :=
    law.unseen rfl rfl rfl rfl
  exact law.trans hstored (law.told _ _ (.log _ rfl) rfl)

theorem fieldSet (w : World) (card : Uuid) (key type : String) (value : Json) :
    R w (w.fieldSet card key type value) :=
  law.unseen rfl rfl rfl (Store.logs_setField _ _ _ _ _ _)

theorem submitting (w : World) (row : SubmissionRow) : R w (w.submitting row) :=
  law.unseen rfl rfl rfl rfl

theorem listLogs (card : RowRef) : Keeps R (Engine.listLogs env card) := by
  unfold Engine.listLogs
  cases card.id? with
  | none => exact law.pure []
  | some id =>
    refine law.bind (law.reading _) fun rows => law.mapM (fun row => ?_) rows
    unfold checkLogRow
    split
    · exact law.pure _
    · exact law.raise _

theorem showCard (card : Uuid) : Keeps R (Board.showCard env card) := by
  intro w
  rw [Board.showCard_still]
  exact law.refl w

section

variable (hpublished : ∀ (event : BoardEvent) (w : World), R w (w.published env h event))

include hpublished

theorem userMove (card stage : Uuid) : Keeps R (Board.moveCard env h card stage) := by
  intro w
  rw [Board.exec_moveCard]
  split
  · exact law.refl w
  · split
    · exact law.refl w
    · exact law.refl w
    · exact law.trans (law.moved w _) (hpublished _ _)

theorem setField (card : Uuid) (key type : String) (value : Json) :
    Keeps R (Board.setField env h card key type value) := by
  intro w
  rw [Board.exec_setField]
  split
  · exact law.refl w
  · split
    · exact law.refl w
    · exact law.trans (law.fieldSet w _ _ _ _) (hpublished _ _)

theorem submitForm (card form : Uuid) (responses : Entries) (email : Option String) :
    Keeps R (Board.submitForm env h card form responses email) := by
  intro w
  rw [Board.exec_submitForm]
  split
  · exact law.refl w
  · split
    · exact law.refl w
    · exact law.refl w
    · exact law.trans (law.submitting w _) (hpublished _ _)

end
end
end PlainLaw

/-- Whether no event is published on the way from one world to another. -/
def Eventless (w w' : World) : Prop := w'.events = w.events

theorem Eventless.law : TraceLaw Eventless where
  unseen := fun htrace _ _ _ => congrArg (List.filterMap Effect.event?) htrace
  trans := fun h h' => h'.trans h
  told := by
    rintro w e (_ | _ | _ | _ | _) _ <;> rfl
  inDepth := fun _ h => h
  stored := fun htrace _ _ => congrArg (List.filterMap Effect.event?) htrace
  counted := fun _ _ _ => rfl

section

variable {env : Environment} {h : HandOver}

/-- When an event is published there is one event more, whatever comes of it. -/
theorem events_published (hover : h.Keeps Eventless) (event : BoardEvent) (w : World) :
    (w.published env h event).events =
      Envelope.complete w.ambient event.envelope :: w.events := by
  rw [published_eq]
  exact Eventless.law.hear hover event w.ambient _ fun _ h => h

theorem ambient_answer (event : String) (r : EventRun) (w : World) :
    (exec (answer env h event r) w).2.ambient = w.ambient := by
  unfold answer withCorrelation
  rw [exec_withAmbient]
  rfl

theorem ambient_published (event : BoardEvent) (w : World) :
    (w.published env h event).ambient = w.ambient := by
  rw [published_eq]
  unfold hear
  rw [event.of?_envelope]
  cases event.pipe? with
  | none => rfl
  | some pipe => exact ambient_answer event.name _ (w.noted _)

end

end BoardRules
