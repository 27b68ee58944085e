import BoardRules.Proofs.Engine.Mailing
import BoardRules.Proofs.Engine.Trace
import BoardRules.Proofs.Run.Course
import BoardRules.Proofs.Store.Change

/-! What a run writes down. Whatever its actions do and however they end, a run adds to the trace
what the engine tells by itself and what comes of the requests that it hands over; it hands them
over under the correlation id that it runs under. -/
namespace BoardRules

open Engine

/-- Whether a relation holds of whatever is made of a request, as long as the request carries the
ambient correlation id. -/
def HandOver.Keeps (R : World → World → Prop) (h : HandOver) : Prop :=
  ∀ (request : CascadeRequest) (w : World), request.correlation = w.ambient.correlation →
    R w (exec (h request) w).2

namespace PlainLaw

variable {R : World → World → Prop} {env : Environment}

section

variable (law : PlainLaw R)

include law

theorem required {α : Type} (what : Missing) (a? : Option α) : Keeps R (Engine.required what a?) := by
  cases a? with
  | none => exact law.raise _
  | some a => exact law.pure a

theorem loadAutomations (pipe : RowRef) (triggerType : String) :
    Keeps R (Engine.loadAutomations env pipe triggerType) := by
  unfold Engine.loadAutomations
  cases pipe.id? with
  | none => exact law.pure none
  | some id =>
    refine law.spanning _ (law.bind (law.annotate _ _) fun _ => law.bind (law.annotate _ _) fun _ =>
      law.bind (law.reading _) fun rows => ?_)
    cases rows with
    | none => exact law.pure none
    | some rows =>
      exact law.bind (law.annotate _ _) fun _ =>
        Keeps.map _ (law.mapM (fun row => law.ofExcept _) rows)

theorem loadCard (card : RowRef) : Keeps R (Engine.loadCard env card) := by
  unfold Engine.loadCard
  cases card.id? with
  | none => exact law.pure none
  | some id => exact law.reading _

theorem loadStage (stage : RowRef) : Keeps R (Engine.loadStage env stage) := by
  unfold Engine.loadStage
  cases stage.id? with
  | none => exact law.pure none
  | some id => exact law.reading _

theorem loadTemplate (template : RowRef) : Keeps R (Engine.loadTemplate env template) := by
  unfold Engine.loadTemplate
  cases template.id? with
  | none => exact law.pure none
  | some id => exact law.reading _

theorem requireCard (card : RowRef) : Keeps R (Engine.requireCard env card) :=
  law.bind (law.loadCard card) fun v => law.required .card v

theorem requireTemplate (id : String) : Keeps R (Engine.requireTemplate env id) :=
  law.bind (law.loadTemplate _) fun v => law.required .template v

theorem moveCard (card : RowRef) (target : StageView) :
    Keeps R (Engine.moveCard env card target) := by
  unfold Engine.moveCard
  refine law.spanning _ (law.bind (law.annotate _ _) fun _ =>
    law.bind (law.annotate _ _) fun _ => ?_)
  cases card.id? with
  | none => exact law.raise _
  | some id =>
    refine law.writing _ fun hchange => ?_
    obtain ⟨row, -, hmoved⟩ := Option.bind_eq_some_iff.mp hchange
    cases hmoved
    rfl

theorem updateField (card : RowRef) (key : String) (value : Json) :
    Keeps R (Engine.updateField env card key value) := by
  unfold Engine.updateField
  cases card.id? with
  | none => exact law.raise _
  | some id =>
    refine law.writing _ fun hchange => ?_
    obtain ⟨row, -, hwritten⟩ := Option.bind_eq_some_iff.mp hchange
    cases hwritten
    exact Store.logs_writeField _ _ _ _ _

/-- A mail goes out under the ambient correlation id. -/
theorem handing (service : MailService) (url : Url) (m : Message) (w : World) :
    R w (exec (Engine.handing service url w.ambient.correlation.header m) w).2 := by
  unfold Engine.handing
  rw [exec_bind_ok (exec_get w), exec_bind_ok (exec_modify _ _), exec_bind_ok (exec_emit _ _)]
  generalize hsent : ({ w with mails := w.mails + 1 } : World) = sent
  have hnumbered : R w sent := by
    rw [← hsent]
    exact law.unseen rfl rfl rfl rfl
  have hcorrelation : w.ambient.correlation = sent.ambient.correlation := by rw [← hsent]
  have htold : R sent (sent.noted (.mail (some (calledAt url, w.ambient.correlation.header))
      m.payload)) := law.told sent _ (by rw [hcorrelation]; exact .posted _ _) rfl
  refine law.trans hnumbered (law.trans htold ?_)
  split
  · exact law.raise _ _
  · cases url.isAbsolute with
    | false => exact law.raise _ _
    | true =>
      refine law.bind (law.annotate _ _) (fun _ => ?_) _
      split
      · exact law.log _ _ _ _
      · exact law.raise _

theorem post (service : MailService) (m : Message) : Keeps R (Engine.post service m) := by
  unfold Engine.post
  cases Url.parse? service.url with
  | none => exact law.raise _
  | some url =>
    refine Keeps.get_bind fun w => ?_
    dsimp only
    have hheader : (if w.ambient.correlation.isTruthy = true then w.ambient.correlation else .null)
        = w.ambient.correlation.header := rfl
    rw [hheader]
    split
    · split
      · exact law.raise _ w
      · exact law.handing service url m w
    · exact law.handing service url m w

theorem send (m : Message) : Keeps R (Engine.send env m) := by
  unfold Engine.send
  refine law.spanning _ (law.bind (law.annotate _ _) fun _ =>
    law.bind (fun _ => law.refl _) fun _ => law.bind (law.annotate _ _) fun _ => ?_)
  split
  · exact law.post _ m
  · exact law.bind (fun w => law.told w _ (.recorded _) rfl) fun _ => law.log _ _ _ _

theorem recipient (card : CardView) (field : Option String) (template : Option TemplateRow) :
    Keeps R (Engine.recipient card field template) := by
  unfold Engine.recipient
  split
  · exact law.pure _
  · split
    · exact law.pure _
    · exact law.raise _

theorem sendFormLink (ctx : ActionContext) (formId : String)
    (recipientField templateId : Option String) :
    Keeps R (Engine.sendFormLink env ctx formId recipientField templateId) := by
  rw [sendFormLink_eq]
  unfold mailing formLinkMail
  refine law.bind (law.bind (law.requireCard _) fun card => law.bind ?_ fun template =>
    law.bind (law.recipient _ _ _) fun address => law.bind (law.required _ _) fun form =>
      law.pure _) fun draft => law.bind (law.send _) fun _ => law.pure _
  unfold optionalTemplate
  cases given? templateId with
  | none => exact law.pure none
  | some id => exact Keeps.map _ (law.requireTemplate id)

theorem sendEmail (ctx : ActionContext) (templateId recipientField formId : Option String) :
    Keeps R (Engine.sendEmail env ctx templateId recipientField formId) := by
  unfold Engine.sendEmail
  cases given? templateId with
  | none => exact law.raise _
  | some id =>
    exact law.bind (law.requireTemplate id) fun template => law.bind (law.requireCard _) fun card =>
      law.bind (law.recipient _ _ _) fun address => law.bind (law.send _) fun _ => law.pure _

theorem moveNeeds (card : RowRef) (target : String) :
    Keeps R (Engine.moveNeeds env card target) := by
  unfold Engine.moveNeeds
  exact law.bind (law.requireCard card) fun _ => law.bind (law.loadStage _) fun _ =>
    law.bind (law.required _ _) fun _ => law.pure _

theorem commitMove (ctx : ActionContext) (card : CardView) (stage : StageView) :
    Keeps R (Engine.commitMove env ctx card stage) := by
  unfold Engine.commitMove
  exact law.bind (law.moveCard _ _) fun _ => law.bind (law.log _ _ _ _) fun _ => law.pure _

/-- Nothing is counted by an action itself, unless it is a move. -/
theorem carryOut (h : HandOver) (ctx : ActionContext) {action : Action}
    (hother : ∀ target, action ≠ .moveCard target) :
    Keeps R (Engine.carryOut env h ctx action) := by
  cases action with
  | sendFormLink => exact law.sendFormLink _ _ _ _
  | sendEmail => exact law.sendEmail _ _ _ _
  | moveCard target => exact absurd rfl (hother target)
  | updateField key value => exact law.bind (law.updateField _ _ _) fun _ => law.pure _

theorem evaluate (conditions : Json) (card : RowRef) :
    Keeps R (Engine.evaluate env conditions card) := by
  unfold Engine.evaluate
  cases Conditions.ofJson? conditions with
  | none => exact law.pure false
  | some c =>
    refine law.bind (law.loadCard card) fun view => ?_
    cases view with
    | none => exact law.bind (law.log _ _ _ _) fun _ => law.pure false
    | some view =>
      dsimp only
      split
      · exact law.pure _
      · exact law.raise _

theorem gate (a : AutomationView) (card : RowRef) : Keeps R (Engine.gate env a card) := by
  unfold Engine.gate
  dsimp only
  split
  · exact Keeps.map _ (law.evaluate _ card)
  · exact law.pure none

theorem examine (triggerType : String) (occasion : Occasion) (a : AutomationView) :
    Keeps R (Engine.examine triggerType occasion a) := by
  unfold Engine.examine
  refine law.bind (law.ofExcept _) fun isMatch => ?_
  split
  · exact law.pure _
  · exact law.raise _

theorem configured : Keeps R (Engine.configured env) := by
  unfold Engine.configured
  split
  · exact law.pure ()
  · exact law.raise _

end
end PlainLaw

namespace StepLaw

variable {R : World → World → Prop} {env : Environment} {h : HandOver}

section

variable (law : StepLaw R)

include law

theorem noteFailure (ctx : ActionContext) (type : String) (f : ActionFailure) :
    Keeps R (Engine.noteFailure ctx type f) :=
  law.bind (law.markFailed _) fun _ => law.bind (law.count _ _) fun _ => law.log _ _ _ _

theorem enter (a : AutomationView) (card : RowRef) (triggerType : String) (e : Execution) :
    Keeps R (Engine.enter env a card triggerType e) :=
  law.bind (law.appendLog _) fun _ => law.bind (law.count _ _) fun _ => law.log _ _ _ _

end

section

variable (law : StepLaw R) (hover : h.Keeps R)

include law hover

theorem scheduleCascade (move : CardMove) (depth : Int) :
    Keeps R (Engine.scheduleCascade env h move depth) := by
  unfold Engine.scheduleCascade
  dsimp only
  split
  · exact law.bind (law.log _ _ _ _) fun _ => law.bind (law.count _ _) fun _ => law.pure false
  · refine Keeps.get_bind fun w => ?_
    have hhanded : R w (exec (h (requestAfter move (depth + 1) w.ambient.correlation)) w).2 :=
      hover _ w rfl
    refine law.trans hhanded ?_
    rw [exec_bind]
    rcases exec (h (requestAfter move (depth + 1) w.ambient.correlation)) w with ⟨f | taken, w₁⟩
    · exact law.refl w₁
    · cases taken with
      | false => exact law.refl w₁
      | true => exact law.bind (law.log _ _ _ _) (fun _ => law.pure true) w₁

theorem moveToStage (ctx : ActionContext) (target : String) :
    Keeps R (Engine.moveToStage env h ctx target) := by
  rw [moveToStage_eq]
  exact law.bind (law.moveNeeds _ _) fun needs => law.bind (law.commitMove _ _ _) fun move =>
    law.bind (law.scheduleCascade hover move _) fun _ => law.pure _

theorem attempt (ctx : ActionContext) (payload : Json) :
    Keeps R (Engine.attempt env h ctx payload) := by
  unfold Engine.attempt
  cases Action.ofJson payload with
  | error f => exact law.raise _
  | ok action =>
    cases action with
    | moveCard target => exact law.moveToStage hover ctx target
    | _ => exact law.carryOut h ctx fun target htarget => nomatch htarget

theorem perform (ctx : ActionContext) (payload : Json) :
    Keeps R (Engine.perform env h ctx payload) := by
  unfold Engine.perform tryAction
  refine law.bind (law.spanning _ (law.bind (law.annotate _ _) fun _ =>
    law.bind (law.annotate _ _) fun _ => law.bind (law.annotate _ _) fun _ =>
      law.bind (fun _ => law.refl _) fun _ => law.bind (law.annotate _ _) fun _ =>
        law.bind (law.attempt hover ctx payload).outcome fun r => ?_)) fun result => ?_
  · split
    · exact law.pure _
    · exact law.bind (law.noteFailure _ _ _) fun _ => law.pure _
    · exact law.raise _
  · cases result with
    | success => exact law.bind (law.count _ _) fun _ => law.pure _
    | error => exact law.pure _

theorem performAll (ctx : ActionContext) :
    ∀ payloads, Keeps R (Engine.performAll env h ctx payloads)
  | [] => law.pure []
  | payload :: payloads => by
    unfold Engine.performAll
    refine law.bind (law.perform hover ctx payload) fun record => ?_
    split
    · exact law.pure _
    · exact law.bind (performAll ctx payloads) fun _ => law.pure _

theorem execute (a : AutomationView) (card : RowRef) (triggerType : String) (depth : Int) :
    Keeps R (Engine.execute env h a card triggerType depth) := by
  unfold Engine.execute
  refine law.spanning _ (law.bind (law.annotate _ _) fun _ => law.bind (law.annotate _ _) fun _ =>
    law.bind ?_ fun e => law.bind (law.enter a card triggerType e) fun _ =>
      law.bind (law.annotate _ _) fun _ => law.pure e)
  unfold Engine.execution
  refine law.bind (law.gate a card) fun met => ?_
  split
  · exact law.pure _
  · exact law.bind (law.performAll hover _ _) fun _ => law.pure _

theorem executeMatching (card : RowRef) (triggerType : String) (depth : Int) :
    ∀ examined, Keeps R (Engine.executeMatching env h card triggerType depth examined)
  | [] => law.pure []
  | p :: rest => by
    rw [executeMatching_cons]
    refine law.bind ?_ fun d => law.bind (executeMatching card triggerType depth rest) fun _ =>
      law.pure _
    unfold turn
    split
    · exact Keeps.map _ (law.execute hover p.1 card triggerType depth)
    · exact law.pure _

theorem runInSpan (triggerType : String) (card pipe : RowRef) (occasion : Occasion)
    (depth : Int) : Keeps R (Engine.runInSpan env h triggerType card pipe occasion depth) := by
  unfold Engine.runInSpan
  refine law.bind (law.annotate _ _) fun _ => law.bind (law.annotate _ _) fun _ =>
    law.bind (law.annotate _ _) fun _ => law.bind (law.annotate _ _) fun _ =>
      law.bind (fun _ => law.refl _) fun _ => law.bind (law.annotate _ _) fun _ =>
        law.bind (law.loadAutomations pipe triggerType) fun found => ?_
  cases found with
  | none => exact law.bind (law.log _ _ _ _) fun _ => law.pure _
  | some automations =>
    unfold Engine.runLoaded
    exact law.bind (law.mapM (law.examine triggerType occasion) automations) fun examined =>
      law.bind (law.executeMatching hover card triggerType depth examined) fun details =>
        law.bind (law.annotate _ _) fun _ => law.bind (law.annotate _ _) fun _ =>
          law.bind (law.log _ _ _ _) fun _ => law.pure _

/-- A run once its depth is set. -/
theorem runInside (triggerType : String) (card pipe : RowRef) (occasion : Occasion)
    (depth : Int) : Keeps R (do
      let result ← outcome (spanning "automation.run"
        (Engine.runInSpan env h triggerType card pipe occasion depth))
      countRun triggerType
      Engine.ofExcept result) := by
  unfold countRun
  exact law.bind (law.spanning _
    (law.runInSpan hover triggerType card pipe occasion depth)).outcome fun result =>
      law.bind (law.bind (law.count _ _) fun _ => law.count _ _) fun _ => law.ofExcept result

end
end StepLaw

namespace TraceLaw

variable {R : World → World → Prop} {env : Environment} {h : HandOver}

section

variable (law : TraceLaw R) (hover : h.Keeps R)

include law hover

/-- What the engine's steps and whoever takes requests over keep to is kept to by a run. -/
theorem run (triggerType : String) (card pipe : RowRef) (occasion : Occasion) (depth : Int) :
    Keeps R (Engine.run env h triggerType card pipe occasion depth) := by
  unfold Engine.run
  exact law.withDepth depth (law.runInside hover triggerType card pipe occasion depth)

theorem runOn (triggerType : String) (card pipe : RowRef) (told : Json) (depth : Option Int) :
    Keeps R (Engine.runOn env h triggerType card pipe told depth) := by
  unfold Engine.runOn occasionOf
  refine law.bind ?_ fun occasion => law.bind (fun _ => law.refl _) fun _ =>
    law.run hover triggerType card pipe occasion _
  split
  · exact law.pure _
  · exact law.raise _

end
end TraceLaw
end BoardRules
