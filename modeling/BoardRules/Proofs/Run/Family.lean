import BoardRules.Proofs.Action.Mail
import BoardRules.Proofs.Engine.Family
import BoardRules.Proofs.Run.Course
import BoardRules.Proofs.Store.Part
import BoardRules.Proofs.Uuid

/-! Runs as families of programs, one for each way in which accesses to the storage may fail. A run
on a card reads what concerns the card, writes to that card, hands mails over and hands requests
over that name the card; what a law of families says of these, it says of the run. -/
namespace BoardRules

def Environment.failing (env : Environment) (fails : Nat → Bool) : Environment :=
  { env with storageFails := fails }

def CascadeRequest.card? (request : CascadeRequest) : Option Uuid :=
  (RowRef.ofText request.cardId).id?

namespace Engine

variable {ι α β : Type} {J : (α : Type) → (ι → Engine α) → Prop} {env : Environment}
  {fails : ι → Nat → Bool} {h : ι → HandOver} {card : RowRef}

theorem card?_requestAfter (move : CardMove) (depth : Int) (correlation : Json) :
    (requestAfter move depth correlation).card? = some move.card := by
  unfold CascadeRequest.card? requestAfter RowRef.ofText
  rw [Uuid.ofText?_text]

/-- The row of an entry of the audit log. -/
def LogEntry.row (e : LogEntry) (card : Uuid) (time : Moment) : LogRow where
  card := card
  automation := e.automation
  executedAt := time
  status := e.status
  triggerType := e.triggerType
  conditionsMet := e.conditionsMet
  actions := e.actions
  error := e.error

def entryChange (e : LogEntry) (time : Moment) (s : Store) : Option (Unit × Store) := do
  let card ← e.card.id?
  return ((), s.addLog (e.row card time))

theorem appendLog_eq (env : Environment) (e : LogEntry) :
    appendLog env e = writing env .storageWrite (entryChange e) := rfl

/-- A law that allows for reading what concerns a card. -/
structure ReadingLaw (J : (α : Type) → (ι → Engine α) → Prop) (env : Environment)
    (fails : ι → Nat → Bool) (card : Option Uuid) : Prop extends FamilyLaw J where
  reading : ∀ {α : Type} (query : Store → Except ReadFault α),
    (∀ s : Store, query (s.partOf card) = query s) →
    J α fun i => Engine.reading (env.failing (fails i)) query

/-- A law that allows for what the actions of a run change on a card, and for the requests that they
hand over. -/
structure ChangingLaw (J : (α : Type) → (ι → Engine α) → Prop) (env : Environment)
    (fails : ι → Nat → Bool) (h : ι → HandOver) (card : Option Uuid) : Prop
    extends ReadingLaw J env fails card where
  moved : ∀ (id : Uuid) (stage : StageView), card = some id →
    J CardMove fun i => writing (env.failing (fails i)) noCard (moveChange id stage)
  wrote : ∀ (id : Uuid) (key : String) (value : Json), card = some id →
    J Unit fun i => writing (env.failing (fails i)) noCard (fieldChange id key value)
  handed : ∀ request : CascadeRequest, request.card? = card → J Bool fun i => h i request

/-- A law that allows for all that the actions of a run on a card do, whatever mails they send. -/
structure ActingLaw (J : (α : Type) → (ι → Engine α) → Prop) (env : Environment)
    (fails : ι → Nat → Bool) (h : ι → HandOver) (card : Option Uuid) : Prop
    extends ChangingLaw J env fails h card where
  mailed : ∀ m : Message, J Unit fun i => send (env.failing (fails i)) m

/-- A law that allows for what a run on a card enters into the audit log, too. -/
structure RunningLaw (J : (α : Type) → (ι → Engine α) → Prop) (env : Environment)
    (fails : ι → Nat → Bool) (h : ι → HandOver) (card : Option Uuid) : Prop
    extends ActingLaw J env fails h card where
  entered : ∀ e : LogEntry, e.card.id? = card →
    J Unit fun i => appendLog (env.failing (fails i)) e

theorem Yields.requireCard {v : CardView} (hyields : Yields (Engine.requireCard env card) v) :
    card.id? = some v.id := by
  obtain ⟨w, w', hexec⟩ := hyields
  obtain ⟨-, hcard⟩ := (Reads.requireCard card).eq_ok hexec
  obtain ⟨row, hid, -, hvid, -⟩ := Store.cardFor_eq_ok hcard
  rw [hid, hvid]

theorem Yields.moveCard {id : Uuid} {stage : StageView} {move : CardMove}
    (hyields : Yields (Engine.moveCard env (.ofUuid id) stage) move) : move.card = id := by
  obtain ⟨w, w', hexec⟩ := hyields
  rw [moveCard_of_some env rfl] at hexec
  obtain ⟨w₁, w₂, -, -, hmove⟩ :=
    exec_moveSpan (.ofUuid id) stage (writing env noCard (moveChange id stage)) w
  rw [hmove] at hexec
  cases hwrite : exec (writing env noCard (moveChange id stage)) w₁ with
  | mk r w₃ =>
    rw [hwrite] at hexec
    cases hexec
    rcases writing_cases env noCard (moveChange id stage) w₁ with
      ⟨_, hfail, -, -⟩ | ⟨_, hmissing, -, -⟩ | ⟨move', store, _, hok, hchange, -⟩
    · rw [hwrite] at hfail
      cases hfail
    · rw [hwrite] at hmissing
      cases hmissing
    · rw [hwrite] at hok
      cases hok
      obtain ⟨row, hrow, hsome⟩ := Option.bind_eq_some_iff.mp hchange
      cases hsome
      exact Store.id_of_card? hrow

theorem tells_showRun (triggerType : String) (card pipe : RowRef) (depth : Int) :
    Tells (showRun triggerType card pipe depth) :=
  Tells.bind (Tells.annotate _ _) (Tells.bind (Tells.annotate _ _)
    (Tells.bind (Tells.annotate _ _) (Tells.bind (Tells.annotate _ _) (Tells.annotateOf _ _))))

namespace FamilyLaw

section

variable (law : FamilyLaw J)

include law

theorem required (what : Missing) (a? : Option α) : J α fun _ => Engine.required what a? := by
  cases a? with
  | none => exact law.raise _
  | some a => exact law.pure a

theorem recipient (card : CardView) (field : Option String) (template : Option TemplateRow) :
    J String fun _ => Engine.recipient card field template := by
  unfold Engine.recipient
  split
  · exact law.pure _
  · split
    · exact law.pure _
    · exact law.raise _

theorem examine (triggerType : String) (occasion : Occasion) (a : AutomationView) :
    J _ fun _ => Engine.examine triggerType occasion a := by
  unfold Engine.examine
  refine law.seq (law.ofExcept _) fun isMatch => ?_
  split
  · exact law.pure _
  · exact law.raise _

/-- What becomes of an attempt: its success or its failure is told, any other fault goes on. -/
theorem concluded (ctx : ActionContext) (type : String) {x : ι → Engine Entries}
    (hx : J Entries x) : J ActionOutcome fun i => outcome (x i) >>= concludeAction ctx type := by
  refine law.caught hx (fun report => law.pure _) (fun f => ?_) fun e he => ?_
  · have hnoted : Tells (noteFailure ctx type f) :=
      Tells.bind (Tells.markFailed _) (Tells.bind (Tells.count _ _) (Tells.log _ _ _ _))
    exact law.seq (law.told hnoted) fun _ => law.pure _
  · cases e with
    | action f => exact absurd rfl (he f)
    | _ => rfl

end
end FamilyLaw

namespace ReadingLaw

variable (law : ReadingLaw J env fails card.id?)

include law

theorem loadAutomations (pipe : RowRef) (triggerType : String) :
    J _ fun i => Engine.loadAutomations (env.failing (fails i)) pipe triggerType := by
  unfold Engine.loadAutomations
  cases pipe.id? with
  | none => exact law.pure none
  | some id =>
    refine law.spanning _ (law.seq (law.told (Tells.annotate _ _)) fun _ =>
      law.seq (law.told (Tells.annotate _ _)) fun _ =>
        law.seq (law.reading _ fun s => rfl) fun rows => ?_)
    cases rows with
    | none => exact law.pure none
    | some rows =>
      exact law.seq (law.told (Tells.annotate _ _)) fun _ =>
        law.map _ (law.mapM (fun row => law.ofExcept _) rows)

theorem loadCard : J _ fun i => Engine.loadCard (env.failing (fails i)) card := by
  unfold Engine.loadCard
  cases hid : card.id? with
  | none => exact law.pure none
  | some id =>
    rw [hid] at law
    refine law.reading _ fun s => ?_
    rw [Store.card?_partOf]
    cases hrow : s.card? id with
    | none => rfl
    | some row =>
      obtain rfl := Store.id_of_card? hrow
      dsimp only [Option.map_some]
      rw [Store.cardView_partOf]

theorem loadStage (stage : RowRef) :
    J _ fun i => Engine.loadStage (env.failing (fails i)) stage := by
  unfold Engine.loadStage
  cases stage.id? with
  | none => exact law.pure none
  | some id => exact law.reading _ fun s => rfl

theorem loadTemplate (template : RowRef) :
    J _ fun i => Engine.loadTemplate (env.failing (fails i)) template := by
  unfold Engine.loadTemplate
  cases template.id? with
  | none => exact law.pure none
  | some id => exact law.reading _ fun s => rfl

theorem requireCard : J _ fun i => Engine.requireCard (env.failing (fails i)) card :=
  law.seq law.loadCard fun v => law.required .card v

theorem requireTemplate (id : String) :
    J _ fun i => Engine.requireTemplate (env.failing (fails i)) id :=
  law.seq (law.loadTemplate _) fun v => law.required .template v

theorem formLinkMail (formId : String) (recipientField templateId : Option String) :
    J _ fun i => Engine.formLinkMail (env.failing (fails i)) card formId recipientField
      templateId := by
  unfold Engine.formLinkMail optionalTemplate
  refine law.seq law.requireCard fun v => law.seq ?_ fun template =>
    law.seq (law.recipient _ _ _) fun address =>
      law.seq (law.required .form (formOf? env v formId)) fun form => law.pure _
  split
  · exact law.map _ (law.requireTemplate _)
  · exact law.pure none

theorem templateMail (templateId : String) (recipientField formId : Option String) :
    J _ fun i => Engine.templateMail (env.failing (fails i)) card templateId recipientField
      formId := by
  unfold Engine.templateMail
  exact law.seq (law.requireTemplate _) fun template => law.seq law.requireCard fun v =>
    law.seq (law.recipient _ _ _) fun address =>
      law.pure (templateDraft env v address formId template)

theorem evaluate (conditions : Json) :
    J _ fun i => Engine.evaluate (env.failing (fails i)) conditions card := by
  unfold Engine.evaluate
  cases Conditions.ofJson? conditions with
  | none => exact law.pure false
  | some c =>
    refine law.seq law.loadCard fun view => ?_
    cases view with
    | none => exact law.seq (law.told (Tells.log _ _ _ _)) fun _ => law.pure false
    | some view =>
      dsimp only
      split
      · exact law.pure _
      · exact law.raise _

theorem gate (a : AutomationView) :
    J _ fun i => Engine.gate (env.failing (fails i)) a card := by
  unfold Engine.gate
  dsimp only
  split
  · exact law.map _ (law.evaluate _)
  · exact law.pure none

theorem opened (triggerType : String) (pipe : RowRef) (occasion : Occasion) :
    J _ fun i => Engine.opened (env.failing (fails i)) triggerType pipe occasion := by
  unfold Engine.opened
  refine law.seq (law.loadAutomations pipe triggerType) fun found => ?_
  cases found with
  | none => exact law.pure none
  | some automations => exact law.map _ (law.mapM (law.examine triggerType occasion) automations)

end ReadingLaw

namespace ChangingLaw

variable (law : ChangingLaw J env fails h card.id?)

include law

theorem updateField (key : String) (value : Json) :
    J _ fun i => Engine.updateField (env.failing (fails i)) card key value := by
  unfold Engine.updateField
  cases hid : card.id? with
  | none => exact law.raise _
  | some id => exact law.wrote id key value hid

theorem moveCard (id : Uuid) (hid : card.id? = some id) (stage : StageView) :
    J _ fun i => Engine.moveCard (env.failing (fails i)) (.ofUuid id) stage := by
  have hspan : (fun i => Engine.moveCard (env.failing (fails i)) (.ofUuid id) stage) =
      fun i => moveSpan (.ofUuid id) stage
        (writing (env.failing (fails i)) noCard (moveChange id stage)) := by
    funext i
    exact moveCard_of_some _ rfl stage
  rw [hspan]
  unfold moveSpan
  exact law.spanning _ (law.seq (law.told (Tells.bind (Tells.annotate _ _) (Tells.annotate _ _)))
    fun _ => law.moved id stage hid)

theorem scheduleCascade (move : CardMove) (hmove : card.id? = some move.card) (depth : Int) :
    J _ fun i => Engine.scheduleCascade (env.failing (fails i)) (h i) move depth := by
  unfold Engine.scheduleCascade
  dsimp only
  have hdepth : ∀ i, (env.failing (fails i)).maxDepth = env.maxDepth := fun _ => rfl
  have hblocked : ∀ i, blockCascade (env.failing (fails i)) move (depth + 1) =
      blockCascade env move (depth + 1) := fun _ => rfl
  simp only [hdepth, hblocked]
  split
  · exact law.seq (law.told (Tells.log _ _ _ _)) fun _ =>
      law.seq (law.told (Tells.count _ _)) fun _ => law.pure false
  · refine law.asked (f := fun i ambient => do
      if ← h i (requestAfter move (depth + 1) ambient.correlation) then
        log .info runLogger "automation.cascade.scheduled"
          [("card_id", .str move.card.text), ("stage_id", .str move.toStage.text),
            ("cascade_depth", .int (depth + 1))]
        return true
      else return false) fun ambient => ?_
    refine law.seq (law.handed _ ?_) fun taken => ?_
    · rw [card?_requestAfter, hmove]
    · cases taken with
      | false => exact law.pure false
      | true => exact law.seq (law.told (Tells.log _ _ _ _)) fun _ => law.pure true

theorem moveToStage (ctx : ActionContext) (hctx : ctx.card = card) (target : String) :
    J _ fun i => Engine.moveToStage (env.failing (fails i)) (h i) ctx target := by
  unfold Engine.moveToStage
  rw [hctx]
  refine law.bind law.requireCard fun v hv => law.seq (law.loadStage _) fun found =>
    law.seq (law.required _ _) fun stage => ?_
  have hid : card.id? = some v.id := by
    obtain ⟨i, hyields⟩ := hv
    exact hyields.requireCard
  refine law.bind (law.moveCard v.id hid stage) fun move hmove =>
    law.seq (law.told (Tells.log _ _ _ _)) fun _ =>
      law.seq (law.scheduleCascade move ?_ _) fun _ => law.pure _
  obtain ⟨i, hyields⟩ := hmove
  rw [hyields.moveCard, hid]

/-- What a law says of the actions that send mails, it says of every attempt at an action. -/
theorem attemptOf (ctx : ActionContext) (hctx : ctx.card = card) (payload : Json)
    (hmail : ∀ action, Action.ofJson payload = .ok action → action.mail?.isSome →
      J _ fun i => Engine.carryOut (env.failing (fails i)) (h i) ctx action) :
    J _ fun i => Engine.attempt (env.failing (fails i)) (h i) ctx payload := by
  unfold Engine.attempt
  cases haction : Action.ofJson payload with
  | error f => exact law.raise _
  | ok action =>
    cases action with
    | sendFormLink formId recipientField templateId => exact hmail _ haction rfl
    | sendEmail templateId recipientField formId => exact hmail _ haction rfl
    | moveCard target => exact law.moveToStage ctx hctx target
    | updateField key value =>
      simp only [carryOut, hctx]
      exact law.seq (law.updateField key value) fun _ => law.pure _

end ChangingLaw

namespace ActingLaw

variable (law : ActingLaw J env fails h card.id?)

include law

theorem mailing {compose : ι → Engine (Message × Entries)} (hcompose : J _ compose) :
    J _ fun i => Engine.mailing (env.failing (fails i)) (compose i) :=
  law.seq hcompose fun _ => law.seq (law.mailed _) fun _ => law.pure _

theorem attempt (ctx : ActionContext) (hctx : ctx.card = card) (payload : Json) :
    J _ fun i => Engine.attempt (env.failing (fails i)) (h i) ctx payload := by
  refine law.attemptOf ctx hctx payload fun action _ hmail => ?_
  cases action with
  | sendFormLink formId recipientField templateId =>
    simp only [carryOut, sendFormLink_eq, hctx]
    exact law.mailing (law.formLinkMail _ _ _)
  | sendEmail templateId recipientField formId =>
    cases hgiven : given? templateId with
    | none =>
      simp only [carryOut, sendEmail, hgiven]
      exact law.raise _
    | some id =>
      simp only [carryOut, sendEmail_eq _ _ id hgiven, hctx]
      exact law.mailing (law.templateMail _ _ _)
  | moveCard | updateField => cases hmail

end ActingLaw

namespace ReadingLaw

section

variable (law : ReadingLaw J env fails card.id?) {depth : Int} {Q : Json → Prop}
  (hattempt : ∀ (ctx : ActionContext) (payload : Json), ctx.card = card → ctx.depth = depth →
    Q payload → J _ fun i => Engine.attempt (env.failing (fails i)) (h i) ctx payload)

include law hattempt

theorem perform (ctx : ActionContext) (hctx : ctx.card = card) (hdepth : ctx.depth = depth)
    (payload : Json) (hpayload : Q payload) :
    J _ fun i => Engine.perform (env.failing (fails i)) (h i) ctx payload := by
  unfold Engine.perform
  simp only [tryAction_eq]
  have hshown : Tells (showAction ctx (Action.recordedType payload)) :=
    Tells.bind (Tells.annotate _ _) (Tells.bind (Tells.annotate _ _)
      (Tells.bind (Tells.annotate _ _) (Tells.annotateOf _ _)))
  refine law.seq (law.spanning _ (law.seq (law.told hshown) fun _ =>
    law.concluded ctx _ (hattempt ctx payload hctx hdepth hpayload))) fun result => ?_
  cases result with
  | success => exact law.seq (law.told (Tells.count _ _)) fun _ => law.pure _
  | error => exact law.pure _

theorem performAll (ctx : ActionContext) (hctx : ctx.card = card) (hdepth : ctx.depth = depth) :
    ∀ payloads, (∀ payload ∈ payloads, Q payload) →
      J _ fun i => Engine.performAll (env.failing (fails i)) (h i) ctx payloads
  | [], _ => law.pure []
  | payload :: payloads, hall => by
    obtain ⟨hpayload, hrest⟩ := List.forall_mem_cons.mp hall
    unfold Engine.performAll
    refine law.seq (perform law hattempt ctx hctx hdepth payload hpayload) fun record => ?_
    split
    · exact law.pure _
    · exact law.seq (performAll ctx hctx hdepth payloads hrest) fun _ => law.pure _

theorem executionOf (a : AutomationView) (ha : ∀ payload ∈ a.actions, Q payload) :
    J _ fun i => Engine.execution (env.failing (fails i)) (h i) a card depth := by
  unfold Engine.execution
  refine law.seq (law.gate a) fun met => ?_
  split
  · exact law.pure _
  · exact law.seq (performAll law hattempt _ rfl rfl _ ha) fun _ => law.pure _

variable (hentered : ∀ e : LogEntry, e.card.id? = card.id? →
    J Unit fun i => appendLog (env.failing (fails i)) e)

include hentered

theorem execute (a : AutomationView) (ha : ∀ payload ∈ a.actions, Q payload)
    (triggerType : String) :
    J _ fun i => Engine.execute (env.failing (fails i)) (h i) a card triggerType depth := by
  unfold Engine.execute enter
  exact law.spanning _ (law.seq (law.told (Tells.annotate _ _)) fun _ =>
    law.seq (law.told (Tells.annotate _ _)) fun _ =>
      law.seq (executionOf law hattempt a ha) fun e =>
        law.seq (law.seq (hentered _ rfl) fun _ => law.seq (law.told (Tells.count _ _)) fun _ =>
          law.told (Tells.log _ _ _ _)) fun _ =>
            law.seq (law.told (Tells.annotate _ _)) fun _ => law.pure e)

theorem executeMatching (triggerType : String) :
    ∀ examined, (∀ p ∈ examined, ∀ payload ∈ p.1.actions, Q payload) → J _ fun i =>
      Engine.executeMatching (env.failing (fails i)) (h i) card triggerType depth examined
  | [], _ => law.pure []
  | p :: rest, hall => by
    obtain ⟨hp, hrest⟩ := List.forall_mem_cons.mp hall
    simp only [executeMatching_cons]
    refine law.seq ?_ fun d => law.seq (executeMatching triggerType rest hrest) fun _ => law.pure _
    unfold turn
    split
    · exact law.map _ (execute law hattempt hentered p.1 hp triggerType)
    · exact law.pure _

/-- What follows once the automations have been looked up. -/
theorem afterOpening (triggerType : String) (pipe : RowRef)
    (found : Option (List (AutomationView × ReportDetail)))
    (hfound : ∀ examined, found = some examined →
      ∀ p ∈ examined, ∀ payload ∈ p.1.actions, Q payload) :
    J _ fun i => match found with
      | none => Engine.log .warning runLogger "automation.pipe_not_found"
          [("pipe_id", .str pipe.text), ("card_id", .str card.text),
            ("trigger_type", .str triggerType)] >>= fun _ => Pure.pure {}
      | some examined =>
        Engine.executeMatching (env.failing (fails i)) (h i) card triggerType depth examined >>=
          fun details => tellRun triggerType card pipe depth (reportOf details) >>= fun _ =>
            Pure.pure (reportOf details) := by
  cases found with
  | none => exact law.seq (law.told (Tells.log _ _ _ _)) fun _ => law.pure _
  | some examined =>
    refine law.seq (executeMatching law hattempt hentered triggerType examined (hfound _ rfl))
      fun details => law.seq (law.told ?_) fun _ => law.pure _
    exact Tells.bind (Tells.annotate _ _) (Tells.bind (Tells.annotate _ _) (Tells.log _ _ _ _))

end

section

variable (law : ReadingLaw J env fails card.id?) {depth : Int}

include law

/-- What a law says of a run in its span, it says of the run. -/
theorem runOf {triggerType : String} {pipe : RowRef} {occasion : Occasion}
    (hspan : J _ fun i =>
      Engine.runInSpan (env.failing (fails i)) (h i) triggerType card pipe occasion depth) :
    J _ fun i => Engine.run (env.failing (fails i)) (h i) triggerType card pipe occasion depth := by
  unfold Engine.run withDepth
  exact law.withAmbient _ (law.held (law.spanning _ hspan) fun _ =>
    Tells.bind (Tells.count _ _) (Tells.count _ _))

variable (hattempt : ∀ (ctx : ActionContext) (payload : Json), ctx.card = card →
  ctx.depth = depth → J _ fun i => Engine.attempt (env.failing (fails i)) (h i) ctx payload)

include hattempt

theorem execution (a : AutomationView) :
    J _ fun i => Engine.execution (env.failing (fails i)) (h i) a card depth :=
  law.executionOf (Q := fun _ => True) (fun ctx payload hctx hdepth _ =>
    hattempt ctx payload hctx hdepth) a fun _ _ => trivial

/-- What a law says of reading, of the attempts at actions and of the audit log, it says of a
run. -/
theorem run (hentered : ∀ e : LogEntry, e.card.id? = card.id? →
      J Unit fun i => appendLog (env.failing (fails i)) e)
    (triggerType : String) (pipe : RowRef) (occasion : Occasion) :
    J _ fun i => Engine.run (env.failing (fails i)) (h i) triggerType card pipe occasion depth := by
  refine law.runOf ?_
  simp only [runInSpan_eq]
  exact law.seq (law.told (tells_showRun triggerType card pipe depth)) fun _ =>
    law.seq (law.opened triggerType pipe occasion) fun found =>
      law.afterOpening (Q := fun _ => True) (fun ctx payload hctx hdepth _ =>
        hattempt ctx payload hctx hdepth) hentered triggerType pipe found
        fun _ _ _ _ _ _ => trivial

end
end ReadingLaw

/-- What a law says of the steps of a run, it says of the run. -/
theorem RunningLaw.run (law : RunningLaw J env fails h card.id?) (triggerType : String)
    (pipe : RowRef) (occasion : Occasion) (depth : Int) :
    J _ fun i => Engine.run (env.failing (fails i)) (h i) triggerType card pipe occasion depth :=
  law.toReadingLaw.run (fun ctx payload hctx _ => law.attempt ctx hctx payload) law.entered
    triggerType pipe occasion

theorem RunningLaw.runCascade {request : CascadeRequest}
    (law : RunningLaw J env fails h request.card?) :
    J _ fun i => Engine.runCascade (env.failing (fails i)) (h i) request := by
  have law' : RunningLaw J env fails h (RowRef.ofText request.cardId).id? := law
  unfold Engine.runCascade withCorrelation
  exact law.withAmbient _ (law'.run _ _ _ _)

end Engine
end BoardRules
