import BoardRules.Proofs.Board.Course
import BoardRules.Proofs.Run.Selection
import BoardRules.Proofs.Uuid

/-! What a change on the board sets off: one run, for the card and in the pipe that it concerns,
which is told just what has changed. -/
namespace BoardRules

open Engine

theorem RowRef.ofJson_text (u : Uuid) : RowRef.ofJson (.str u.text) = .ofUuid u := by
  have hread : Uuid.ofJson? (.str u.text) = Uuid.ofText? u.text := rfl
  unfold RowRef.ofJson RowRef.ofUuid
  rw [hread, Uuid.ofText?_text]
  rfl

theorem Uuid.text_isTruthy (u : Uuid) : (Json.str u.text).isTruthy = true := by
  have hchars : u.chars ≠ [] := by
    unfold chars grouped
    exact List.append_ne_nil_of_right_ne_nil _ (List.cons_ne_nil _ _)
  unfold Json.isTruthy text
  rw [Bool.not_eq_true', ← Bool.not_eq_true, String.isEmpty_iff, String.ofList_eq_empty_iff]
  exact hchars

/-- A correlation id as a run takes it over from an event: anything but text counts as none. -/
def Json.textOrNull : Json → Json
  | .str s => .str s
  | _ => .null

theorem EventRun.of?_eq {event triggerType : String} {envelope body : Entries}
    (htrigger : triggerOfEvent? event = some triggerType)
    (hbody : envelope.getD "payload" = .obj body) :
    EventRun.of? event (.obj envelope) =
      if (body.getD "card_id").isTruthy && (body.getD "pipe_id").isTruthy then
        some ⟨triggerType, body.getD "card_id", body.getD "pipe_id", contextOfEvent event body,
          (envelope.getD "correlation_id").textOrNull, envelope.getD "meta"⟩
      else none := by
  unfold EventRun.of?
  dsimp only
  rw [htrigger, hbody]
  rfl

namespace BoardEvent

def triggerType : BoardEvent → String
  | .stageChanged _ => "card_enters_stage"
  | .fieldChanged .. => "card_field_value"
  | .formSubmitted .. => "form_submission"

def card : BoardEvent → Uuid
  | .stageChanged move => move.card
  | .fieldChanged card .. | .formSubmitted card .. => card

def pipe? : BoardEvent → Option Uuid
  | .stageChanged move => some move.pipe
  | .fieldChanged _ pipe .. | .formSubmitted _ pipe .. => pipe

def context : BoardEvent → TriggerContext
  | .stageChanged move => { stageId := some move.toStage.text }
  | .fieldChanged _ _ key value => { fieldKey := some key, fieldValue := value }
  | .formSubmitted _ _ form _ => { formId := some form.text }

/-- The context as it is written down for a run. -/
def contextJson : BoardEvent → Json
  | .stageChanged move => .obj [("stageId", .str move.toStage.text)]
  | .fieldChanged _ _ key value => .obj [("fieldKey", .str key), ("fieldValue", value)]
  | .formSubmitted _ _ form _ => .obj [("formId", .str form.text)]

theorem ofJson_contextJson (e : BoardEvent) :
    Occasion.ofJson e.contextJson = .ok (.told e.context) := by
  cases e <;> rfl

theorem complete_envelope (e : BoardEvent) (a : Ambient) :
    Envelope.complete a e.envelope = [("event_type", .str e.name), ("version", .int 1),
      ("payload", .obj e.payload), ("correlation_id", a.correlation),
      ("meta", .obj [("cascade_depth", .int a.depthOrZero)])] := by
  rfl

theorem eventName?_envelope (e : BoardEvent) (a : Ambient) :
    Envelope.eventName? (Envelope.complete a e.envelope) = some e.name := by
  rw [complete_envelope]
  cases e <;> rfl

theorem handlers_name (e : BoardEvent) : Listener.bus.handlers e.name = [.automations] := by
  cases e <;> rfl

theorem getD_card (e : BoardEvent) : e.payload.getD "card_id" = .str e.card.text := by
  cases e <;> rfl

theorem getD_pipe (e : BoardEvent) :
    e.payload.getD "pipe_id" = Json.ofText? (e.pipe?.map Uuid.text) := by
  cases e <;> rfl

theorem contextOfEvent_payload (e : BoardEvent) :
    contextOfEvent e.name e.payload = e.contextJson := by
  cases e <;> rfl

theorem triggerOfEvent?_name (e : BoardEvent) : triggerOfEvent? e.name = some e.triggerType := by
  cases e <;> rfl

/-- The run that an event asks for in a pipe. -/
def eventRun (e : BoardEvent) (a : Ambient) (pipe : Uuid) : EventRun where
  trigger := e.triggerType
  card := .str e.card.text
  pipe := .str pipe.text
  context := e.contextJson
  correlation := a.correlation.textOrNull
  noted := .obj [("cascade_depth", .int a.depthOrZero)]

/-- Where no pipe is known no run is asked for. -/
theorem of?_envelope (e : BoardEvent) (a : Ambient) :
    EventRun.of? e.name (.obj (Envelope.complete a e.envelope)) = e.pipe?.map (e.eventRun a) := by
  rw [complete_envelope, EventRun.of?_eq e.triggerOfEvent?_name rfl, getD_card, getD_pipe,
    contextOfEvent_payload, Uuid.text_isTruthy]
  cases e.pipe? with
  | none => rfl
  | some pipe =>
    have hpipe : Json.ofText? ((some pipe).map Uuid.text) = .str pipe.text := rfl
    rw [hpipe, Uuid.text_isTruthy, Bool.and_self, if_pos rfl]
    rfl

end BoardEvent

/-- One run is set off: for a card and in a pipe, told of a happening, under the correlation id and
at the depth that hold at the time. Where the settings are wrong it does not take place. -/
inductive SetsOff (env : Environment) (h : HandOver) (triggerType : String) (card pipe : Uuid)
    (context : TriggerContext) (w w' : World) : Prop where
  | run {w₀ w₁ : World} {r : Except Fault Report} (hsettings : env.misconfigured = [])
    (hstart : w₀.ledger = { w.ledger with
      ambient := { w.ambient with correlation := w.ambient.correlation.textOrNull } })
    (hrun : exec (run env h triggerType (.ofUuid card) (.ofUuid pipe) (.told context)
      (if 0 ≤ w.ambient.depthOrZero then w.ambient.depthOrZero else 0)) w₀ = (r, w₁))
    (hend : w'.ledger = { w₁.ledger with ambient := w.ambient }) :
    SetsOff env h triggerType card pipe context w w'
  | misconfigured (hsettings : env.misconfigured ≠ []) (hend : w'.ledger = w.ledger) :
    SetsOff env h triggerType card pipe context w w'

namespace Engine

variable {env : Environment} {h : HandOver}

theorem exec_eventRun {r : EventRun} {context : TriggerContext} {depth : Int}
    (hsettings : env.misconfigured = []) (hdepth : r.noted.notedDepth = .ok depth)
    (htold : Occasion.ofJson r.context = .ok (.told context)) (w : World) :
    exec (eventRun env h r) w =
      exec (run env h r.trigger (.ofJson r.card) (.ofJson r.pipe) (.told context) depth) w := by
  have hoccasion : occasionOf r.context = pure (.told context) := by
    unfold occasionOf
    rw [htold]
  unfold eventRun configured runOn
  rw [hsettings, hdepth, hoccasion]
  rfl

theorem exec_eventRun_misconfigured (hsettings : env.misconfigured ≠ []) (r : EventRun)
    (w : World) : (exec (eventRun env h r) w).2 = w := by
  unfold eventRun configured
  cases hwrong : env.misconfigured with
  | nil => exact absurd hwrong hsettings
  | cons e es => rfl

/-- A published event is told to the automations, and to nobody else. -/
theorem published_eq (env : Environment) (h : HandOver) (e : BoardEvent) (w : World) :
    w.published env h e =
      (exec (hear env h e.name (.obj (Envelope.complete w.ambient e.envelope)) .automations)
        (w.noted (.event (Envelope.complete w.ambient e.envelope)))).2 := by
  obtain ⟨w₁, hheard⟩ := hear_ends env h e.name (.obj (Envelope.complete w.ambient e.envelope))
    .automations (w.noted (.event (Envelope.complete w.ambient e.envelope)))
  unfold World.published publish
  rw [exec_bind_ok (exec_get w), exec_bind_ok (exec_emit _ _), e.eventName?_envelope]
  dsimp only
  unfold deliver
  rw [e.handlers_name, List.forM_eq_forM, List.forM_cons, exec_bind_ok hheard, hheard]
  rfl

theorem published_heard (env : Environment) (h : HandOver) (e : BoardEvent) (w : World) :
    ∃ w₀ : World, w₀.ledger = w.ledger ∧ (w.published env h e).ledger =
      (exec (hear env h e.name (.obj (Envelope.complete w.ambient e.envelope)) .automations)
        w₀).2.ledger :=
  ⟨w.noted (.event (Envelope.complete w.ambient e.envelope)),
    World.ledger_noted_eq (e := .event _) rfl rfl rfl w, by rw [published_eq]⟩

/-- An event with a known pipe sets off a run. -/
theorem setsOff_published (env : Environment) (h : HandOver) {e : BoardEvent} {pipe : Uuid}
    (hpipe : e.pipe? = some pipe) (w : World) :
    SetsOff env h e.triggerType e.card pipe e.context w (w.published env h e) := by
  obtain ⟨w₀, hw₀, hpublished⟩ := published_heard env h e w
  unfold hear at hpublished
  rw [e.of?_envelope, hpipe] at hpublished
  obtain ⟨w₁, hanswer, hledger⟩ := answer_cases env h e.name (e.eventRun w.ambient pipe) w₀
  have hambient : w₀.ambient = w.ambient := World.ambient_of_ledger hw₀
  have hend : (w.published env h e).ledger = w₁.ledger := by
    rw [hpublished]
    exact congrArg (fun p => p.2.ledger) hanswer
  rw [hambient] at hledger
  -- the settings are looked at first, under the event's correlation id; the old one comes back
  by_cases hsettings : env.misconfigured = []
  · rw [exec_eventRun hsettings rfl e.ofJson_contextJson] at hledger
    unfold BoardEvent.eventRun at hledger
    rw [RowRef.ofJson_text, RowRef.ofJson_text] at hledger
    refine .run hsettings ?_ rfl (hend.trans hledger)
    rw [World.ledger_within, hw₀]
  · rw [exec_eventRun_misconfigured hsettings] at hledger
    refine .misconfigured hsettings (hend.trans (hledger.trans ?_))
    rw [World.ledger_within, hw₀]
    rfl

/-- An event without one sets off nothing. -/
theorem still_published (env : Environment) (h : HandOver) {e : BoardEvent}
    (hpipe : e.pipe? = none) (w : World) : (w.published env h e).ledger = w.ledger := by
  obtain ⟨w₀, hw₀, hpublished⟩ := published_heard env h e w
  unfold hear at hpublished
  rw [e.of?_envelope, hpipe] at hpublished
  exact hpublished.trans hw₀

end Engine

namespace Board

variable {env : Environment} {h : HandOver} {card : Uuid} {w w' : World} {sheet : CardSheet}

/-- A card that a user moves is in its new stage when a run is told so; one that is there already
stays as it is. -/
theorem moveCard_setsOff {stage : Uuid}
    (hexec : exec (moveCard env h card stage) w = (.ok (.ok sheet), w')) :
    ∃ row, w.store.card? card = some row ∧
      (row.stage = some stage ∧ w' = w ∨
        row.stage ≠ some stage ∧ ∃ target, w.store.stage? stage = some target ∧ ∃ w₁ : World,
          w₁.ledger = { w.ledger with
            store := w.store.applyMove (w.store.moveInto row target) (.live w.step w.tick) } ∧
          SetsOff env h "card_enters_stage" card target.pipe { stageId := some stage.text }
            w₁ w') := by
  rcases moveCard_cases env h card stage w with
    ⟨r, hrefusal, hmove, -⟩ | ⟨row, hcard, hsame, hmove⟩ |
      ⟨row, target, w₁, sheet', hcard, rfl, hstage, rfl, hother, hledger, hmove⟩
  · rw [hexec] at hmove
    cases hmove
    exact absurd rfl (hrefusal sheet)
  · rw [hexec] at hmove
    cases hmove
    exact ⟨row, hcard, .inl ⟨hsame, rfl⟩⟩
  · rw [hexec] at hmove
    cases hmove
    have hoff := setsOff_published env h (e := .stageChanged (w.store.moveInto row target)) rfl w₁
    exact ⟨row, hcard, .inr ⟨hother, target, hstage, w₁, hledger, hoff⟩⟩

theorem setField_setsOff {key type : String} {value : Json}
    (hexec : exec (setField env h card key type value) w = (.ok (.ok sheet), w')) :
    ∃ row, w.store.card? card = some row ∧ ∃ w₁ : World,
      w₁.ledger = { w.ledger with
        store := w.store.setField card key type value (.live w.step w.tick) } ∧
      (∀ pipe, w.store.pipeOf row = some pipe →
        SetsOff env h "card_field_value" card pipe { fieldKey := some key, fieldValue := value }
          w₁ w') ∧
      (w.store.pipeOf row = none → w'.ledger = w₁.ledger) := by
  rcases setField_cases env h card key type value w with
    ⟨r, hrefusal, hset⟩ | ⟨row, w₁, sheet', hcard, rfl, hledger, hset⟩
  · rw [hexec] at hset
    cases hset
    exact absurd rfl (hrefusal sheet)
  · rw [hexec] at hset
    cases hset
    exact ⟨row, hcard, w₁, hledger,
      fun pipe hpipe => setsOff_published env h (e := .fieldChanged ..) hpipe w₁,
      fun hpipe => still_published env h (e := .fieldChanged ..) hpipe w₁⟩

theorem submitForm_setsOff {form : Uuid} {responses : Entries} {email : Option String}
    {done : Submission}
    (hexec : exec (submitForm env h card form responses email) w = (.ok (.ok done), w')) :
    ∃ target, w.store.form? form = some target ∧
      done.row = ⟨card, form, .obj responses, email, .live w.step w.tick⟩ ∧ ∃ w₁ : World,
      w₁.ledger = { w.ledger with store := w.store.addSubmission done.row } ∧
      (∀ pipe, w.store.pipeOfForm target = some pipe →
        SetsOff env h "form_submission" card pipe { formId := some form.text } w₁ w') ∧
      (w.store.pipeOfForm target = none → w'.ledger = w₁.ledger) := by
  rcases submitForm_cases env h card form responses email w with
    ⟨r, hrefusal, hsubmit⟩ |
      ⟨row, target, w₁, done', hcard, rfl, hform, rfl, hrow, hledger, hsubmit⟩
  · rw [hexec] at hsubmit
    cases hsubmit
    exact absurd rfl (hrefusal done)
  · rw [hexec] at hsubmit
    cases hsubmit
    exact ⟨target, hform, hrow, w₁, hledger,
      fun pipe hpipe => setsOff_published env h (e := .formSubmitted ..) hpipe w₁,
      fun hpipe => still_published env h (e := .formSubmitted ..) hpipe w₁⟩

theorem exists_answer {α : Type} {p : Except Fault (Except BoardFailure α) × World}
    (h : (p.1.toOption.bind Except.toOption).isSome = true) : ∃ a w', p = (.ok (.ok a), w') := by
  obtain ⟨f | f | a, w'⟩ := p
  · cases h
  · cases h
  · exact ⟨a, w', rfl⟩

end Board

/-- The automations that a run goes through are those that its trigger type calls for in the pipe,
each as often as it is stored, in the order in which they run. A change that a user makes to a card
sets off one run where a pipe is known, and that run is told just this change; a card that is moved
to the stage it is in sets off none. -/
theorem right_automations_run (env : Environment) (h : HandOver) :
    (∀ triggerType card pipe id context depth (w : World), w.store.namedPipe? pipe = some id →
      (∀ a ∈ w.store.automations, a.IsWritten) →
      ∃ rows r w', rows.Perm (w.store.automations.filter fun a => a.IsCalled id triggerType) ∧
        rows.Pairwise AutomationRow.Precedes ∧
        exec (run env h triggerType card pipe (.of context) depth) w = (r, w') ∧
        RunsThrough env h triggerType card context depth rows w w' r) ∧
    (∀ card stage w sheet w', exec (Board.moveCard env h card stage) w = (.ok (.ok sheet), w') →
      ∃ row, w.store.card? card = some row ∧
        (row.stage = some stage ∧ w' = w ∨
          row.stage ≠ some stage ∧ ∃ target, w.store.stage? stage = some target ∧ ∃ w₁ : World,
            w₁.ledger = { w.ledger with
              store := w.store.applyMove (w.store.moveInto row target) (.live w.step w.tick) } ∧
            SetsOff env h "card_enters_stage" card target.pipe { stageId := some stage.text }
              w₁ w')) ∧
    (∀ card key type value w sheet w',
      exec (Board.setField env h card key type value) w = (.ok (.ok sheet), w') →
      ∃ row, w.store.card? card = some row ∧ ∃ w₁ : World,
        w₁.ledger = { w.ledger with
          store := w.store.setField card key type value (.live w.step w.tick) } ∧
        (∀ pipe, w.store.pipeOf row = some pipe →
          SetsOff env h "card_field_value" card pipe { fieldKey := some key, fieldValue := value }
            w₁ w') ∧
        (w.store.pipeOf row = none → w'.ledger = w₁.ledger)) ∧
    ∀ card form responses email w done w',
      exec (Board.submitForm env h card form responses email) w = (.ok (.ok done), w') →
      ∃ target, w.store.form? form = some target ∧
        done.row = ⟨card, form, .obj responses, email, .live w.step w.tick⟩ ∧ ∃ w₁ : World,
        w₁.ledger = { w.ledger with store := w.store.addSubmission done.row } ∧
        (∀ pipe, w.store.pipeOfForm target = some pipe →
          SetsOff env h "form_submission" card pipe { formId := some form.text } w₁ w') ∧
        (w.store.pipeOfForm target = none → w'.ledger = w₁.ledger) := by
  refine ⟨fun triggerType card pipe id context depth w hpipe hwritten => ?_,
    fun _ _ _ _ _ hexec => Board.moveCard_setsOff hexec,
    fun _ _ _ _ _ _ _ hexec => Board.setField_setsOff hexec,
    fun _ _ _ _ _ _ _ hexec => Board.submitForm_setsOff hexec⟩
  obtain ⟨r, w', hrun, hthrough⟩ :=
    runsThrough_run env h triggerType card context depth hpipe hwritten
  exact ⟨_, r, w', w.store.automationRows_perm id triggerType,
    w.store.automationRows_ordered id triggerType, hrun, hthrough⟩

/-- On the watched board a run that is told of a card's entering the second stage executes the
automation that waits for it. A user moves the card there, sets a field of it and submits a form for
it, and each time a run is told so. -/
theorem right_automations_run_watched :
    (∃ rows r w', rows.Perm (Store.watched.automations.filter
        fun a => a.IsCalled ⟨1, by decide⟩ "card_enters_stage") ∧
      rows.Pairwise AutomationRow.Precedes ∧
      exec (run Environment.sample (inPlace Environment.sample openPool) "card_enters_stage"
        (.ofUuid ⟨3, by decide⟩) (.ofUuid ⟨1, by decide⟩)
          (.of (some { stageId := some (Uuid.text ⟨2, by decide⟩) })) 0)
        { store := Store.watched } = (r, w') ∧ r.toOption.map Report.executed =
          some ["Welcome"] ∧
      RunsThrough Environment.sample (inPlace Environment.sample openPool) "card_enters_stage"
        (.ofUuid ⟨3, by decide⟩) (some { stageId := some (Uuid.text ⟨2, by decide⟩) }) 0 rows
        { store := Store.watched } w' r) ∧
    (∃ w₁ w', SetsOff Environment.sample (inPlace Environment.sample openPool) "card_enters_stage"
      ⟨3, by decide⟩ ⟨1, by decide⟩ { stageId := some (Uuid.text ⟨2, by decide⟩) } w₁ w') ∧
    (∃ w₁ w', SetsOff Environment.sample (inPlace Environment.sample openPool) "card_field_value"
      ⟨3, by decide⟩ ⟨1, by decide⟩ { fieldKey := some "salary", fieldValue := .int 50 } w₁ w') ∧
    ∃ w₁ w', SetsOff Environment.sample (inPlace Environment.sample openPool) "form_submission"
      ⟨3, by decide⟩ ⟨1, by decide⟩ { formId := some (Uuid.text ⟨1, by decide⟩) } w₁ w' := by
  have hall := right_automations_run Environment.sample (inPlace Environment.sample openPool)
  obtain ⟨hruns, hmoves, hsets, hsubmits⟩ := hall
  refine ⟨?_, ?_, ?_, ?_⟩
  · have hwritten : ∀ a ∈ Store.watched.automations, a.IsWritten := by
      intro a ha
      simp only [Store.watched, List.mem_cons, List.not_mem_nil, or_false] at ha
      rcases ha with rfl | rfl | rfl <;> exact ⟨⟨_, rfl⟩, ⟨_, rfl⟩⟩
    obtain ⟨rows, r, w', hperm, hordered, hexec, hthrough⟩ :=
      hruns "card_enters_stage" (.ofUuid ⟨3, by decide⟩) (.ofUuid ⟨1, by decide⟩) ⟨1, by decide⟩
        (some { stageId := some (Uuid.text ⟨2, by decide⟩) }) 0 { store := Store.watched }
        (by decide) hwritten
    refine ⟨rows, r, w', hperm, hordered, hexec, ?_, hthrough⟩
    have hr : _ = r := congrArg Prod.fst hexec
    rw [← hr]
    decide +kernel
  · obtain ⟨sheet, w', hmove⟩ := Board.exists_answer (p := exec (Board.moveCard Environment.sample
      (inPlace Environment.sample openPool) ⟨3, by decide⟩ ⟨2, by decide⟩)
        { store := Store.watched }) (by decide +kernel)
    obtain ⟨row, hcard, ⟨hsame, -⟩ | ⟨-, target, hstage, w₁, -, hoff⟩⟩ := hmoves _ _ _ _ _ hmove
    · have hrow : (Store.watched.card? ⟨3, by decide⟩).bind CardRow.stage ≠
          some ⟨2, by decide⟩ := by decide
      rw [hcard] at hrow
      exact absurd hsame hrow
    · have hpipe : (Store.watched.stage? ⟨2, by decide⟩).map StageRow.pipe =
          some ⟨1, by decide⟩ := by decide
      rw [hstage] at hpipe
      have htarget : target.pipe = ⟨1, by decide⟩ := Option.some.inj hpipe
      rw [htarget] at hoff
      exact ⟨w₁, w', hoff⟩
  · obtain ⟨sheet, w', hset⟩ := Board.exists_answer (p := exec (Board.setField Environment.sample
      (inPlace Environment.sample openPool) ⟨3, by decide⟩ "salary" "text" (.int 50))
        { store := Store.watched }) (by decide +kernel)
    obtain ⟨row, hcard, w₁, -, hoff, -⟩ := hsets _ _ _ _ _ _ _ hset
    have hpipe : (Store.watched.card? ⟨3, by decide⟩).bind Store.watched.pipeOf =
        some ⟨1, by decide⟩ := by decide
    rw [hcard] at hpipe
    exact ⟨w₁, w', hoff _ hpipe⟩
  · obtain ⟨done, w', hsubmit⟩ := Board.exists_answer (p := exec (Board.submitForm
      Environment.sample (inPlace Environment.sample openPool) ⟨3, by decide⟩ ⟨1, by decide⟩ []
        none) { store := Store.watched }) (by decide +kernel)
    obtain ⟨target, hform, -, w₁, -, hoff, -⟩ := hsubmits _ _ _ _ _ _ _ hsubmit
    have hpipe : (Store.watched.form? ⟨1, by decide⟩).bind Store.watched.pipeOfForm =
        some ⟨1, by decide⟩ := by decide
    rw [hform] at hpipe
    exact ⟨w₁, w', hoff _ hpipe⟩

end BoardRules
