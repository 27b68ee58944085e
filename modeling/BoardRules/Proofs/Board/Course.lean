import BoardRules.Board.Edit
import BoardRules.Proofs.Engine.Reading
import BoardRules.Proofs.Store.Evolution

/-! What becomes of a user's request to the board. It is refused, or finds nothing to change, and
then nothing happens; or one change is committed and then published. Whatever the automations make
of what is published, the request is answered. -/
namespace BoardRules

namespace Store

variable {s : Store} {card stage form : Uuid}

theorem findCard_eq_ok {row : CardRow} (h : s.findCard card = .ok row) :
    row.id = card ∧ s.card? row.id = some row := by
  unfold findCard at h
  split at h
  · rename_i found hfound
    cases h
    obtain rfl := id_of_card? hfound
    exact ⟨rfl, hfound⟩
  · cases h

theorem findForm_eq_ok {row : FormRow} (h : s.findForm form = .ok row) :
    row.id = form ∧ s.form? row.id = some row := by
  unfold findForm at h
  split at h
  · rename_i found hfound
    cases h
    obtain rfl := id_of_form? hfound
    exact ⟨rfl, hfound⟩
  · cases h

theorem findStage_eq_ok {row : StageRow} (h : s.findStage stage = .ok row) :
    row.id = stage ∧ s.stage? row.id = some row := by
  unfold findStage at h
  split at h
  · rename_i found hfound
    cases h
    obtain rfl := id_of_stage? hfound
    exact ⟨rfl, hfound⟩
  · cases h

theorem userMove_eq_error {f : BoardFailure} (h : s.userMove card stage = .error f) :
    s.card? card = none ∨ s.stage? stage = none := by
  unfold userMove findCard findStage at h
  cases hcard : s.card? card with
  | none => exact .inl rfl
  | some row =>
    cases hstage : s.stage? stage with
    | none => exact .inr rfl
    | some target =>
      rw [hcard, hstage] at h
      obtain h | ⟨_, h, hrest⟩ := bind_eq_error.mp h
      · cases h
      · cases h
        obtain h | ⟨_, h, hrest⟩ := bind_eq_error.mp hrest
        · cases h
        · split at hrest <;> cases hrest

theorem userMove_eq_none {row : CardRow} (h : s.userMove card stage = .ok (row, none)) :
    s.card? card = some row ∧ row.stage = some stage := by
  unfold userMove at h
  obtain ⟨row', hrow, h⟩ := bind_eq_ok.mp h
  obtain ⟨target, htarget, h⟩ := bind_eq_ok.mp h
  split at h
  · rename_i hsame
    cases h
    obtain ⟨rfl, hcard⟩ := findCard_eq_ok hrow
    obtain ⟨rfl, -⟩ := findStage_eq_ok htarget
    exact ⟨hcard, hsame⟩
  · cases h

/-- A user's move is one of a card that is stored, to a stage that is stored and in which the card
is not. -/
theorem userMove_eq_some {row : CardRow} {move : CardMove}
    (h : s.userMove card stage = .ok (row, some move)) :
    row.id = card ∧ s.card? row.id = some row ∧
      ∃ target, target.id = stage ∧ s.stage? target.id = some target ∧ row.stage ≠ some target.id ∧
        move = s.moveInto row target := by
  unfold userMove at h
  obtain ⟨row', hrow, h⟩ := bind_eq_ok.mp h
  obtain ⟨target, htarget, h⟩ := bind_eq_ok.mp h
  split at h
  · cases h
  · rename_i hother
    cases h
    obtain ⟨hid, hcard⟩ := findCard_eq_ok hrow
    obtain ⟨hstage, hfound⟩ := findStage_eq_ok htarget
    exact ⟨hid, hcard, target, hstage, hfound, hother, rfl⟩

end Store

namespace Engine

/-- The run that an event asks for, under the correlation id that is ambient. -/
def eventRun (env : Environment) (h : HandOver) (r : EventRun) : Engine Report := do
  configured env
  let depth ← ofExcept (r.noted.notedDepth.mapError Fault.integer)
  runOn env h r.trigger (.ofJson r.card) (.ofJson r.pipe) r.context (some depth)

/-- Whichever way the run ends, the event is answered; nothing but the run leaves a mark. -/
theorem answer_cases (env : Environment) (h : HandOver) (event : String) (r : EventRun)
    (w : World) :
    ∃ w', exec (answer env h event r) w = (.ok (), w') ∧
      w'.ledger = { (exec (eventRun env h r)
        (w.within { w.ambient with correlation := r.correlation })).2.ledger with
          ambient := w.ambient } := by
  have hanswer : answer env h event r = withCorrelation r.correlation
      (outcome (eventRun env h r) >>= _) := rfl
  rw [hanswer, withCorrelation, exec_withAmbient, exec_bind_ok (exec_outcome _ _)]
  cases hran : exec (eventRun env h r) (w.within { w.ambient with correlation := r.correlation })
    with
  | mk result w₁ =>
    cases result with
    | ok report => exact ⟨_, rfl, rfl⟩
    | error f =>
      refine ⟨_, rfl, ?_⟩
      rw [World.ledger_within]
      exact congrArg (fun l : Ledger => { l with ambient := w.ambient })
        (quiet_logFault lifecycleLogger (by decide) _ _ w₁)

theorem hear_ends (env : Environment) (h : HandOver) (event : String) (payload : Json)
    (l : Listener) (w : World) :
    ∃ w', exec (hear env h event payload l) w = (.ok (), w') := by
  cases l with
  | lifecycle => exact ⟨_, rfl⟩
  | automations =>
    unfold hear
    cases EventRun.of? event payload with
    | none => exact ⟨w, rfl⟩
    | some r =>
      obtain ⟨w', hexec, -⟩ := answer_cases env h event r w
      exact ⟨w', hexec⟩

theorem deliver_ends (env : Environment) (h : HandOver) (event : String) (payload : Json)
    (w : World) :
    ∃ w', exec (deliver env h event payload) w = (.ok (), w') := by
  unfold deliver
  generalize Listener.bus.handlers event = listeners
  induction listeners generalizing w with
  | nil => exact ⟨w, rfl⟩
  | cons l ls ih =>
    obtain ⟨w₁, hw₁⟩ := hear_ends env h event payload l w
    obtain ⟨w₂, hw₂⟩ := ih w₁
    exact ⟨w₂, (exec_bind_ok hw₁ _).trans hw₂⟩

theorem publish_ends (env : Environment) (h : HandOver) (envelope : Entries) (w : World) :
    ∃ w', exec (publish env h envelope) w = (.ok (), w') := by
  unfold publish
  rw [exec_bind_ok (exec_get w), exec_bind_ok (exec_emit _ _)]
  cases Envelope.eventName? (Envelope.complete w.ambient envelope) with
  | none => exact ⟨_, rfl⟩
  | some event => exact deliver_ends env h event _ _

end Engine

open Engine

/-- The world after an event has been published. -/
@[irreducible] def World.published (w : World) (env : Environment) (h : HandOver)
    (event : BoardEvent) : World :=
  (exec (publish env h event.envelope) w).2

/-- Whatever becomes of the run that an event sets off, publishing it succeeds. -/
theorem Engine.exec_publish (env : Environment) (h : HandOver) (event : BoardEvent) (w : World) :
    exec (publish env h event.envelope) w = (.ok (), w.published env h event) := by
  obtain ⟨w', hexec⟩ := publish_ends env h event.envelope w
  unfold World.published
  rw [hexec]

namespace Board

variable {α : Type} {env : Environment} {h : HandOver} {w : World} {card stage form : Uuid}

/-- An answer to a request that was not carried out. -/
def IsRefusal (r : Except Fault (Except BoardFailure α)) : Prop := ∀ a, r ≠ .ok (.ok a)

theorem isRefusal_fault (f : Fault) : IsRefusal (.error f : Except Fault (Except BoardFailure α)) :=
  fun _ h => by cases h

theorem isRefusal_failure (f : BoardFailure) :
    IsRefusal (.ok (.error f) : Except Fault (Except BoardFailure α)) :=
  fun _ h => by cases h

theorem exec_rows (hboard : env.boardFails = false) (w : World) :
    exec (rows env) w = (.ok w.store, w) := by
  unfold rows
  rw [hboard]
  rfl

/-- Without the tables a request ends before it has done anything. -/
theorem exec_rows_bind_cut {β : Type} (hboard : env.boardFails = true) (f : Store → Engine β)
    (w : World) : exec (rows env >>= f) w = (.error .database, w) := by
  have hrows : exec (rows env) w = (.error .database, w) := by
    unfold rows
    rw [hboard]
    rfl
  exact exec_bind_error hrows f

/-- The card as it is shown when a request has changed it. -/
def sheetOf (row : CardRow) (w : World) : CardSheet := ⟨row, w.store.fieldRows row.id⟩

end Board

/-- The world in which a move that a user asks for is committed. -/
def World.moved (w : World) (move : CardMove) : World :=
  (w.ticked.storing (w.store.applyMove move (.live w.step w.tick))).noted (.log {
    level := .info
    logger := Board.logger
    message := "board.card.moved"
    correlation := w.ambient.correlation
    fields := [("card_id", .str move.card.text), ("stage_id", .str move.toStage.text)] })

/-- The world in which a field that a user sets is committed. -/
def World.fieldSet (w : World) (card : Uuid) (key type : String) (value : Json) : World :=
  w.ticked.storing (w.store.setField card key type value (.live w.step w.tick))

/-- The next submission, if it is made now. -/
def World.submission (w : World) (card form : Uuid) (responses : Entries) (email : Option String) :
    Submission :=
  ⟨"submission-" ++ Decimal.natText (w.submitted + 1),
    ⟨card, form, .obj responses, email, .live w.step w.tick⟩⟩

/-- The world in which the next submission is committed. -/
def World.submitting (w : World) (row : SubmissionRow) : World :=
  { w.ticked with submitted := w.submitted + 1 }.storing (w.store.addSubmission row)

theorem World.ledger_moved (w : World) (move : CardMove) : (w.moved move).ledger =
    { w.ledger with store := w.store.applyMove move (.live w.step w.tick) } :=
  quiet_log Board.logger (by decide) .info "board.card.moved" _
    (w.ticked.storing (w.store.applyMove move (.live w.step w.tick)))

theorem World.ledger_fieldSet (w : World) (card : Uuid) (key type : String) (value : Json) :
    (w.fieldSet card key type value).ledger =
      { w.ledger with store := w.store.setField card key type value (.live w.step w.tick) } := rfl

theorem World.ledger_submitting (w : World) (row : SubmissionRow) :
    (w.submitting row).ledger = { w.ledger with store := w.store.addSubmission row } := rfl

namespace Board

/-- A move that a user asks for is refused, or the card is in the stage already; or the move is
committed and then published. -/
theorem exec_moveCard (env : Environment) (h : HandOver) (card stage : Uuid) (w : World) :
    exec (moveCard env h card stage) w =
      if env.boardFails then (.error .database, w)
      else
        match w.store.userMove card stage with
        | .error f => (.ok (.error f), w)
        | .ok (row, none) => (.ok (.ok (sheetOf row w)), w)
        | .ok (row, some move) =>
          (.ok (.ok (sheetOf
              { row with stage := some move.toStage, updatedAt := .live w.step w.tick }
              ((w.moved move).published env h (.stageChanged move)))),
            (w.moved move).published env h (.stageChanged move)) := by
  cases hboard : env.boardFails with
  | true => exact exec_rows_bind_cut hboard _ w
  | false =>
    have hcommit : ∀ move : CardMove, exec (commit fun s => s.applyMove move (.live w.step w.tick))
        w.ticked = (.ok (), w.ticked.storing (w.store.applyMove move (.live w.step w.tick))) :=
      fun _ => rfl
    unfold moveCard
    rw [exec_bind_ok (exec_rows hboard w), if_neg Bool.false_ne_true]
    rcases w.store.userMove card stage with f | ⟨row, none | move⟩
    · rfl
    · rfl
    · dsimp only
      rw [exec_bind_ok (exec_now w), exec_bind_ok (hcommit move), exec_bind_ok (exec_log _ _ _ _ _)]
      exact exec_bind_ok (exec_publish env h (.stageChanged move) (w.moved move)) _

/-- A field that a user sets is refused, or it is committed and then published. -/
theorem exec_setField (env : Environment) (h : HandOver) (card : Uuid) (key type : String)
    (value : Json) (w : World) :
    exec (setField env h card key type value) w =
      if env.boardFails then (.error .database, w)
      else
        match w.store.findCard card with
        | .error f => (.ok (.error f), w)
        | .ok row =>
          let event := BoardEvent.fieldChanged row.id (w.store.pipeOf row) key value
          (.ok (.ok (sheetOf { row with updatedAt := .live w.step w.tick }
              ((w.fieldSet row.id key type value).published env h event))),
            (w.fieldSet row.id key type value).published env h event) := by
  cases hboard : env.boardFails with
  | true => exact exec_rows_bind_cut hboard _ w
  | false =>
    have hcommit : ∀ row : CardRow,
        exec (commit fun s => s.setField row.id key type value (.live w.step w.tick)) w.ticked =
          (.ok (), w.fieldSet row.id key type value) := fun _ => rfl
    unfold setField
    rw [exec_bind_ok (exec_rows hboard w), if_neg Bool.false_ne_true]
    rcases w.store.findCard card with f | row
    · rfl
    · dsimp only
      rw [exec_bind_ok (exec_now w), exec_bind_ok (hcommit row)]
      exact exec_bind_ok (exec_publish env h _ (w.fieldSet row.id key type value)) _

theorem exec_submit (hboard : env.boardFails = false) (row : CardRow) (target : FormRow)
    (responses : Entries) (email : Option String) (w : World) :
    exec (submit env h row target responses email) w =
      let done := w.submission row.id target.id responses email
      (.ok done, (w.submitting done.row).published env h
        (.formSubmitted row.id (w.store.pipeOfForm target) target.id done.id)) := by
  have hnext : exec nextSubmission w.ticked =
      (.ok (w.submission row.id target.id responses email).id,
        { w.ticked with submitted := w.submitted + 1 }) := rfl
  have hcommit : exec (commit fun s =>
      s.addSubmission (w.submission row.id target.id responses email).row)
      { w.ticked with submitted := w.submitted + 1 } =
        (.ok (), w.submitting (w.submission row.id target.id responses email).row) := rfl
  unfold submit
  rw [exec_bind_ok (exec_rows hboard w), exec_bind_ok (exec_now w)]
  dsimp only
  rw [exec_bind_ok hnext]
  exact (exec_bind_ok hcommit _).trans (exec_bind_ok (exec_publish env h _ _) _)

/-- A form that a user submits is refused, or it is committed and then published. -/
theorem exec_submitForm (env : Environment) (h : HandOver) (card form : Uuid)
    (responses : Entries) (email : Option String) (w : World) :
    exec (submitForm env h card form responses email) w =
      if env.boardFails then (.error .database, w)
      else
        match w.store.findCard card, w.store.findForm form with
        | .error f, _ => (.ok (.error f), w)
        | .ok _, .error f => (.ok (.error f), w)
        | .ok row, .ok target =>
          let done := w.submission row.id target.id responses email
          (.ok (.ok done), (w.submitting done.row).published env h
            (.formSubmitted row.id (w.store.pipeOfForm target) target.id done.id)) := by
  cases hboard : env.boardFails with
  | true => exact exec_rows_bind_cut hboard _ w
  | false =>
    unfold submitForm
    rw [exec_bind_ok (exec_rows hboard w), if_neg Bool.false_ne_true]
    rcases w.store.findCard card with f | row
    · rfl
    · rcases w.store.findForm form with f | target
      · rfl
      · dsimp only
        rw [exec_map, exec_submit hboard]
        rfl

/-- A move that a user asks for is refused; or the card is in the stage already, and nobody is told;
or it is committed and published. -/
theorem moveCard_cases (env : Environment) (h : HandOver) (card stage : Uuid) (w : World) :
    (∃ r, IsRefusal r ∧ exec (moveCard env h card stage) w = (r, w) ∧
      (env.boardFails = true ∨ w.store.card? card = none ∨ w.store.stage? stage = none)) ∨
    (∃ row, w.store.card? card = some row ∧ row.stage = some stage ∧
      exec (moveCard env h card stage) w = (.ok (.ok (sheetOf row w)), w)) ∨
    ∃ (row : CardRow) (target : StageRow) (w₁ : World) (sheet : CardSheet),
      w.store.card? row.id = some row ∧ row.id = card ∧
      w.store.stage? target.id = some target ∧ target.id = stage ∧ row.stage ≠ some stage ∧
      w₁.ledger = { w.ledger with
        store := w.store.applyMove (w.store.moveInto row target) (.live w.step w.tick) } ∧
      exec (moveCard env h card stage) w =
        (.ok (.ok sheet), w₁.published env h (.stageChanged (w.store.moveInto row target))) := by
  rw [exec_moveCard]
  cases hboard : env.boardFails with
  | true => exact .inl ⟨_, isRefusal_fault _, rfl, .inl rfl⟩
  | false =>
    rw [if_neg Bool.false_ne_true]
    rcases hmove : w.store.userMove card stage with f | ⟨row, none | move⟩
    · exact .inl ⟨_, isRefusal_failure f, rfl, .inr (Store.userMove_eq_error hmove)⟩
    · obtain ⟨hcard, hsame⟩ := Store.userMove_eq_none hmove
      exact .inr (.inl ⟨row, hcard, hsame, rfl⟩)
    · obtain ⟨hid, hcard, target, hstage, htarget, hother, rfl⟩ := Store.userMove_eq_some hmove
      rw [hstage] at hother
      exact .inr (.inr ⟨row, target, _, _, hcard, hid, htarget, hstage, hother, w.ledger_moved _,
        rfl⟩)

/-- A field that a user sets is refused, or it is committed and published. -/
theorem setField_cases (env : Environment) (h : HandOver) (card : Uuid) (key type : String)
    (value : Json) (w : World) :
    (∃ r, IsRefusal r ∧ exec (setField env h card key type value) w = (r, w)) ∨
    ∃ (row : CardRow) (w₁ : World) (sheet : CardSheet),
      w.store.card? row.id = some row ∧ row.id = card ∧
      w₁.ledger = { w.ledger with
        store := w.store.setField row.id key type value (.live w.step w.tick) } ∧
      exec (setField env h card key type value) w = (.ok (.ok sheet),
        w₁.published env h (.fieldChanged row.id (w.store.pipeOf row) key value)) := by
  rw [exec_setField]
  cases hboard : env.boardFails with
  | true => exact .inl ⟨_, isRefusal_fault _, rfl⟩
  | false =>
    rw [if_neg Bool.false_ne_true]
    cases hfound : w.store.findCard card with
    | error f => exact .inl ⟨_, isRefusal_failure f, rfl⟩
    | ok row =>
      obtain ⟨hid, hcard⟩ := Store.findCard_eq_ok hfound
      exact .inr ⟨row, _, _, hcard, hid, w.ledger_fieldSet row.id key type value, rfl⟩

/-- A field that a user has set was committed first and published then. -/
theorem setField_eq_ok {key type : String} {value : Json} {sheet : CardSheet} {w' : World}
    (hexec : exec (setField env h card key type value) w = (.ok (.ok sheet), w')) :
    ∃ (w₁ : World) (pipe : Option Uuid) (time : Moment),
      w₁.store = w.store.setField card key type value time ∧
      w' = w₁.published env h (.fieldChanged card pipe key value) := by
  rcases setField_cases env h card key type value w with
    ⟨r, hrefused, hcase⟩ | ⟨row, w₁, sheet', -, rfl, hledger, hcase⟩
  · cases hexec.symm.trans hcase
    exact absurd rfl (hrefused sheet)
  · cases hexec.symm.trans hcase
    exact ⟨w₁, _, _, congrArg Ledger.store hledger, rfl⟩

/-- A form that a user submits is refused, or it is committed and published. -/
theorem submitForm_cases (env : Environment) (h : HandOver) (card form : Uuid)
    (responses : Entries) (email : Option String) (w : World) :
    (∃ r, IsRefusal r ∧ exec (submitForm env h card form responses email) w = (r, w)) ∨
    ∃ (row : CardRow) (target : FormRow) (w₁ : World) (done : Submission),
      w.store.card? row.id = some row ∧ row.id = card ∧
      w.store.form? target.id = some target ∧ target.id = form ∧
      done.row = ⟨row.id, target.id, .obj responses, email, .live w.step w.tick⟩ ∧
      w₁.ledger = { w.ledger with store := w.store.addSubmission done.row } ∧
      exec (submitForm env h card form responses email) w = (.ok (.ok done),
        w₁.published env h
          (.formSubmitted row.id (w.store.pipeOfForm target) target.id done.id)) := by
  rw [exec_submitForm]
  cases hboard : env.boardFails with
  | true => exact .inl ⟨_, isRefusal_fault _, rfl⟩
  | false =>
    rw [if_neg Bool.false_ne_true]
    cases hcard : w.store.findCard card with
    | error f => exact .inl ⟨_, isRefusal_failure f, rfl⟩
    | ok row =>
      cases hform : w.store.findForm form with
      | error f => exact .inl ⟨_, isRefusal_failure f, rfl⟩
      | ok target =>
        obtain ⟨hid, hstored⟩ := Store.findCard_eq_ok hcard
        obtain ⟨hformId, hformStored⟩ := Store.findForm_eq_ok hform
        exact .inr ⟨row, target, _, w.submission row.id target.id responses email, hstored, hid,
          hformStored, hformId, rfl, w.ledger_submitting _, rfl⟩

theorem showCard_still (env : Environment) (card : Uuid) (w : World) :
    (exec (showCard env card) w).2 = w := by
  cases hboard : env.boardFails with
  | true => exact congrArg Prod.snd (exec_rows_bind_cut hboard _ w)
  | false =>
    unfold showCard
    rw [exec_bind_ok (exec_rows hboard w)]
    cases w.store.findCard card <;> rfl

end Board
end BoardRules
