import BoardRules.Proofs.Action.Plan

/-! The courses that an action can take. It fails and leaves no mark; or a mail is accepted; or one
field is written; or the card is moved and then, the move being committed, a cascade is scheduled
once. Only in the last course does it matter who takes cascades over. -/
namespace BoardRules

namespace Store

/-- There is a card that a reference names, and it cannot be read. -/
def Illegible (s : Store) (card : RowRef) : Prop := ∃ g, s.viewCard card = .error (.read g)

/-- Whether what is stored keeps an action from being tried: it has to look at the card, or at the
stage to which the card is to be moved, and cannot read it. -/
def Blocks (s : Store) (card : RowRef) : Action → Prop
  | .sendFormLink .. => s.Illegible card
  | .sendEmail templateId _ _ =>
    (∃ id t, Engine.given? templateId = some id ∧ s.namedTemplate? id = some t) ∧
      s.Illegible card
  | .moveCard target =>
    s.Illegible card ∨
      (∃ v, s.cardFor card = .ok v) ∧ ∃ g, s.viewStage (.ofText target) = .error (.read g)
  | .updateField .. => False

theorem viewCard_eq_error {s : Store} {card : RowRef} {f : Fault}
    (h : s.viewCard card = .error f) : ∃ g, f = .read g := by
  unfold viewCard at h
  split at h
  · cases h
  · rename_i row _
    cases hview : s.cardView row with
    | ok v => rw [hview] at h; cases h
    | error g => rw [hview] at h; cases h; exact ⟨g, rfl⟩

theorem viewStage_eq_error {s : Store} {stage : RowRef} {f : Fault}
    (h : s.viewStage stage = .error f) : ∃ g, f = .read g := by
  unfold viewStage at h
  split at h
  · cases h
  · rename_i row _
    cases hview : s.stageView row with
    | ok v => rw [hview] at h; cases h
    | error g => rw [hview] at h; cases h; exact ⟨g, rfl⟩

theorem cardFor_eq_error {s : Store} {card : RowRef} {f : Fault} (h : s.cardFor card = .error f) :
    (∃ a, f = .action a) ∨ (∃ g, f = .read g) ∧ s.Illegible card := by
  unfold cardFor at h
  cases hview : s.viewCard card with
  | error e =>
    rw [hview] at h
    cases h
    obtain ⟨g, rfl⟩ := viewCard_eq_error hview
    exact .inr ⟨⟨g, rfl⟩, g, hview⟩
  | ok v =>
    rw [hview] at h
    exact .inl (Engine.OnlyAction.found .card v f h)

theorem stageFor_eq_error {s : Store} {stage : String} {f : Fault}
    (h : s.stageFor stage = .error f) :
    (∃ a, f = .action a) ∨ (∃ g, f = .read g ∧ s.viewStage (.ofText stage) = .error (.read g)) := by
  unfold stageFor at h
  cases hview : s.viewStage (.ofText stage) with
  | error e =>
    rw [hview] at h
    cases h
    obtain ⟨g, rfl⟩ := viewStage_eq_error hview
    exact .inr ⟨g, rfl, rfl⟩
  | ok v =>
    rw [hview] at h
    exact .inl (Engine.OnlyAction.found .targetStage v f h)

theorem Illegible.cardFor {s : Store} {card : RowRef} (h : s.Illegible card) :
    ∃ g, s.cardFor card = .error (.read g) := by
  obtain ⟨g, hg⟩ := h
  refine ⟨g, ?_⟩
  unfold Store.cardFor
  rw [hg]
  rfl

end Store

namespace Engine

/-- What makes an action end in a fault. -/
inductive FaultCause (env : Environment) (card : RowRef) (action : Action) (w : World) :
    Fault → Prop where
  | storage {f : Fault} (n : Nat) (hfails : env.storageFails n = true) (hf : f.isStorage = true) :
    FaultCause env card action w f
  | failure (a : ActionFailure) : FaultCause env card action w (.action a)
  | unreadable (g : ReadFault) (hblocks : w.store.Blocks card action) :
    FaultCause env card action w (.read g)
  | mail {f : Fault} (m : Message) (w₁ : World) (hledger : w₁.ledger = w.ledger)
    (hsend : (exec (send env m) w₁).1 = .error f) : FaultCause env card action w f

def moveReport (move : CardMove) (scheduled : Bool) : Entries :=
  [("movedFrom", Json.ofText? move.fromName), ("movedTo", .str move.toName),
    ("targetStageId", .str move.toStage.text), ("cascadeScheduled", .bool scheduled)]

def moveTo (s : Store) (row : CardRow) (stage : StageView) : CardMove :=
  Store.moveOf row (s.stageOf row) stage.id stage.name stage.pipeId

/-- The courses of an action, as it ends for each of those who may take cascades over. -/
inductive Course (env : Environment) (ctx : ActionContext) (action : Action) (w : World)
    (ending : HandOver → Except Fault Entries × World) : Prop where
  | failed (f : Fault) (w' : World) (hcause : FaultCause env ctx.card action w f)
    (hledger : w'.ledger = w.ledger) (hending : ∀ h, ending h = (.error f, w')) :
    Course env ctx action w ending
  | mailed (report : Entries) (w' : World)
    (hledger : w'.ledger = { w.ledger with accepted := w.ledger.accepted + 1 })
    (hending : ∀ h, ending h = (.ok report, w')) : Course env ctx action w ending
  | wrote (row : CardRow) (key : String) (value : Json) (tick : Nat) (w' : World)
    (haction : action = .updateField key value) (hid : ctx.card.id? = some row.id)
    (hrow : w.store.card? row.id = some row)
    (hledger : w'.ledger =
      { w.ledger with store := w.store.writeField row.id key value (.live w.step tick) })
    (hending : ∀ h, ending h = (.ok [("fieldKey", .str key), ("newValue", value)], w')) :
    Course env ctx action w ending
  | moved (target : String) (row : CardRow) (stage : StageView) (tick : Nat) (w₁ : World)
    (haction : action = .moveCard target) (hid : ctx.card.id? = some row.id)
    (hrow : w.store.card? row.id = some row) (hstage : w.store.stageFor target = .ok stage)
    (hledger : w₁.ledger =
      { w.ledger with store := w.store.applyMove (moveTo w.store row stage) (.live w.step tick) })
    (hending : ∀ h, ending h =
      ((exec (scheduleCascade env h (moveTo w.store row stage) ctx.depth) w₁).1.map
          (moveReport (moveTo w.store row stage)),
        (exec (scheduleCascade env h (moveTo w.store row stage) ctx.depth) w₁).2)) :
    Course env ctx action w ending

variable {env : Environment} {ctx : ActionContext} {action : Action} {w : World}

theorem mailing_course {compose : Engine (Message × Entries)}
    {answer : Store → Except Fault (Message × Entries)} (hreads : Reads env compose answer)
    (hanswer : ∀ f, answer w.store = .error f → FaultCause env ctx.card action w f) :
    Course env ctx action w fun _ => exec (mailing env compose) w := by
  obtain ⟨w₁, hw₁, hcompose | ⟨⟨n, hfails⟩, hcompose⟩⟩ := hreads w
  · cases hdraft : answer w.store with
    | error f =>
      rw [hdraft] at hcompose
      exact .failed f w₁ (hanswer f hdraft) hw₁ fun _ => exec_bind_error hcompose _
    | ok draft =>
      rw [hdraft] at hcompose
      have hmails := mails_send env draft.1 w₁
      cases hsend : exec (send env draft.1) w₁ with
      | mk r w₂ =>
        rw [hsend] at hmails
        cases r with
        | error f =>
          refine .failed f w₂ (.mail draft.1 w₁ hw₁ (congrArg Prod.fst hsend)) ?_ fun _ => ?_
          · exact Eq.trans hmails hw₁
          · exact (exec_bind_ok hcompose _).trans (exec_bind_error hsend _)
        | ok u =>
          refine .mailed draft.2 w₂ ?_ fun _ => ?_
          · rw [hw₁] at hmails
            exact hmails
          · exact (exec_bind_ok hcompose _).trans (exec_bind_ok hsend _)
  · exact .failed .storageRead w₁ (.storage n hfails rfl) hw₁ fun _ => exec_bind_error hcompose _

theorem sendFormLink_course (formId : String) (recipientField templateId : Option String) :
    Course env ctx (.sendFormLink formId recipientField templateId) w fun _ =>
      exec (sendFormLink env ctx formId recipientField templateId) w := by
  rw [sendFormLink_eq]
  refine mailing_course (Reads.formLinkMail ctx.card formId recipientField templateId) ?_
  intro f hf
  cases hcard : w.store.cardFor ctx.card with
  | error e =>
    rw [hcard] at hf
    cases hf
    rcases Store.cardFor_eq_error hcard with ⟨a, rfl⟩ | ⟨⟨g, rfl⟩, hillegible⟩
    · exact .failure a
    · exact .unreadable g hillegible
  | ok v =>
    rw [hcard] at hf
    obtain ⟨a, rfl⟩ := OnlyAction.formLinkFor formId recipientField templateId v w.store f hf
    exact .failure a

theorem sendEmail_course (templateId recipientField formId : Option String) :
    Course env ctx (.sendEmail templateId recipientField formId) w fun _ =>
      exec (sendEmail env ctx templateId recipientField formId) w := by
  cases hgiven : given? templateId with
  | none =>
    refine .failed _ w (.failure (.notFound .template)) rfl fun _ => ?_
    unfold sendEmail
    rw [hgiven]
    rfl
  | some id =>
    rw [sendEmail_eq env ctx id hgiven]
    refine mailing_course (Reads.templateMail ctx.card id recipientField formId) ?_
    intro f hf
    cases ht : w.store.namedTemplate? id with
    | none =>
      rw [ht] at hf
      cases hf
      exact .failure _
    | some t =>
      rw [ht] at hf
      cases hcard : w.store.cardFor ctx.card with
      | error e =>
        rw [hcard] at hf
        cases hf
        rcases Store.cardFor_eq_error hcard with ⟨a, rfl⟩ | ⟨⟨g, rfl⟩, hillegible⟩
        · exact .failure a
        · exact .unreadable g ⟨⟨id, t, hgiven, ht⟩, hillegible⟩
      | ok v =>
        rw [hcard] at hf
        obtain ⟨a, rfl⟩ := OnlyAction.templateMailFor recipientField formId t v f hf
        exact .failure a

def fieldChange (id : Uuid) (key : String) (value : Json) (time : Moment) (s : Store) :
    Option (Unit × Store) := do
  let row ← s.card? id
  return ((), s.writeField row.id key value time)

def moveChange (id : Uuid) (stage : StageView) (time : Moment) (s : Store) :
    Option (CardMove × Store) := do
  let row ← s.card? id
  return (moveTo s row stage, s.applyMove (moveTo s row stage) time)

theorem updateField_course (key : String) (value : Json) :
    Course env ctx (.updateField key value) w fun h =>
      exec (carryOut env h ctx (.updateField key value)) w := by
  cases hid : ctx.card.id? with
  | none =>
    refine .failed noCard w (.failure _) rfl fun _ => ?_
    unfold carryOut updateField
    rw [hid]
    rfl
  | some id =>
    have hwrite : updateField env ctx.card key value =
        writing env noCard (fieldChange id key value) := by
      unfold updateField
      rw [hid]
      rfl
    rcases writing_cases env noCard (fieldChange id key value) w with
      ⟨w', hexec, hfails, hledger⟩ | ⟨w', hexec, -, hledger⟩ |
        ⟨u, store, w', hexec, hchange, hledger⟩
    · refine .failed .storageWrite w' (.storage _ hfails rfl) hledger fun _ => ?_
      rw [carryOut, hwrite, exec_bind_error hexec]
    · refine .failed noCard w' (.failure _) hledger fun _ => ?_
      rw [carryOut, hwrite, exec_bind_error hexec]
    · obtain ⟨row, hrow, hstore⟩ := Option.bind_eq_some_iff.mp hchange
      cases hstore
      obtain rfl := Store.id_of_card? hrow
      refine .wrote row key value w.tick w' rfl hid hrow hledger fun _ => ?_
      rw [carryOut, hwrite, exec_bind_ok hexec]
      rfl

def moveNeeds (env : Environment) (card : RowRef) (target : String) :
    Engine (CardView × StageView) := do
  let card ← requireCard env card
  let stage ← required .targetStage (← loadStage env (.ofText target))
  return (card, stage)

theorem Reads.moveNeeds (card : RowRef) (target : String) :
    Reads env (Engine.moveNeeds env card target) fun s =>
      s.cardFor card >>= fun v => s.stageFor target >>= fun t => .ok (v, t) := by
  have hneeds : Engine.moveNeeds env card target =
      Engine.requireCard env card >>= fun v =>
        (Engine.loadStage env (.ofText target) >>= Engine.required .targetStage) >>= fun t =>
          Pure.pure (v, t) := by
    unfold Engine.moveNeeds
    simp only [bind_assoc]
  rw [hneeds]
  exact (Reads.requireCard card).bind fun v =>
    (Reads.requireStage target).bind fun t => Reads.pure (v, t)

def commitMove (env : Environment) (ctx : ActionContext) (card : CardView) (stage : StageView) :
    Engine CardMove := do
  let move ← moveCard env (.ofUuid card.id) stage
  log .info actionLogger "automation.card.moved"
    [("card_id", .str card.id.text), ("stage_id", .str stage.id.text),
      ("automation_id", .str ctx.automation.text)]
  return move

/-- A move is looked up, committed, and only then followed by a cascade. -/
theorem moveToStage_eq (h : HandOver) (target : String) :
    moveToStage env h ctx target = (do
      let needs ← moveNeeds env ctx.card target
      let move ← commitMove env ctx needs.1 needs.2
      let scheduled ← scheduleCascade env h move ctx.depth
      return moveReport move scheduled) := by
  unfold moveToStage moveNeeds commitMove
  simp only [bind_assoc, pure_bind]
  rfl

/-- Writing a move, in its span. -/
def moveSpan (card : RowRef) (stage : StageView) (move : Engine CardMove) : Engine CardMove :=
  spanning "automation.store.move_card" ((do
    annotate "card_id" (.str card.text)
    annotate "stage_id" (.str stage.id.text)) >>= fun _ => move)

theorem moveCard_of_none (env : Environment) {card : RowRef} (hid : card.id? = none)
    (stage : StageView) : moveCard env card stage = moveSpan card stage (raise noCard) := by
  unfold moveCard
  rw [hid]
  rfl

theorem moveCard_of_some (env : Environment) {card : RowRef} {id : Uuid} (hid : card.id? = some id)
    (stage : StageView) :
    moveCard env card stage = moveSpan card stage (writing env noCard (moveChange id stage)) := by
  unfold moveCard
  rw [hid]
  rfl

theorem exec_moveSpan (card : RowRef) (stage : StageView) (move : Engine CardMove) (w : World) :
    ∃ w₁ w', w₁.ledger = w.ledger ∧ w'.ledger = (exec move w₁).2.ledger ∧
      exec (moveSpan card stage move) w = ((exec move w₁).1, w') := by
  obtain ⟨w₁, hnotes, hledger⟩ := Passes.bind (passes_annotate "card_id" (.str card.text))
    (passes_annotate "stage_id" (.str stage.id.text)) (w.opened "automation.store.move_card")
  refine ⟨w₁, (exec move w₁).2.closed (faultOf (exec move w₁).1), hledger,
    World.ledger_closed _ _, ?_⟩
  unfold moveSpan
  rw [exec_spanning, exec_bind_ok hnotes]

theorem moveCard_cases (env : Environment) {row : CardRow} (hrow : w.store.card? row.id = some row)
    (stage : StageView) :
    (∃ w', exec (moveCard env (.ofUuid row.id) stage) w = (.error .storageWrite, w') ∧
      (∃ n, env.storageFails n = true) ∧ w'.ledger = w.ledger) ∨
    ∃ tick w', exec (moveCard env (.ofUuid row.id) stage) w =
        (.ok (moveTo w.store row stage), w') ∧
      w'.ledger = { w.ledger with
        store := w.store.applyMove (moveTo w.store row stage) (.live w.step tick) } := by
  obtain ⟨w₁, w', hledger₁, hend, hmove⟩ := exec_moveSpan (.ofUuid row.id) stage
    (writing env noCard (moveChange row.id stage)) w
  rw [← moveCard_of_some env rfl] at hmove
  have hstore : w₁.store = w.store := World.store_of_ledger hledger₁
  have hstep : w₁.step = w.step := World.step_of_ledger hledger₁
  have hchange : moveChange row.id stage (.live w₁.step w₁.tick) w₁.store =
      some (moveTo w.store row stage,
        w.store.applyMove (moveTo w.store row stage) (.live w.step w₁.tick)) := by
    rw [hstore, hstep, moveChange, hrow]
    rfl
  rcases writing_cases env noCard (moveChange row.id stage) w₁ with
    ⟨w₂, hexec, hfails, hledger⟩ | ⟨w₂, -, hnone, -⟩ | ⟨move, store, w₂, hexec, hsome, hledger⟩
  · rw [hexec] at hmove hend
    exact .inl ⟨w', hmove, ⟨_, hfails⟩, hend.trans (hledger.trans hledger₁)⟩
  · rw [hchange] at hnone
    cases hnone
  · rw [hchange] at hsome
    cases hsome
    rw [hexec] at hmove hend
    refine .inr ⟨w₁.tick, w', hmove, hend.trans ?_⟩
    rw [hledger, hledger₁]

theorem commitMove_cases (env : Environment) (ctx : ActionContext) {card : CardView}
    {row : CardRow} (hid : card.id = row.id) (hrow : w.store.card? row.id = some row)
    (stage : StageView) :
    (∃ w', exec (commitMove env ctx card stage) w = (.error .storageWrite, w') ∧
      (∃ n, env.storageFails n = true) ∧ w'.ledger = w.ledger) ∨
    ∃ tick w', exec (commitMove env ctx card stage) w = (.ok (moveTo w.store row stage), w') ∧
      w'.ledger = { w.ledger with
        store := w.store.applyMove (moveTo w.store row stage) (.live w.step tick) } := by
  unfold commitMove
  rw [hid]
  rcases moveCard_cases env hrow stage with
    ⟨w₁, hexec, hfails, hledger⟩ | ⟨tick, w₁, hexec, hledger⟩
  · exact .inl ⟨w₁, exec_bind_error hexec _, hfails, hledger⟩
  · obtain ⟨w₂, hlog, hledger₂⟩ := passes_log actionLogger (by decide) .info
      "automation.card.moved" [("card_id", .str row.id.text), ("stage_id", .str stage.id.text),
        ("automation_id", .str ctx.automation.text)] w₁
    refine .inr ⟨tick, w₂, ?_, hledger₂.trans hledger⟩
    rw [exec_bind_ok hexec, exec_bind_ok hlog]
    rfl

theorem moveToStage_found {target : String} {v : CardView} {stage : StageView}
    (hcard : w.store.cardFor ctx.card = .ok v) (hstage : w.store.stageFor target = .ok stage) :
    (∃ f w', f.isStorage = true ∧ (∃ n, env.storageFails n = true) ∧ w'.ledger = w.ledger ∧
      ∀ h, exec (moveToStage env h ctx target) w = (.error f, w')) ∨
    ∃ row tick w₁, ctx.card.id? = some row.id ∧ w.store.card? row.id = some row ∧
      w₁.ledger = { w.ledger with
        store := w.store.applyMove (moveTo w.store row stage) (.live w.step tick) } ∧
      ∀ h, exec (moveToStage env h ctx target) w =
        ((exec (scheduleCascade env h (moveTo w.store row stage) ctx.depth) w₁).1.map
            (moveReport (moveTo w.store row stage)),
          (exec (scheduleCascade env h (moveTo w.store row stage) ctx.depth) w₁).2) := by
  have hreads : Reads env (moveNeeds env ctx.card target) _ := Reads.moveNeeds ctx.card target
  obtain ⟨w₁, hw₁, hneeds | ⟨hfails, hneeds⟩⟩ := hreads w
  · rw [hcard, hstage] at hneeds
    obtain ⟨row, hid, hrow, hvid, -⟩ := Store.cardFor_eq_ok hcard
    have hstore : w₁.store = w.store := World.store_of_ledger hw₁
    have hrow₁ : w₁.store.card? row.id = some row := by rw [hstore, hrow]
    rcases commitMove_cases env ctx hvid hrow₁ stage with
      ⟨w₂, hexec, hfails, hledger⟩ | ⟨tick, w₂, hexec, hledger⟩
    · refine .inl ⟨.storageWrite, w₂, rfl, hfails, hledger.trans hw₁, fun h => ?_⟩
      rw [moveToStage_eq]
      exact (exec_bind_ok hneeds _).trans (exec_bind_error hexec _)
    · rw [hstore] at hexec
      refine .inr ⟨row, tick, w₂, hid, hrow, ?_, fun h => ?_⟩
      · rw [hledger, hw₁, hstore, World.step_of_ledger hw₁]
      · rw [moveToStage_eq]
        refine (exec_bind_ok hneeds _).trans ((exec_bind_ok hexec _).trans ?_)
        cases hsched : exec (scheduleCascade env h (moveTo w.store row stage) ctx.depth) w₂ with
        | mk r w₃ =>
          cases r with
          | error f => rw [exec_bind_error hsched]; rfl
          | ok b => rw [exec_bind_ok hsched]; rfl
  · refine .inl ⟨.storageRead, w₁, rfl, hfails, hw₁, fun h => ?_⟩
    rw [moveToStage_eq]
    exact exec_bind_error hneeds _

/-- A move to a stage fails and leaves no mark, or it is committed and a cascade is scheduled. -/
theorem moveToStage_cases (env : Environment) (ctx : ActionContext) (target : String) (w : World) :
    (∃ f w', FaultCause env ctx.card (.moveCard target) w f ∧ w'.ledger = w.ledger ∧
      ∀ h, exec (moveToStage env h ctx target) w = (.error f, w')) ∨
    ∃ row stage tick w₁, ctx.card.id? = some row.id ∧ w.store.card? row.id = some row ∧
      w.store.stageFor target = .ok stage ∧
      w₁.ledger = { w.ledger with
        store := w.store.applyMove (moveTo w.store row stage) (.live w.step tick) } ∧
      ∀ h, exec (moveToStage env h ctx target) w =
        ((exec (scheduleCascade env h (moveTo w.store row stage) ctx.depth) w₁).1.map
            (moveReport (moveTo w.store row stage)),
          (exec (scheduleCascade env h (moveTo w.store row stage) ctx.depth) w₁).2) := by
  have hreads : Reads env (moveNeeds env ctx.card target) _ := Reads.moveNeeds ctx.card target
  obtain ⟨w₁, hw₁, hneeds | ⟨⟨n, hfails⟩, hneeds⟩⟩ := hreads w
  · cases hcard : w.store.cardFor ctx.card with
    | error e =>
      rw [hcard] at hneeds
      refine .inl ⟨e, w₁, ?_, hw₁, fun h => ?_⟩
      · rcases Store.cardFor_eq_error hcard with ⟨a, rfl⟩ | ⟨⟨g, rfl⟩, hillegible⟩
        · exact .failure a
        · exact .unreadable g (.inl hillegible)
      · rw [moveToStage_eq]
        exact exec_bind_error hneeds _
    | ok v =>
      cases hstage : w.store.stageFor target with
      | error e =>
        rw [hcard, hstage] at hneeds
        refine .inl ⟨e, w₁, ?_, hw₁, fun h => ?_⟩
        · rcases Store.stageFor_eq_error hstage with ⟨a, rfl⟩ | ⟨g, rfl, hview⟩
          · exact .failure a
          · exact .unreadable g (.inr ⟨⟨v, hcard⟩, g, hview⟩)
        · rw [moveToStage_eq]
          exact exec_bind_error hneeds _
      | ok stage =>
        rcases moveToStage_found hcard hstage with
          ⟨f, w', hf, ⟨n, hfails⟩, hledger, hending⟩ | ⟨row, tick, w₂, hid, hrow, hledger, hending⟩
        · exact .inl ⟨f, w', .storage n hfails hf, hledger, hending⟩
        · exact .inr ⟨row, stage, tick, w₂, hid, hrow, rfl, hledger, hending⟩
  · refine .inl ⟨.storageRead, w₁, .storage n hfails rfl, hw₁, fun h => ?_⟩
    rw [moveToStage_eq]
    exact exec_bind_error hneeds _

theorem moveToStage_course (target : String) :
    Course env ctx (.moveCard target) w fun h => exec (moveToStage env h ctx target) w := by
  rcases moveToStage_cases env ctx target w with
    ⟨f, w', hcause, hledger, hending⟩ | ⟨row, stage, tick, w₁, hid, hrow, hstage, hledger, hending⟩
  · exact .failed f w' hcause hledger hending
  · exact .moved target row stage tick w₁ rfl hid hrow hstage hledger hending

theorem carryOut_course (env : Environment) (ctx : ActionContext) (action : Action) (w : World) :
    Course env ctx action w fun h => exec (carryOut env h ctx action) w := by
  cases action with
  | sendFormLink formId recipientField templateId =>
    exact sendFormLink_course formId recipientField templateId
  | sendEmail templateId recipientField formId =>
    exact sendEmail_course templateId recipientField formId
  | moveCard target => exact moveToStage_course target
  | updateField key value => exact updateField_course key value

end Engine
end BoardRules
