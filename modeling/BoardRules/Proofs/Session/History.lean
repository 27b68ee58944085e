import BoardRules.Proofs.Run.Moves
import BoardRules.Proofs.Session.Evolution

/-! The history of a card over everything that users and automations do. It is an unbroken chain of
moves, whoever made them; and each move that comes about, and nothing else, adds a row to it. -/
namespace BoardRules

open Engine

/-- What can come of a world in time: users ask for something, runs are started, and cascades that
were put aside unfold, in any order. -/
inductive Proceeds : World → World → Prop where
  | moved (env : Environment) (h : HandOver) (hcascades : h.Cascades env) (card stage : Uuid)
    (w : World) : Proceeds w (exec (Board.moveCard env h card stage) w).2
  | set (env : Environment) (h : HandOver) (hcascades : h.Cascades env) (card : Uuid)
    (key type : String) (value : Json) (w : World) :
    Proceeds w (exec (Board.setField env h card key type value) w).2
  | submitted (env : Environment) (h : HandOver) (hcascades : h.Cascades env) (card form : Uuid)
    (responses : Entries) (email : Option String) (w : World) :
    Proceeds w (exec (Board.submitForm env h card form responses email) w).2
  | ran (env : Environment) (h : HandOver) (hcascades : h.Cascades env) (triggerType : String)
    (card pipe : RowRef) (occasion : Occasion) (depth : Int) (w : World) :
    Proceeds w (exec (run env h triggerType card pipe occasion depth) w).2
  | unfolded (env : Environment) {w w' : World} (hunfolds : Unfolds env w w') : Proceeds w w'
  | trans {w₁ w₂ w₃ : World} (h₁ : Proceeds w₁ w₂) (h₂ : Proceeds w₂ w₃) : Proceeds w₁ w₃

theorem evolving_of_proceeds {w w' : World} (hproceeds : Proceeds w w') : Evolving w w' := by
  induction hproceeds with
  | moved env h hcascades card stage w =>
    exact Board.evolving_moveCard (evolving_of_cascades hcascades) card stage w
  | set env h hcascades card key type value w =>
    exact Board.evolving_setField (evolving_of_cascades hcascades) card key type value w
  | submitted env h hcascades card form responses email w =>
    exact Board.evolving_submitForm (evolving_of_cascades hcascades) card form responses email w
  | ran env h hcascades triggerType card pipe occasion depth w =>
    exact evolving_run (evolving_of_cascades hcascades) triggerType card pipe occasion depth w
  | unfolded env hunfolds => exact evolving_of_unfolds hunfolds
  | trans _ _ ih₁ ih₂ => exact ih₁.trans ih₂

namespace Board

/-- A user's move to another stage adds one row and is published then; any other request for a move
changes nothing. -/
theorem moveCard_adds (env : Environment) (h : HandOver) (card stage : Uuid) (w : World) :
    (∃ row target w₁ sheet, w.store.card? card = some row ∧ w.store.stage? stage = some target ∧
      row.stage ≠ some stage ∧ Adds 1 w w₁ ∧ exec (moveCard env h card stage) w =
        (.ok (.ok sheet), w₁.published env h (.stageChanged (w.store.moveInto row target)))) ∨
    (env.boardFails = true ∨ w.store.card? card = none ∨ w.store.stage? stage = none ∨
        ∃ row, w.store.card? card = some row ∧ row.stage = some stage) ∧
      (exec (moveCard env h card stage) w).2 = w := by
  rcases moveCard_cases env h card stage w with ⟨r, -, hexec, hcause⟩ | ⟨row, hcard, hsame, hexec⟩ |
    ⟨row, target, w₁, sheet, hcard, rfl, htarget, rfl, hother, hledger, hexec⟩
  · exact .inr ⟨hcause.imp_right fun h => h.imp_right .inl, by rw [hexec]⟩
  · exact .inr ⟨.inr (.inr (.inr ⟨row, hcard, hsame⟩)), by rw [hexec]⟩
  · exact .inl ⟨row, target, w₁, sheet, hcard, htarget, hother,
      ⟨[.ofMove _ _], congrArg (fun l => l.store.history) hledger, rfl⟩, hexec⟩

theorem setField_adds (env : Environment) (h : HandOver) (card : Uuid) (key type : String)
    (value : Json) (w : World) :
    ∃ w₁, Adds 0 w w₁ ∧ ((exec (setField env h card key type value) w).2 = w₁ ∨
      ∃ event, (exec (setField env h card key type value) w).2 = w₁.published env h event) := by
  rcases setField_cases env h card key type value w with
    ⟨r, -, hexec⟩ | ⟨row, w₁, sheet, -, -, hledger, hexec⟩
  · exact ⟨w, .of_history rfl, .inl (by rw [hexec])⟩
  · obtain ⟨fields, hset⟩ :=
      Store.setField_frame w.store row.id key type value (.live w.step w.tick)
    rw [hset] at hledger
    exact ⟨w₁, .of_history (congrArg (fun l => l.store.history) hledger),
      .inr ⟨_, by rw [hexec]⟩⟩

theorem submitForm_adds (env : Environment) (h : HandOver) (card form : Uuid)
    (responses : Entries) (email : Option String) (w : World) :
    ∃ w₁, Adds 0 w w₁ ∧ ((exec (submitForm env h card form responses email) w).2 = w₁ ∨
      ∃ event, (exec (submitForm env h card form responses email) w).2 =
        w₁.published env h event) := by
  rcases submitForm_cases env h card form responses email w with
    ⟨r, -, hexec⟩ | ⟨row, target, w₁, done, -, -, -, -, -, hledger, hexec⟩
  · exact ⟨w, .of_history rfl, .inl (by rw [hexec])⟩
  · exact ⟨w₁, .of_history (congrArg (fun l => l.store.history) hledger),
      .inr ⟨_, by rw [hexec]⟩⟩

end Board

/-- The history of moves. In order: whatever is asked for, and through all of a session, the rows of
each card form a chain from where it was to where it is; an action adds one row, before anything can
follow from it, if it is a move that succeeds, and none otherwise; while cascades are left for
later, actions and runs add as many rows as they record moves that succeeded; a user's move to
another stage adds one row before it is published, and any other request of a user adds none. -/
theorem history_unbroken :
    (∀ w w', Proceeds w w' → w.store.StagesKnown →
      w'.store.StagesKnown ∧ ∃ rows, w.store.Chained w'.store rows) ∧
    (∀ (s : Session) (index : Nat) (steps : List (Ambient × Step)),
      (∀ p ∈ steps, ∀ rows, p.2 ≠ .add rows) → s.world.store.StagesKnown →
      (s.runFrom index steps).2.world.store.StagesKnown ∧
        ∃ rows, s.world.store.Chained (s.runFrom index steps).2.world.store rows) ∧
    (∀ (env : Environment) (h : HandOver) (ctx : ActionContext) (payload : Json) (w : World),
      h.Answers →
      (∃ target row stage time report w', Action.ofJson payload = .ok (.moveCard target) ∧
        Moves env h ctx target row stage time w w' ∧
        exec (perform env h ctx payload) w = (.ok (recordOf payload (.success report)), w')) ∨
      ∃ r w', exec (perform env h ctx payload) w = (r, w') ∧
        w'.store.history = w.store.history ∧ ∀ record, r = .ok record → record.isMove = false) ∧
    (∀ (env : Environment) (h : HandOver) (ctx : ActionContext) (payload : Json) (w w' : World)
        (r : Except Fault ActionRecord), h.Answers → h.Spares →
      exec (perform env h ctx payload) w = (r, w') → Adds (movesIn r) w w') ∧
    (∀ (env : Environment) (h : HandOver) (triggerType : String) (card pipe : RowRef)
        (occasion : Occasion) (depth : Int) (w w' : World) (report : Report),
      h.Answers → h.Spares →
      exec (run env h triggerType card pipe occasion depth) w = (.ok report, w') →
        Adds report.moves w w') ∧
    (∀ (env : Environment) (h : HandOver) (card stage : Uuid) (w : World),
      (∃ row target w₁ sheet, w.store.card? card = some row ∧
        w.store.stage? stage = some target ∧ row.stage ≠ some stage ∧ Adds 1 w w₁ ∧
        exec (Board.moveCard env h card stage) w =
          (.ok (.ok sheet), w₁.published env h (.stageChanged (w.store.moveInto row target)))) ∨
      (env.boardFails = true ∨ w.store.card? card = none ∨ w.store.stage? stage = none ∨
          ∃ row, w.store.card? card = some row ∧ row.stage = some stage) ∧
        (exec (Board.moveCard env h card stage) w).2 = w) ∧
    (∀ (env : Environment) (h : HandOver) (card : Uuid) (key type : String) (value : Json)
        (w : World),
      ∃ w₁, Adds 0 w w₁ ∧ ((exec (Board.setField env h card key type value) w).2 = w₁ ∨
        ∃ event, (exec (Board.setField env h card key type value) w).2 =
          w₁.published env h event)) ∧
    (∀ (env : Environment) (h : HandOver) (card form : Uuid) (responses : Entries)
        (email : Option String) (w : World),
      ∃ w₁, Adds 0 w w₁ ∧
        ((exec (Board.submitForm env h card form responses email) w).2 = w₁ ∨
          ∃ event, (exec (Board.submitForm env h card form responses email) w).2 =
            w₁.published env h event)) ∧
    ∀ (env : Environment) (card : Uuid) (w : World), (exec (Board.showCard env card) w).2 = w := by
  refine ⟨fun w w' hproceeds => (evolving_of_proceeds hproceeds).chained,
    fun s index steps hsteps => (s.evolving_runFrom index steps hsteps).chained,
    fun env h ctx payload w hanswers => perform_moves env hanswers ctx payload w,
    fun env h ctx payload w w' r hanswers hspares hexec => perform_adds hanswers hspares hexec,
    fun env h triggerType card pipe occasion depth w w' report hanswers hspares hexec =>
      run_adds hanswers hspares hexec,
    Board.moveCard_adds, Board.setField_adds, Board.submitForm_adds, Board.showCard_still⟩

/-- On the small board: a user moves the card to the second stage and back, and a run moves it to
the second stage again. -/
theorem history_unbroken_sample : ∃ w', Proceeds { store := Store.sample } w' ∧
    w'.store.history.map (fun r => (r.fromName, r.toName)) =
      [(some "Inbox", "Done"), (some "Done", "Inbox"), (some "Inbox", "Done")] ∧
    ∃ rows, Store.sample.Chained w'.store rows := by
  have hcascades : (inPlace Environment.sample openPool).Cascades Environment.sample :=
    cascades_inPlace cascades_openPool
  have hproceeds : Proceeds { store := Store.sample } _ :=
    .trans (.moved Environment.sample _ hcascades ⟨3, by decide⟩ ⟨2, by decide⟩ _)
      (.trans (.moved Environment.sample _ hcascades ⟨3, by decide⟩ ⟨1, by decide⟩ _)
        (.ran Environment.sample _ hcascades "card_enters_stage" (.ofUuid ⟨3, by decide⟩)
          (.ofUuid ⟨1, by decide⟩) .untold 0 _))
  have hknown : Store.sample.StagesKnown := by
    unfold Store.StagesKnown
    decide
  exact ⟨_, hproceeds, by decide +kernel, (history_unbroken.1 _ _ hproceeds hknown).2⟩

end BoardRules
