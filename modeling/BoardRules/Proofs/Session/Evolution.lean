import BoardRules.Proofs.Http.Course
import BoardRules.Proofs.Run.Evolution
import BoardRules.Session.Run

/-! Whatever is asked for in a session, what is stored evolves by transactions: every request to the
board, every event and every job keeps to that, and so do all of them one after the other. -/
namespace BoardRules

open Engine

variable {env : Environment} {h : HandOver}

namespace Engine

section

variable (hover : ∀ request, Keeps Evolving (h request))

include hover

theorem evolving_answer (event : String) (r : EventRun) :
    Keeps Evolving (answer env h event r) := by
  intro w
  obtain ⟨w', hexec, hledger⟩ := answer_cases env h event r w
  have hrun : Keeps Evolving (eventRun env h r) := by
    unfold eventRun configured
    refine Keeps.bind Evolving.law ?_ fun _ => Keeps.bind Evolving.law
      (fun w => by rw [exec_ofExcept]; exact .of_store rfl) fun depth =>
        evolving_runOn hover r.trigger _ _ r.context (some depth)
    split <;> exact fun _ => .of_store rfl
  have hkept : Evolving w (exec (eventRun env h r)
      (w.within { w.ambient with correlation := r.correlation })).2 :=
    hrun (w.within { w.ambient with correlation := r.correlation })
  rw [hexec]
  exact hkept.trans (.of_store (congrArg Ledger.store hledger))

theorem evolving_hear (event : String) (payload : Json) (l : Listener) :
    Keeps Evolving (hear env h event payload l) := by
  unfold hear
  split
  · exact fun _ => .of_store rfl
  · split
    · exact evolving_answer hover event _
    · exact fun _ => .of_store rfl

theorem evolving_deliver (event : String) (payload : Json) :
    Keeps Evolving (deliver env h event payload) := by
  unfold deliver
  generalize Listener.bus.handlers event = listeners
  induction listeners with
  | nil => exact Keeps.pure Evolving.law ()
  | cons l ls ih => exact Keeps.bind Evolving.law (evolving_hear hover event payload l) fun _ => ih

theorem evolving_publish (envelope : Entries) : Keeps Evolving (publish env h envelope) := by
  unfold publish
  refine Keeps.bind Evolving.law (fun _ => .of_store rfl) fun w =>
    Keeps.bind Evolving.law (fun _ => .of_store rfl) fun _ => ?_
  split
  · exact evolving_deliver hover _ _
  · exact Keeps.pure Evolving.law ()

theorem evolving_runJob (payload : Json) : Keeps Evolving (runJob env h payload) := by
  unfold runJob configured
  refine Keeps.bind Evolving.law ?_ fun _ => ?_
  · split <;> exact fun _ => .of_store rfl
  · split
    · exact evolving_runCascade hover _
    · exact fun _ => .of_store rfl

theorem evolving_runOnWorker (request : CascadeRequest) :
    Keeps Evolving (runOnWorker env h request) := by
  unfold runOnWorker
  refine Keeps.bind Evolving.law (evolving_runCascade hover request).outcome fun result => ?_
  split <;> exact fun _ => .of_store rfl

end

theorem evolving_settle {α : Type} {runOne : CascadeRequest → Engine α}
    (hone : ∀ request, Keeps Evolving (runOne request)) : Keeps Evolving (settle env runOne) := by
  have hdetached : ∀ request, Keeps Evolving (detached (runOne request)) := by
    intro request w
    rw [exec_detached]
    exact hone request { w with spans := [], ambient := {} }
  have hsettled : ∀ n, Keeps Evolving (settleFor runOne n) := by
    intro n
    induction n with
    | zero => exact Keeps.pure Evolving.law []
    | succ n ih =>
      unfold settleFor
      refine Keeps.bind Evolving.law (fun _ => .of_store rfl) fun w => ?_
      dsimp only
      split
      · exact Keeps.pure Evolving.law []
      · exact Keeps.bind Evolving.law (fun _ => .of_store rfl) fun _ =>
          Keeps.bind Evolving.law (Keeps.mapM Evolving.law hdetached _) fun _ =>
            Keeps.bind Evolving.law ih fun _ => Keeps.pure Evolving.law _
  unfold settle
  exact Keeps.bind Evolving.law (fun _ => .of_store rfl) fun w => hsettled _

end Engine

namespace Board

section

variable (hover : ∀ request, Keeps Evolving (h request))

include hover

theorem evolving_published (event : BoardEvent) (w : World) :
    Evolving w (w.published env h event) := by
  unfold World.published
  exact evolving_publish hover event.envelope w

theorem evolving_moveCard (card stage : Uuid) : Keeps Evolving (moveCard env h card stage) := by
  intro w
  rcases moveCard_cases env h card stage w with ⟨r, -, hexec, -⟩ | ⟨row, -, -, hexec⟩ |
    ⟨row, target, w₁, sheet, hcard, -, htarget, -, -, hledger, hexec⟩
  · rw [hexec]
    exact .of_store rfl
  · rw [hexec]
    exact .of_store rfl
  · rw [hexec]
    exact (Evolving.of_transaction (.moved row target _ hcard htarget) hledger).trans
      (evolving_published hover _ w₁)

theorem evolving_setField (card : Uuid) (key type : String) (value : Json) :
    Keeps Evolving (setField env h card key type value) := by
  intro w
  rcases setField_cases env h card key type value w with
    ⟨r, -, hexec⟩ | ⟨row, w₁, sheet, hcard, -, hledger, hexec⟩
  · rw [hexec]
    exact .of_store rfl
  · rw [hexec]
    exact (Evolving.of_transaction (.set row key type value _ hcard) hledger).trans
      (evolving_published hover _ w₁)

theorem evolving_submitForm (card form : Uuid) (responses : Entries) (email : Option String) :
    Keeps Evolving (submitForm env h card form responses email) := by
  intro w
  rcases submitForm_cases env h card form responses email w with
    ⟨r, -, hexec⟩ | ⟨row, target, w₁, done, hcard, -, hform, -, hrow, hledger, hexec⟩
  · rw [hexec]
    exact .of_store rfl
  · have hsubmitted : w.store.Transaction (w.store.addSubmission done.row) := by
      rw [hrow]
      exact .submitted _ (Option.isSome_of_eq_some hcard) (Option.isSome_of_eq_some hform) rfl
    rw [hexec]
    exact (Evolving.of_transaction hsubmitted hledger).trans (evolving_published hover _ w₁)

end

end Board

namespace Http

theorem evolving_configured (env : Environment) : Keeps Evolving (configured env) := by
  intro w
  rw [configured_still]
  exact .of_store rfl

theorem evolving_listLogs (env : Environment) (card : RowRef) :
    Keeps Evolving (listLogs env card) := by
  unfold listLogs
  split
  · exact Keeps.pure Evolving.law []
  · refine Keeps.bind Evolving.law (Keeps.of_quiet Evolving.law (Reads.reading _).quiet)
      fun rows => Keeps.mapM Evolving.law (fun row => ?_) rows
    unfold checkLogRow
    split <;> exact fun _ => .of_store rfl

section

variable {site : Site} (hover : ∀ request, Keeps Evolving (site.handOver request))

include hover

theorem evolving_site : SiteLaw site Evolving where
  refl := fun _ => .of_store rfl
  trans := fun _ _ _ => Evolving.trans
  moveCard := Board.evolving_moveCard hover
  setField := Board.evolving_setField hover
  submitForm := Board.evolving_submitForm hover
  run := fun _ _ _ _ _ => evolving_run hover _ _ _ _ _
  listLogs := evolving_listLogs site.env

theorem evolving_respond (r : Request) (path : List Char) :
    Keeps Evolving (respond site r path) := by
  have hconclude : ∀ label outcome, Keeps Evolving (conclude r label outcome) := by
    intro label outcome
    unfold conclude
    split <;> exact fun _ => .of_store rfl
  unfold respond serving
  refine Keeps.bind Evolving.law (fun _ => .of_store rfl) fun _ => Keeps.bind Evolving.law
    (Keeps.outcome (Keeps.withAmbient Evolving.law _ ?_)) fun result => Keeps.bind Evolving.law
      (fun _ => .of_store rfl) fun _ => Keeps.bind Evolving.law (fun _ => .of_store rfl)
        fun _ w => by rw [exec_ofExcept]; exact .of_store rfl
  exact Keeps.bind Evolving.law ((evolving_site hover).dispatch r _).outcome fun outcome =>
    Keeps.map _ (hconclude _ outcome)

theorem evolving_serve (r : Request) : Keeps Evolving (serve site r) :=
  keeps_serve (R := Evolving) (fun _ => .of_store rfl) (fun _ _ _ => Evolving.trans)
    (evolving_respond hover { r with method := r.method.toUpper })

end

end Http

namespace Engine

theorem evolving_annotate (key : String) (v : Json) : Keeps Evolving (annotate key v) :=
  Keeps.of_quiet Evolving.law (quiet_annotate key v)

theorem evolving_moveCard (env : Environment) (card : RowRef) {target : StageView} {w : World}
    (hstage : w.store.ShowsStage target) : Evolving w (exec (moveCard env card target) w).2 := by
  have hspan : ∀ move : Engine CardMove,
      (∀ w₁ : World, w₁.store = w.store → Evolving w₁ (exec move w₁).2) →
      Evolving w (exec (moveSpan card target move) w).2 := by
    intro move hmove
    obtain ⟨w₁, w', hledger₁, hend, hexec⟩ := exec_moveSpan card target move w
    have hstore : w₁.store = w.store := World.store_of_ledger hledger₁
    rw [hexec]
    exact (Evolving.of_store hstore).trans ((hmove w₁ hstore).trans (Evolving.law.quiet hend))
  cases hid : card.id? with
  | none =>
    rw [moveCard_of_none env hid]
    exact hspan _ fun _ _ => .of_store rfl
  | some id =>
    rw [moveCard_of_some env hid]
    refine hspan _ fun w₁ hstore => ?_
    rcases writing_cases env noCard (moveChange id target) w₁ with
      ⟨w₂, hexec, -, hledger⟩ | ⟨w₂, hexec, -, hledger⟩ | ⟨move, store, w₂, hexec, hchange, hledger⟩
    · rw [hexec]
      exact Evolving.law.quiet hledger
    · rw [hexec]
      exact Evolving.law.quiet hledger
    · obtain ⟨row, hrow, hmoved⟩ := Option.bind_eq_some_iff.mp hchange
      cases hmoved
      obtain rfl := Store.id_of_card? hrow
      rw [← hstore] at hstage
      rw [hexec]
      exact Evolving.moved hrow hstage _ hledger

/-- A stage that has been looked up is still stored when a card is moved to it. -/
theorem evolving_moveToFound (env : Environment) (card stage : RowRef) :
    Keeps Evolving (moveToFound env card stage) := by
  unfold moveToFound
  refine Keeps.bind_of Evolving.law
    (Keeps.of_quiet Evolving.law (Reads.loadStage stage).quiet) fun w found w₁ hexec => ?_
  cases found with
  | none =>
    exact Keeps.spanning Evolving.law _ (Keeps.bind Evolving.law (evolving_annotate _ _)
      fun _ => fun _ => .of_store rfl) w₁
  | some target =>
    obtain ⟨hledger, hview⟩ := (Reads.loadStage stage).eq_ok hexec
    rw [← World.store_of_ledger hledger] at hview
    exact evolving_moveCard env card (Store.showsStage_of_viewStage hview)

theorem evolving_updateField (env : Environment) (card : RowRef) (key : String) (value : Json) :
    Keeps Evolving (updateField env card key value) := by
  unfold updateField
  cases card.id? with
  | none => exact fun _ => .of_store rfl
  | some id =>
    refine Keeps.writing Evolving.law env noCard fun {w w' time u store} hchange hledger => ?_
    obtain ⟨row, hrow, hstore⟩ := Option.bind_eq_some_iff.mp hchange
    cases hstore
    obtain rfl := Store.id_of_card? hrow
    exact .of_transaction (.wrote row key value time hrow) hledger

theorem evolving_appendLog (env : Environment) (entry : LogEntry) :
    Keeps Evolving (appendLog env entry) := by
  unfold appendLog
  refine Keeps.writing Evolving.law env .storageWrite fun hchange hledger => ?_
  obtain ⟨id, -, hstore⟩ := Option.bind_eq_some_iff.mp hchange
  cases hstore
  exact .of_transaction (.entered _) hledger

theorem evolving_makeCall (env : Environment) (call : StorageCall) :
    Keeps Evolving (makeCall env call) := by
  cases call with
  | loadAutomations pipe triggerType =>
    exact Keeps.map _ (Keeps.of_quiet Evolving.law (Reads.loadAutomations pipe triggerType).quiet)
  | loadCard card => exact Keeps.map _ (Keeps.of_quiet Evolving.law (Reads.loadCard card).quiet)
  | loadStage stage => exact Keeps.map _ (Keeps.of_quiet Evolving.law (Reads.loadStage stage).quiet)
  | loadTemplate template =>
    refine Keeps.map _ (Keeps.of_quiet Evolving.law ?_)
    unfold loadTemplate
    split
    · exact Keeps.pure Still.law none
    · exact (Reads.reading _).quiet
  | moveCard card stage => exact Keeps.map _ (evolving_moveToFound env card stage)
  | updateField card key value =>
    exact Keeps.bind Evolving.law (evolving_updateField env card key value) fun _ =>
      Keeps.pure Evolving.law _
  | appendLog entry =>
    exact Keeps.bind Evolving.law (evolving_appendLog env entry) fun _ => Keeps.pure Evolving.law _
  | listLogs card => exact Keeps.map _ (Http.evolving_listLogs env card)

end Engine

namespace CascadeMode

theorem evolving_handOver (mode : CascadeMode) (request : CascadeRequest) :
    Keeps Evolving (mode.handOver request) := by
  cases mode <;> exact fun _ => .of_store rfl

theorem evolving_finish (env : Environment) (mode : CascadeMode) :
    Keeps Evolving (mode.finish env) := by
  cases mode with
  | pool =>
    exact Keeps.bind Evolving.law (evolving_settle fun request =>
      evolving_runOnWorker (CascadeMode.pool.evolving_handOver) request) fun _ =>
        Keeps.pure Evolving.law []
  | worked =>
    exact evolving_settle fun request =>
      (evolving_runJob (CascadeMode.worked.evolving_handOver) request.toPayload).outcome
  | _ => exact Keeps.bind Evolving.law (fun _ => .of_store rfl) fun _ => Keeps.pure Evolving.law []

end CascadeMode

namespace Session

/-- Whatever a step asks for, unless it adds rows itself. -/
theorem evolving_act (s : Session) {step : Step} (hstep : ∀ rows, step ≠ .add rows) :
    Keeps Evolving (s.act step) := by
  have hover : ∀ request, Keeps Evolving (s.mode.handOver request) :=
    s.mode.evolving_handOver
  cases step with
  | run triggerType card pipe told depth =>
    exact Keeps.bind Evolving.law (Http.evolving_configured _) fun _ =>
      Keeps.map _ (evolving_runOn hover triggerType card pipe told depth)
  | execute action card depth =>
    exact Keeps.bind Evolving.law (Http.evolving_configured _) fun _ =>
      Keeps.map _ (Keeps.perform Evolving.actionLaw hover _ action)
  | evaluate conditions card =>
    exact Keeps.bind Evolving.law (Http.evolving_configured _) fun _ =>
      Keeps.map _ (Keeps.of_quiet Evolving.law (Reads.evaluate conditions card).quiet)
  | storage call => exact evolving_makeCall _ call
  | listLogs card =>
    exact Keeps.bind Evolving.law (Http.evolving_configured _) fun _ =>
      Keeps.map _ (Http.evolving_listLogs _ card)
  | publish envelope =>
    cases envelope with
    | obj es =>
      exact Keeps.bind Evolving.law (evolving_publish hover es) fun _ =>
        Keeps.pure Evolving.law _
    | _ => exact fun _ => .of_store rfl
  | deliver event payload =>
    exact Keeps.bind Evolving.law (evolving_deliver hover event payload) fun _ =>
      Keeps.pure Evolving.law _
  | job payload => exact Keeps.map _ (evolving_runJob hover payload)
  | request r => exact Keeps.map _ (Http.evolving_serve hover r)
  | add rows => exact absurd rfl (hstep rows)
  | dropTables => exact fun _ => .of_store rfl
  | look =>
    unfold act
    dsimp only
    cases s.dropped <;> exact fun _ => .of_store rfl

theorem evolving_take (s : Session) (index : Nat) (ambient : Ambient) {step : Step}
    (hstep : ∀ rows, step ≠ .add rows) :
    Evolving s.world (s.take index ambient step).2.world := by
  have hprogram : Keeps Evolving (s.program ambient step) :=
    Keeps.bind Evolving.law
      (Keeps.outcome (Keeps.withAmbient Evolving.law _ (s.evolving_act hstep))) fun result =>
        Keeps.bind Evolving.law (s.mode.evolving_finish s.environment) fun _ =>
          Keeps.pure Evolving.law _
  have hopening : Evolving s.world (opening s.world index) := .of_store rfl
  exact hopening.trans (hprogram (opening s.world index))

/-- From the beginning of a session to its end, what is stored evolves, unless rows are added from
outside. -/
theorem evolving_runFrom (s : Session) (index : Nat) (steps : List (Ambient × Step))
    (hsteps : ∀ p ∈ steps, ∀ rows, p.2 ≠ .add rows) :
    Evolving s.world (s.runFrom index steps).2.world := by
  induction steps generalizing s index with
  | nil => exact .of_store rfl
  | cons p rest ih =>
    obtain ⟨hstep, hrest⟩ := List.forall_mem_cons.mp hsteps
    exact (s.evolving_take index p.1 hstep).trans (ih (s.take index p.1 p.2).2 (index + 1) hrest)

end Session
end BoardRules
