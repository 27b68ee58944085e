import BoardRules.Proofs.Run.Execution

/-! The course of a run: the automations are looked up and examined, those that match are executed
in turn, and the run is counted whichever way it ends. -/
namespace BoardRules

variable {α β : Type}

theorem view_eq_ok_iff {a : AutomationRow} {v : AutomationView} :
    a.view = .ok v ↔ ∃ config actions, a.triggerConfig.toMapping = .ok config ∧
      a.actions.toItems = .ok actions ∧
      v = { id := a.id, pipe := a.pipe, name := a.name, triggerType := a.triggerType, config
            conditions := a.conditionEntries, actions, position := a.position
            created := a.created } := by
  unfold AutomationRow.view
  constructor
  · intro hview
    obtain ⟨config, hconfig, hview⟩ := bind_eq_ok.mp hview
    obtain ⟨actions, hactions, hview⟩ := bind_eq_ok.mp hview
    exact ⟨config, actions, mapError_eq_ok hconfig, mapError_eq_ok hactions,
      (Except.ok.inj hview).symm⟩
  · rintro ⟨config, actions, hconfig, hactions, rfl⟩
    rw [hconfig, hactions]
    rfl

theorem view_eq_ok {a : AutomationRow} {v : AutomationView} (hview : a.view = .ok v) :
    v.id = a.id ∧ v.conditions = a.conditionEntries ∧ a.actions.toItems = .ok v.actions := by
  obtain ⟨config, actions, -, hactions, rfl⟩ := view_eq_ok_iff.mp hview
  exact ⟨rfl, rfl, hactions⟩

def Store.namedPipe? (s : Store) (pipe : RowRef) : Option Uuid :=
  pipe.id?.filter fun id => (s.pipe? id).isSome

def AutomationRow.viewAll :
    Option (List AutomationRow) → Except Fault (Option (List AutomationView))
  | none => .ok none
  | some rows => some <$> rows.mapM fun row => row.view.mapError Fault.read

def Store.loadFor (s : Store) (pipe : RowRef) (triggerType : String) :
    Except Fault (Option (List AutomationView)) :=
  match s.namedPipe? pipe with
  | none => .ok none
  | some id =>
    some <$> (s.automationRows id triggerType).mapM fun row => row.view.mapError Fault.read

theorem Store.mem_automations {s : Store} {pipe : Uuid} {triggerType : String}
    {row : AutomationRow} (h : row ∈ s.automationRows pipe triggerType) : row ∈ s.automations :=
  (List.mem_filter.mp (List.mem_mergeSort.mp h)).1

def AutomationView.examined (triggerType : String) (occasion : Occasion) (a : AutomationView) :
    Except Fault (AutomationView × ReportDetail) :=
  (occasion.suits triggerType (.obj a.config.named)).mapError Fault.noMember >>= fun isMatch =>
    match configErrors a.config with
    | [] => .ok (a, { name := a.name, id := a.id, isMatch, config := a.config.named })
    | es => .error (.invalid "AutomationReportDetail" es)

def Store.opening (s : Store) (triggerType : String) (pipe : RowRef) (occasion : Occasion) :
    Except Fault (Option (List (AutomationView × ReportDetail))) :=
  s.loadFor pipe triggerType >>= fun found =>
    match found with
    | none => .ok none
    | some automations => some <$> automations.mapM (AutomationView.examined triggerType occasion)

theorem AutomationView.examined_eq_ok {triggerType : String} {occasion : Occasion}
    {a : AutomationView} {p : AutomationView × ReportDetail}
    (h : a.examined triggerType occasion = .ok p) : p.1 = a := by
  unfold examined at h
  obtain ⟨isMatch, -, h⟩ := bind_eq_ok.mp h
  split at h
  · cases h
    rfl
  · cases h

theorem examined_rows {triggerType : String} {occasion : Occasion} {rows : List AutomationRow}
    {views : List AutomationView} {examined : List (AutomationView × ReportDetail)}
    (hviews : List.Forall₂ (fun row v => row.view.mapError Fault.read = .ok v) rows views)
    (hexamined : List.Forall₂ (fun v p => AutomationView.examined triggerType occasion v = .ok p)
      views examined) :
    List.Forall₂ (fun row p => row.view = .ok p.1 ∧
      AutomationView.examined triggerType occasion p.1 = .ok p) rows examined := by
  refine forall₂_trans (fun row v p hview hp => ?_) hviews hexamined
  rw [AutomationView.examined_eq_ok hp]
  exact ⟨mapError_eq_ok hview, hp⟩

theorem examined_of_rows {triggerType : String} {occasion : Occasion} {rows : List AutomationRow}
    {examined : List (AutomationView × ReportDetail)}
    (h : List.Forall₂ (fun row p => row.view = .ok p.1 ∧
      AutomationView.examined triggerType occasion p.1 = .ok p) rows examined) :
    List.Forall₂ (fun row v => row.view.mapError Fault.read = .ok v) rows
        (examined.map Prod.fst) ∧
      List.Forall₂ (fun v p => AutomationView.examined triggerType occasion v = .ok p)
        (examined.map Prod.fst) examined := by
  induction h with
  | nil => exact ⟨.nil, .nil⟩
  | cons hp _ ih => exact ⟨.cons (by rw [hp.1]; rfl) ih.1, .cons hp.2 ih.2⟩

theorem map_eq_ok {ε : Type} {g : α → β} {x : Except ε α} {b : β} :
    g <$> x = .ok b ↔ ∃ a, x = .ok a ∧ g a = b := by
  cases x <;> simp

theorem map_eq_error {ε : Type} {g : α → β} {x : Except ε α} {e : ε} :
    g <$> x = .error e ↔ x = .error e := by
  cases x <;> simp

theorem Store.opening_of_none {s : Store} {triggerType : String} {pipe : RowRef}
    {occasion : Occasion} (hpipe : s.namedPipe? pipe = none) :
    s.opening triggerType pipe occasion = .ok none := by
  unfold opening loadFor
  rw [hpipe]
  rfl

theorem Store.opening_of_some {s : Store} {triggerType : String} {pipe : RowRef}
    {occasion : Occasion} {id : Uuid} (hpipe : s.namedPipe? pipe = some id) :
    s.opening triggerType pipe occasion =
      some <$> ((s.automationRows id triggerType).mapM (fun row => row.view.mapError Fault.read) >>=
        fun views => views.mapM (AutomationView.examined triggerType occasion)) := by
  unfold opening loadFor
  rw [hpipe]
  dsimp only
  cases (s.automationRows id triggerType).mapM fun row => row.view.mapError Fault.read <;> rfl

theorem Store.opening_ne_none {s : Store} {triggerType : String} {pipe : RowRef}
    {occasion : Occasion} {id : Uuid} (hpipe : s.namedPipe? pipe = some id) :
    s.opening triggerType pipe occasion ≠ .ok none := by
  intro hopening
  rw [opening_of_some hpipe] at hopening
  obtain ⟨_, _, hsome⟩ := map_eq_ok.mp hopening
  cases hsome

/-- Each automation that a run finds is stored in its pipe. -/
theorem Store.opening_eq_ok {s : Store} {triggerType : String} {pipe : RowRef} {occasion : Occasion}
    {examined : List (AutomationView × ReportDetail)}
    (hopening : s.opening triggerType pipe occasion = .ok (some examined)) :
    ∃ id, s.namedPipe? pipe = some id ∧
      List.Forall₂ (fun row p => row.view = .ok p.1 ∧
          AutomationView.examined triggerType occasion p.1 = .ok p)
        (s.automationRows id triggerType) examined := by
  cases hpipe : s.namedPipe? pipe with
  | none =>
    rw [opening_of_none hpipe] at hopening
    cases hopening
  | some id =>
    rw [opening_of_some hpipe] at hopening
    obtain ⟨examined', hall, hsome⟩ := map_eq_ok.mp hopening
    cases hsome
    obtain ⟨views, hviews, hexamined⟩ := bind_eq_ok.mp hall
    exact ⟨id, rfl, examined_rows (mapM_eq_ok_iff.mp hviews) (mapM_eq_ok_iff.mp hexamined)⟩

namespace Engine

variable {env : Environment} {h : HandOver}

namespace Reads

theorem congr {body : Engine α} {p q : Store → Except Fault α} (hbody : Reads env body p)
    (hpq : ∀ s, p s = q s) : Reads env body q := by
  have hanswer : p = q := funext hpq
  rw [← hanswer]
  exact hbody

theorem ofExcept (r : Except Fault α) : Reads env (Engine.ofExcept r) fun _ => r :=
  fun w => ⟨w, rfl, .inl (exec_ofExcept r w)⟩

theorem spanning (name : String) {body : Engine α} {answer : Store → Except Fault α}
    (hbody : Reads env body answer) : Reads env (Engine.spanning name body) answer := by
  intro w
  rw [exec_spanning]
  obtain ⟨w', hledger, hexec | ⟨hfails, hexec⟩⟩ := hbody (w.opened name)
  · rw [hexec]
    exact ⟨_, (World.ledger_closed _ _).trans hledger, .inl rfl⟩
  · rw [hexec]
    exact ⟨_, (World.ledger_closed _ _).trans hledger, .inr ⟨hfails, rfl⟩⟩

theorem mapM {f : α → Engine β} {g : α → Except Fault β} (hf : ∀ a, Reads env (f a) fun _ => g a) :
    ∀ l : List α, Reads env (l.mapM f) fun _ => l.mapM g
  | [] => pure []
  | a :: l => by
    simp only [List.mapM_cons]
    exact (hf a).bind fun b => (mapM hf l).bind fun bs => pure (b :: bs)

theorem loadAutomations (pipe : RowRef) (triggerType : String) :
    Reads env (Engine.loadAutomations env pipe triggerType)
      fun s => s.loadFor pipe triggerType := by
  unfold Engine.loadAutomations Store.loadFor Store.namedPipe?
  cases pipe.id? with
  | none => exact pure none
  | some id =>
    refine spanning _ (((of_passes (passes_annotate _ _)).bind fun _ =>
      (of_passes (passes_annotate _ _)).bind fun _ =>
        (reading _).bind (q := fun rows _ => AutomationRow.viewAll rows) fun rows => ?_).congr
          fun s => ?_)
    · cases rows with
      | none => exact pure none
      | some rows =>
        exact (of_passes (passes_annotate _ _)).bind fun _ =>
          (mapM (fun row => ofExcept _) rows).map
    · rw [Option.filter_some]
      cases s.pipe? id <;> rfl

end Reads

def opened (env : Environment) (triggerType : String) (pipe : RowRef) (occasion : Occasion) :
    Engine (Option (List (AutomationView × ReportDetail))) := do
  match ← loadAutomations env pipe triggerType with
  | none => return none
  | some automations => some <$> automations.mapM (examine triggerType occasion)

/-- What a run does, apart from what it tells about itself. -/
def runCore (env : Environment) (h : HandOver) (triggerType : String) (card pipe : RowRef)
    (occasion : Occasion) (depth : Int) : Engine Report := do
  match ← opened env triggerType pipe occasion with
  | none => return {}
  | some examined => reportOf <$> executeMatching env h card triggerType depth examined

theorem Reads.opened (triggerType : String) (pipe : RowRef) (occasion : Occasion) :
    Reads env (Engine.opened env triggerType pipe occasion)
      fun s => s.opening triggerType pipe occasion := by
  unfold Engine.opened Store.opening
  refine (Reads.loadAutomations pipe triggerType).bind fun found => ?_
  cases found with
  | none => exact Reads.pure none
  | some automations =>
    refine (Reads.mapM (fun a => ?_) automations).map
    unfold Engine.examine AutomationView.examined
    refine (Reads.ofExcept _).bind fun isMatch => ?_
    cases configErrors a.config with
    | nil => exact Reads.pure _
    | cons e es => exact Reads.raise _

def turn (env : Environment) (h : HandOver) (card : RowRef) (triggerType : String) (depth : Int)
    (p : AutomationView × ReportDetail) : Engine ReportDetail :=
  if p.2.isMatch then
    (fun e => { p.2 with execution := some e }) <$> execute env h p.1 card triggerType depth
  else pure p.2

theorem executeMatching_cons (card : RowRef) (triggerType : String) (depth : Int)
    (p : AutomationView × ReportDetail) (rest : List (AutomationView × ReportDetail)) :
    executeMatching env h card triggerType depth (p :: rest) =
      turn env h card triggerType depth p >>= fun d =>
        executeMatching env h card triggerType depth rest >>= fun ds => pure (d :: ds) := by
  rw [executeMatching, turn]
  dsimp only
  split
  · rw [bind_map_left]
    rfl
  · rfl

def showRun (triggerType : String) (card pipe : RowRef) (depth : Int) : Engine Unit := do
  annotate "trigger_type" (.str triggerType)
  annotate "card_id" (.str card.text)
  annotate "pipe_id" (.str pipe.text)
  annotate "cascade_depth" (.int depth)
  annotate "correlation_id" (← get).ambient.correlationShown

theorem passes_showRun (triggerType : String) (card pipe : RowRef) (depth : Int) :
    Passes (showRun triggerType card pipe depth) := by
  unfold showRun
  exact Passes.bind (passes_annotate _ _) (Passes.bind (passes_annotate _ _)
    (Passes.bind (passes_annotate _ _) (Passes.bind (passes_annotate _ _)
      (passes_annotateOf _ _))))

end Engine

/-- The world in which a run is about to look its automations up. -/
def World.running (w : World) (triggerType : String) (card pipe : RowRef) (depth : Int) : World :=
  (Engine.exec (Engine.showRun triggerType card pipe depth)
    ((w.within { w.ambient with depth := some depth }).opened "automation.run")).2

@[simp] theorem World.ledger_running (w : World) (triggerType : String) (card pipe : RowRef)
    (depth : Int) : (w.running triggerType card pipe depth).ledger =
      { w.ledger with ambient := { w.ambient with depth := some depth } } :=
  (Engine.passes_showRun triggerType card pipe depth).ledger_eq _

@[simp] theorem World.store_running (w : World) (triggerType : String) (card pipe : RowRef)
    (depth : Int) : (w.running triggerType card pipe depth).store = w.store :=
  congrArg Ledger.store (w.ledger_running triggerType card pipe depth)

namespace Engine

variable {env : Environment} {h : HandOver}

def tellRun (triggerType : String) (card pipe : RowRef) (depth : Int) (report : Report) :
    Engine Unit := do
  annotate "automations_found" (.int report.found)
  annotate "automations_matched" (.int report.matched)
  log .info runLogger "automation.run.finished"
    [("card_id", .str card.text), ("pipe_id", .str pipe.text), ("trigger_type", .str triggerType),
      ("cascade_depth", .int depth)]

theorem passes_tellRun (triggerType : String) (card pipe : RowRef) (depth : Int) (report : Report) :
    Passes (tellRun triggerType card pipe depth report) := by
  unfold tellRun
  exact Passes.bind (passes_annotate _ _) (Passes.bind (passes_annotate _ _)
    (passes_log _ (by decide) _ _ _))

/-- The part of a run inside its span, in order: what it shows, what it does, what it tells. -/
theorem runInSpan_eq (env : Environment) (h : HandOver) (triggerType : String)
    (card pipe : RowRef) (occasion : Occasion) (depth : Int) :
    runInSpan env h triggerType card pipe occasion depth =
      showRun triggerType card pipe depth >>= fun _ =>
        opened env triggerType pipe occasion >>= fun found =>
          match found with
          | none => log .warning runLogger "automation.pipe_not_found"
              [("pipe_id", .str pipe.text), ("card_id", .str card.text),
                ("trigger_type", .str triggerType)] >>= fun _ => pure {}
          | some examined =>
            executeMatching env h card triggerType depth examined >>= fun details =>
              tellRun triggerType card pipe depth (reportOf details) >>= fun _ =>
                pure (reportOf details) := by
  unfold runInSpan showRun opened tellRun
  simp only [bind_assoc]
  refine bind_congr fun _ => bind_congr fun _ => bind_congr fun _ => bind_congr fun _ =>
    bind_congr fun _ => bind_congr fun _ => bind_congr fun found => ?_
  cases found with
  | none => rfl
  | some automations =>
    dsimp only
    rw [bind_map_left]
    rfl

theorem exec_countRun (triggerType : String) (w : World) :
    ∃ w', w'.ledger = { w.ledger with runs := w.ledger.runs + 1 } ∧
      exec (countRun triggerType) w = (.ok (), w') := by
  refine ⟨(w.noted (.count "automation_runs_total" [("trigger_type", triggerType)])).noted
    (.count "automation_run_duration_seconds_count" [("trigger_type", triggerType)]), ?_, rfl⟩
  rw [World.ledger_noted_eq rfl rfl rfl, World.ledger_noted]
  rfl

/-- A run comes down to what it does; its depth holds for the time being, and it is counted. -/
theorem run_cases (env : Environment) (h : HandOver) (triggerType : String) (card pipe : RowRef)
    (occasion : Occasion) (depth : Int) (w : World) :
    ∃ r w₁ w', exec (runCore env h triggerType card pipe occasion depth)
        (w.running triggerType card pipe depth) = (r, w₁) ∧
      w'.ledger = { w₁.ledger with ambient := w.ambient, runs := w₁.ledger.runs + 1 } ∧
      exec (run env h triggerType card pipe occasion depth) w = (r, w') := by
  have hshow : exec (showRun triggerType card pipe depth)
      ((w.within { w.ambient with depth := some depth }).opened "automation.run") =
      (.ok (), w.running triggerType card pipe depth) :=
    (passes_showRun triggerType card pipe depth).exec_eq _
  generalize w.running triggerType card pipe depth = w₀ at hshow
  obtain ⟨r, w₁, w₂, hcore, hledger, hspan⟩ : ∃ r w₁ w₂,
      exec (runCore env h triggerType card pipe occasion depth) w₀ = (r, w₁) ∧
      w₂.ledger = w₁.ledger ∧
      exec (runInSpan env h triggerType card pipe occasion depth)
        ((w.within { w.ambient with depth := some depth }).opened "automation.run") = (r, w₂) := by
    rw [runInSpan_eq, exec_bind_ok hshow]
    unfold runCore
    rcases hopened : exec (opened env triggerType pipe occasion) w₀ with ⟨f | _ | examined, v⟩
    · rw [exec_bind_error hopened, exec_bind_error hopened]
      exact ⟨_, _, _, rfl, rfl, rfl⟩
    · obtain ⟨v', hlog, hledger⟩ := passes_log runLogger (by decide) .warning
        "automation.pipe_not_found" [("pipe_id", .str pipe.text), ("card_id", .str card.text),
          ("trigger_type", .str triggerType)] v
      rw [exec_bind_ok hopened, exec_bind_ok hopened, exec_bind_ok hlog]
      exact ⟨_, _, _, rfl, hledger, rfl⟩
    · rw [exec_bind_ok hopened, exec_bind_ok hopened]
      dsimp only
      rcases hmatching : exec (executeMatching env h card triggerType depth examined) v with
        ⟨f | details, v'⟩
      · rw [exec_bind_error hmatching, exec_map, hmatching]
        exact ⟨_, _, _, rfl, rfl, rfl⟩
      · obtain ⟨v'', htell, hledger⟩ :=
          passes_tellRun triggerType card pipe depth (reportOf details) v'
        rw [exec_bind_ok hmatching, exec_bind_ok htell, exec_map, hmatching]
        exact ⟨_, _, _, rfl, hledger, rfl⟩
  obtain ⟨w₃, hledger₃, hcount⟩ := exec_countRun triggerType (w₂.closed (faultOf r))
  refine ⟨r, w₁, w₃.within w.ambient, hcore, ?_, ?_⟩
  · rw [World.ledger_within, hledger₃, World.ledger_closed, hledger]
  · unfold run withDepth
    rw [exec_withAmbient, exec_bind_ok (exec_outcome _ _), exec_spanning, hspan,
      exec_bind_ok hcount, exec_ofExcept]

end Engine
end BoardRules
