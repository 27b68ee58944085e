import BoardRules.Proofs.Run.Audit

/-! The report of a run and the audit log agree. Of every automation that a run looks up there is
one detail; of every one that matches there is one execution, one name in one of three lists, and
one entry in the log, all in the order in which the automations run. -/
namespace BoardRules

open Engine

/-- Whether entries of the audit log are those that come of requests handed over one after the
other. -/
inductive HandOver.Appends (h : HandOver) : List LogRow → Prop where
  | nil : h.Appends []
  | handed {rest : List LogRow} (request : CascadeRequest) (w : World) (rows : List LogRow)
    (hlogs : (exec (h request) w).2.store.logs = w.store.logs ++ rows) (hrest : h.Appends rest) :
    h.Appends (rows ++ rest)

theorem HandOver.Appends.append {h : HandOver} {rows rows' : List LogRow} (hrows : h.Appends rows)
    (hrows' : h.Appends rows') : h.Appends (rows ++ rows') := by
  induction hrows with
  | nil => exact hrows'
  | handed request w rows hlogs _ ih =>
    rw [List.append_assoc]
    exact .handed request w rows hlogs ih

/-- A run's own entries among all that are added meanwhile: each stands after the entries of what
its automation has handed over, and nothing else stands there. -/
inductive HandOver.Interleaves (h : HandOver) : List LogRow → List LogRow → Prop where
  | nil : h.Interleaves [] []
  | cons {own rows nested : List LogRow} (row : LogRow) (hnested : h.Appends nested)
    (hrest : h.Interleaves own rows) : h.Interleaves (row :: own) (nested ++ row :: rows)

/-- The audit log grows by what is handed over, and by nothing else. -/
def Fed (h : HandOver) (w w' : World) : Prop :=
  ∃ rows, w'.store.logs = w.store.logs ++ rows ∧ h.Appends rows

namespace Fed

variable {h : HandOver} {w w' w₁ w₂ w₃ : World}

theorem of_logs (hlogs : w'.store.logs = w.store.logs) : Fed h w w' :=
  ⟨[], by rw [hlogs, List.append_nil], .nil⟩

theorem trans (h₁ : Fed h w₁ w₂) (h₂ : Fed h w₂ w₃) : Fed h w₁ w₃ := by
  obtain ⟨rows₁, hlogs₁, hrows₁⟩ := h₁
  obtain ⟨rows₂, hlogs₂, hrows₂⟩ := h₂
  refine ⟨rows₁ ++ rows₂, ?_, hrows₁.append hrows₂⟩
  rw [hlogs₂, hlogs₁, List.append_assoc]

theorem law : Law (Fed h) where
  quiet := fun hledger => of_logs (congrArg Store.logs (World.store_of_ledger hledger))
  trans := trans
  within := fun _ hfed => hfed

theorem actionLaw : ActionLaw (Fed h) where
  toLaw := law
  mailed := fun hledger => of_logs (congrArg (fun l => l.store.logs) hledger)
  refused := fun hledger => of_logs (congrArg (fun l => l.store.logs) hledger)
  moved := fun _ _ _ _ _ _ hledger => of_logs (congrArg (fun l => l.store.logs) hledger)
  wrote := by
    intro w w' row key value time _ hledger
    have hstore : w'.store = w.store.writeField row.id key value time :=
      congrArg Ledger.store hledger
    refine of_logs ?_
    rw [hstore, Store.logs_writeField]

end Fed

theorem HandOver.Cascades.fed {env : Environment} {h : HandOver} (hcascades : h.Cascades env)
    (request : CascadeRequest) : Engine.Keeps (Fed h) (h request) := by
  intro w
  obtain ⟨rows, hlogs⟩ := logs_of_cascades hcascades request w
  refine ⟨rows, hlogs, ?_⟩
  have hhanded : h.Appends (rows ++ []) := .handed request w rows hlogs .nil
  rwa [List.append_nil] at hhanded

/-- Whether a detail is about a stored automation, and tells whether it applies on an occasion. -/
def AutomationRow.IsListed (a : AutomationRow) (triggerType : String) (occasion : Occasion)
    (d : ReportDetail) : Prop :=
  d.name = a.name ∧ d.id = a.id ∧ ∃ config, a.triggerConfig.toMapping = .ok config ∧
    d.config = config.named ∧ occasion.suits triggerType (.obj config.named) = .ok d.isMatch

namespace ReportDetail

/-- Whether an entry is the one about a detail's execution. -/
def IsEntered (d : ReportDetail) (card : RowRef) (triggerType : String) (row : LogRow) : Prop :=
  ∃ e id time, d.execution = some e ∧ card.id? = some id ∧ row = e.logRow id d.id triggerType time

def endedAs (status : ExecutionStatus) (d : ReportDetail) : Bool :=
  d.isMatch && d.execution.any fun e => e.status = status

/-- Details of which exactly those that match have an execution fall into three parts. -/
theorem endedAs_perm : ∀ {details : List ReportDetail},
    (∀ d ∈ details, d.isMatch = d.execution.isSome) →
    (details.filter (endedAs .success) ++ details.filter (endedAs .skipped) ++
      details.filter (endedAs .error)).Perm (details.filter isMatch)
  | [], _ => .nil
  | d :: details, hall => by
    obtain ⟨hd, hrest⟩ := List.forall_mem_cons.mp hall
    have ih := endedAs_perm hrest
    cases hexecution : d.execution with
    | none =>
      rw [hexecution] at hd
      have hnone : ∀ status, endedAs status d = false := fun status => by simp [endedAs, hd]
      have hpassed : d.isMatch = false := hd
      simpa [List.filter_cons, hnone, hpassed] using ih
    | some e =>
      rw [hexecution] at hd
      have hmatch : d.isMatch = true := hd
      have hended : ∀ status, endedAs status d = decide (e.status = status) := fun status => by
        simp [endedAs, hmatch, hexecution]
      cases hstatus : e.status with
      | success =>
        simpa [List.filter_cons, hended, hstatus, hmatch] using ih
      | skipped =>
        simp only [List.filter_cons, hended, hstatus, hmatch, reduceCtorEq, decide_false,
          decide_true, if_true, Bool.false_eq_true, if_false]
        rw [List.append_assoc, List.cons_append]
        refine List.perm_middle.trans (.cons d ?_)
        rw [← List.append_assoc]
        exact ih
      | error =>
        simp only [List.filter_cons, hended, hstatus, hmatch, reduceCtorEq, decide_false,
          decide_true, if_true, Bool.false_eq_true, if_false]
        exact List.perm_middle.trans (.cons d ih)

end ReportDetail

namespace Engine

variable {env : Environment} {h : HandOver} {card pipe : RowRef} {triggerType : String}
  {occasion : Occasion} {depth : Int} {w w' : World}

/-- The turns of automations, one after the other, and what is reported of them. One that does not
match is passed over: nothing happens in its turn. -/
inductive Turns (env : Environment) (h : HandOver) (card : RowRef) (triggerType : String)
    (depth : Int) : World → List AutomationView → List ReportDetail → World → Prop where
  | nil (w : World) : Turns env h card triggerType depth w [] [] w
  | passed {w w' : World} {v : AutomationView} {d : ReportDetail} {views : List AutomationView}
    {details : List ReportDetail} (hmatch : d.isMatch = false) (hexecution : d.execution = none)
    (hrest : Turns env h card triggerType depth w views details w') :
    Turns env h card triggerType depth w (v :: views) (d :: details) w'
  | executed {w w₁ w' : World} {v : AutomationView} {d : ReportDetail}
    {views : List AutomationView} {details : List ReportDetail} (e : Execution)
    (hmatch : d.isMatch = true) (hid : d.id = v.id) (hexecution : d.execution = some e)
    (hexec : exec (execute env h v card triggerType depth) w = (.ok e, w₁))
    (hrest : Turns env h card triggerType depth w₁ views details w') :
    Turns env h card triggerType depth w (v :: views) (d :: details) w'

/-- What a report tells and what a run has done agree. -/
structure Agrees (env : Environment) (h : HandOver) (triggerType : String) (card : RowRef)
    (pipe : Uuid) (occasion : Occasion) (depth : Int) (w w' : World) (report : Report) : Prop where
  listed : List.Forall₂ (fun a d => a.IsListed triggerType occasion d)
    (w.store.automationRows pipe triggerType) report.details
  found : report.found = report.details.length
  matched : report.matched = report.details.countP ReportDetail.isMatch
  executed : report.executed =
    (report.details.filter (ReportDetail.endedAs .success)).map ReportDetail.name
  skipped : report.skipped =
    (report.details.filter (ReportDetail.endedAs .skipped)).map ReportDetail.name
  failed : report.failed =
    (report.details.filter (ReportDetail.endedAs .error)).map ReportDetail.name
  covered : (report.details.filter (ReportDetail.endedAs .success) ++
    report.details.filter (ReportDetail.endedAs .skipped) ++
      report.details.filter (ReportDetail.endedAs .error)).Perm
        (report.details.filter ReportDetail.isMatch)
  turns : ∃ views w₀ w₁,
    List.Forall₂ (fun a v => a.view = .ok v) (w.store.automationRows pipe triggerType) views ∧
    w₀.ledger = { w.ledger with ambient := { w.ambient with depth := some depth } } ∧
    Turns env h card triggerType depth w₀ views report.details w₁ ∧
    w'.ledger = { w₁.ledger with ambient := w.ambient, runs := w₁.ledger.runs + 1 }
  entries : ∃ own rows, w'.store.logs = w.store.logs ++ rows ∧ h.Interleaves own rows ∧
    List.Forall₂ (fun d row => d.IsEntered card triggerType row)
      (report.details.filter ReportDetail.isMatch) own

theorem execute_entry (hfed : ∀ request, Keeps (Fed h) (h request)) {v : AutomationView}
    {e : Execution} (hexec : exec (execute env h v card triggerType depth) w = (.ok e, w')) :
    ∃ id time nested, card.id? = some id ∧ h.Appends nested ∧
      w'.store.logs = w.store.logs ++ (nested ++ [e.logRow id v.id triggerType time]) := by
  have hkept : Fed h (w.executing v card)
      (exec (execution env h v card depth) (w.executing v card)).2 :=
    Keeps.execution Fed.actionLaw hfed v card depth (w.executing v card)
  obtain ⟨r, w₁, w₂, hexecution, hend⟩ := execute_cases env h v card triggerType depth w
  rw [hexecution] at hkept
  obtain ⟨nested, hlogs, hnested⟩ := hkept
  rw [World.store_executing] at hlogs
  rcases hend with ⟨f, -, -, hexecute⟩ |
    ⟨e', -, ⟨-, -, hexecute⟩ | ⟨id, time, hid, hledger, hexecute⟩⟩
  · rw [hexec] at hexecute
    cases hexecute
  · rw [hexec] at hexecute
    cases hexecute
  · rw [hexec] at hexecute
    cases hexecute
    have hstore : w'.store = w₁.store.addLog (e.logRow id v.id triggerType time) :=
      congrArg Ledger.store hledger
    refine ⟨id, time, nested, hid, hnested, ?_⟩
    rw [hstore, ← List.append_assoc, ← hlogs]
    rfl

namespace Turns

variable {views : List AutomationView} {details : List ReportDetail}

theorem execution_isSome (hturns : Turns env h card triggerType depth w views details w') :
    ∀ d ∈ details, d.isMatch = d.execution.isSome := by
  induction hturns with
  | nil => simp
  | passed hmatch hexecution _ ih =>
    exact List.forall_mem_cons.mpr ⟨by rw [hmatch, hexecution]; rfl, ih⟩
  | executed e hmatch _ hexecution _ _ ih =>
    exact List.forall_mem_cons.mpr ⟨by rw [hmatch, hexecution]; rfl, ih⟩

/-- Each turn of an automation that matches adds one entry of its own. -/
theorem entries (hfed : ∀ request, Keeps (Fed h) (h request))
    (hturns : Turns env h card triggerType depth w views details w') :
    ∃ own rows, w'.store.logs = w.store.logs ++ rows ∧ h.Interleaves own rows ∧
      List.Forall₂ (fun d row => d.IsEntered card triggerType row)
        (details.filter ReportDetail.isMatch) own := by
  induction hturns with
  | nil w => exact ⟨[], [], by rw [List.append_nil], .nil, .nil⟩
  | passed hmatch _ _ ih =>
    obtain ⟨own, rows, hlogs, hinterleaves, hentered⟩ := ih
    refine ⟨own, rows, hlogs, hinterleaves, ?_⟩
    rw [List.filter_cons, hmatch]
    exact hentered
  | @executed w w₁ w' v d views details e hmatch hid hexecution hexec _ ih =>
    obtain ⟨own, rows, hlogs, hinterleaves, hentered⟩ := ih
    obtain ⟨id, time, nested, hcard, hnested, hlogs₁⟩ := execute_entry hfed hexec
    refine ⟨e.logRow id v.id triggerType time :: own,
      nested ++ e.logRow id v.id triggerType time :: rows, ?_, .cons _ hnested hinterleaves, ?_⟩
    · rw [hlogs, hlogs₁]
      simp only [List.append_assoc, List.singleton_append]
    · rw [List.filter_cons, hmatch]
      exact .cons ⟨e, id, time, hexecution, hcard, by rw [hid]⟩ hentered

end Turns

/-- A run through automations that have been examined is made up of their turns; what it tells of
each, apart from the execution, is what was found on examining it. -/
theorem turns_of_executeMatching :
    ∀ {examined : List (AutomationView × ReportDetail)} {w : World} {details : List ReportDetail},
      (∀ p ∈ examined, p.2.id = p.1.id ∧ p.2.execution = none) →
      exec (executeMatching env h card triggerType depth examined) w = (.ok details, w') →
      Turns env h card triggerType depth w (examined.map Prod.fst) details w' ∧
        List.Forall₂ (fun p d => { d with execution := none } = p.2) examined details
  | [], w, details, _, hexec => by
    cases hexec
    exact ⟨.nil _, .nil⟩
  | p :: examined, w, details, hall, hexec => by
    obtain ⟨⟨hid, hnone⟩, hrest⟩ := List.forall_mem_cons.mp hall
    rw [executeMatching_cons] at hexec
    obtain ⟨d, w₁, hturn, hexec⟩ := exec_bind_eq_ok.mp hexec
    obtain ⟨ds, w₂, hexec, hdone⟩ := exec_bind_eq_ok.mp hexec
    cases hdone
    obtain ⟨hturns, hsame⟩ := turns_of_executeMatching hrest hexec
    have hbare : { p.2 with execution := none } = p.2 := by rw [← hnone]
    unfold turn at hturn
    cases hmatch : p.2.isMatch with
    | false =>
      rw [hmatch] at hturn
      cases hturn
      exact ⟨.passed hmatch hnone hturns, .cons hbare hsame⟩
    | true =>
      rw [hmatch, if_pos rfl, exec_map] at hturn
      cases hexecute : exec (execute env h p.1 card triggerType depth) w with
      | mk r w₃ =>
        rw [hexecute] at hturn
        cases r with
        | error f => cases hturn
        | ok e =>
          cases hturn
          exact ⟨.executed e hmatch hid rfl hexecute hturns, .cons hbare hsame⟩

theorem isListed_of_examined {a : AutomationRow} {p : AutomationView × ReportDetail}
    (hview : a.view = .ok p.1) (hexamined : p.1.examined triggerType occasion = .ok p) :
    a.IsListed triggerType occasion p.2 ∧ p.2.id = p.1.id ∧ p.2.execution = none := by
  obtain ⟨v, d⟩ := p
  obtain ⟨config, actions, hconfig, -, rfl⟩ := view_eq_ok_iff.mp hview
  unfold AutomationView.examined at hexamined
  obtain ⟨isMatch, hsuits, hexamined⟩ := bind_eq_ok.mp hexamined
  split at hexamined
  · have hd := congrArg Prod.snd (Except.ok.inj hexamined)
    dsimp only at hd
    subst hd
    exact ⟨⟨rfl, rfl, config, hconfig, rfl, mapError_eq_ok hsuits⟩, rfl, rfl⟩
  · cases hexamined

/-- A run that reports for a pipe has looked up and examined all of its automations. -/
theorem runCore_eq_ok {id : Uuid} {report : Report} (hpipe : w.store.namedPipe? pipe = some id)
    (hexec : exec (runCore env h triggerType card pipe occasion depth) w = (.ok report, w')) :
    ∃ examined details w₁, w₁.ledger = w.ledger ∧
      List.Forall₂ (fun a p => a.view = .ok p.1 ∧
        AutomationView.examined triggerType occasion p.1 = .ok p)
        (w.store.automationRows id triggerType) examined ∧
      exec (executeMatching env h card triggerType depth examined) w₁ = (.ok details, w') ∧
      report = reportOf details := by
  unfold runCore at hexec
  obtain ⟨found, w₁, hopened, hexec⟩ := exec_bind_eq_ok.mp hexec
  obtain ⟨hledger, hopening⟩ := (Reads.opened triggerType pipe occasion).eq_ok hopened
  cases found with
  | none => exact absurd hopening (Store.opening_ne_none hpipe)
  | some examined =>
    obtain ⟨id', hpipe', hrows⟩ := Store.opening_eq_ok hopening
    rw [hpipe] at hpipe'
    cases hpipe'
    dsimp only at hexec
    rw [exec_map] at hexec
    cases hmatching : exec (executeMatching env h card triggerType depth examined) w₁ with
    | mk r w₃ =>
      rw [hmatching] at hexec
      cases r with
      | error f => cases hexec
      | ok details =>
        cases hexec
        exact ⟨examined, details, w₁, hledger, hrows, hmatching, rfl⟩

theorem namesOf_eq {details : List ReportDetail}
    (hall : ∀ d ∈ details, d.isMatch = d.execution.isSome) (status : ExecutionStatus) :
    namesOf details status =
      (details.filter (ReportDetail.endedAs status)).map ReportDetail.name := by
  unfold namesOf
  refine congrArg (List.map ReportDetail.name) (List.filter_congr fun d hd => ?_)
  unfold ReportDetail.endedAs
  rw [hall d hd]
  cases d.execution <;> rfl

/-- Without a pipe there is nothing to report, and nothing happens. -/
theorem runCore_of_no_pipe (env : Environment) (h : HandOver) (triggerType : String)
    (card : RowRef) (occasion : Occasion) (depth : Int) (hpipe : w.store.namedPipe? pipe = none) :
    ∃ w', w'.ledger = w.ledger ∧
      (exec (runCore env h triggerType card pipe occasion depth) w = (.ok {}, w') ∨
        pipe.id? ≠ none ∧ (∃ n, env.storageFails n = true) ∧
          exec (runCore env h triggerType card pipe occasion depth) w =
            (.error .storageRead, w')) := by
  unfold runCore
  cases hid : pipe.id? with
  | none =>
    have hopened : opened env triggerType pipe occasion = pure none := by
      unfold opened loadAutomations
      rw [hid]
      rfl
    rw [hopened]
    exact ⟨w, rfl, .inl rfl⟩
  | some id =>
    have hreads : Reads env (opened env triggerType pipe occasion) _ := Reads.opened _ _ _
    obtain ⟨w₁, hledger, hopened | ⟨hfails, hopened⟩⟩ := hreads w
    · rw [Store.opening_of_none hpipe] at hopened
      exact ⟨w₁, hledger, .inl (exec_bind_ok hopened _)⟩
    · exact ⟨w₁, hledger, .inr ⟨by simp, hfails, exec_bind_error hopened _⟩⟩

/-- Whatever a run reports for a pipe agrees with what it has done and with what it has entered into
the audit log. Where there is no such pipe the report is empty and nothing is stored, unless the
storage fails before that is known. -/
theorem run_agrees (env : Environment) {h : HandOver} (hcascades : h.Cascades env)
    (triggerType : String) (card pipe : RowRef) (occasion : Occasion) (depth : Int) (w : World) :
    (w.store.namedPipe? pipe = none →
      ∃ w', w'.ledger = { w.ledger with runs := w.ledger.runs + 1 } ∧
        (exec (run env h triggerType card pipe occasion depth) w = (.ok {}, w') ∨
          pipe.id? ≠ none ∧ (∃ n, env.storageFails n = true) ∧
            exec (run env h triggerType card pipe occasion depth) w =
              (.error .storageRead, w'))) ∧
    ∀ id report w', w.store.namedPipe? pipe = some id →
      exec (run env h triggerType card pipe occasion depth) w = (.ok report, w') →
        Agrees env h triggerType card id occasion depth w w' report := by
  obtain ⟨r, w₁, w₂, hcore, hledger, hrun⟩ :=
    run_cases env h triggerType card pipe occasion depth w
  have hledger₀ := World.ledger_running w triggerType card pipe depth
  have hstore₀ := World.store_running w triggerType card pipe depth
  constructor
  · intro hpipe
    rw [← hstore₀] at hpipe
    obtain ⟨w₃, hledger₃, hended⟩ :=
      runCore_of_no_pipe env h triggerType card occasion depth hpipe
    rw [hcore] at hended
    refine ⟨w₂, ?_, ?_⟩
    · rcases hended with h | ⟨-, -, h⟩
      · cases h
        rw [hledger, hledger₃, hledger₀]
        rfl
      · cases h
        rw [hledger, hledger₃, hledger₀]
        rfl
    · rcases hended with h | ⟨hid, hfails, h⟩
      · cases h
        exact .inl hrun
      · cases h
        exact .inr ⟨hid, hfails, hrun⟩
  · intro id report w' hpipe hexec
    rw [hrun] at hexec
    cases hexec
    rw [← hstore₀] at hpipe
    obtain ⟨examined, details, w₀, hledger₁, hrows, hmatching, rfl⟩ := runCore_eq_ok hpipe hcore
    rw [hstore₀] at hrows
    have hlisted := hrows.imp fun a p hp => isListed_of_examined hp.1 hp.2
    obtain ⟨hturns, hsame⟩ := turns_of_executeMatching (fun p hp => by
      obtain ⟨a, -, hp⟩ := exists_forall₂_iff.mp ⟨_, hlisted.flip⟩ p hp
      exact hp) hmatching
    have hall := hturns.execution_isSome
    have hstore₁ : w₀.store = w.store := (World.store_of_ledger hledger₁).trans hstore₀
    have hstore₂ : w₂.store = w₁.store := congrArg Ledger.store hledger
    have hlisted' : List.Forall₂ (fun a d => a.IsListed triggerType occasion d)
        (w.store.automationRows id triggerType) details := by
      refine forall₂_trans (fun a p d hp hbare => ?_) hlisted hsame
      have hsound := hp.1
      rw [← hbare] at hsound
      exact hsound
    refine ⟨hlisted', rfl, rfl,
      namesOf_eq hall .success, namesOf_eq hall .skipped, namesOf_eq hall .error,
      ReportDetail.endedAs_perm hall, ⟨examined.map Prod.fst, w₀, w₁, ?_, ?_, hturns, hledger⟩, ?_⟩
    · exact List.forall₂_map_right_iff.mpr (hrows.imp fun a p hp => hp.1)
    · rw [hledger₁, hledger₀]
    · obtain ⟨own, rows, hlogs, hinterleaves, hentered⟩ := hturns.entries hcascades.fed
      refine ⟨own, rows, ?_, hinterleaves, hentered⟩
      rw [hstore₂, hlogs, hstore₁]

/-- On the small board, the run that a card's entering the first stage sets off executes the only
automation, and the log has one more entry for it. -/
theorem run_agrees_sample : ∃ report w',
    exec (run Environment.sample (inPlace Environment.sample openPool) "card_enters_stage"
        (.ofUuid ⟨3, by decide⟩) (.ofUuid ⟨1, by decide⟩) .untold 0) { store := Store.sample } =
      (.ok report, w') ∧ report.executed = ["Done at once"] ∧
    Agrees Environment.sample (inPlace Environment.sample openPool) "card_enters_stage"
      (.ofUuid ⟨3, by decide⟩) ⟨1, by decide⟩ .untold 0 { store := Store.sample } w' report := by
  have hnames : (exec (run Environment.sample (inPlace Environment.sample openPool)
      "card_enters_stage" (.ofUuid ⟨3, by decide⟩) (.ofUuid ⟨1, by decide⟩) .untold 0)
      { store := Store.sample }).1.toOption.map Report.executed = some ["Done at once"] := by
    decide +kernel
  cases hexec : exec (run Environment.sample (inPlace Environment.sample openPool)
      "card_enters_stage" (.ofUuid ⟨3, by decide⟩) (.ofUuid ⟨1, by decide⟩) .untold 0)
      { store := Store.sample } with
  | mk r w' =>
    rw [hexec] at hnames
    cases r with
    | error f => cases hnames
    | ok report =>
      exact ⟨report, w', rfl, Option.some.inj hnames,
        (run_agrees Environment.sample (cascades_inPlace cascades_openPool) "card_enters_stage"
          (.ofUuid ⟨3, by decide⟩) (.ofUuid ⟨1, by decide⟩) .untold 0 { store := Store.sample }).2
            ⟨1, by decide⟩ report w' (by decide) hexec⟩

end Engine
end BoardRules
