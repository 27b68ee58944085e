import BoardRules.Proofs.Cascade.Unfold
import BoardRules.Proofs.Run.Course
import BoardRules.Proofs.Store.Change
import BoardRules.Proofs.Store.Sound

/-! The audit log. A run adds entries to it, each for one automation, and each tells exactly what
was attempted of the automation's actions and how it ended. -/
namespace BoardRules

def typeShown (payload : Json) : String :=
  if (payload.entries.getD "type").isTruthy then (payload.entries.getD "type").shown else "unknown"

def configShown (payload : Json) : Entries :=
  match payload.entries.getD "config" with
  | .obj es => es
  | _ => []

def attemptEntry (payload : Json) (status : String) (rest : Entries) : Json :=
  .obj (("type", .str (typeShown payload)) :: ("config", .obj (configShown payload)) ::
    ("status", .str status) :: rest)

/-- What the conditions of an automation are noted as once they let it pass. -/
def passedNote (conditions : Json) : Option Bool :=
  if conditionsGiven conditions then some true else none

namespace Engine

/-- An entry of the audit log about an automation with stored conditions and actions. The world `w`
is that in which its conditions have been checked, `w'` that in which the entry is written. -/
inductive Told (env : Environment) (h : HandOver) (ctx : ActionContext) (conditions : Json)
    (actions : List Json) (w w' : World) (row : LogRow) : Prop where
  | skipped (hattempted : w' = w) (hstatus : row.status = "skipped")
    (hmet : row.conditionsMet = some false) (hentries : row.actions = [])
    (herror : row.error = some "Conditions not met") :
    Told env h ctx conditions actions w w' row
  /-- Every action is attempted, in order, and succeeds. -/
  | success (records : List ActionRecord) (hattempted : Performed env h ctx w actions records w')
    (hstatus : row.status = "success") (hmet : row.conditionsMet = passedNote conditions)
    (hentries : List.Forall₂ (fun payload entry =>
      ∃ report, entry = attemptEntry payload "success" [("result", .obj report)])
      actions row.actions)
    (herror : row.error = none) : Told env h ctx conditions actions w w' row
  /-- An action fails after others that have succeeded; those after it are not attempted. -/
  | error (done : List Json) (payload : Json) (rest : List Json) (records : List ActionRecord)
    (entries : List Json) (message : String) (hactions : actions = done ++ payload :: rest)
    (hattempted : Performed env h ctx w (done ++ [payload]) records w')
    (hstatus : row.status = "error") (hmet : row.conditionsMet = passedNote conditions)
    (hentries : row.actions = entries ++ [attemptEntry payload "error" [("error", .str message)]])
    (hdone : List.Forall₂ (fun payload entry =>
      ∃ report, entry = attemptEntry payload "success" [("result", .obj report)]) done entries)
    (herror : row.error = some message) : Told env h ctx conditions actions w w' row

/-- An entry that a stored automation has left in a log. -/
inductive Entered (env : Environment) (a : AutomationRow) (logs : List LogRow) (row : LogRow) :
    Prop where
  | intro (v : AutomationView) (h : HandOver) (card : RowRef) (depth : Int)
    (met : Option Bool) (w₀ w w' : World) (hview : a.view = .ok v)
    (hautomation : row.automation = a.id) (hgate : exec (gate env v card) w₀ = (.ok met, w))
    (htold : Told env h { card, automation := a.id, depth } a.conditions v.actions w w' row)
    (hlogs : w'.store.logs = logs) : Entered env a logs row

end Engine

open Engine

/-- With certain automations stored, nothing happens to the audit log but that entries are added,
each of them one that an automation leaves where the log has come to. -/
def Audited (env : Environment) (automations : List AutomationRow) (w w' : World) : Prop :=
  w.store.automations = automations →
    w'.store.automations = automations ∧
      ∃ rows, w'.store.logs = w.store.logs ++ rows ∧
        ∀ earlier row later, rows = earlier ++ row :: later →
          ∃ a ∈ automations, Entered env a (w.store.logs ++ earlier) row

namespace Audited

variable {env : Environment} {automations : List AutomationRow} {w w' w₁ w₂ w₃ : World}

theorem of_store (hautomations : w'.store.automations = w.store.automations)
    (hlogs : w'.store.logs = w.store.logs) : Audited env automations w w' := by
  intro hw
  refine ⟨hautomations.trans hw, [], by rw [hlogs, List.append_nil], ?_⟩
  intro earlier row later hsplit
  cases earlier <;> cases hsplit

theorem trans (h₁ : Audited env automations w₁ w₂) (h₂ : Audited env automations w₂ w₃) :
    Audited env automations w₁ w₃ := by
  intro hw
  obtain ⟨hautomations, rows₁, hlogs₁, hrows₁⟩ := h₁ hw
  obtain ⟨hautomations', rows₂, hlogs₂, hrows₂⟩ := h₂ hautomations
  refine ⟨hautomations', rows₁ ++ rows₂, ?_, ?_⟩
  · rw [hlogs₂, hlogs₁, List.append_assoc]
  · intro earlier row later hsplit
    rcases List.append_eq_append_iff.mp hsplit with ⟨rest, hearlier, hrest⟩ | ⟨rest, hrest, hlater⟩
    · obtain ⟨a, ha, hentered⟩ := hrows₂ rest row later hrest
      rw [hlogs₁, List.append_assoc, ← hearlier] at hentered
      exact ⟨a, ha, hentered⟩
    · cases rest with
      | nil =>
        obtain ⟨a, ha, hentered⟩ := hrows₂ [] row later hlater.symm
        rw [List.append_nil] at hrest hentered
        rw [hlogs₁, hrest] at hentered
        exact ⟨a, ha, hentered⟩
      | cons row' rest =>
        cases hlater
        exact hrows₁ earlier row rest hrest

theorem law : Law (Audited env automations) where
  quiet := fun h =>
    of_store (congrArg Store.automations (World.store_of_ledger h))
      (congrArg Store.logs (World.store_of_ledger h))
  trans := trans
  within := fun _ h => h

theorem actionLaw : ActionLaw (Audited env automations) where
  toLaw := law
  mailed := fun h =>
    of_store (congrArg (fun l => l.store.automations) h) (congrArg (fun l => l.store.logs) h)
  refused := fun h =>
    of_store (congrArg (fun l => l.store.automations) h) (congrArg (fun l => l.store.logs) h)
  moved := fun _ _ _ _ _ _ h =>
    of_store (congrArg (fun l => l.store.automations) h) (congrArg (fun l => l.store.logs) h)
  wrote := by
    intro w w' row key value time _ h
    have hstore : w'.store = w.store.writeField row.id key value time := congrArg Ledger.store h
    refine of_store ?_ ?_
    · rw [hstore, Store.automations_writeField]
    · rw [hstore, Store.logs_writeField]

end Audited

namespace Engine

variable {env : Environment} {h : HandOver} {automations : List AutomationRow}

theorem typeShown_eq (payload : Json) : Action.recordedType payload = typeShown payload := by
  unfold Action.recordedType typeShown Json.orElse
  split <;> rfl

theorem configShown_eq (payload : Json) : Action.recordedConfig payload = configShown payload := rfl

theorem logEntry_of_success {payload : Json} {result : ActionOutcome}
    (hsuccess : (recordOf payload result).error? = none) :
    ∃ report, (recordOf payload result).logEntry =
      attemptEntry payload "success" [("result", .obj report)] := by
  cases result with
  | success report =>
    unfold attemptEntry
    rw [← typeShown_eq, ← configShown_eq]
    exact ⟨report, rfl⟩
  | error message => cases hsuccess

theorem logEntry_of_error {payload : Json} {result : ActionOutcome} {message : String}
    (herror : (recordOf payload result).error? = some message) :
    (recordOf payload result).logEntry =
      attemptEntry payload "error" [("error", .str message)] := by
  cases result with
  | success report => cases herror
  | error message' =>
    cases herror
    unfold attemptEntry
    rw [← typeShown_eq, ← configShown_eq]
    rfl

theorem entries_of_success {payloads : List Json} {records : List ActionRecord}
    (hrecords : List.Forall₂ (fun payload record => ∃ result, record = recordOf payload result)
      payloads records) (hsuccess : ∀ r ∈ records, r.error? = none) :
    List.Forall₂ (fun payload entry =>
      ∃ report, entry = attemptEntry payload "success" [("result", .obj report)])
      payloads (records.map ActionRecord.logEntry) := by
  induction hrecords with
  | nil => exact .nil
  | cons hrecord _ ih =>
    obtain ⟨result, rfl⟩ := hrecord
    obtain ⟨hfirst, hrest⟩ := List.forall_mem_cons.mp hsuccess
    exact .cons (logEntry_of_success hfirst) (ih hrest)

/-- Conditions that are not an object say as little as an object without rules. -/
theorem conditionsGiven_entries (a : AutomationRow) :
    conditionsGiven (.obj (a.conditionEntries.getD [])) = conditionsGiven a.conditions := by
  unfold AutomationRow.conditionEntries
  cases a.conditions <;> rfl

theorem passedNote_eq {a : AutomationRow} {v : AutomationView} (hview : a.view = .ok v)
    {met : Option Bool} (hmet : met ≠ some false)
    (hgiven : met.isSome = conditionsGiven (.obj (v.conditions.getD []))) :
    met = passedNote a.conditions := by
  rw [(view_eq_ok hview).2.1, conditionsGiven_entries] at hgiven
  unfold passedNote
  rw [← hgiven]
  cases met with
  | none => rfl
  | some b =>
    cases b with
    | false => exact absurd rfl hmet
    | true => rfl

theorem ofRecords_of_success (met : Option Bool) {records : List ActionRecord}
    (hsuccess : ∀ r ∈ records, r.error? = none) :
    Execution.ofRecords met records =
      { status := .success, conditionsMet := met, actions := records } := by
  unfold Execution.ofRecords
  rw [List.findSome?_eq_none_iff.mpr hsuccess]

theorem ofRecords_of_error (met : Option Bool) {records : List ActionRecord} {failed : ActionRecord}
    {message : String} (hsuccess : ∀ r ∈ records, r.error? = none)
    (herror : failed.error? = some message) :
    Execution.ofRecords met (records ++ [failed]) =
      { status := .error, conditionsMet := met, actions := records ++ [failed],
        error := some message } := by
  unfold Execution.ofRecords
  rw [List.findSome?_append, List.findSome?_eq_none_iff.mpr hsuccess]
  simp [herror]

/-- Whatever comes of an automation, the entry about it tells just that. -/
theorem told_of_execution {a : AutomationRow} {v : AutomationView} (hview : a.view = .ok v)
    {card : RowRef} {depth : Int} {w w' : World} {e : Execution}
    (hexec : exec (execution env h v card depth) w = (.ok e, w')) (id : Uuid)
    (triggerType : String) (time : Moment) :
    ∃ met w₁, exec (gate env v card) w = (.ok met, w₁) ∧
      Told env h { card, automation := a.id, depth } a.conditions v.actions w₁ w'
        (e.logRow id v.id triggerType time) := by
  obtain ⟨met, w₁, hgate, ⟨-, rfl, rfl⟩ | ⟨hmet, records, hall, rfl⟩⟩ := execution_eq_ok hexec
  · exact ⟨met, w', hgate, .skipped rfl rfl rfl rfl rfl⟩
  · refine ⟨met, w₁, hgate, ?_⟩
    have hnote : met = passedNote a.conditions := passedNote_eq hview hmet (gate_eq_ok hgate).2
    rw [(view_eq_ok hview).1] at hall
    rcases performAll_eq_ok hall with ⟨hperformed, hsuccess⟩ |
      ⟨done, payload, rest, succeeded, failed, message, w₂, hsplit, rfl, hperformed, hsuccess,
        hlast, herror⟩
    · rw [ofRecords_of_success met hsuccess]
      exact .success records hperformed rfl hnote
        (entries_of_success hperformed.records_eq hsuccess) rfl
    · rw [ofRecords_of_error met hsuccess herror]
      obtain ⟨result, rfl⟩ := perform_eq_ok hlast
      refine .error done payload rest _ (succeeded.map ActionRecord.logEntry) message hsplit
        (hperformed.snoc hlast) rfl hnote ?_ (entries_of_success hperformed.records_eq hsuccess) rfl
      rw [← logEntry_of_error herror]
      exact List.map_append

theorem Audited.entered {a : AutomationRow} {w w' : World} {row : LogRow} (ha : a ∈ automations)
    (hentered : Entered env a w.store.logs row)
    (hledger : w'.ledger = { w.ledger with store := w.store.addLog row }) :
    Audited env automations w w' := by
  have hstore : w'.store = w.store.addLog row := congrArg Ledger.store hledger
  intro hw
  refine ⟨?_, [row], ?_, ?_⟩
  · rw [hstore]
    exact hw
  · rw [hstore]
    rfl
  · intro earlier row' later hsplit
    cases earlier with
    | nil =>
      cases hsplit
      rw [List.append_nil]
      exact ⟨a, ha, hentered⟩
    | cons _ earlier => cases earlier <;> cases hsplit

section

variable (hover : ∀ request, Keeps (Audited env automations) (h request))

include hover

/-- Executing an automation that is stored adds the entries of what it sets off, then its own. -/
theorem audited_execute {a : AutomationRow} {v : AutomationView} (ha : a ∈ automations)
    (hview : a.view = .ok v) (card : RowRef) (triggerType : String) (depth : Int) :
    Keeps (Audited env automations) (execute env h v card triggerType depth) := by
  intro w
  have hledger₀ := World.ledger_executing w v card
  obtain ⟨r, w₁, w', hexec, hend⟩ := execute_cases env h v card triggerType depth w
  have hexecution : Audited env automations w w₁ := by
    have hkept : Audited env automations (w.executing v card)
        (exec (execution env h v card depth) (w.executing v card)).2 :=
      Keeps.execution Audited.actionLaw hover v card depth (w.executing v card)
    rw [hexec] at hkept
    exact (Audited.law.quiet hledger₀).trans hkept
  rcases hend with ⟨f, -, hledger, hexecute⟩ |
    ⟨e, rfl, ⟨-, hledger, hexecute⟩ | ⟨id, time, -, hledger, hexecute⟩⟩
  · rw [hexecute]
    exact hexecution.trans (Audited.law.quiet hledger)
  · rw [hexecute]
    exact hexecution.trans (Audited.law.quiet hledger)
  · rw [hexecute]
    obtain ⟨met, w₂, hgate, htold⟩ := told_of_execution hview hexec id triggerType time
    refine hexecution.trans (Audited.entered ha ?_ hledger)
    exact .intro v h card depth met (w.executing v card) w₂ w₁ hview (view_eq_ok hview).1 hgate
      htold rfl

theorem audited_executeMatching (card : RowRef) (triggerType : String) (occasion : Occasion)
    (depth : Int) {rows : List AutomationRow} {examined : List (AutomationView × ReportDetail)}
    (hrows : List.Forall₂ (fun row p => row.view = .ok p.1 ∧
      AutomationView.examined triggerType occasion p.1 = .ok p) rows examined)
    (hstored : ∀ row ∈ rows, row ∈ automations) :
    Keeps (Audited env automations) (executeMatching env h card triggerType depth examined) := by
  induction hrows with
  | nil => exact Keeps.pure Audited.law []
  | cons hview _ ih =>
    obtain ⟨ha, hrest⟩ := List.forall_mem_cons.mp hstored
    rw [executeMatching_cons]
    refine Keeps.bind Audited.law ?_ fun d => Keeps.bind Audited.law (ih hrest) fun _ =>
      Keeps.pure Audited.law _
    unfold turn
    split
    · exact Keeps.map _ (audited_execute hover ha hview.1 card triggerType depth)
    · exact Keeps.pure Audited.law _

theorem audited_runCore (triggerType : String) (card pipe : RowRef) (occasion : Occasion)
    (depth : Int) :
    Keeps (Audited env automations) (runCore env h triggerType card pipe occasion depth) := by
  unfold runCore
  refine Keeps.bind_of Audited.law
    (Keeps.of_quiet Audited.law (Reads.opened triggerType pipe occasion).quiet) ?_
  intro w found w₁ hopened
  cases found with
  | none => exact Audited.law.quiet rfl
  | some examined =>
    intro hw₁
    obtain ⟨hledger, hopening⟩ := (Reads.opened triggerType pipe occasion).eq_ok hopened
    obtain ⟨id, -, hrows⟩ := Store.opening_eq_ok hopening
    refine Keeps.map reportOf (audited_executeMatching hover card triggerType occasion depth hrows
      fun row hrow => ?_) w₁ hw₁
    rw [← hw₁, World.store_of_ledger hledger]
    exact Store.mem_automations hrow

/-- If whoever takes requests over does no more to the log than runs do, neither does a run. -/
theorem audited_run (triggerType : String) (card pipe : RowRef) (occasion : Occasion)
    (depth : Int) :
    Keeps (Audited env automations) (run env h triggerType card pipe occasion depth) := by
  intro w
  have hledger₀ := World.ledger_running w triggerType card pipe depth
  obtain ⟨r, w₁, w', hcore, hledger, hrun⟩ :=
    run_cases env h triggerType card pipe occasion depth w
  have hkept := audited_runCore hover triggerType card pipe occasion depth
    (w.running triggerType card pipe depth)
  rw [hcore] at hkept
  rw [hrun]
  have hstart : Audited env automations w (w.running triggerType card pipe depth) := .of_store
    (congrArg (fun l => l.store.automations) hledger₀) (congrArg (fun l => l.store.logs) hledger₀)
  have hend : Audited env automations w₁ w' := .of_store
    (congrArg (fun l => l.store.automations) hledger) (congrArg (fun l => l.store.logs) hledger)
  exact (hstart.trans hkept).trans hend

end

theorem audited_handed (w : World) (request : CascadeRequest) (taken : Bool) :
    Audited env automations w (w.handed request taken) := by
  unfold World.handed
  split <;> exact .of_store rfl rfl

/-- However requests unfold, each entry that comes of it is one that an automation leaves. -/
theorem audited_of_unfolds {w w' : World} (hunfolds : Unfolds env w w') :
    Audited env automations w w' := by
  induction hunfolds with
  | noted hledger =>
    exact .of_store (congrArg (fun l => l.store.automations) hledger)
      (congrArg (fun l => l.store.logs) hledger)
  | @ran w h taken _ before request after _ ih =>
    -- what the run hands over unfolds to something smaller, to which the hypothesis applies
    have hover : ∀ request, Keeps (Audited env automations) (h request) := fun request v =>
      (audited_handed v request _).trans (ih request v)
    have hpending : Audited env automations w (w.pending (before ++ after)) := .of_store rfl rfl
    unfold runCascade
    exact hpending.trans (Keeps.withAmbient Audited.law _ (audited_run hover _ _ _ _ _) _)
  | trans _ _ ih₁ ih₂ => exact ih₁.trans ih₂

theorem audited_of_cascades (hcascades : h.Cascades env) (request : CascadeRequest) :
    Keeps (Audited env automations) (h request) := by
  intro w
  obtain ⟨taken, hunfolds⟩ := hcascades
  exact (audited_handed w request _).trans (audited_of_unfolds (hunfolds request w))

theorem logs_of_cascades (hcascades : h.Cascades env) (request : CascadeRequest) (w : World) :
    ∃ rows, (exec (h request) w).2.store.logs = w.store.logs ++ rows := by
  have haudited : Audited env w.store.automations w (exec (h request) w).2 :=
    audited_of_cascades hcascades request w
  obtain ⟨-, rows, hrows, -⟩ := haudited rfl
  exact ⟨rows, hrows⟩

end Engine
end BoardRules
