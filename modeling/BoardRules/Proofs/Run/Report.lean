import BoardRules.Proofs.Run.Audit
import BoardRules.Proofs.Run.Break

/-! When a run reports. It does so unless an automation that the trigger type calls for cannot be
read, or the execution of one that matches breaks off; and what it reports accounts for each of the
automations. -/
namespace BoardRules

open Engine

/-- What a run is told by a context, if there is one. -/
def Occasion.of : Option TriggerContext → Occasion
  | none => .untold
  | some context => .told context

theorem Occasion.suits_of (context : Option TriggerContext) (type : String) (config : Json) :
    (Occasion.of context).suits type config = .ok (triggerMatches type config context) := by
  cases context <;> rfl

/-- Whether a stored automation cannot be read or cannot be reported: its configuration is no
mapping, or one with a key that is no text, or its actions are no list. -/
def AutomationRow.Unreadable (a : AutomationRow) : Prop :=
  (∃ e, a.triggerConfig.toMapping = .error e) ∨
    (∃ m, a.triggerConfig.toMapping = .ok m ∧ m.stray ≠ []) ∨ ∃ e, a.actions.toItems = .error e

/-- Whether a detail of a report is about a stored automation and tells whether it matches. -/
def AutomationRow.IsShown (a : AutomationRow) (triggerType : String)
    (context : Option TriggerContext) (d : ReportDetail) : Prop :=
  d.name = a.name ∧ d.id = a.id ∧ ∃ m, a.triggerConfig.toMapping = .ok m ∧
    d.config = m.named ∧ d.isMatch = triggerMatches triggerType (.obj m.named) context

/-- The automations that a trigger type calls for, in the order in which they run; none if there is
no such pipe. -/
def Store.calledFor (s : Store) (pipe : RowRef) (triggerType : String) : List AutomationRow :=
  match s.namedPipe? pipe with
  | none => []
  | some id => s.automationRows id triggerType

def AutomationView.detail (v : AutomationView) (triggerType : String)
    (context : Option TriggerContext) : ReportDetail where
  name := v.name
  id := v.id
  isMatch := triggerMatches triggerType (.obj v.config.named) context
  config := v.config.named

theorem AutomationView.examined_of (context : Option TriggerContext) (triggerType : String)
    (v : AutomationView) : v.examined triggerType (.of context) =
      if v.config.stray = [] then .ok (v, v.detail triggerType context)
      else .error (.invalid "AutomationReportDetail" (configErrors v.config)) := by
  unfold examined
  rw [Occasion.suits_of]
  unfold configErrors
  cases v.config.stray <;> rfl

namespace AutomationRow

variable {a : AutomationRow} {triggerType : String} {context : Option TriggerContext}

theorem examined_of_readable (hreadable : ¬a.Unreadable) (triggerType : String)
    (context : Option TriggerContext) :
    ∃ p : AutomationView × ReportDetail,
      a.view = .ok p.1 ∧ p.1.examined triggerType (.of context) = .ok p := by
  unfold Unreadable at hreadable
  push Not at hreadable
  obtain ⟨hmapping, hstray, hitems⟩ := hreadable
  obtain ⟨v, hview, hnamed⟩ : ∃ v, a.view = .ok v ∧ v.config.stray = [] := by
    cases hconfig : a.triggerConfig.toMapping with
    | error e => exact absurd hconfig (hmapping e)
    | ok config =>
      cases hactions : a.actions.toItems with
      | error e => exact absurd hactions (hitems e)
      | ok actions =>
        exact ⟨_, view_eq_ok_iff.mpr ⟨config, actions, hconfig, hactions, rfl⟩,
          hstray config hconfig⟩
  refine ⟨(v, v.detail triggerType context), hview, ?_⟩
  rw [AutomationView.examined_of, if_pos hnamed]

/-- What is examined of an automation is shown in the report; an unreadable one is not examined. -/
theorem isShown_of_examined {p : AutomationView × ReportDetail} (hview : a.view = .ok p.1)
    (hexamined : p.1.examined triggerType (.of context) = .ok p) :
    ¬a.Unreadable ∧ a.IsShown triggerType context p.2 ∧ p.2.id = p.1.id ∧
      p.2.execution = none := by
  obtain ⟨v, d⟩ := p
  obtain ⟨config, actions, hconfig, hactions, rfl⟩ := view_eq_ok_iff.mp hview
  rw [AutomationView.examined_of] at hexamined
  split at hexamined
  · rename_i hstray
    have hd := congrArg Prod.snd (Except.ok.inj hexamined)
    dsimp only at hd
    subst hd
    refine ⟨?_, ⟨rfl, rfl, config, hconfig, rfl, rfl⟩, rfl, rfl⟩
    rintro (⟨e, he⟩ | ⟨m, hm, hne⟩ | ⟨e, he⟩)
    · rw [hconfig] at he
      cases he
    · rw [hconfig] at hm
      cases hm
      exact hne hstray
    · rw [hactions] at he
      cases he
  · cases hexamined

end AutomationRow

namespace Store

variable {s : Store} {triggerType : String} {pipe : RowRef} {context : Option TriggerContext}

theorem opening_some {examined : List (AutomationView × ReportDetail)}
    (hopening : s.opening triggerType pipe (.of context) = .ok (some examined)) :
    List.Forall₂ (fun row p => row.view = .ok p.1 ∧
        AutomationView.examined triggerType (.of context) p.1 = .ok p)
      (s.calledFor pipe triggerType) examined := by
  obtain ⟨id, hpipe, hrows⟩ := opening_eq_ok hopening
  unfold calledFor
  rw [hpipe]
  exact hrows

theorem opening_none (hopening : s.opening triggerType pipe (.of context) = .ok none) :
    s.calledFor pipe triggerType = [] := by
  unfold calledFor
  cases hpipe : s.namedPipe? pipe with
  | none => rfl
  | some id => exact absurd hopening (opening_ne_none hpipe)

/-- What ends the opening of a run is an automation that is unreadable. -/
theorem opening_error {f : Fault} (hopening : s.opening triggerType pipe (.of context) = .error f) :
    f.isStorage = false ∧ ∃ a ∈ s.calledFor pipe triggerType, a.Unreadable := by
  cases hpipe : s.namedPipe? pipe with
  | none =>
    rw [opening_of_none hpipe] at hopening
    cases hopening
  | some id =>
    have hcalled : s.calledFor pipe triggerType = s.automationRows id triggerType := by
      unfold calledFor
      rw [hpipe]
    rw [opening_of_some hpipe] at hopening
    have hfault := map_eq_error.mp hopening
    constructor
    · rcases bind_eq_error.mp hfault with hviews | ⟨views, -, hexamined⟩
      · obtain ⟨a, -, hview⟩ := mapM_eq_error hviews
        cases hv : a.view with
        | error g => rw [hv] at hview; cases hview; rfl
        | ok v => rw [hv] at hview; cases hview
      · obtain ⟨v, -, hv⟩ := mapM_eq_error hexamined
        rw [AutomationView.examined_of] at hv
        split at hv
        · cases hv
        · cases hv
          rfl
    · rw [hcalled]
      by_contra hreadable
      push Not at hreadable
      obtain ⟨ps, hps⟩ := exists_forall₂_iff.mpr fun a ha =>
        AutomationRow.examined_of_readable (hreadable a ha) triggerType context
      obtain ⟨hviews, hexamined⟩ := examined_of_rows hps
      rw [mapM_eq_ok_iff.mpr hviews] at hfault
      change (ps.map Prod.fst).mapM _ = _ at hfault
      rw [mapM_eq_ok_iff.mpr hexamined] at hfault
      cases hfault

theorem opening_unreadable {a : AutomationRow} (ha : a ∈ s.calledFor pipe triggerType)
    (hbad : a.Unreadable) : ∃ f, s.opening triggerType pipe (.of context) = .error f := by
  cases hopening : s.opening triggerType pipe (.of context) with
  | error f => exact ⟨f, rfl⟩
  | ok found =>
    cases found with
    | none =>
      rw [opening_none hopening] at ha
      cases ha
    | some examined =>
      obtain ⟨p, hview, hexamined⟩ := exists_forall₂_iff.mp ⟨examined, opening_some hopening⟩ a ha
      exact absurd hbad (AutomationRow.isShown_of_examined hview hexamined).1

end Store

/-- The details of a report and the entries that the run has left in the audit log. An automation
that matches has one execution and one entry about it, which stands after the entries of what it has
set off in place; one that does not match has neither. -/
inductive Accounted (h : HandOver) (card : RowRef) (triggerType : String) :
    List ReportDetail → List LogRow → Prop where
  | nil : Accounted h card triggerType [] []
  | passed {d : ReportDetail} {ds : List ReportDetail} {rows : List LogRow}
    (hmatch : d.isMatch = false) (hexecution : d.execution = none)
    (hrest : Accounted h card triggerType ds rows) : Accounted h card triggerType (d :: ds) rows
  | executed {d : ReportDetail} {ds : List ReportDetail} {rows : List LogRow} (e : Execution)
    (id : Uuid) (time : Moment) (nested : List LogRow) (hmatch : d.isMatch = true)
    (hexecution : d.execution = some e) (hid : card.id? = some id)
    (hnested : h.Silent → nested = []) (hrest : Accounted h card triggerType ds rows) :
    Accounted h card triggerType (d :: ds) (nested ++ e.logRow id d.id triggerType time :: rows)

namespace Engine

variable {env : Environment} {h : HandOver} {card pipe : RowRef} {triggerType : String}
  {context : Option TriggerContext} {depth : Int} {w : World}

/-- A run breaks off at an automation that matches if its execution breaks off after the turns of
those before it. -/
inductive TurnsBreak (env : Environment) (h : HandOver) (card : RowRef) (triggerType : String)
    (depth : Int) (w : World) (examined : List (AutomationView × ReportDetail)) : Prop where
  | intro (before : List (AutomationView × ReportDetail)) (p : AutomationView × ReportDetail)
    (after : List (AutomationView × ReportDetail)) (details : List ReportDetail) (w₁ : World)
    (hexamined : examined = before ++ p :: after)
    (hbefore : exec (executeMatching env h card triggerType depth before) w = (.ok details, w₁))
    (hmatch : p.2.isMatch = true)
    (hbreaks : ExecutionBreaks env h p.1 card depth (w₁.executing p.1 card)) :
    TurnsBreak env h card triggerType depth w examined

/-- A run breaks off if an automation that it calls for cannot be read, or at one that matches. -/
inductive RunBreaks (env : Environment) (h : HandOver) (triggerType : String) (card pipe : RowRef)
    (context : Option TriggerContext) (depth : Int) (w : World) : Prop where
  | unreadable (a : AutomationRow) (ha : a ∈ w.store.calledFor pipe triggerType)
    (hbad : a.Unreadable) : RunBreaks env h triggerType card pipe context depth w
  | turn (examined : List (AutomationView × ReportDetail)) (w₁ : World)
    (hopened : exec (opened env triggerType pipe (.of context))
      (w.running triggerType card pipe depth) = (.ok (some examined), w₁))
    (hbreaks : TurnsBreak env h card triggerType depth w₁ examined) :
    RunBreaks env h triggerType card pipe context depth w

/-- A report shows every automation that is called for, in order, and accounts for each of them. -/
structure Reports (h : HandOver) (triggerType : String) (card pipe : RowRef)
    (context : Option TriggerContext) (w w' : World) (report : Report) : Prop where
  counts : report = reportOf report.details
  automations : List.Forall₂ (fun a d => a.IsShown triggerType context d)
    (w.store.calledFor pipe triggerType) report.details
  entries : ∃ rows, w'.store.logs = w.store.logs ++ rows ∧
    Accounted h card triggerType report.details rows

section

variable (hstorage : ∀ n, env.storageFails n = false)

include hstorage

theorem executeMatching_breaks {examined : List (AutomationView × ReportDetail)}
    (hbreaks : TurnsBreak env h card triggerType depth w examined) :
    ∃ f w', f.isStorage = false ∧
      exec (executeMatching env h card triggerType depth examined) w = (.error f, w') := by
  obtain ⟨before, p, after, details, w₁, rfl, hbefore, hmatch, hbreaks⟩ := hbreaks
  induction before generalizing w details with
  | nil =>
    cases hbefore
    obtain ⟨f, w', hf, hexecute⟩ := execute_breaks hstorage triggerType hbreaks
    refine ⟨f, w', hf, ?_⟩
    rw [List.nil_append, executeMatching_cons]
    refine exec_bind_error ?_ _
    unfold turn
    rw [if_pos hmatch, exec_map, hexecute]
    rfl
  | cons q before ih =>
    rw [executeMatching_cons] at hbefore
    obtain ⟨d, w₂, hturn, hrest⟩ := exec_bind_eq_ok.mp hbefore
    obtain ⟨ds, w₃, hrest, hdone⟩ := exec_bind_eq_ok.mp hrest
    cases hdone
    obtain ⟨f, w', hf, hexec⟩ := ih ds hrest
    refine ⟨f, w', hf, ?_⟩
    rw [List.cons_append, executeMatching_cons, exec_bind_ok hturn]
    exact exec_bind_error hexec _

theorem runCore_breaks (hbreaks : RunBreaks env h triggerType card pipe context depth w) :
    ∃ f w', f.isStorage = false ∧
      exec (runCore env h triggerType card pipe (.of context) depth)
        (w.running triggerType card pipe depth) = (.error f, w') := by
  unfold runCore
  cases hbreaks with
  | unreadable a ha hbad =>
    have hreads : Reads env (opened env triggerType pipe (.of context)) _ := Reads.opened _ _ _
    obtain ⟨w', -, hopened⟩ := hreads.answers hstorage (w.running triggerType card pipe depth)
    rw [World.store_running] at hopened
    obtain ⟨f, hopening⟩ := Store.opening_unreadable ha hbad
    rw [hopening] at hopened
    exact ⟨f, w', (Store.opening_error hopening).1, exec_bind_error hopened _⟩
  | turn examined w₁ hopened hbreaks =>
    obtain ⟨f, w', hf, hexec⟩ := executeMatching_breaks hstorage hbreaks
    refine ⟨f, w', hf, ?_⟩
    rw [exec_bind_ok hopened]
    dsimp only
    rw [exec_map, hexec]
    rfl

variable {correlation : Json} (hmails : MailsOrFails env correlation) (hcourteous : h.Courteous)

include hmails hcourteous

theorem turn_or_breaks {a : AutomationRow} {p : AutomationView × ReportDetail}
    (hp : a.IsShown triggerType context p.2 ∧ p.2.id = p.1.id ∧ p.2.execution = none)
    (hw : w.ambient.correlation = correlation) :
    (card.id? = none ∧
        ∃ w', exec (turn env h card triggerType depth p) w = (.error .storageWrite, w')) ∨
      (∃ d entries w', exec (turn env h card triggerType depth p) w = (.ok d, w') ∧
        w'.ambient = w.ambient ∧ w'.store.logs = w.store.logs ++ entries ∧
        a.IsShown triggerType context d ∧ ∀ ds rows, Accounted h card triggerType ds rows →
          Accounted h card triggerType (d :: ds) (entries ++ rows)) ∨
      p.2.isMatch = true ∧ ExecutionBreaks env h p.1 card depth (w.executing p.1 card) := by
  obtain ⟨hshown, hsame, hnone⟩ := hp
  unfold turn
  cases hmatch : p.2.isMatch with
  | false =>
    refine .inr (.inl ⟨p.2, [], w, rfl, rfl, by rw [List.append_nil], hshown, ?_⟩)
    intro ds rows hrest
    exact .passed hmatch hnone hrest
  | true =>
    rw [if_pos rfl]
    rcases execute_or_breaks hstorage hmails hcourteous p.1 card triggerType depth hw with
      ⟨hid, w', hexecute⟩ | ⟨e, id, time, nested, w', hid, hexecute, hambient, hlogs, hnested⟩ |
        hbreaks
    · refine .inl ⟨hid, w', ?_⟩
      rw [exec_map, hexecute]
      rfl
    · refine .inr (.inl ⟨{ p.2 with execution := some e }, _, w', ?_, hambient, hlogs, hshown, ?_⟩)
      · rw [exec_map, hexecute]
        rfl
      · intro ds rows hrest
        rw [List.append_assoc, ← hsame]
        exact .executed e id time nested hmatch rfl hid hnested hrest
    · exact .inr (.inr ⟨rfl, hbreaks⟩)

theorem executeMatching_or_breaks {rows : List AutomationRow}
    {examined : List (AutomationView × ReportDetail)}
    (hrows : List.Forall₂ (fun a p => a.IsShown triggerType context p.2 ∧ p.2.id = p.1.id ∧
      p.2.execution = none) rows examined) (hw : w.ambient.correlation = correlation) :
    (card.id? = none ∧ ∃ w',
        exec (executeMatching env h card triggerType depth examined) w =
          (.error .storageWrite, w')) ∨
      (∃ details entries w',
        exec (executeMatching env h card triggerType depth examined) w = (.ok details, w') ∧
        w'.store.logs = w.store.logs ++ entries ∧ Accounted h card triggerType details entries ∧
        List.Forall₂ (fun a d => a.IsShown triggerType context d) rows details) ∨
      TurnsBreak env h card triggerType depth w examined := by
  induction hrows generalizing w with
  | nil => exact .inr (.inl ⟨[], [], w, rfl, by rw [List.append_nil], .nil, .nil⟩)
  | @cons a p rows examined hp _ ih =>
    rw [executeMatching_cons]
    rcases turn_or_breaks hstorage hmails hcourteous hp hw with
      ⟨hid, w', hturn⟩ | ⟨d, entries, w₁, hturn, hambient, hlogs, hshown, haccounted⟩ |
        ⟨hmatch, hbreaks⟩
    · exact .inl ⟨hid, w', exec_bind_error hturn _⟩
    · rw [exec_bind_ok hturn]
      -- the turn leaves the correlation that the rest of the mails bear
      rcases ih (w := w₁) (by rw [hambient, hw]) with
        ⟨hid, w', hexec⟩ | ⟨ds, rest, w', hexec, hlogs', hrest, hdetails⟩ |
          ⟨before, q, after, ds, w₂, hsplit, hbefore, hmatch, hbreaks⟩
      · exact .inl ⟨hid, w', exec_bind_error hexec _⟩
      · refine .inr (.inl ⟨d :: ds, entries ++ rest, w', exec_bind_ok hexec _, ?_,
          haccounted ds rest hrest, .cons hshown hdetails⟩)
        rw [hlogs', hlogs, List.append_assoc]
      · refine .inr (.inr ⟨p :: before, q, after, d :: ds, w₂, ?_, ?_, hmatch, hbreaks⟩)
        · rw [hsplit]
          rfl
        · rw [executeMatching_cons, exec_bind_ok hturn, exec_bind_ok hbefore]
          rfl
    · exact .inr (.inr ⟨[], p, examined, [], w, rfl, rfl, hmatch, hbreaks⟩)

/-- Unless it breaks off, a run reports, or an entry cannot be written for want of an identifier. -/
theorem runCore_or_breaks (hw : w.ambient.correlation = correlation) :
    (card.id? = none ∧ ∃ w', exec (runCore env h triggerType card pipe (.of context) depth)
        (w.running triggerType card pipe depth) = (.error .storageWrite, w')) ∨
      (∃ report w', exec (runCore env h triggerType card pipe (.of context) depth)
          (w.running triggerType card pipe depth) = (.ok report, w') ∧
        Reports h triggerType card pipe context w w' report) ∨
      RunBreaks env h triggerType card pipe context depth w := by
  have hledger₀ := World.ledger_running w triggerType card pipe depth
  have hreads : Reads env (opened env triggerType pipe (.of context)) _ := Reads.opened _ _ _
  obtain ⟨w₁, hledger₁, hopened⟩ :=
    hreads.answers hstorage (w.running triggerType card pipe depth)
  rw [World.store_running] at hopened
  have hlogs₁ : w₁.store.logs = w.store.logs := by
    rw [World.store_of_ledger hledger₁, World.store_running]
  have hw₁ : w₁.ambient.correlation = correlation := by
    rw [World.ambient_of_ledger hledger₁, ← hw]
    exact congrArg (fun l => l.ambient.correlation) hledger₀
  unfold runCore
  cases hopening : w.store.opening triggerType pipe (.of context) with
  | error f =>
    obtain ⟨a, ha, hbad⟩ := (Store.opening_error hopening).2
    exact .inr (.inr (.unreadable a ha hbad))
  | ok found =>
    rw [hopening] at hopened
    rw [exec_bind_ok hopened]
    cases found with
    | none =>
      refine .inr (.inl ⟨{}, w₁, rfl, rfl, ?_, [], ?_, .nil⟩)
      · rw [Store.opening_none hopening]
        exact .nil
      · rw [hlogs₁, List.append_nil]
    | some examined =>
      have hrows := (Store.opening_some hopening).imp fun a p hp =>
        (AutomationRow.isShown_of_examined hp.1 hp.2).2
      dsimp only
      rw [exec_map]
      rcases executeMatching_or_breaks hstorage hmails hcourteous hrows hw₁ with
        ⟨hid, w', hexec⟩ | ⟨details, entries, w', hexec, hlogs, haccounted, hdetails⟩ | hbreaks
      · rw [hexec]
        exact .inl ⟨hid, w', rfl⟩
      · rw [hexec]
        refine .inr (.inl ⟨reportOf details, w', rfl, rfl, hdetails, entries, ?_, haccounted⟩)
        rw [hlogs, hlogs₁]
      · exact .inr (.inr (.turn examined w₁ hopened hbreaks))

end

/-- Whoever runs requests in place is as courteous as runs are. -/
theorem courteous_inPlace (hcascades : h.Cascades env) : (inPlace env h).Courteous where
  answers := fun _ _ => ⟨true, by unfold inPlace; rw [exec_bind_ok (exec_outcome _ _), exec_pure]⟩
  ambient := by
    intro request w
    have hrun : (exec (runCascade env h request) w).2.ambient = w.ambient := by
      unfold runCascade withCorrelation
      rw [exec_withAmbient]
      exact World.ambient_within _ _
    unfold inPlace
    rw [exec_bind_ok (exec_outcome _ _), exec_pure]
    dsimp only
    exact hrun
  logs := logs_of_cascades (cascades_inPlace hcascades)

/-- Where no access to the storage fails and mails succeed or fail as an action, exactly this makes
a run break off: an automation that it calls for cannot be read, or at one that matches, reached
after the turns of those before it, the conditions are undecided or an action is blocked. Any other
run reports, and accounts for every automation, unless there is no identifier under which an entry
could be written. -/
theorem run_breaks_iff (env : Environment) (h : HandOver) (triggerType : String)
    (card pipe : RowRef) (context : Option TriggerContext) (depth : Int) (w : World)
    (hstorage : ∀ n, env.storageFails n = false)
    (hmails : MailsOrFails env w.ambient.correlation) (hcourteous : h.Courteous) :
    ((∃ f w', f.isStorage = false ∧
        exec (run env h triggerType card pipe (.of context) depth) w = (.error f, w')) ↔
      RunBreaks env h triggerType card pipe context depth w) ∧
    (∀ f w', exec (run env h triggerType card pipe (.of context) depth) w = (.error f, w') →
      f.isStorage = true → card.id? = none) ∧
    (∀ report w', exec (run env h triggerType card pipe (.of context) depth) w = (.ok report, w') →
      Reports h triggerType card pipe context w w' report) := by
  obtain ⟨r, w₁, w', hcore, hledger, hrun⟩ :=
    run_cases env h triggerType card pipe (.of context) depth w
  have hstore : w'.store = w₁.store := congrArg Ledger.store hledger
  rw [hrun]
  refine ⟨⟨?_, fun hbreaks => ?_⟩, ?_, ?_⟩
  · rintro ⟨f, _, hf, hended⟩
    cases hended
    rcases runCore_or_breaks hstorage hmails hcourteous rfl with
      ⟨-, _, hexec⟩ | ⟨report, _, hexec, -⟩ | hbreaks
    · rw [hcore] at hexec
      cases hexec
      cases hf
    · rw [hcore] at hexec
      cases hexec
    · exact hbreaks
  · obtain ⟨f, _, hf, hexec⟩ := runCore_breaks hstorage hbreaks
    rw [hcore] at hexec
    cases hexec
    exact ⟨f, w', hf, rfl⟩
  · intro f _ hended hf
    cases hended
    rcases runCore_or_breaks hstorage hmails hcourteous rfl with
      ⟨hid, -⟩ | ⟨report, _, hexec, -⟩ | hbreaks
    · exact hid
    · rw [hcore] at hexec
      cases hexec
    · obtain ⟨f', _, hf', hexec⟩ := runCore_breaks hstorage hbreaks
      rw [hcore] at hexec
      cases hexec
      rw [hf] at hf'
      cases hf'
  · intro report _ hended
    cases hended
    rcases runCore_or_breaks hstorage hmails hcourteous rfl with
      ⟨-, _, hexec⟩ | ⟨report, _, hexec, hcounts, hautomations, rows, hrows, haccounted⟩ | hbreaks
    · rw [hcore] at hexec
      cases hexec
    · rw [hcore] at hexec
      cases hexec
      refine ⟨hcounts, hautomations, rows, ?_, haccounted⟩
      rw [hstore, hrows]
    · obtain ⟨f, _, -, hexec⟩ := runCore_breaks hstorage hbreaks
      rw [hcore] at hexec
      cases hexec

end Engine

theorem Store.oversized_undecided :
    oversized.Undecided (.obj [("rules", .arr [.obj [("fieldKey", .str "salary"),
        ("operator", .str "less_than"), ("value", .int 5)]])]) (.ofUuid ⟨3, by decide⟩) := by
  obtain ⟨view, hview, hfields⟩ : ∃ view, oversized.viewCard (.ofUuid ⟨3, by decide⟩) =
      .ok (some view) ∧ view.fields = [("salary", .int (10 ^ 309 : Nat))] := by
    unfold viewCard
    refine ⟨_, rfl, ?_⟩
    decide +kernel
  have hkey : FieldKey.ofText "salary" = .field "salary" := by decide +kernel
  refine ⟨_, rfl, by simp, .inr ⟨view, hview, _, List.mem_singleton_self _, _, rfl, .lessThan, rfl,
    .inr rfl, ?_⟩⟩
  dsimp only
  rw [hkey]
  unfold CardView.value
  dsimp only
  rw [hfields]
  refine ⟨by simp, by decide, .inl ⟨_, rfl, ?_⟩⟩
  decide +kernel

namespace Engine

/-- On that board, the amount breaks a run off at the first automation. -/
theorem oversized_breaks : RunBreaks Environment.sample openPool "manual" (.ofUuid ⟨3, by decide⟩)
    (.ofUuid ⟨1, by decide⟩) none 0 { store := Store.oversized } := by
  have hpipe : Store.oversized.namedPipe? (.ofUuid ⟨1, by decide⟩) = some ⟨1, by decide⟩ := by
    decide
  have hrows : Store.oversized.automationRows ⟨1, by decide⟩ "manual" =
      Store.oversized.automations := List.mergeSort_of_pairwise (by decide)
  obtain ⟨p, rest, hopening, hmatch, hconditions⟩ : ∃ p rest,
      Store.oversized.opening "manual" (.ofUuid ⟨1, by decide⟩) (.of none) =
          .ok (some (p :: rest)) ∧
        p.2.isMatch = true ∧
        p.1.conditions = some [("rules", .arr [.obj [("fieldKey", .str "salary"),
          ("operator", .str "less_than"), ("value", .int 5)]])] := by
    rw [Store.opening_of_some hpipe, hrows]
    exact ⟨_, _, rfl, rfl, rfl⟩
  have hreads : Reads Environment.sample (opened Environment.sample "manual"
    (.ofUuid ⟨1, by decide⟩) (.of none)) _ := Reads.opened _ _ _
  obtain ⟨w₁, hledger, hopened⟩ := hreads.answers (fun _ => rfl)
    (World.running { store := Store.oversized } "manual" (.ofUuid ⟨3, by decide⟩)
      (.ofUuid ⟨1, by decide⟩) 0)
  rw [World.store_running, hopening] at hopened
  refine .turn (p :: rest) w₁ hopened (.intro [] p rest [] w₁ rfl rfl hmatch (.conditions ?_))
  rw [World.store_executing, World.store_of_ledger hledger, World.store_running, hconditions]
  exact Store.oversized_undecided

theorem run_breaks_iff_oversized :
    (∀ n, Environment.sample.storageFails n = false) ∧
      MailsOrFails Environment.sample ({ store := Store.oversized } : World).ambient.correlation ∧
      HandOver.Courteous openPool ∧ ∃ f w', f.isStorage = false ∧
        exec (run Environment.sample openPool "manual" (.ofUuid ⟨3, by decide⟩)
          (.ofUuid ⟨1, by decide⟩) (.of none) 0) { store := Store.oversized } = (.error f, w') :=
  ⟨fun _ => rfl, mailsOrFails_of_none rfl _, courteous_openPool,
    (run_breaks_iff Environment.sample openPool "manual" _ _ none 0 { store := Store.oversized }
      (fun _ => rfl) (mailsOrFails_of_none rfl _) courteous_openPool).1.mpr oversized_breaks⟩

end Engine
end BoardRules
