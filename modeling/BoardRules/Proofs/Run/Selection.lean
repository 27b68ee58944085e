import BoardRules.Proofs.Run.Report
import BoardRules.Proofs.Store.Order
import BoardRules.Proofs.Trigger

/-! What a run goes through. It reads and judges the automations that its trigger type calls for,
then executes those that apply, in the order in which they run. -/
namespace BoardRules

open Engine

namespace AutomationRow

/-- Whether an automation is stored as it was written: its configuration as an object, its actions
as a list. -/
structure IsWritten (a : AutomationRow) : Prop where
  config : ∃ es, a.triggerConfig = .obj es
  actions : ∃ items, a.actions = .arr items

theorem IsWritten.readable {a : AutomationRow} (hwritten : a.IsWritten) : ¬a.Unreadable := by
  obtain ⟨⟨es, hconfig⟩, ⟨items, hactions⟩⟩ := hwritten
  unfold Unreadable
  rw [hconfig, hactions, Json.toMapping_obj, Json.toItems_arr]
  rintro (⟨e, he⟩ | ⟨m, hm, hstray⟩ | ⟨e, he⟩)
  · cases he
  · cases hm
    exact hstray rfl
  · cases he

/-- What is reported of an automation that has been executed; or of one that has not, because it
does not apply. -/
def detail (a : AutomationRow) (execution : Option Execution) : ReportDetail where
  name := a.name
  id := a.id
  isMatch := execution.isSome
  config := a.triggerConfig.entries
  execution := execution

/-- What a run finds of an automation before anything is executed. -/
structure IsJudged (a : AutomationRow) (triggerType : String) (context : Option TriggerContext)
    (p : AutomationView × ReportDetail) : Prop where
  view : a.view = .ok p.1
  detail : p.2 = { a.detail none with isMatch := p.2.isMatch }
  verdict : p.2.isMatch = true ↔ Applies triggerType a.triggerConfig context

theorem IsWritten.isJudged {a : AutomationRow} {triggerType : String}
    {context : Option TriggerContext} {p : AutomationView × ReportDetail} (hwritten : a.IsWritten)
    (hview : a.view = .ok p.1) (hexamined : p.1.examined triggerType (.of context) = .ok p) :
    a.IsJudged triggerType context p := by
  obtain ⟨-, ⟨hname, hid, m, hm, hentries, hmatch⟩, -, hbare⟩ :=
    isShown_of_examined hview hexamined
  obtain ⟨es, hconfig⟩ := hwritten.config
  rw [hconfig, Json.toMapping_obj] at hm
  cases hm
  rw [← hconfig] at hmatch
  refine ⟨hview, ?_, hmatch ▸ triggerMatches_iff⟩
  obtain ⟨v, name, id, isMatch, config, execution⟩ := p
  cases hname
  cases hid
  cases hentries
  cases hbare
  unfold AutomationRow.detail
  rw [hconfig]
  rfl

end AutomationRow

namespace Engine

/-- How a run goes through automations: those that do not apply it passes over, those that do it
executes, one after the other, until an execution breaks off. -/
inductive GoesThrough (env : Environment) (h : HandOver) (triggerType : String) (card : RowRef)
    (context : Option TriggerContext) (depth : Int) :
    List AutomationRow → World → World → Except Fault (List ReportDetail) → Prop where
  | done (w : World) : GoesThrough env h triggerType card context depth [] w w (.ok [])
  | passed {a : AutomationRow} {rows : List AutomationRow} {w w' : World}
    {r : Except Fault (List ReportDetail)}
    (hother : ¬Applies triggerType a.triggerConfig context)
    (hrest : GoesThrough env h triggerType card context depth rows w w' r) :
    GoesThrough env h triggerType card context depth (a :: rows) w w' (r.map (a.detail none :: ·))
  | executed {a : AutomationRow} {v : AutomationView} {rows : List AutomationRow}
    {w w₁ w' : World} {e : Execution} {r : Except Fault (List ReportDetail)}
    (happlies : Applies triggerType a.triggerConfig context) (hview : a.view = .ok v)
    (hexec : exec (execute env h v card triggerType depth) w = (.ok e, w₁))
    (hrest : GoesThrough env h triggerType card context depth rows w₁ w' r) :
    GoesThrough env h triggerType card context depth (a :: rows) w w'
      (r.map (a.detail (some e) :: ·))
  | broken {a : AutomationRow} {v : AutomationView} {rows : List AutomationRow} {w w' : World}
    {f : Fault} (happlies : Applies triggerType a.triggerConfig context) (hview : a.view = .ok v)
    (hexec : exec (execute env h v card triggerType depth) w = (.error f, w')) :
    GoesThrough env h triggerType card context depth (a :: rows) w w' (.error f)

/-- How a run ends that goes through automations: the storage fails before it has started with
them, or it ends as going through them ends. -/
inductive RunsThrough (env : Environment) (h : HandOver) (triggerType : String) (card : RowRef)
    (context : Option TriggerContext) (depth : Int) (rows : List AutomationRow) (w w' : World) :
    Except Fault Report → Prop where
  | cut {n : Nat} (hfails : env.storageFails n = true)
    (hend : w'.ledger = { w.ledger with runs := w.ledger.runs + 1 }) :
    RunsThrough env h triggerType card context depth rows w w' (.error .storageRead)
  | through {w₀ w₁ : World} {r : Except Fault (List ReportDetail)}
    (hstart : w₀.ledger = { w.ledger with ambient := { w.ambient with depth := some depth } })
    (hthrough : GoesThrough env h triggerType card context depth rows w₀ w₁ r)
    (hend : w'.ledger = { w₁.ledger with ambient := w.ambient, runs := w₁.ledger.runs + 1 }) :
    RunsThrough env h triggerType card context depth rows w w' (r.map reportOf)

variable {env : Environment} {h : HandOver} {triggerType : String} {card pipe : RowRef}
  {context : Option TriggerContext} {depth : Int} {w : World} {id : Uuid}

theorem goesThrough_executeMatching {rows : List AutomationRow}
    {examined : List (AutomationView × ReportDetail)}
    (hexamined : List.Forall₂ (fun a p => a.IsJudged triggerType context p) rows examined)
    (w : World) :
    GoesThrough env h triggerType card context depth rows w
      (exec (executeMatching env h card triggerType depth examined) w).2
      (exec (executeMatching env h card triggerType depth examined) w).1 := by
  -- what is executed first leaves the world in which the rest is gone through
  induction hexamined generalizing w with
  | nil => exact .done w
  | @cons a p rows examined hjudged _ ih =>
    have hrest : ∀ d w₁, exec (executeMatching env h card triggerType depth examined >>= fun ds =>
          pure (d :: ds)) w₁ =
        ((exec (executeMatching env h card triggerType depth examined) w₁).1.map (d :: ·),
          (exec (executeMatching env h card triggerType depth examined) w₁).2) := by
      intro d w₁
      exact (congrArg (exec · w₁) (bind_pure_comp _ _)).trans (exec_map _ _ _)
    obtain ⟨hview, hdetail, hverdict⟩ := hjudged
    rw [executeMatching_cons]
    unfold turn
    cases hmatch : p.2.isMatch with
    | false =>
      have hother : ¬Applies triggerType a.triggerConfig context := by
        rw [← hverdict, hmatch]
        exact Bool.false_ne_true
      rw [hmatch] at hdetail
      rw [if_neg Bool.false_ne_true, pure_bind, hrest, hdetail]
      exact .passed hother (ih w)
    | true =>
      have happlies : Applies triggerType a.triggerConfig context := hverdict.mp hmatch
      rw [hmatch] at hdetail
      rw [if_pos rfl]
      cases hexec : exec (execute env h p.1 card triggerType depth) w with
      | mk r w₁ =>
        have hturn : exec ((fun e => { p.2 with execution := some e }) <$>
            execute env h p.1 card triggerType depth) w =
            (r.map fun e => { p.2 with execution := some e }, w₁) := by
          rw [exec_map, hexec]
        cases r with
        | error f =>
          rw [exec_bind_error hturn]
          exact .broken happlies hview hexec
        | ok e =>
          rw [exec_bind_ok hturn, hrest, hdetail]
          exact .executed happlies hview hexec (ih w₁)

/-- Unless the storage fails, the automations that are written down properly are all judged. -/
theorem opened_written (env : Environment) (triggerType : String) (context : Option TriggerContext)
    (hpipe : w.store.namedPipe? pipe = some id)
    (hwritten : ∀ a ∈ w.store.automations, a.IsWritten) :
    ∃ w', w'.ledger = w.ledger ∧
      ((∃ n, env.storageFails n = true) ∧
          exec (opened env triggerType pipe (.of context)) w = (.error .storageRead, w') ∨
        ∃ examined, List.Forall₂ (fun a p => a.IsJudged triggerType context p)
            (w.store.automationRows id triggerType) examined ∧
          exec (opened env triggerType pipe (.of context)) w = (.ok (some examined), w')) := by
  have hreads : Reads env (opened env triggerType pipe (.of context)) _ := Reads.opened _ _ _
  obtain ⟨w', hledger, hanswer | ⟨hfails, hfault⟩⟩ := hreads w
  · refine ⟨w', hledger, .inr ?_⟩
    have hrows : ∀ a ∈ w.store.automationRows id triggerType, a.IsWritten :=
      fun a ha => hwritten a (Store.mem_automations ha)
    have hcalled : w.store.calledFor pipe triggerType = w.store.automationRows id triggerType := by
      unfold Store.calledFor
      rw [hpipe]
    cases hopening : w.store.opening triggerType pipe (.of context) with
    | error f =>
      obtain ⟨-, a, ha, hbad⟩ := Store.opening_error hopening
      rw [hcalled] at ha
      exact absurd hbad (hrows a ha).readable
    | ok found =>
      rw [hopening] at hanswer
      cases found with
      | none => exact absurd hopening (Store.opening_ne_none hpipe)
      | some examined =>
        have hexamined := Store.opening_some hopening
        rw [hcalled] at hexamined
        refine ⟨examined, ?_, hanswer⟩
        exact ((List.forall₂_and_left _ _).mpr ⟨hrows, hexamined⟩).imp
          fun a p ⟨ha, hview, hp⟩ => ha.isJudged hview hp
  · exact ⟨w', hledger, .inl ⟨hfails, hfault⟩⟩

/-- A run in a pipe goes through the automations that its trigger type calls for, in order. -/
theorem runsThrough_run (env : Environment) (h : HandOver) (triggerType : String) (card : RowRef)
    (context : Option TriggerContext) (depth : Int) (hpipe : w.store.namedPipe? pipe = some id)
    (hwritten : ∀ a ∈ w.store.automations, a.IsWritten) :
    ∃ r w', exec (run env h triggerType card pipe (.of context) depth) w = (r, w') ∧
      RunsThrough env h triggerType card context depth (w.store.automationRows id triggerType)
        w w' r := by
  obtain ⟨r, w₁, w', hcore, hend, hrun⟩ :=
    run_cases env h triggerType card pipe (.of context) depth w
  have hledger := w.ledger_running triggerType card pipe depth
  have hstore := w.store_running triggerType card pipe depth
  generalize w.running triggerType card pipe depth = w₀ at hcore hledger hstore
  refine ⟨r, w', hrun, ?_⟩
  rw [← hstore] at hpipe hwritten ⊢
  obtain ⟨w₂, hledger₂, ⟨⟨n, hfails⟩, hopened⟩ | ⟨examined, hexamined, hopened⟩⟩ :=
    opened_written env triggerType context hpipe hwritten
  · unfold runCore at hcore
    rw [exec_bind_error hopened] at hcore
    cases hcore
    refine .cut hfails ?_
    rw [hend, hledger₂, hledger]
    rfl
  · unfold runCore at hcore
    rw [exec_bind_ok hopened] at hcore
    dsimp only at hcore
    rw [exec_map] at hcore
    cases hcore
    exact .through (hledger₂.trans hledger) (goesThrough_executeMatching hexamined w₂) hend

end Engine
end BoardRules
