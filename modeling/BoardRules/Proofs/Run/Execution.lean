import BoardRules.Proofs.Run.Actions

/-! How one automation fares: its conditions are read off what is stored, its actions are carried
out, and what has become of them is entered into the audit log at once. -/
namespace BoardRules

def Conditions.verdictOn (c : Conditions) : Option CardView → Except Fault Bool
  | none => .ok false
  | some view =>
    match c.hold? view with
    | some b => .ok b
    | none => .error .tooLarge

def Store.verdict (s : Store) (conditions : Json) (card : RowRef) : Except Fault Bool :=
  match Conditions.ofJson? conditions with
  | none => .ok false
  | some c => s.viewCard card >>= c.verdictOn

/-- What conditions say; nothing if there are no rules to be met. -/
def Store.gateFor (s : Store) (conditions : Json) (card : RowRef) : Except Fault (Option Bool) :=
  if conditionsGiven conditions then some <$> s.verdict conditions card else .ok none

def Execution.logRow (e : Execution) (card automation : Uuid) (triggerType : String)
    (time : Moment) : LogRow where
  card := card
  automation := automation
  executedAt := time
  status := e.status.word
  triggerType := triggerType
  conditionsMet := e.conditionsMet
  actions := e.actions.map ActionRecord.logEntry
  error := e.error

namespace Engine

variable {env : Environment} {h : HandOver}

theorem Reads.of_passes {body : Engine Unit} (hbody : Passes body) :
    Reads env body fun _ => .ok () := by
  intro w
  obtain ⟨w', hexec, hledger⟩ := hbody w
  exact ⟨w', hledger, .inl hexec⟩

theorem Reads.evaluate (conditions : Json) (card : RowRef) :
    Reads env (Engine.evaluate env conditions card) fun s => s.verdict conditions card := by
  unfold Engine.evaluate Store.verdict
  cases Conditions.ofJson? conditions with
  | none => exact Reads.pure false
  | some c =>
    refine (Reads.loadCard card).bind fun view => ?_
    cases view with
    | none =>
      exact (Reads.of_passes (passes_log _ (by decide) _ _ _)).bind fun _ => Reads.pure false
    | some view =>
      dsimp only [Conditions.verdictOn]
      cases c.hold? view with
      | none => exact Reads.raise _
      | some b => exact Reads.pure b

theorem Reads.gate (a : AutomationView) (card : RowRef) :
    Reads env (Engine.gate env a card) fun s => s.gateFor (.obj (a.conditions.getD [])) card := by
  unfold Engine.gate Store.gateFor
  dsimp only
  cases conditionsGiven (.obj (a.conditions.getD [])) with
  | true => exact (Reads.evaluate _ card).map
  | false => exact Reads.pure none

/-- What the actions of an automation keep to is kept to while it is executed. -/
theorem Keeps.execution_of {R : World → World → Prop} (law : Law R) {depth : Int}
    (hperform : ∀ ctx payload, ctx.depth = depth → Keeps R (Engine.perform env h ctx payload))
    (a : AutomationView) (card : RowRef) : Keeps R (Engine.execution env h a card depth) := by
  unfold Engine.execution
  refine Keeps.bind law (Keeps.of_quiet law (Reads.gate a card).quiet) fun met => ?_
  split
  · exact Keeps.pure law _
  · refine Keeps.bind law ?_ fun _ => Keeps.pure law _
    exact Keeps.performAll law (fun payload => hperform _ payload rfl) _

/-- What every action keeps to is kept to while an automation is executed. -/
theorem Keeps.execution {R : World → World → Prop} (law : ActionLaw R)
    (hover : ∀ request, Keeps R (h request)) (a : AutomationView) (card : RowRef) (depth : Int) :
    Keeps R (Engine.execution env h a card depth) :=
  Keeps.execution_of law.toLaw (fun ctx payload _ => Keeps.perform law hover ctx payload) a card

theorem Store.gateFor_eq_ok {s : Store} {conditions : Json} {card : RowRef} {met : Option Bool}
    (hgate : s.gateFor conditions card = .ok met) :
    met.isSome = conditionsGiven conditions := by
  unfold Store.gateFor at hgate
  cases hgiven : conditionsGiven conditions with
  | true =>
    rw [hgiven, if_pos rfl] at hgate
    cases hverdict : s.verdict conditions card with
    | error f => rw [hverdict] at hgate; cases hgate
    | ok b => rw [hverdict] at hgate; cases hgate; rfl
  | false =>
    rw [hgiven, if_neg Bool.false_ne_true] at hgate
    cases hgate
    rfl

theorem gate_eq_ok {a : AutomationView} {card : RowRef} {w w' : World} {met : Option Bool}
    (hexec : exec (gate env a card) w = (.ok met, w')) :
    w'.ledger = w.ledger ∧ met.isSome = conditionsGiven (.obj (a.conditions.getD [])) := by
  obtain ⟨hledger, hgate⟩ := (Reads.gate a card).eq_ok hexec
  exact ⟨hledger, Store.gateFor_eq_ok hgate⟩

theorem execution_eq_ok {a : AutomationView} {card : RowRef} {depth : Int} {w w' : World}
    {e : Execution} (hexec : exec (execution env h a card depth) w = (.ok e, w')) :
    ∃ met w₁, exec (gate env a card) w = (.ok met, w₁) ∧
      ((met = some false ∧ e = .notMet ∧ w' = w₁) ∨
        met ≠ some false ∧ ∃ records,
          exec (performAll env h { card, automation := a.id, depth } a.actions) w₁ =
            (.ok records, w') ∧ e = .ofRecords met records) := by
  unfold execution at hexec
  obtain ⟨met, w₁, hgate, hrest⟩ := exec_bind_eq_ok.mp hexec
  refine ⟨met, w₁, hgate, ?_⟩
  split at hrest
  · cases hrest
    exact .inl ⟨rfl, rfl, rfl⟩
  · rename_i hmet
    obtain ⟨records, w₂, hall, hdone⟩ := exec_bind_eq_ok.mp hrest
    cases hdone
    exact .inr ⟨hmet, records, hall, rfl⟩

theorem enter_cases (env : Environment) (a : AutomationView) (card : RowRef) (triggerType : String)
    (e : Execution) (w : World) :
    (∃ w', exec (enter env a card triggerType e) w = (.error .storageWrite, w') ∧
      w'.ledger = w.ledger ∧ (env.storageFails w.accesses = true ∨ card.id? = none)) ∨
    ∃ id time w', card.id? = some id ∧ exec (enter env a card triggerType e) w = (.ok (), w') ∧
      w'.ledger =
        { w.ledger with store := w.store.addLog (e.logRow id a.id triggerType time) } := by
  unfold enter
  rcases writing_cases env .storageWrite (fun time s => do
      let id ← card.id?
      return ((), s.addLog (e.logRow id a.id triggerType time))) w with
    ⟨w₁, hwrite, hfails, hledger⟩ | ⟨w₁, hwrite, hnone, hledger⟩ |
      ⟨u, store, w₁, hwrite, hsome, hledger⟩
  · exact .inl ⟨w₁, exec_bind_error hwrite _, hledger, .inl hfails⟩
  · refine .inl ⟨w₁, exec_bind_error hwrite _, hledger, .inr ?_⟩
    cases hid : card.id? with
    | none => rfl
    | some id => rw [hid] at hnone; cases hnone
  · obtain ⟨id, hid, hstore⟩ := Option.bind_eq_some_iff.mp hsome
    cases hstore
    obtain ⟨w', hnotes, hledger'⟩ := Passes.bind
      (fun w => ⟨_, rfl, quiet_count "automation_executions_total" (by decide) (by decide)
        [("trigger_type", triggerType), ("status", e.status.word)] w⟩)
      (passes_log runLogger (by decide) (if e.status = .error then .warning else .info)
        "automation.executed" [("automation_id", .str a.id.text), ("automation_name", .str a.name),
          ("card_id", .str card.text), ("trigger_type", .str triggerType),
          ("status", .str e.status.word), ("error", Json.ofText? e.error)]) w₁
    exact .inr ⟨id, _, w', hid, (exec_bind_ok hwrite _).trans hnotes, hledger'.trans hledger⟩

def showExecution (a : AutomationView) (card : RowRef) : Engine Unit := do
  annotate "automation_id" (.str a.id.text)
  annotate "card_id" (.str card.text)

theorem passes_showExecution (a : AutomationView) (card : RowRef) :
    Passes (showExecution a card) :=
  Passes.bind (passes_annotate _ _) (passes_annotate _ _)

end Engine

/-- The world in which the conditions of an automation are about to be checked. -/
def World.executing (w : World) (a : AutomationView) (card : RowRef) : World :=
  (Engine.exec (Engine.showExecution a card) (w.opened "automation.execute")).2

@[simp] theorem World.ledger_executing (w : World) (a : AutomationView) (card : RowRef) :
    (w.executing a card).ledger = w.ledger :=
  (Engine.passes_showExecution a card).ledger_eq _

@[simp] theorem World.store_executing (w : World) (a : AutomationView) (card : RowRef) :
    (w.executing a card).store = w.store :=
  World.store_of_ledger (w.ledger_executing a card)

namespace Engine

variable {env : Environment} {h : HandOver}

/-- What an automation comes to is entered and then shown. -/
theorem exec_execute (env : Environment) (h : HandOver) (a : AutomationView) (card : RowRef)
    (triggerType : String) (depth : Int) (w : World) :
    exec (execute env h a card triggerType depth) w =
      let ended := exec (execution env h a card depth >>= fun e =>
        enter env a card triggerType e >>= fun _ =>
          annotate "status" (.str e.status.word) >>= fun _ => pure e) (w.executing a card)
      (ended.1, ended.2.closed (faultOf ended.1)) := by
  have hnotes : exec (showExecution a card) (w.opened "automation.execute") =
      (.ok (), w.executing a card) := (passes_showExecution a card).exec_eq _
  have hexecute : execute env h a card triggerType depth = spanning "automation.execute"
      (showExecution a card >>= fun _ =>
        execution env h a card depth >>= fun e =>
          enter env a card triggerType e >>= fun _ =>
            annotate "status" (.str e.status.word) >>= fun _ => pure e) := by
    unfold execute showExecution
    simp only [bind_assoc]
  rw [hexecute, exec_spanning, exec_bind_ok hnotes]

/-- Executing an automation comes down to how it fares and to the entry about that. -/
theorem execute_cases (env : Environment) (h : HandOver) (a : AutomationView) (card : RowRef)
    (triggerType : String) (depth : Int) (w : World) :
    ∃ r w₁ w', exec (execution env h a card depth) (w.executing a card) = (r, w₁) ∧
      ((∃ f, r = .error f ∧ w'.ledger = w₁.ledger ∧
          exec (execute env h a card triggerType depth) w = (.error f, w')) ∨
        ∃ e, r = .ok e ∧
          ((env.storageFails w₁.accesses = true ∨ card.id? = none) ∧ w'.ledger = w₁.ledger ∧
              exec (execute env h a card triggerType depth) w = (.error .storageWrite, w') ∨
            ∃ id time, card.id? = some id ∧
              w'.ledger = { w₁.ledger with
                store := w₁.store.addLog (e.logRow id a.id triggerType time) } ∧
              exec (execute env h a card triggerType depth) w = (.ok e, w'))) := by
  rw [exec_execute]
  dsimp only
  cases hexec : exec (execution env h a card depth) (w.executing a card) with
  | mk r w₁ =>
    cases r with
    | error f =>
      rw [exec_bind_error hexec]
      exact ⟨.error f, w₁, _, rfl, .inl ⟨f, rfl, World.ledger_closed _ _, rfl⟩⟩
    | ok e =>
      rw [exec_bind_ok hexec]
      rcases enter_cases env a card triggerType e w₁ with
        ⟨w₂, henter, hledger, hcause⟩ | ⟨id, time, w₂, hid, henter, hledger⟩
      · rw [exec_bind_error henter]
        exact ⟨.ok e, w₁, _, rfl,
          .inr ⟨e, rfl, .inl ⟨hcause, (World.ledger_closed _ _).trans hledger, rfl⟩⟩⟩
      · obtain ⟨w₃, hstatus, hledger₃⟩ := passes_annotate "status" (.str e.status.word) w₂
        rw [exec_bind_ok henter, exec_bind_ok hstatus]
        exact ⟨.ok e, w₁, _, rfl, .inr ⟨e, rfl, .inr ⟨id, time, hid,
          (World.ledger_closed _ _).trans (hledger₃.trans hledger), rfl⟩⟩⟩

end Engine
end BoardRules
