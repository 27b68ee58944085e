import BoardRules.Proofs.Run.Audit
import BoardRules.Proofs.Run.Break

/-! The conditions of an automation as a gate before its actions. Conditions that hold rules let it
through if they evaluate to true and hold it back otherwise. Conditions that cannot be read evaluate
to false, and yet they do not hold it back: the gate takes them for conditions without rules. -/
namespace BoardRules

namespace Json

/-- Whether stored conditions hold rules: an object with a list of them that is not empty. -/
def HoldsRules (conditions : Json) : Prop :=
  ∃ es rules, conditions = .obj es ∧ Entries.get? es "rules" = some (.arr rules) ∧ rules ≠ []

/-- Whether stored conditions say that there is nothing to be met: there are none, or they are an
object without rules. -/
inductive LacksRules : Json → Prop where
  | null : LacksRules .null
  | absent {es : Entries} (h : es.get? "rules" = none) : LacksRules (.obj es)
  | empty {es : Entries} (h : es.get? "rules" = some (.arr [])) : LacksRules (.obj es)

theorem holdsRules_iff {conditions : Json} :
    conditions.HoldsRules ↔ conditionsGiven conditions = true := by
  rw [conditionsGiven_iff]
  constructor
  · rintro ⟨es, rules, rfl, hrules, hne⟩
    unfold Conditions.ofJson?
    dsimp only
    rw [hrules]
    exact ⟨_, rfl, hne⟩
  · rintro ⟨c, hc, hne⟩
    unfold Conditions.ofJson? at hc
    split at hc
    · rename_i es
      dsimp only at hc
      split at hc
      · cases hc
        exact absurd rfl hne
      · rename_i rules hrules
        cases hc
        exact ⟨es, rules, rfl, hrules, hne⟩
      · cases hc
    · cases hc

/-- What neither holds rules nor lacks them cannot be read as conditions. -/
theorem ofJson?_eq_none {conditions : Json} (hlacks : ¬conditions.LacksRules)
    (hholds : ¬conditions.HoldsRules) : Conditions.ofJson? conditions = none := by
  cases conditions with
  | obj es =>
    unfold Conditions.ofJson?
    dsimp only
    split
    · rename_i hrules
      exact absurd (.absent hrules) hlacks
    · rename_i rules hrules
      cases rules with
      | nil => exact absurd (.empty hrules) hlacks
      | cons rule rules => exact absurd ⟨es, _, rfl, hrules, List.cons_ne_nil _ _⟩ hholds
    · rfl
  | _ => rfl

end Json

namespace Engine

variable {env : Environment} {h : HandOver} {a : AutomationRow} {v : AutomationView}
  {card : RowRef} {triggerType : String} {depth : Int} {w w₁ : World}

/-- An automation is let through to its actions, which are carried out from the world `w₁` on. What
becomes of it is what becomes of them, and of the entry about that. -/
inductive LetThrough (env : Environment) (h : HandOver) (v : AutomationView) (card : RowRef)
    (triggerType : String) (depth : Int) (w : World) (met : Option Bool) (w₁ : World) : Prop where
  | broken (f : Fault) (w₂ w' : World)
    (hactions : exec (performAll env h { card, automation := v.id, depth } v.actions) w₁ =
      (.error f, w₂))
    (hledger : w'.ledger = w₂.ledger)
    (hexecute : exec (execute env h v card triggerType depth) w = (.error f, w')) :
    LetThrough env h v card triggerType depth w met w₁
  | unwritten (records : List ActionRecord) (w₂ w' : World)
    (hactions : exec (performAll env h { card, automation := v.id, depth } v.actions) w₁ =
      (.ok records, w₂))
    (hcause : env.storageFails w₂.accesses = true ∨ card.id? = none)
    (hledger : w'.ledger = w₂.ledger)
    (hexecute : exec (execute env h v card triggerType depth) w = (.error .storageWrite, w')) :
    LetThrough env h v card triggerType depth w met w₁
  | entered (records : List ActionRecord) (id : Uuid) (time : Moment) (w₂ w' : World)
    (hactions : exec (performAll env h { card, automation := v.id, depth } v.actions) w₁ =
      (.ok records, w₂))
    (hid : card.id? = some id)
    (hledger : w'.ledger = { w₂.ledger with
      store := w₂.store.addLog ((Execution.ofRecords met records).logRow id v.id triggerType time) })
    (hexecute : exec (execute env h v card triggerType depth) w =
      (.ok (.ofRecords met records), w')) :
    LetThrough env h v card triggerType depth w met w₁

/-- An automation is held back from its actions: what becomes of it depends neither on what they are
nor on who takes cascades over, so that none of them is attempted. -/
inductive HeldBack (env : Environment) (v : AutomationView) (card : RowRef) (triggerType : String)
    (depth : Int) (w : World) : Prop where
  | faulted (f : Fault) (w' : World) (hledger : w'.ledger = w.ledger)
    (hexecute : ∀ h actions,
      exec (execute env h { v with actions } card triggerType depth) w = (.error f, w')) :
    HeldBack env v card triggerType depth w
  | skipped (id : Uuid) (time : Moment) (w' : World) (hid : card.id? = some id)
    (hledger : w'.ledger = { w.ledger with
      store := w.store.addLog (Execution.notMet.logRow id v.id triggerType time) })
    (hexecute : ∀ h actions,
      exec (execute env h { v with actions } card triggerType depth) w = (.ok .notMet, w')) :
    HeldBack env v card triggerType depth w

/-- Executing an automation looks at its actions, and at who takes cascades over, only where they
make it fare differently. -/
theorem execute_congr_actions (h h' : HandOver) (actions actions' : List Json)
    (hsame : exec (execution env h { v with actions } card depth) (w.executing v card) =
      exec (execution env h' { v with actions := actions' } card depth) (w.executing v card)) :
    exec (execute env h { v with actions } card triggerType depth) w =
      exec (execute env h' { v with actions := actions' } card triggerType depth) w := by
  have hexecute : ∀ (h : HandOver) (actions : List Json),
      execute env h { v with actions } card triggerType depth = spanning "automation.execute"
        (showExecution v card >>= fun _ =>
          execution env h { v with actions } card depth >>= fun e =>
            enter env v card triggerType e >>= fun _ =>
              annotate "status" (.str e.status.word) >>= fun _ => pure e) := by
    intro h actions
    unfold execute showExecution
    simp only [bind_assoc]
    rfl
  have hnotes : exec (showExecution v card) (w.opened "automation.execute") =
      (.ok (), w.executing v card) := (passes_showExecution v card).exec_eq _
  rw [hexecute, hexecute, exec_spanning, exec_spanning, exec_bind_ok hnotes, exec_bind_ok hnotes,
    exec_bind, exec_bind, hsame]

theorem letThrough_of_gate {met : Option Bool}
    (hgate : exec (gate env v card) (w.executing v card) = (.ok met, w₁)) (hmet : met ≠ some false)
    (h : HandOver) : LetThrough env h v card triggerType depth w met w₁ := by
  obtain ⟨r, w₂, w', hexec, hend⟩ := execute_cases env h v card triggerType depth w
  rw [exec_execution_passed hgate hmet, exec_map] at hexec
  cases hactions : exec (performAll env h { card, automation := v.id, depth } v.actions) w₁ with
  | mk result w₃ =>
    rw [hactions] at hexec
    cases hexec
    cases result with
    | error f =>
      rcases hend with ⟨f', hf, hledger, hexecute⟩ | ⟨e, he, -⟩
      · cases hf
        exact .broken f w₃ w' hactions hledger hexecute
      · cases he
    | ok records =>
      rcases hend with ⟨f', hf, -⟩ |
        ⟨e, he, ⟨hcause, hledger, hexecute⟩ | ⟨id, time, hid, hledger, hexecute⟩⟩
      · cases hf
      · exact .unwritten records w₃ w' hactions hcause hledger hexecute
      · cases he
        exact .entered records id time w₃ w' hactions hid hledger hexecute

theorem heldBack_of_gate {r : Except Fault (Option Bool)}
    (hgate : exec (gate env v card) (w.executing v card) = (r, w₁))
    (hr : r = .ok (some false) ∨ ∃ f, r = .error f) : HeldBack env v card triggerType depth w := by
  have hledger₁ : w₁.ledger = w.ledger := by
    have hquiet : Quiet (gate env v card) := (Reads.gate v card).quiet
    have hstill := hquiet (w.executing v card)
    rw [hgate] at hstill
    exact Eq.trans hstill (World.ledger_executing w v card)
  have hexecution : ∀ (h : HandOver) (actions : List Json),
      exec (execution env h { v with actions } card depth) (w.executing v card) =
        (r.map fun _ => Execution.notMet, w₁) := by
    intro h actions
    unfold execution
    rcases hr with rfl | ⟨f, rfl⟩
    · exact exec_bind_ok hgate _
    · exact exec_bind_error hgate _
  have hsame : ∀ (h : HandOver) (actions : List Json),
      exec (execute env h { v with actions } card triggerType depth) w =
        exec (execute env openPool v card triggerType depth) w := fun h actions =>
    execute_congr_actions h openPool actions v.actions
      ((hexecution h actions).trans (hexecution openPool v.actions).symm)
  obtain ⟨result, w₂, w', hexec, hend⟩ := execute_cases env openPool v card triggerType depth w
  have hended := hexec.symm.trans (hexecution openPool v.actions)
  cases hended
  rcases hend with ⟨f, -, hledger, hexecute⟩ |
    ⟨e, he, ⟨-, hledger, hexecute⟩ | ⟨id, time, hid, hledger, hexecute⟩⟩
  · exact .faulted f w' (hledger.trans hledger₁) fun h actions => (hsame h actions).trans hexecute
  · exact .faulted .storageWrite w' (hledger.trans hledger₁) fun h actions =>
      (hsame h actions).trans hexecute
  · have hmet : e = .notMet := by
      rcases hr with rfl | ⟨f, rfl⟩
      · exact (Except.ok.inj he).symm
      · cases he
    rw [hmet] at hledger hexecute
    refine .skipped id time w' hid ?_ fun h actions => (hsame h actions).trans hexecute
    rw [hledger, hledger₁, World.store_of_ledger hledger₁]

theorem gate_of_holdsRules (hview : a.view = .ok v) (hholds : a.conditions.HoldsRules) :
    gate env v card = some <$> evaluate env a.conditions card := by
  have hgiven := Json.holdsRules_iff.mp hholds
  obtain ⟨es, rules, hconditions, -, -⟩ := hholds
  have hentries : Json.obj (v.conditions.getD []) = a.conditions := by
    rw [(view_eq_ok hview).2.1, AutomationRow.conditionEntries, hconditions]
    rfl
  unfold gate
  dsimp only
  rw [hentries, if_pos hgiven]

theorem gate_of_not_holdsRules (hview : a.view = .ok v) (hholds : ¬a.conditions.HoldsRules) :
    gate env v card = pure none := by
  unfold gate
  dsimp only
  rw [(view_eq_ok hview).2.1, conditionsGiven_entries, if_neg (hholds ∘ Json.holdsRules_iff.mpr)]

/-- For every stored automation whose conditions are something else than absent or without rules: if
they hold rules, it is let through to its actions where they evaluate to true in what is stored at
that moment, and held back wherever they do not. If they cannot be read they evaluate to false
everywhere, but the automation is let through, unchecked. -/
theorem execute_gated (env : Environment) {a : AutomationRow} {v : AutomationView}
    (hview : a.view = .ok v) (hgiven : ¬a.conditions.LacksRules) (card : RowRef)
    (triggerType : String) (depth : Int) (w : World) :
    (a.conditions.HoldsRules → ∀ r w₁,
      exec (evaluate env a.conditions card) (w.executing v card) = (r, w₁) →
        w₁.ledger = w.ledger ∧
        (r = .ok true → ∀ h, LetThrough env h v card triggerType depth w (some true) w₁) ∧
        (r ≠ .ok true → HeldBack env v card triggerType depth w)) ∧
    (¬a.conditions.HoldsRules → (∀ u, exec (evaluate env a.conditions card) u = (.ok false, u)) ∧
      ∀ h, LetThrough env h v card triggerType depth w none (w.executing v card)) := by
  constructor
  · intro hholds r w₁ hevaluate
    have hgate : exec (gate env v card) (w.executing v card) = (r.map some, w₁) := by
      rw [gate_of_holdsRules hview hholds, exec_map, hevaluate]
    refine ⟨?_, ?_, fun hr => heldBack_of_gate hgate ?_⟩
    · have hquiet : Quiet (evaluate env a.conditions card) := (Reads.evaluate _ card).quiet
      have hstill := hquiet (w.executing v card)
      rw [hevaluate] at hstill
      exact Eq.trans hstill (World.ledger_executing w v card)
    · rintro rfl h
      exact letThrough_of_gate hgate (by simp) h
    · rcases r with f | _ | _
      · exact .inr ⟨f, rfl⟩
      · exact .inl rfl
      · exact absurd rfl hr
  · intro hholds
    have hunreadable := Json.ofJson?_eq_none hgiven hholds
    refine ⟨fun u => ?_, fun h => letThrough_of_gate ?_ (by simp) h⟩
    · unfold evaluate
      rw [hunreadable]
      rfl
    · rw [gate_of_not_holdsRules hview hholds]
      rfl

end Engine

/-- An automation whose conditions are a bare list of rules, which cannot be read. -/
def AutomationRow.bareRules : AutomationRow where
  id := .zero
  pipe := .zero
  name := "Note"
  triggerType := "manual"
  conditions := .arr [.obj [("fieldKey", .str "status"), ("operator", .str "is_filled")]]
  actions := .arr [.obj [("type", .str "update_field"),
    ("config", .obj [("fieldKey", .str "seen"), ("value", .bool true)])]]
  created := .seeded 0

namespace Engine

/-- The conditions of that automation evaluate to false for the card of the small board; its action
is carried out all the same. -/
theorem execute_gated_bareRules : ∃ v, AutomationRow.bareRules.view = .ok v ∧
    ¬AutomationRow.bareRules.conditions.LacksRules ∧
    (exec (evaluate Environment.sample AutomationRow.bareRules.conditions
      (.ofUuid ⟨3, by decide⟩)) { store := Store.sample }).1 = .ok false ∧
    ∃ e w', exec (execute Environment.sample openPool v (.ofUuid ⟨3, by decide⟩) "manual" 0)
        { store := Store.sample } = (.ok e, w') ∧ e.status = .success ∧
      w'.store.fields.map FieldRow.key = ["seen"] := by
  have hgiven : ¬AutomationRow.bareRules.conditions.LacksRules := by
    rintro ⟨⟩
  obtain ⟨v, hview, records, w₂, hactions, hsuccess, hfields⟩ :
      ∃ v, AutomationRow.bareRules.view = .ok v ∧ ∃ records w₂,
        exec (performAll Environment.sample openPool
          { card := .ofUuid ⟨3, by decide⟩, automation := v.id, depth := 0 } v.actions)
          (World.executing { store := Store.sample } v (.ofUuid ⟨3, by decide⟩)) =
            (.ok records, w₂) ∧
          records.findSome? ActionRecord.error? = none ∧
          w₂.store.fields.map FieldRow.key = ["seen"] :=
    ⟨_, rfl, _, _, rfl, rfl, by decide +kernel⟩
  obtain ⟨hevaluate, hthrough⟩ := (execute_gated Environment.sample hview hgiven
    (.ofUuid ⟨3, by decide⟩) "manual" 0 { store := Store.sample }).2
      (by rintro ⟨es, rules, h, -⟩; cases h)
  refine ⟨v, hview, hgiven, by rw [hevaluate], ?_⟩
  cases hthrough openPool with
  | broken f w₃ w' hbroken _ _ =>
    rw [hactions] at hbroken
    cases hbroken
  | unwritten records' w₃ w' _ hcause _ _ => rcases hcause with hfails | hid <;> contradiction
  | entered records' id time w₃ w' hended hid hledger hexecute =>
    rw [hactions] at hended
    cases hended
    refine ⟨_, w', hexecute, ?_, ?_⟩
    · unfold Execution.ofRecords
      rw [hsuccess]
    · have hstore := congrArg Ledger.store hledger
      change w'.store = _ at hstore
      rw [hstore]
      exact hfields

end Engine
end BoardRules
