import BoardRules.Proofs.Condition.Overflow
import BoardRules.Proofs.Run.Course
import BoardRules.Proofs.Store.Change

/-! What breaks a run off: conditions that have no answer, and actions that cannot be tried because
what they look at cannot be read. Everything else that goes wrong with an automation ends nothing
but the automation. -/
namespace BoardRules

open Engine

/-- Whoever takes requests over answers each of them, leaves the ambient context as it was, and does
no more to the audit log than to add to it. -/
structure HandOver.Courteous (h : HandOver) : Prop where
  answers : h.Answers
  ambient : ∀ request w, (exec (h request) w).2.ambient = w.ambient
  logs : ∀ request w, ∃ rows, (exec (h request) w).2.store.logs = w.store.logs ++ rows

/-- Whether nothing is entered into the audit log while requests are handed over. -/
def HandOver.Silent (h : HandOver) : Prop :=
  ∀ request w, (exec (h request) w).2.store.logs = w.store.logs

/-- The ambient context stays, and the audit log grows by what is handed over at most. -/
def Steady (silent : Prop) (w w' : World) : Prop :=
  w'.ambient = w.ambient ∧ ∃ rows, w'.store.logs = w.store.logs ++ rows ∧ (silent → rows = [])

namespace Steady

variable {silent : Prop} {w w' w₁ w₂ w₃ : World}

theorem of_same (hambient : w'.ambient = w.ambient) (hlogs : w'.store.logs = w.store.logs) :
    Steady silent w w' :=
  ⟨hambient, [], by rw [hlogs, List.append_nil], fun _ => rfl⟩

theorem trans (h₁ : Steady silent w₁ w₂) (h₂ : Steady silent w₂ w₃) : Steady silent w₁ w₃ := by
  obtain ⟨hambient₁, rows₁, hlogs₁, hsilent₁⟩ := h₁
  obtain ⟨hambient₂, rows₂, hlogs₂, hsilent₂⟩ := h₂
  refine ⟨hambient₂.trans hambient₁, rows₁ ++ rows₂, ?_, fun hs => ?_⟩
  · rw [hlogs₂, hlogs₁, List.append_assoc]
  · rw [hsilent₁ hs, hsilent₂ hs]
    rfl

theorem law : Law (Steady silent) where
  quiet := fun h =>
    of_same (World.ambient_of_ledger h) (congrArg Store.logs (World.store_of_ledger h))
  trans := trans
  within := fun _ h => ⟨rfl, h.2⟩

theorem actionLaw : ActionLaw (Steady silent) where
  toLaw := law
  mailed := fun h => of_same (congrArg (fun l => l.ambient) h) (congrArg (fun l => l.store.logs) h)
  refused := fun h => of_same (congrArg (fun l => l.ambient) h) (congrArg (fun l => l.store.logs) h)
  moved := fun _ _ _ _ _ _ h =>
    of_same (congrArg (fun l => l.ambient) h) (congrArg (fun l => l.store.logs) h)
  wrote := by
    intro w w' row key value time _ h
    have hstore : w'.store = w.store.writeField row.id key value time := congrArg Ledger.store h
    refine of_same (congrArg (fun l => l.ambient) h) ?_
    rw [hstore, Store.logs_writeField]

end Steady

theorem HandOver.Courteous.of_store {h : HandOver} (hanswers : h.Answers)
    (hambient : ∀ request w, (exec (h request) w).2.ambient = w.ambient)
    (hstore : ∀ request w, (exec (h request) w).2.store = w.store) : h.Courteous where
  answers := hanswers
  ambient := hambient
  logs := fun request w => ⟨[], by rw [hstore, List.append_nil]⟩

theorem courteous_openPool : HandOver.Courteous openPool :=
  .of_store answers_openPool (fun _ _ => rfl) fun _ _ => rfl

theorem courteous_closedPool : HandOver.Courteous closedPool :=
  .of_store answers_closedPool (fun _ _ => rfl) fun _ _ => rfl

theorem courteous_jobQueue : HandOver.Courteous jobQueue :=
  .of_store answers_jobQueue (fun _ _ => rfl) fun _ _ => rfl

theorem courteous_brokenQueue : HandOver.Courteous brokenQueue :=
  .of_store answers_brokenQueue (fun _ _ => rfl) fun _ _ => rfl

theorem HandOver.Courteous.steady {h : HandOver} (hcourteous : h.Courteous)
    (request : CascadeRequest) : Keeps (Steady h.Silent) (h request) := by
  intro w
  obtain ⟨rows, hrows⟩ := hcourteous.logs request w
  refine ⟨hcourteous.ambient request w, rows, hrows, fun hsilent => ?_⟩
  have hsame := hsilent request w
  rw [hrows] at hsame
  exact List.append_right_eq_self.mp hsame

/-- Whether what is stored keeps a stored action from being tried. -/
def Store.Stops (s : Store) (card : RowRef) (payload : Json) : Prop :=
  ∃ action, Action.ofJson payload = .ok action ∧ s.Blocks card action

/-- Whether stored conditions have rules and yet no answer for a card: it cannot be read, or one of
the rules compares numbers that are too large. -/
def Store.Undecided (s : Store) (conditions : Json) (card : RowRef) : Prop :=
  ∃ c, Conditions.ofJson? conditions = some c ∧ c.rules ≠ [] ∧
    (s.Illegible card ∨ ∃ view, s.viewCard card = .ok (some view) ∧
      ∃ raw ∈ c.rules, ∃ rule, Rule.ofJson? raw = some rule ∧ rule.Overflows view)

theorem Conditions.verdictOn_eq_error {c : Conditions} {view : CardView} {f : Fault} :
    c.verdictOn (some view) = .error f ↔ c.hold? view = none ∧ f = .tooLarge := by
  unfold verdictOn
  cases hhold : c.hold? view <;> simp [hhold, eq_comm]

theorem Store.verdict_eq_error {s : Store} {conditions : Json} {card : RowRef} {c : Conditions}
    (hc : Conditions.ofJson? conditions = some c) :
    (∃ f, s.verdict conditions card = .error f) ↔
      s.Illegible card ∨ ∃ view, s.viewCard card = .ok (some view) ∧
        ∃ raw ∈ c.rules, ∃ rule, Rule.ofJson? raw = some rule ∧ rule.Overflows view := by
  unfold verdict Illegible
  rw [hc]
  dsimp only
  cases hview : s.viewCard card with
  | error f =>
    obtain ⟨g, rfl⟩ := viewCard_eq_error hview
    exact iff_of_true ⟨_, rfl⟩ (.inl ⟨g, rfl⟩)
  | ok view =>
    change (∃ f, c.verdictOn view = .error f) ↔ _
    cases view with
    | none =>
      refine iff_of_false ?_ ?_
      · rintro ⟨f, hf⟩
        cases hf
      · rintro (⟨g, hg⟩ | ⟨view, hview, -⟩)
        · cases hg
        · cases hview
    | some view =>
      simp only [Conditions.verdictOn_eq_error, Conditions.hold?_eq_none]
      simp

theorem Store.verdict_fault {s : Store} {conditions : Json} {card : RowRef} {f : Fault}
    (hf : s.verdict conditions card = .error f) : f.isStorage = false := by
  unfold verdict at hf
  split at hf
  · cases hf
  · rename_i c _
    cases hview : s.viewCard card with
    | error e =>
      obtain ⟨g, rfl⟩ := viewCard_eq_error hview
      rw [hview] at hf
      cases hf
      rfl
    | ok view =>
      rw [hview] at hf
      change c.verdictOn view = _ at hf
      cases view with
      | none => cases hf
      | some view =>
        rw [(Conditions.verdictOn_eq_error.mp hf).2]
        rfl

theorem conditionsGiven_iff {conditions : Json} : conditionsGiven conditions = true ↔
    ∃ c, Conditions.ofJson? conditions = some c ∧ c.rules ≠ [] := by
  unfold conditionsGiven
  cases Conditions.ofJson? conditions <;> simp

/-- The gate of an automation ends in a fault exactly if its conditions are undecided. -/
theorem Store.gateFor_eq_error {s : Store} {conditions : Json} {card : RowRef} :
    (∃ f, s.gateFor conditions card = .error f) ↔ s.Undecided conditions card := by
  unfold gateFor
  constructor
  · rintro ⟨f, hf⟩
    split at hf
    · rename_i hgiven
      obtain ⟨c, hc, hrules⟩ := conditionsGiven_iff.mp hgiven
      cases hverdict : s.verdict conditions card with
      | error e => exact ⟨c, hc, hrules, (verdict_eq_error hc).mp ⟨e, hverdict⟩⟩
      | ok b =>
        rw [hverdict] at hf
        cases hf
    · cases hf
  · rintro ⟨c, hc, hrules, hundecided⟩
    obtain ⟨f, hverdict⟩ := (verdict_eq_error hc).mpr hundecided
    rw [if_pos (conditionsGiven_iff.mpr ⟨c, hc, hrules⟩), hverdict]
    exact ⟨f, rfl⟩

theorem Store.gateFor_fault {s : Store} {conditions : Json} {card : RowRef} {f : Fault}
    (hf : s.gateFor conditions card = .error f) : f.isStorage = false := by
  unfold gateFor at hf
  split at hf
  · cases hverdict : s.verdict conditions card with
    | error e =>
      rw [hverdict] at hf
      cases hf
      exact verdict_fault hverdict
    | ok b =>
      rw [hverdict] at hf
      cases hf
  · cases hf

namespace Engine

variable {env : Environment} {h : HandOver} {ctx : ActionContext} {payload : Json} {w : World}

/-- The actions of an automation break off where one cannot be tried after others have succeeded. -/
inductive ActionsBreak (env : Environment) (h : HandOver) (ctx : ActionContext) (w : World)
    (payloads : List Json) : Prop where
  | intro (done : List Json) (payload : Json) (rest : List Json) (records : List ActionRecord)
    (w₁ : World) (hpayloads : payloads = done ++ payload :: rest)
    (hdone : Performed env h ctx w done records w₁) (hsuccess : ∀ r ∈ records, r.error? = none)
    (hstops : w₁.store.Stops ctx.card payload) : ActionsBreak env h ctx w payloads

/-- The execution of an automation breaks off if its conditions are undecided, or if they let it
pass and its actions break off. -/
inductive ExecutionBreaks (env : Environment) (h : HandOver) (a : AutomationView) (card : RowRef)
    (depth : Int) (w : World) : Prop where
  | conditions (hundecided : w.store.Undecided (.obj (a.conditions.getD [])) card) :
    ExecutionBreaks env h a card depth w
  | actions (met : Option Bool) (w₁ : World) (hgate : exec (gate env a card) w = (.ok met, w₁))
    (hmet : met ≠ some false)
    (hbreaks : ActionsBreak env h { card, automation := a.id, depth } w₁ a.actions) :
    ExecutionBreaks env h a card depth w

theorem exec_execution_passed {a : AutomationView} {card : RowRef} {depth : Int} {w₁ : World}
    {met : Option Bool} (hgate : exec (gate env a card) w = (.ok met, w₁))
    (hmet : met ≠ some false) :
    exec (execution env h a card depth) w =
      exec (.ofRecords met <$> performAll env h { card, automation := a.id, depth } a.actions)
        w₁ := by
  unfold execution
  rw [exec_bind_ok hgate]
  split
  · exact absurd rfl hmet
  · exact congrArg (exec · w₁) (bind_pure_comp _ _)

section

variable (hstorage : ∀ n, env.storageFails n = false)

include hstorage

theorem Reads.answers {α : Type} {body : Engine α} {answer : Store → Except Fault α}
    (hreads : Reads env body answer) (w : World) :
    ∃ w', w'.ledger = w.ledger ∧ exec body w = (answer w.store, w') := by
  obtain ⟨w', hledger, hexec | ⟨⟨n, hfails⟩, -⟩⟩ := hreads w
  · exact ⟨w', hledger, hexec⟩
  · rw [hstorage n] at hfails
    cases hfails

theorem mailing_error {compose : Engine (Message × Entries)}
    {answer : Store → Except Fault (Message × Entries)} (hreads : Reads env compose answer)
    {f : Fault} (hanswer : answer w.store = .error f) :
    ∃ w', exec (mailing env compose) w = (.error f, w') := by
  obtain ⟨w', -, hcompose⟩ := hreads.answers hstorage w
  rw [hanswer] at hcompose
  exact ⟨w', exec_bind_error hcompose _⟩

/-- An action that what is stored blocks ends in a fault that is not its own. -/
theorem carryOut_blocked {action : Action} (hblocks : w.store.Blocks ctx.card action) :
    ∃ g w', ∀ h, exec (carryOut env h ctx action) w = (.error (.read g), w') := by
  cases action with
  | sendFormLink formId recipientField templateId =>
    obtain ⟨g, hcard⟩ := Store.Illegible.cardFor hblocks
    obtain ⟨w', hexec⟩ := mailing_error hstorage
      (Reads.formLinkMail ctx.card formId recipientField templateId)
      (show _ >>= _ = _ by rw [hcard]; rfl)
    refine ⟨g, w', fun h => ?_⟩
    rw [carryOut, sendFormLink_eq]
    exact hexec
  | sendEmail templateId recipientField formId =>
    obtain ⟨⟨id, t, hgiven, htemplate⟩, hillegible⟩ := hblocks
    obtain ⟨g, hcard⟩ := hillegible.cardFor
    obtain ⟨w', hexec⟩ := mailing_error hstorage
      (Reads.templateMail ctx.card id recipientField formId)
      (show _ >>= _ = _ by rw [htemplate, hcard]; rfl)
    refine ⟨g, w', fun h => ?_⟩
    rw [carryOut, sendEmail_eq env ctx id hgiven]
    exact hexec
  | moveCard target =>
    have hreads : Reads env (moveNeeds env ctx.card target) _ := Reads.moveNeeds ctx.card target
    obtain ⟨w', -, hneeds⟩ := hreads.answers hstorage w
    obtain ⟨g, hfault⟩ : ∃ g, (w.store.cardFor ctx.card >>= fun v =>
        w.store.stageFor target >>= fun t => .ok (v, t)) = .error (.read g) := by
      rcases hblocks with hillegible | ⟨⟨v, hcard⟩, g, hstage⟩
      · obtain ⟨g, hcard⟩ := hillegible.cardFor
        exact ⟨g, by rw [hcard]; rfl⟩
      · refine ⟨g, ?_⟩
        rw [hcard, Store.stageFor, hstage]
        rfl
    rw [hfault] at hneeds
    refine ⟨g, w', fun h => ?_⟩
    rw [carryOut, moveToStage_eq]
    exact exec_bind_error hneeds _
  | updateField => exact hblocks.elim

theorem perform_stopped (h : HandOver) (hstops : w.store.Stops ctx.card payload) :
    ∃ g w', exec (perform env h ctx payload) w = (.error (.read g), w') := by
  obtain ⟨action, haction, hblocks⟩ := hstops
  obtain ⟨w₀, hw₀, hperform⟩ := exec_perform env ctx payload w
  rw [← World.store_of_ledger hw₀] at hblocks
  obtain ⟨g, w₁, hcarry⟩ := carryOut_blocked hstorage hblocks
  obtain ⟨w', -, hending⟩ := exec_perform_of_ending hperform fun h => by
    unfold attempt
    rw [haction]
    exact hcarry h
  exact ⟨g, w', hending h⟩

theorem performAll_breaks {payloads : List Json} (hbreaks : ActionsBreak env h ctx w payloads) :
    ∃ g w', exec (performAll env h ctx payloads) w = (.error (.read g), w') := by
  obtain ⟨done, stopped, rest, records, w₁, rfl, hdone, hsuccess, hstops⟩ := hbreaks
  induction hdone with
  | nil w =>
    obtain ⟨g, w', hexec⟩ := perform_stopped hstorage h hstops
    exact ⟨g, w', exec_bind_error hexec _⟩
  | cons hexec _ ih =>
    obtain ⟨herror, hsuccess⟩ := List.forall_mem_cons.mp hsuccess
    obtain ⟨g, w', hall⟩ := ih hsuccess hstops
    refine ⟨g, w', ?_⟩
    rw [List.cons_append, performAll, exec_bind_ok hexec, herror]
    exact exec_bind_error hall _

theorem execution_breaks {a : AutomationView} {card : RowRef} {depth : Int}
    (hbreaks : ExecutionBreaks env h a card depth w) :
    ∃ f w', f.isStorage = false ∧ exec (execution env h a card depth) w = (.error f, w') := by
  cases hbreaks with
  | conditions hundecided =>
    obtain ⟨f, hf⟩ := Store.gateFor_eq_error.mpr hundecided
    have hreads : Reads env (gate env a card) _ := Reads.gate a card
    obtain ⟨w', -, hgate⟩ := hreads.answers hstorage w
    rw [hf] at hgate
    exact ⟨f, w', Store.gateFor_fault hf, exec_bind_error hgate _⟩
  | actions met w₁ hgate hmet hbreaks =>
    obtain ⟨g, w', hall⟩ := performAll_breaks hstorage hbreaks
    refine ⟨.read g, w', rfl, ?_⟩
    rw [exec_execution_passed hgate hmet, exec_map, hall]
    rfl

/-- An execution that breaks off takes the run with it. -/
theorem execute_breaks {a : AutomationView} {card : RowRef} {depth : Int} (triggerType : String)
    (hbreaks : ExecutionBreaks env h a card depth (w.executing a card)) :
    ∃ f w', f.isStorage = false ∧
      exec (execute env h a card triggerType depth) w = (.error f, w') := by
  obtain ⟨f, w₂, hf, hended⟩ := execution_breaks hstorage hbreaks
  obtain ⟨r, w₁, w', hexec, hend⟩ := execute_cases env h a card triggerType depth w
  rw [hexec] at hended
  cases hended
  rcases hend with ⟨f', hf', -, hexecute⟩ | ⟨e, he, -⟩
  · cases hf'
    exact ⟨f, w', hf, hexecute⟩
  · cases he

variable {correlation : Json} (hmails : MailsOrFails env correlation) (hcourteous : h.Courteous)

include hmails hcourteous

/-- Whatever else becomes of an action, there is a record of it. -/
theorem perform_recorded (hw : w.ambient.correlation = correlation)
    (hstops : ¬w.store.Stops ctx.card payload) :
    ∃ record w', exec (perform env h ctx payload) w = (.ok record, w') := by
  obtain ⟨w₀, hw₀, hperform⟩ := exec_perform env ctx payload w
  rcases attempt_course env ctx payload w₀ with ⟨f, -, hattempt⟩ | ⟨action, haction, hcourse⟩
  · obtain ⟨w', -, hending⟩ := exec_perform_of_ending hperform hattempt
    exact ⟨_, w', hending h⟩
  · cases hcourse with
    | failed f w₁ hcause _ hattempt =>
      have hblocks : ¬w₀.store.Blocks ctx.card action := fun hblocks =>
        hstops ⟨action, haction, World.store_of_ledger hw₀ ▸ hblocks⟩
      rw [← hw, ← World.ambient_of_ledger hw₀] at hmails
      obtain ⟨w', -, hending⟩ := exec_perform_of_ending hperform hattempt
      rcases hcause.whole hblocks hmails with ⟨-, n, hfails⟩ | ⟨a, rfl⟩
      · rw [hstorage n] at hfails
        cases hfails
      · exact ⟨_, w', hending h⟩
    | mailed report w₁ _ hattempt =>
      obtain ⟨w', -, hending⟩ := exec_perform_of_ending hperform hattempt
      exact ⟨_, w', hending h⟩
    | wrote row key value tick w₁ _ _ _ _ hattempt =>
      obtain ⟨w', -, hending⟩ := exec_perform_of_ending hperform hattempt
      exact ⟨_, w', hending h⟩
    | moved target row stage tick w₁ _ _ _ _ _ hattempt =>
      obtain ⟨scheduled, w₂, hsched⟩ := scheduleCascade_answers env hcourteous.answers
        (moveTo w₀.store row stage) ctx.depth w₁
      obtain ⟨w', -, hconclude⟩ := exec_concludeRecord ctx payload
        (.ok (moveReport (moveTo w₀.store row stage) scheduled)) w₂
      have hended := hattempt h
      rw [hsched] at hended
      refine ⟨recordOf payload (.success (moveReport (moveTo w₀.store row stage) scheduled)), w',
        ?_⟩
      rw [hperform, exec_bind_ok (exec_outcome _ _), hended]
      exact hconclude

theorem performAll_or_breaks : ∀ (payloads : List Json) {w : World},
    w.ambient.correlation = correlation →
      (∃ records w', exec (performAll env h ctx payloads) w = (.ok records, w')) ∨
        ActionsBreak env h ctx w payloads
  | [], w, _ => .inl ⟨[], w, rfl⟩
  | payload :: payloads, w, hw => by
    by_cases hstops : w.store.Stops ctx.card payload
    · exact .inr ⟨[], payload, payloads, [], w, rfl, .nil w, by simp, hstops⟩
    · obtain ⟨record, w₁, hexec⟩ := perform_recorded hstorage hmails hcourteous hw hstops
      have hsteady : Steady h.Silent w (exec (perform env h ctx payload) w).2 :=
        Keeps.perform Steady.actionLaw hcourteous.steady ctx payload w
      rw [hexec] at hsteady
      unfold performAll
      rw [exec_bind_ok hexec]
      cases herror : record.error? with
      | some message => exact .inl ⟨[record], w₁, rfl⟩
      | none =>
        have hw₁ : w₁.ambient.correlation = correlation := by rw [hsteady.1, hw]
        -- only an action that succeeds is followed by others
        rcases performAll_or_breaks payloads hw₁ with ⟨records, w', hall⟩ |
          ⟨done, stopped, rest, records, w₂, hsplit, hdone, hsuccess, hstops⟩
        · exact .inl ⟨record :: records, w', exec_bind_ok hall _⟩
        · refine .inr ⟨payload :: done, stopped, rest, record :: records, w₂, ?_,
            .cons hexec hdone, List.forall_mem_cons.mpr ⟨herror, hsuccess⟩, hstops⟩
          rw [hsplit]
          rfl

theorem execution_or_breaks (a : AutomationView) (card : RowRef) (depth : Int)
    (hw : w.ambient.correlation = correlation) :
    (∃ e w', exec (execution env h a card depth) w = (.ok e, w')) ∨
      ExecutionBreaks env h a card depth w := by
  have hreads : Reads env (gate env a card) _ := Reads.gate a card
  obtain ⟨w₁, hledger, hgate⟩ := hreads.answers hstorage w
  cases hanswer : w.store.gateFor (.obj (a.conditions.getD [])) card with
  | error f => exact .inr (.conditions (Store.gateFor_eq_error.mp ⟨f, hanswer⟩))
  | ok met =>
    rw [hanswer] at hgate
    by_cases hmet : met = some false
    · refine .inl ⟨.notMet, w₁, ?_⟩
      unfold execution
      rw [exec_bind_ok hgate, hmet]
      rfl
    · have hw₁ : w₁.ambient.correlation = correlation := by
        rw [World.ambient_of_ledger hledger, hw]
      have hactions : _ ∨ ActionsBreak env h { card, automation := a.id, depth } w₁ a.actions :=
        performAll_or_breaks hstorage hmails hcourteous a.actions hw₁
      rcases hactions with ⟨records, w', hall⟩ | hbreaks
      · refine .inl ⟨.ofRecords met records, w', ?_⟩
        rw [exec_execution_passed hgate hmet, exec_map, hall]
        rfl
      · exact .inr (.actions met w₁ hgate hmet hbreaks)

/-- Executing an automation that does not break off leaves one entry about how it fares, after the
entries of what it sets off in place; the entry can be written unless the card's identifier is
none. -/
theorem execute_or_breaks (a : AutomationView) (card : RowRef) (triggerType : String) (depth : Int)
    (hw : w.ambient.correlation = correlation) :
    (card.id? = none ∧
        ∃ w', exec (execute env h a card triggerType depth) w = (.error .storageWrite, w')) ∨
      (∃ e id time nested w', card.id? = some id ∧
        exec (execute env h a card triggerType depth) w = (.ok e, w') ∧ w'.ambient = w.ambient ∧
        w'.store.logs = w.store.logs ++ (nested ++ [e.logRow id a.id triggerType time]) ∧
        (h.Silent → nested = [])) ∨
      ExecutionBreaks env h a card depth (w.executing a card) := by
  have hledger₀ := World.ledger_executing w a card
  have hsteady : Steady h.Silent (w.executing a card)
      (exec (execution env h a card depth) (w.executing a card)).2 :=
    Keeps.execution Steady.actionLaw hcourteous.steady a card depth (w.executing a card)
  obtain ⟨r, w₁, w', hexec, hend⟩ := execute_cases env h a card triggerType depth w
  rw [hexec] at hsteady
  obtain ⟨hambient, nested, hlogs, hnested⟩ := hsteady
  rw [World.ambient_of_ledger hledger₀] at hambient
  rw [World.store_executing] at hlogs
  rcases execution_or_breaks hstorage hmails hcourteous a card depth
    (w := w.executing a card) (by rw [World.ambient_of_ledger hledger₀, hw]) with
    ⟨e, w₂, hended⟩ | hbreaks
  · rw [hexec] at hended
    cases hended
    rcases hend with ⟨f, hf, -⟩ |
      ⟨e', he, ⟨hcause, -, hexecute⟩ | ⟨id, time, hid, hledger, hexecute⟩⟩
    · cases hf
    · refine .inl ⟨?_, w', hexecute⟩
      rcases hcause with hfails | hid
      · rw [hstorage] at hfails
        cases hfails
      · exact hid
    · cases he
      have hstore : w'.store = w₁.store.addLog (e.logRow id a.id triggerType time) :=
        congrArg Ledger.store hledger
      refine .inr (.inl ⟨e, id, time, nested, w', hid, hexecute, ?_, ?_, hnested⟩)
      · exact (congrArg (fun l => l.ambient) hledger).trans hambient
      · rw [hstore, ← List.append_assoc, ← hlogs]
        rfl
  · exact .inr (.inr hbreaks)

end

end Engine
end BoardRules
