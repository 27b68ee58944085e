import Mathlib.Logic.Relation
import BoardRules.Proofs.Cascade.Trace
import BoardRules.Proofs.Engine.Sending
import BoardRules.Proofs.Run.OwnCard

/-! The mails of runs. An action that sends a mail makes it up from what is stored at that time and
hands it over before anything else changes. So a run and its cascades advance step by step, each
step one access to the storage, one mail, or nothing that matters here; and wherever a mail is
handed over, it is as it has to be by what is stored just then. -/
namespace BoardRules

open Engine

def Effect.isMail : Effect → Bool
  | .mail .. => true
  | _ => false

/-- The mails that have gone out, the latest first. -/
def World.posted (w : World) : List Effect := w.sent.filter Effect.isMail

/-- From one world to another, nothing but accesses to the storage that change nothing there. -/
def Looks (w w' : World) : Prop := ∃ accesses, w'.bare = { w.bare with accesses }

namespace Looks

variable {w w' w₁ w₂ w₃ : World}

theorem of_bare (h : w'.bare = w.bare) : Looks w w' := ⟨w.accesses, h⟩

theorem trans (h : Looks w₁ w₂) (h' : Looks w₂ w₃) : Looks w₁ w₃ := by
  obtain ⟨n, hbare⟩ := h
  obtain ⟨n', hbare'⟩ := h'
  refine ⟨n', ?_⟩
  rw [hbare', hbare]

theorem within {a : Ambient} (h : Looks (w.within a) w') : Looks w (w'.within w.ambient) := by
  obtain ⟨n, hbare⟩ := h
  exact ⟨n, (congrArg (World.within · w.ambient) hbare :)⟩

theorem readingLaw {env : Environment} {card : Option Uuid} :
    ReadingLaw (fun (α : Type) (x : Unit → Engine α) => Keeps Looks (x ())) env
      (fun _ => env.storageFails) card where
  toFamilyLaw := FamilyLaw.keeps of_bare trans fun _ h => h.within
  reading := by
    intro α query _ w
    rw [exec_reading]
    exact ⟨w.accesses + 1, rfl⟩

end Looks

/-- A program that makes a mail about a card up: it only reads, and if it comes to a mail, this is
as it has to be. Once the card is found it can fail as an action only. -/
structure Composes (env : Environment) (card : RowRef) (setup : MailSetup)
    (compose : Engine (Message × Entries)) (answer : Store → Except Fault (Message × Entries)) :
    Prop where
  reads : Reads env compose answer
  lawful : ∀ {J : (α : Type) → (Unit → Engine α) → Prop},
    ReadingLaw J env (fun _ => env.storageFails) card.id? → J _ fun _ => compose
  proper : ∀ s draft, answer s = .ok draft →
    ∃ id, card.id? = some id ∧ Proper env s id setup draft.1
  onlyAction : ∀ s view, s.cardFor card = .ok view → OnlyAction (answer s)

/-- Either action that sends a mail makes it up first. -/
theorem composes_of_mail? (env : Environment) {action : Action} {setup : MailSetup}
    (hsetup : action.mail? = some setup) (ctx : ActionContext) :
    ∃ compose answer, Composes env ctx.card setup compose answer ∧
      ∀ h, carryOut env h ctx action = mailing env compose := by
  cases action with
  | sendFormLink formId recipientField templateId =>
    cases hsetup
    refine ⟨_, _, ⟨Reads.formLinkMail ctx.card formId recipientField templateId,
      fun law => law.formLinkMail formId recipientField templateId,
      fun s draft => proper_formLinkFor, fun s view hcard => ?_⟩,
      fun h => sendFormLink_eq env ctx formId recipientField templateId⟩
    rw [hcard]
    exact OnlyAction.formLinkFor formId recipientField templateId view s
  | sendEmail templateId recipientField formId =>
    cases hsetup
    cases hgiven : given? templateId with
    | none =>
      refine ⟨failWith (.notFound .template), fun _ => .error (.action (.notFound .template)),
        ⟨Reads.raise _, fun law => law.raise _, fun s draft h => (nomatch h),
          fun s view _ f h => ?_⟩, fun h => ?_⟩
      · cases h
        exact ⟨_, rfl⟩
      · simp only [carryOut, sendEmail, hgiven]
        rfl
    | some id =>
      rw [← hgiven]
      refine ⟨_, _, ⟨Reads.templateMail ctx.card id recipientField formId,
        fun law => law.templateMail id recipientField formId,
        fun s draft => proper_templateMailFor hgiven, fun s view hcard => ?_⟩,
        fun h => sendEmail_eq env ctx id hgiven recipientField formId⟩
      refine OnlyAction.bind (OnlyAction.found _ _) fun t => ?_
      rw [hcard]
      exact OnlyAction.templateMailFor recipientField formId t view
  | moveCard target => cases hsetup
  | updateField key value => cases hsetup

/-- How an action goes that sends a mail: it comes to a mail that is as it has to be, hands it over
and is done; or it fails and hands nothing over. -/
inductive MailCourse (env : Environment) (card : RowRef) (setup : MailSetup) (w : World)
    (ending : HandOver → Except Fault Entries × World) : Prop where
  | sent (id : Uuid) (m : Message) (report : Entries) (w₁ : World) (hid : card.id? = some id)
    (hproper : Proper env w.store id setup m) (hlooks : Looks w w₁)
    (hending : ∀ h, ending h = exec (send env m >>= fun _ => pure report) w₁) :
    MailCourse env card setup w ending
  | unsent (f : Fault) (w' : World) (hlooks : Looks w w')
    (hending : ∀ h, ending h = (.error f, w')) : MailCourse env card setup w ending

theorem carryOut_mailCourse (env : Environment) {action : Action} {setup : MailSetup}
    (hsetup : action.mail? = some setup) (ctx : ActionContext) (w : World) :
    MailCourse env ctx.card setup w fun h => exec (carryOut env h ctx action) w := by
  obtain ⟨compose, answer, hcomposes, hcarried⟩ := composes_of_mail? env hsetup ctx
  have hlooks : Looks w (exec compose w).2 := hcomposes.lawful Looks.readingLaw w
  cases hexec : exec compose w with
  | mk r w₁ =>
    rw [hexec] at hlooks
    cases r with
    | error f =>
      refine .unsent f w₁ hlooks fun h => ?_
      rw [hcarried]
      exact exec_bind_error hexec _
    | ok draft =>
      obtain ⟨id, hid, hproper⟩ := hcomposes.proper _ _ (hcomposes.reads.eq_ok hexec).2
      refine .sent id draft.1 draft.2 w₁ hid hproper hlooks fun h => ?_
      rw [hcarried]
      exact exec_bind_ok hexec _

/-- An action that finds no address fails, and hands no mail over. -/
theorem carryOut_unaddressed (env : Environment) {action : Action} {setup : MailSetup}
    (hsetup : action.mail? = some setup) (ctx : ActionContext) {w : World} {id : Uuid}
    {row : CardRow} {view : CardView} {template : Option TemplateRow}
    (hid : ctx.card.id? = some id) (hsupplies : w.store.Supplies id setup row view template)
    (hnone : ∀ address, ¬Recipient setup view template address) :
    ∃ f w', (∀ h, exec (carryOut env h ctx action) w = (.error f, w')) ∧ Looks w w' ∧
      ((∃ a, f = .action a) ∨ ∃ n, env.storageFails n = true) := by
  obtain ⟨compose, answer, hcomposes, hcarried⟩ := composes_of_mail? env hsetup ctx
  have hlooks : Looks w (exec compose w).2 := hcomposes.lawful Looks.readingLaw w
  obtain ⟨w', -, hexec | ⟨hfails, hexec⟩⟩ := hcomposes.reads w
  · rw [hexec] at hlooks
    cases hanswer : answer w.store with
    | error f =>
      rw [hanswer] at hexec
      refine ⟨f, w', fun h => ?_, hlooks,
        .inl (hcomposes.onlyAction _ _ (hsupplies.cardFor hid) f hanswer)⟩
      rw [hcarried]
      exact exec_bind_error hexec _
    | ok draft =>
      obtain ⟨id', hid', hproper⟩ := hcomposes.proper _ _ hanswer
      obtain rfl := Option.some.inj (hid'.symm.trans hid)
      exact absurd (hproper.recipient hsupplies) (hnone _)
  · rw [hexec] at hlooks
    refine ⟨.storageRead, w', fun h => ?_, hlooks, .inr hfails⟩
    rw [hcarried]
    exact exec_bind_error hexec _

/-- Whether an action is one of those of an automation among some. -/
def StoredIn (rows : List AutomationRow) (payload : Json) : Prop :=
  ∃ a ∈ rows, ∃ actions, a.actions.toItems = .ok actions ∧ payload ∈ actions

/-- Whether an automation among some has an action that sends a mail and says so about it. -/
def Configured (rows : List AutomationRow) (setup : MailSetup) : Prop :=
  ∃ payload action, StoredIn rows payload ∧ Action.ofJson payload = .ok action ∧
    action.mail? = some setup

/-- A step of what is done for some automations about certain cards. What is told to observers, what
is put aside and what is ambient make no difference here. -/
inductive Advance (env : Environment) (P : Uuid → Prop) (rows : List AutomationRow) :
    World → World → Prop where
  | still {w w' : World} (hbare : w'.bare =
      { w.bare with ambient := w'.ambient, queue := w'.queue, trace := w'.sent })
    (hposted : w'.posted = w.posted) : Advance env P rows w w'
  | looked (w : World) : Advance env P rows w w.accessed
  | moved {id : Uuid} (hid : P id) (stage : StageView) (w : World) :
    Advance env P rows w (exec (writing env noCard (moveChange id stage)) w).2
  | wrote {id : Uuid} (hid : P id) (key : String) (value : Json) (w : World) :
    Advance env P rows w (exec (writing env noCard (fieldChange id key value)) w).2
  | entered {e : LogEntry} (he : ∀ id, e.card.id? = some id → P id) (w : World) :
    Advance env P rows w (exec (appendLog env e) w).2
  | mailed {id : Uuid} (hid : P id) {setup : MailSetup} (hsetup : Configured rows setup)
    {m : Message} {w : World} (hproper : Proper env w.store id setup m) :
    Advance env P rows w (exec (send env m) w).2

def Advances (env : Environment) (P : Uuid → Prop) (rows : List AutomationRow) :
    World → World → Prop := Relation.ReflTransGen (Advance env P rows)

theorem World.posted_of_sent {w w' : World} {effects : List Effect}
    (h : w'.sent = effects ++ w.sent) :
    w'.posted = effects.filter Effect.isMail ++ w.posted := by
  unfold posted
  rw [h, List.filter_append]

theorem Environment.dispatch_mails (env : Environment) (m : Message) (correlation : Json)
    (earlier : Nat) : ∀ e ∈ (env.dispatch m correlation earlier).2,
      ∃ service, e = .mail service m.payload := by
  intro e he
  unfold dispatch at he
  split at he
  · exact ⟨_, List.mem_singleton.mp he⟩
  · split at he
    · cases he
    · cases he
    · exact ⟨_, List.mem_singleton.mp he⟩

section

variable {env : Environment} {P : Uuid → Prop} {rows : List AutomationRow}

/-- Whether a mail that has gone out was handed over rightly, at some time between two worlds. -/
inductive Justified (env : Environment) (P : Uuid → Prop) (rows : List AutomationRow)
    (w w' : World) : Effect → Prop where
  | mailed {id : Uuid} {setup : MailSetup} {m : Message} {v : World}
    (service : Option (String × Json)) (hid : P id) (hsetup : Configured rows setup)
    (hbefore : Advances env P rows w v) (hproper : Proper env v.store id setup m)
    (hafter : Advances env P rows (exec (send env m) v).2 w') :
    Justified env P rows w w' (.mail service m.payload)

theorem Justified.then {w w₁ w₂ : World} {e : Effect} (h : Justified env P rows w w₁ e)
    (hstep : Advance env P rows w₁ w₂) : Justified env P rows w w₂ e := by
  cases h with
  | mailed service hid hsetup hbefore hproper hafter =>
    exact .mailed service hid hsetup hbefore hproper (hafter.tail hstep)

theorem posted_writing {α : Type} (missing : Fault)
    (change : Moment → Store → Option (α × Store)) (w : World) :
    (exec (writing env missing change) w).2.posted = w.posted := by
  rw [exec_writing]
  split
  · rfl
  · split <;> rfl

/-- All mails that go out on the way were handed over rightly. -/
theorem justified_of_advances {w w' : World} (h : Advances env P rows w w') :
    ∃ mails, w'.posted = mails ++ w.posted ∧ ∀ e ∈ mails, Justified env P rows w w' e := by
  induction h with
  | refl => exact ⟨[], rfl, by simp⟩
  | @tail w₁ w₂ hbefore hstep ih =>
    obtain ⟨mails, hposted, hall⟩ := ih
    have hkept : w₂.posted = w₁.posted →
        ∃ mails, w₂.posted = mails ++ w.posted ∧ ∀ e ∈ mails, Justified env P rows w w₂ e :=
      fun hsame => ⟨mails, hsame.trans hposted, fun e he => (hall e he).then hstep⟩
    cases hstep with
    | still _ hsame => exact hkept hsame
    | looked => exact hkept rfl
    | moved => exact hkept (posted_writing _ _ _)
    | wrote => exact hkept (posted_writing _ _ _)
    | entered => exact hkept (posted_writing _ _ _)
    | @mailed id hid setup hsetup m _ hproper =>
      obtain ⟨w', hexec, n, hemits⟩ := exec_send env m w₁
      have hstep : Advance env P rows w₁ (exec (send env m) w₁).2 := .mailed hid hsetup hproper
      have hsent : (exec (send env m) w₁).2.posted = _ ++ w₁.posted :=
        World.posted_of_sent (by rw [hexec]; exact (congrArg World.trace hemits :))
      refine ⟨_ ++ mails, by rw [hsent, hposted, List.append_assoc],
        List.forall_mem_append.mpr ⟨fun e he => ?_, fun e he => (hall e he).then hstep⟩⟩
      obtain ⟨service, rfl⟩ := env.dispatch_mails _ _ _ e (List.mem_filter.mp he).1
      exact .mailed service hid hsetup hbefore hproper .refl

/-- Whether what is stored are certain automations, and what is put aside names certain cards. -/
structure World.Upholds (P : Uuid → Prop) (rows : List AutomationRow) (w : World) : Prop where
  automations : w.store.automations = rows
  names : w.Names P

/-- From where this is so, all that is done is steps of the kind, and it goes on to be so. -/
def Abides (env : Environment) (P : Uuid → Prop) (rows : List AutomationRow) (w w' : World) :
    Prop := w.Upholds P rows → Advances env P rows w w' ∧ w'.Upholds P rows

namespace Abides

variable {w w' w₁ w₂ w₃ : World} {h : HandOver}

theorem of_advance (hstep : Advance env P rows w w')
    (hautomations : w'.store.automations = w.store.automations) (hqueue : w'.queue = w.queue) :
    Abides env P rows w w' := by
  intro hw
  refine ⟨.single hstep, hautomations.trans hw.automations, ?_⟩
  unfold World.Names
  rw [hqueue]
  exact hw.names

theorem of_ledger (hstep : Advance env P rows w w') (hledger : w'.ledger = w.ledger) :
    Abides env P rows w w' :=
  of_advance hstep (by rw [World.store_of_ledger hledger]) (World.queue_of_ledger hledger)

theorem of_bare (hbare : w'.bare = w.bare) : Abides env P rows w w' := by
  refine of_advance (.still ?_ ?_) ?_ (World.queue_of_bare hbare)
  · rw [World.ambient_of_bare hbare, World.queue_of_bare hbare, World.sent_of_bare hbare]
    exact hbare
  · unfold World.posted
    rw [World.sent_of_bare hbare]
  · rw [World.store_of_bare hbare]

theorem trans (h₁ : Abides env P rows w₁ w₂) (h₂ : Abides env P rows w₂ w₃) :
    Abides env P rows w₁ w₃ := by
  intro hw
  obtain ⟨hfirst, hw₂⟩ := h₁ hw
  obtain ⟨hsecond, hw₃⟩ := h₂ hw₂
  exact ⟨Relation.ReflTransGen.trans hfirst hsecond, hw₃⟩

/-- What is ambient makes no difference. -/
theorem ambient (w : World) (a : Ambient) : Abides env P rows w (w.within a) :=
  of_advance (.still rfl rfl) rfl rfl

theorem familyLaw : FamilyLaw fun (α : Type) (x : Unit → Engine α) =>
    Keeps (Abides env P rows) (x ()) :=
  FamilyLaw.keeps of_bare trans fun a h => ((ambient _ a).trans h).trans (ambient _ _)

theorem writing {α : Type} (missing : Fault) {change : Moment → Store → Option (α × Store)}
    (hstep : ∀ w, Advance env P rows w (exec (Engine.writing env missing change) w).2)
    (hchange : ∀ {time s a s'}, change time s = some (a, s') → s'.automations = s.automations) :
    Keeps (Abides env P rows) (Engine.writing env missing change) := by
  intro w
  have hadvance := hstep w
  rcases writing_cases env missing change w with
    ⟨w', hexec, -, hledger⟩ | ⟨w', hexec, -, hledger⟩ | ⟨a, store, w', hexec, hsome, hledger⟩
  all_goals rw [hexec] at hadvance ⊢
  · exact of_ledger hadvance hledger
  · exact of_ledger hadvance hledger
  · have hstore : w'.store = store := congrArg Ledger.store hledger
    refine of_advance hadvance ?_ (congrArg Ledger.queue hledger)
    rw [hstore, hchange hsome]

theorem entered {e : LogEntry} (he : ∀ id, e.card.id? = some id → P id) :
    Keeps (Abides env P rows) (appendLog env e) := by
  refine writing _ (fun w => .entered he w) fun {time s _ s'} hsome => ?_
  obtain ⟨id, -, hentered⟩ := Option.bind_eq_some_iff.mp hsome
  cases hentered
  rfl

/-- What a run on a card does besides sending mails. -/
theorem changingLaw {card : Option Uuid} (hcard : ∀ id, card = some id → P id)
    (hover : ∀ request : CascadeRequest, (∀ id, request.card? = some id → P id) →
      Keeps (Abides env P rows) (h request)) :
    ChangingLaw (fun (α : Type) (x : Unit → Engine α) => Keeps (Abides env P rows) (x ())) env
      (fun _ => env.storageFails) (fun _ => h) card where
  toFamilyLaw := familyLaw
  reading := by
    intro α query _ w
    rw [exec_reading]
    exact of_advance (.looked w) rfl rfl
  moved := by
    intro id stage hid
    refine writing _ (fun w => .moved (hcard id hid) stage w) fun {time s move s'} hsome => ?_
    obtain ⟨row, -, hmoved⟩ := Option.bind_eq_some_iff.mp hsome
    cases hmoved
    rfl
  wrote := by
    intro id key value hid
    refine writing _ (fun w => .wrote (hcard id hid) key value w) fun {time s _ s'} hsome => ?_
    obtain ⟨row, -, hwrote⟩ := Option.bind_eq_some_iff.mp hsome
    cases hwrote
    exact Store.automations_writeField s _ key value time
  handed request hrequest := hover request (by rw [hrequest]; exact hcard)

/-- A mail that is as it has to be is one step. -/
theorem send {id : Uuid} (hid : P id) {setup : MailSetup} (hsetup : Configured rows setup)
    {m : Message} (hproper : Proper env w.store id setup m) :
    Abides env P rows w (exec (Engine.send env m) w).2 := by
  have hstep : Advance env P rows w (exec (Engine.send env m) w).2 := .mailed hid hsetup hproper
  obtain ⟨w', hexec, n, hemits⟩ := exec_send env m w
  rw [hexec] at hstep ⊢
  refine of_advance hstep ?_ (congrArg World.queue hemits :)
  rw [show w'.store = w.store from (congrArg World.store hemits :)]

/-- An action that sends a mail makes it up, and hands it over before anything is changed. -/
theorem carryOut {ctx : ActionContext} (hcard : ∀ id, ctx.card.id? = some id → P id)
    {action : Action} {setup : MailSetup} (hmail : action.mail? = some setup)
    (hsetup : Configured rows setup)
    (law : ReadingLaw (fun (α : Type) (x : Unit → Engine α) => Keeps (Abides env P rows) (x ())) env
      (fun _ => env.storageFails) ctx.card.id?) :
    Keeps (Abides env P rows) (Engine.carryOut env h ctx action) := by
  obtain ⟨compose, answer, hcomposes, hcarried⟩ := composes_of_mail? env hmail ctx
  rw [hcarried]
  unfold mailing
  refine Keeps.seq (R := Abides env P rows) (fun _ _ _ => trans) (hcomposes.lawful law)
    fun w draft w₁ hexec => ?_
  obtain ⟨hledger, hanswer⟩ := hcomposes.reads.eq_ok hexec
  obtain ⟨id, hid, hproper⟩ := hcomposes.proper _ _ hanswer
  rw [← World.store_of_ledger hledger] at hproper
  rw [exec_bind]
  have hsent : Abides env P rows w₁ _ := send (hcard id hid) hsetup hproper
  cases hsend : exec (Engine.send env draft.1) w₁ with
  | mk r w₂ =>
    rw [hsend] at hsent
    cases r with
    | error f => exact hsent
    | ok u => exact hsent

theorem attempt {ctx : ActionContext}
    (law : ChangingLaw (fun (α : Type) (x : Unit → Engine α) => Keeps (Abides env P rows) (x ()))
      env (fun _ => env.storageFails) (fun _ => h) ctx.card.id?)
    (hcard : ∀ id, ctx.card.id? = some id → P id) {payload : Json}
    (hstored : StoredIn rows payload) :
    Keeps (Abides env P rows) (Engine.attempt env h ctx payload) := by
  refine law.attemptOf ctx rfl payload fun action haction hmail => ?_
  obtain ⟨setup, hsetup⟩ := Option.isSome_iff_exists.mp hmail
  exact carryOut hcard hsetup ⟨payload, action, hstored, haction, hsetup⟩ law.toReadingLaw

/-- The automations that a run finds are those that are stored. -/
theorem storedIn_of_opened {triggerType : String} {pipe : RowRef} {occasion : Occasion}
    {examined : List (AutomationView × ReportDetail)}
    (hexec : exec (opened env triggerType pipe occasion) w = (.ok (some examined), w'))
    (hw : w'.store.automations = rows) :
    ∀ p ∈ examined, ∀ payload ∈ p.1.actions, StoredIn rows payload := by
  obtain ⟨hledger, hopening⟩ := (Reads.opened triggerType pipe occasion).eq_ok hexec
  obtain ⟨id, -, hall⟩ := Store.opening_eq_ok hopening
  rw [World.store_of_ledger hledger] at hw
  refine forall_of_forall₂ (fun a p hp ha payload hpayload => ?_) hall
    fun a ha => hw ▸ Store.mem_automations ha
  exact ⟨a, ha, _, (view_eq_ok hp.1).2.2, hpayload⟩

/-- A run on one of the cards abides if those do who take over requests that name such a card. -/
theorem run {card : RowRef} (hcard : ∀ id, card.id? = some id → P id)
    (hover : ∀ request : CascadeRequest, (∀ id, request.card? = some id → P id) →
      Keeps (Abides env P rows) (h request))
    (triggerType : String) (pipe : RowRef) (occasion : Occasion) (depth : Int) :
    Keeps (Abides env P rows) (Engine.run env h triggerType card pipe occasion depth) := by
  have law : ChangingLaw (fun (α : Type) (x : Unit → Engine α) => Keeps (Abides env P rows) (x ()))
      env (fun _ => env.storageFails) (fun _ => h) card.id? := changingLaw hcard hover
  refine law.toReadingLaw.runOf (h := fun _ => h) fun w => ?_
  dsimp only
  rw [runInSpan_eq]
  refine Keeps.seq (R := Abides env P rows) (fun _ _ _ => trans)
    (familyLaw.told (tells_showRun triggerType card pipe depth)) (fun _ _ w₁ _ => ?_) w
  refine Keeps.seq (R := Abides env P rows) (fun _ _ _ => trans)
    (law.toReadingLaw.opened triggerType pipe occasion) (fun w₁ found w₂ hexec hw₂ => ?_) w₁
  -- the automations are those that are stored, since nothing has changed so far
  have hfound : ∀ examined, found = some examined →
      ∀ p ∈ examined, ∀ payload ∈ p.1.actions, StoredIn rows payload := by
    rintro examined rfl
    exact storedIn_of_opened hexec hw₂.automations
  exact law.toReadingLaw.afterOpening (h := fun _ => h)
    (fun ctx payload hctx _ hstored => attempt (hctx ▸ law) (hctx ▸ hcard) hstored)
    (fun e he => entered (he ▸ hcard)) triggerType pipe found hfound w₂ hw₂

theorem withAmbient {α : Type} (change : Ambient → Ambient) {body : Engine α}
    (hbody : Keeps (Abides env P rows) body) :
    Keeps (Abides env P rows) (Engine.withAmbient change body) :=
  familyLaw.withAmbient (x := fun _ => body) change hbody

theorem runCascade {request : CascadeRequest} (hrequest : ∀ id, request.card? = some id → P id)
    (hover : ∀ r : CascadeRequest, (∀ id, r.card? = some id → P id) →
      Keeps (Abides env P rows) (h r)) :
    Keeps (Abides env P rows) (Engine.runCascade env h request) := by
  unfold Engine.runCascade withCorrelation
  exact withAmbient _ (run hrequest hover _ _ _ _)

/-- Requests are put aside, or none is, and nothing else happens that matters here. -/
theorem queued {requests : List CascadeRequest}
    (hnames : ∀ request ∈ requests, ∀ id, request.card? = some id → P id)
    (hbare : w'.bare = { w.bare with queue := w.queue ++ requests, trace := w'.sent })
    (hposted : w'.posted = w.posted) : Abides env P rows w w' := by
  have hstore : w'.store = w.store := (congrArg World.store hbare :)
  have hambient : w'.ambient = w.ambient := (congrArg World.ambient hbare :)
  have hqueue : w'.queue = w.queue ++ requests := (congrArg World.queue hbare :)
  intro hw
  refine ⟨.single (.still ?_ hposted), hstore ▸ hw.automations, ?_⟩
  · rw [hambient, hqueue]
    exact hbare
  · unfold World.Names
    rw [hqueue]
    exact List.forall_mem_append.mpr ⟨hw.names, hnames⟩

/-- In each of the usual ways a request is put aside, or refused, or run. -/
theorem usual (hh : h.Usual env) : ∀ request : CascadeRequest,
    (∀ id, request.card? = some id → P id) → Keeps (Abides env P rows) (h request) := by
  induction hh with
  | mode m =>
    intro request hrequest w
    have hone : ∀ r ∈ [request], ∀ id, r.card? = some id → P id := by simpa using hrequest
    have hnone : ∀ r ∈ ([] : List CascadeRequest), ∀ id, r.card? = some id → P id := by simp
    have hqueue : w.queue ++ [] = w.queue := List.append_nil _
    cases m with
    | pool => exact queued hone rfl rfl
    | closed => exact queued hnone (by rw [hqueue]; rfl) rfl
    | queue | worked => exact queued hone rfl rfl
    | broken => exact queued hnone (by rw [hqueue]; rfl) rfl
  | inPlace _ ih =>
    intro request hrequest
    unfold Engine.inPlace
    exact Keeps.seq (R := Abides env P rows) (fun _ _ _ => trans)
      (runCascade hrequest ih).outcome fun _ _ _ _ => of_bare rfl

/-- What is done apart from what is going on changes nothing of that. -/
theorem detached {α : Type} {body : Engine α} (hbody : Keeps (Abides env P rows) body) :
    Keeps (Abides env P rows) (Engine.detached body) := by
  intro w
  rw [exec_detached]
  have hstart : Abides env P rows w { w with spans := [], ambient := {} } :=
    of_advance (.still rfl rfl) rfl rfl
  refine (hstart.trans (hbody _)).trans (of_advance (.still rfl rfl) rfl rfl)

section

variable (hh : h.Usual env) {request : CascadeRequest}
  (hrequest : ∀ id, request.card? = some id → P id)

include hh hrequest

theorem runOnWorker : Keeps (Abides env P rows) (Engine.runOnWorker env h request) := by
  unfold Engine.runOnWorker
  refine Keeps.seq (R := Abides env P rows) (fun _ _ _ => trans)
    (runCascade hrequest (usual hh)).outcome fun _ r _ _ => ?_
  cases r with
  | ok report => exact of_bare rfl
  | error f => exact of_bare (World.bare_noted rfl _)

theorem runJob : Keeps (Abides env P rows) (Engine.runJob env h request.toPayload) := by
  rw [runJob_toPayload]
  refine Keeps.seq (R := Abides env P rows) (fun _ _ _ => trans) ?_ fun _ _ w₁ _ =>
    runCascade hrequest (usual hh) w₁
  unfold configured
  split
  · exact familyLaw.pure ()
  · exact familyLaw.raise _

end

/-- Taking one request from those that are put aside. -/
theorem taken {α : Type} {body : Engine α} {before after : List CascadeRequest}
    {request : CascadeRequest} (hqueue : w.queue = before ++ request :: after)
    (hbody : (∀ id, request.card? = some id → P id) → Keeps (Abides env P rows) body) :
    Abides env P rows w (exec (Engine.detached body) (w.pending (before ++ after))).2 := by
  intro hw
  have hnames := hw.names
  unfold World.Names at hnames
  rw [hqueue, List.forall_mem_append, List.forall_mem_cons] at hnames
  obtain ⟨hbefore, hrequest, hafter⟩ := hnames
  have hpending : Advance env P rows w (w.pending (before ++ after)) := .still rfl rfl
  obtain ⟨hadvances, hend⟩ := detached (hbody hrequest) (w.pending (before ++ after))
    ⟨hw.automations, List.forall_mem_append.mpr ⟨hbefore, hafter⟩⟩
  exact ⟨hadvances.head hpending, hend⟩

/-- Whatever workers make of requests, in any order. -/
theorem worked (hh : h.Usual env) (hworked : Worked env h w w') : Abides env P rows w w' := by
  induction hworked with
  | done w => exact of_bare rfl
  | ran before request after hqueue _ ih => exact (taken hqueue (runOnWorker hh)).trans ih
  | job before request after hqueue _ ih => exact (taken hqueue (runJob hh)).trans ih

end Abides

end

/-- Whether a card is that of a run, or one named by what was put aside before the run. -/
def World.Concerns (w : World) (card : RowRef) (id : Uuid) : Prop :=
  card.id? = some id ∨ ∃ request ∈ w.queue, request.card? = some id

namespace Engine

/-- Mails go to the address that is meant, and link no foreign form. In order: an action that sends
a mail comes to one that is as it has to be by what is stored, and hands it over, or it fails and
hands nothing over; where neither the card's field nor the template holds an address, it fails; a
run, and whatever becomes of its cascades, advances by steps that hand over such mails only, each
for an action of a stored automation; and each mail that goes out on the way is one of them. They
are all about the run's card, or about a card that is named by what was put aside before. -/
theorem mails_addressed (env : Environment) {h : HandOver} (hh : h.Usual env)
    (triggerType : String) (card pipe : RowRef) (occasion : Occasion) (depth : Int) {w w' : World}
    (hworked : Worked env h (exec (run env h triggerType card pipe occasion depth) w).2 w') :
    (∀ (ctx : ActionContext) (action : Action) (setup : MailSetup) (v : World),
      action.mail? = some setup →
        MailCourse env ctx.card setup v fun h' => exec (carryOut env h' ctx action) v) ∧
    (∀ (ctx : ActionContext) (action : Action) (setup : MailSetup) (v : World) (id : Uuid)
        (row : CardRow) (view : CardView) (template : Option TemplateRow),
      action.mail? = some setup → ctx.card.id? = some id →
        v.store.Supplies id setup row view template →
        (∀ address, ¬Recipient setup view template address) →
          ∃ f v', (∀ h', exec (carryOut env h' ctx action) v = (.error f, v')) ∧ Looks v v' ∧
            ((∃ a, f = .action a) ∨ ∃ n, env.storageFails n = true)) ∧
    Advances env (w.Concerns card) w.store.automations w w' ∧
    ∃ mails, w'.posted = mails ++ w.posted ∧
      ∀ e ∈ mails, Justified env (w.Concerns card) w.store.automations w w' e := by
  have hupholds : w.Upholds (w.Concerns card) w.store.automations :=
    ⟨rfl, fun request hrequest id hid => .inr ⟨request, hrequest, hid⟩⟩
  have hran : Abides env (w.Concerns card) w.store.automations w _ :=
    Abides.run (fun id hid => .inl hid) (Abides.usual hh) triggerType pipe occasion depth w
  have hadvances := ((hran.trans (Abides.worked hh hworked)) hupholds).1
  refine ⟨fun ctx action setup v hsetup => carryOut_mailCourse env hsetup ctx v, ?_, hadvances,
    justified_of_advances hadvances⟩
  intro ctx action setup v id row view template hsetup hid hsupplies hnone
  exact carryOut_unaddressed env hsetup ctx hid hsupplies hnone

/-- On that board one mail goes out, with the cascades of the run run in place. -/
theorem mails_addressed_inviting : ∃ w',
    (exec (run Environment.sample (inPlace Environment.sample openPool) "manual"
      (.ofUuid ⟨3, by decide⟩) (.ofUuid ⟨1, by decide⟩) .untold 0)
        { store := Store.inviting }).2 = w' ∧
    w'.posted.map (fun | .mail _ payload => payload.get? "to" | _ => none) =
      [some (.str "ada@board.example")] ∧
    ∀ e ∈ w'.posted, Justified Environment.sample
      (({ store := Store.inviting } : World).Concerns (.ofUuid ⟨3, by decide⟩))
      Store.inviting.automations { store := Store.inviting } w' e := by
  refine ⟨_, rfl, by decide +kernel, ?_⟩
  obtain ⟨-, -, -, mails, hposted, hall⟩ := mails_addressed Environment.sample
    (.inPlace (.mode .pool)) "manual" (.ofUuid ⟨3, by decide⟩) (.ofUuid ⟨1, by decide⟩) .untold 0
    (w := { store := Store.inviting }) (.done _)
  intro e he
  refine hall e ?_
  rw [show mails = mails ++ ({ store := Store.inviting } : World).posted from
    (List.append_nil mails).symm, ← hposted]
  exact he

end Engine
end BoardRules
