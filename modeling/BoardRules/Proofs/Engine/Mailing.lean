import BoardRules.Proofs.Engine.Ledger

/-! Handing a mail over. Whatever the mail service does, at most one mail is accepted, and it is
accepted exactly if the program goes on. -/
namespace BoardRules.Engine

variable {α β : Type}

/-- One mail is accepted if the program ends well, and none if it ends in a fault; nothing else in
the ledger changes. -/
def Mails (body : Engine α) : Prop :=
  ∀ w, (exec body w).2.ledger =
    match (exec body w).1 with
    | .ok _ => { w.ledger with accepted := w.ledger.accepted + 1 }
    | .error _ => w.ledger

namespace Mails

theorem raise (f : Fault) : Mails (Engine.raise f : Engine α) := fun _ => rfl

/-- What comes before the mail is quiet. -/
theorem bind {x : Engine α} {f : α → Engine β} (hx : Quiet x) (hf : ∀ a, Mails (f a)) :
    Mails (x >>= f) := by
  intro w
  have hw : (exec x w).2.ledger = w.ledger := hx w
  cases hxw : exec x w with
  | mk r w₁ =>
    rw [hxw] at hw
    cases r with
    | error e => rw [exec_bind_error hxw]; exact hw
    | ok a =>
      rw [exec_bind_ok hxw]
      have hrest := hf a w₁
      rw [show w₁.ledger = w.ledger from hw] at hrest
      exact hrest

theorem spanning (name : String) {body : Engine α} (h : Mails body) :
    Mails (Engine.spanning name body) := by
  intro w
  rw [exec_spanning]
  have hbody := h (w.opened name)
  rw [World.ledger_opened] at hbody
  rw [World.ledger_closed]
  exact hbody

theorem log_acceptance {message : String}
    (h : message = "automation.email.sent" ∨ message = "automation.email.recorded")
    (fields : Entries) : Mails (log .info mailLogger message fields) := by
  intro w
  rw [exec_log, World.ledger_noted]
  have hacceptance : Effect.isAcceptance (.log
      { level := .info, logger := mailLogger, message, correlation := w.ambient.correlation,
        fields }) = true := by
    rcases h with rfl | rfl <;> rfl
  rw [hacceptance]
  rfl

end Mails

theorem quiet_emit_mail (service : Option (String × Json)) (payload : Entries) :
    Quiet (emit (.mail service payload)) := by
  intro w
  rw [exec_emit]
  exact World.ledger_noted_eq rfl rfl rfl w

theorem mails_recordMail (m : Message) : Mails (recordMail m) :=
  Mails.bind (quiet_emit_mail _ _) fun _ => Mails.log_acceptance (.inr rfl) _

/-- Hands a mail over once it is clear where it goes and under which header. -/
def handing (service : MailService) (url : Url) (header : Json) (m : Message) : Engine Unit := do
  let n := (← get).mails
  modify fun w => { w with mails := n + 1 }
  emit (.mail (some (calledAt url, header)) m.payload)
  match service.reply n m with
  | .broken reason => Engine.raise (.action (.notSent reason))
  | .answered status body =>
    if !url.isAbsolute then Engine.raise (.address .relative)
    annotate "http.status_code" (.int status)
    if MailReply.accepts status then
      log .info mailLogger "automation.email.sent"
        [("card_id", .str m.card), ("status_code", .int status)]
    else Engine.raise (.action (.notSent body))

theorem mails_handing (service : MailService) (url : Url) (header : Json) (m : Message) :
    Mails (handing service url header m) := by
  refine Mails.bind quiet_get fun v => ?_
  refine Mails.bind (fun _ => rfl) fun _ => ?_
  refine Mails.bind (quiet_emit_mail _ _) fun _ => ?_
  split
  · exact Mails.raise _
  · rename_i status body _
    cases url.isAbsolute
    · exact Mails.raise _
    · refine Mails.bind (quiet_annotate _ _) fun _ => ?_
      split
      · exact Mails.log_acceptance (.inl rfl) _
      · exact Mails.raise _

theorem mails_post (service : MailService) (m : Message) : Mails (post service m) := by
  unfold post
  split
  · exact Mails.raise _
  · rename_i url _
    refine Mails.bind quiet_get fun w => ?_
    dsimp only
    split
    · split
      · exact Mails.raise _
      · exact mails_handing service url _ m
    · exact mails_handing service url _ m

theorem mails_send (env : Environment) (m : Message) : Mails (send env m) := by
  apply Mails.spanning
  refine Mails.bind (quiet_annotate _ _) fun _ => ?_
  refine Mails.bind quiet_get fun w => ?_
  refine Mails.bind (quiet_annotate _ _) fun _ => ?_
  split
  · exact mails_post _ m
  · exact mails_recordMail m

/-- How a mail can end: it is accepted, or its action fails. -/
def Delivered (r : Except Fault Unit) : Prop :=
  r = .ok () ∨ ∃ reason, r = .error (.action (.notSent reason))

/-- Under a correlation id, handing a mail over succeeds or fails as an action does. -/
def MailsOrFails (env : Environment) (correlation : Json) : Prop :=
  ∀ m w, w.ambient.correlation = correlation → Delivered (exec (send env m) w).1

theorem mailsOrFails_of_none {env : Environment} (h : env.mailer = none) (correlation : Json) :
    MailsOrFails env correlation := by
  intro m w _
  unfold send
  rw [exec_spanning, h]
  exact .inl rfl

theorem delivered_handing (service : MailService) {url : Url} (h : url.isAbsolute = true)
    (header : Json) (m : Message) (w : World) :
    Delivered (exec (handing service url header m) w).1 := by
  unfold handing
  rw [exec_bind_ok (exec_get w), exec_bind_ok (exec_modify _ _), exec_bind_ok (exec_emit _ _)]
  cases service.reply w.mails m with
  | broken reason => exact .inr ⟨reason, rfl⟩
  | answered status body =>
    simp only [h, Bool.not_true, Bool.false_eq_true, ↓reduceIte]
    obtain ⟨w₁, hannotate, -⟩ := passes_annotate "http.status_code" (.int status)
      ({ w with mails := w.mails + 1 }.noted (.mail (some (calledAt url, header)) m.payload))
    rw [exec_bind_ok hannotate]
    cases MailReply.accepts status
    · exact .inr ⟨body, rfl⟩
    · exact .inl rfl

/-- So does a service that has an absolute address, with a correlation id that fits a header. -/
theorem mailsOrFails_of_service {env : Environment} {service : MailService} {url : Url}
    {correlation : Json} (hmailer : env.mailer = some service)
    (hparse : Url.parse? service.url = some url) (habsolute : url.isAbsolute = true)
    (hheader : correlation.isTruthy = true → HeaderFault.of? correlation = none) :
    MailsOrFails env correlation := by
  intro m w hw
  obtain ⟨w₁, hshow, hledger⟩ := Passes.bind (passes_annotate "card_id" (.str m.card))
    (passes_annotateOf "correlation_id" fun w => w.ambient.correlationShown)
    (w.opened "automation.email.dispatch")
  have hsend : send env m = spanning "automation.email.dispatch"
      ((annotate "card_id" (.str m.card) >>= fun _ =>
        get >>= fun w => annotate "correlation_id" w.ambient.correlationShown) >>= fun _ =>
          post service m) := by
    unfold send
    rw [hmailer]
    simp only [bind_assoc]
  have hcorrelation : w₁.ambient.correlation = correlation := by
    rw [World.ambient_of_ledger hledger]
    exact hw
  rw [hsend, exec_spanning, exec_bind_ok hshow]
  unfold post
  rw [hparse]
  dsimp only
  rw [exec_bind_ok (exec_get w₁), hcorrelation]
  cases htruthy : correlation.isTruthy with
  | true =>
    simp only [↓reduceIte, hheader htruthy]
    exact delivered_handing service habsolute _ m w₁
  | false => exact delivered_handing service habsolute _ m w₁

end BoardRules.Engine
