import BoardRules.Proofs.Engine.Family
import BoardRules.Proofs.Engine.Mailing
import BoardRules.Proofs.Engine.Trace

/-! Handing a mail over, as a function. How it ends and what goes out depends on the mail, on the
ambient correlation id and, if the service makes a difference there, on how many mails went before;
nothing else of the world has a part in it. -/
namespace BoardRules

/-- What a service makes of a mail. A reply counts only if it can be told from where it came. -/
def MailService.verdict (service : MailService) (url : Url) (m : Message) (earlier : Nat) :
    Except Fault Unit :=
  match service.reply earlier m with
  | .broken reason => .error (.action (.notSent reason))
  | .answered status body =>
    if !url.isAbsolute then .error (.address .relative)
    else if MailReply.accepts status then .ok ()
    else .error (.action (.notSent body))

/-- Why a correlation id cannot stand in a header, if it is to stand there. -/
def Json.headerFault? (correlation : Json) : Option HeaderFault :=
  if correlation.isTruthy then HeaderFault.of? correlation else none

/-- How handing a mail over ends, and what goes out. -/
def Environment.dispatch (env : Environment) (m : Message) (correlation : Json) (earlier : Nat) :
    Except Fault Unit × List Effect :=
  match env.mailer with
  | none => (.ok (), [.mail none m.payload])
  | some service =>
    match Url.parse? service.url, correlation.headerFault? with
    | none, _ => (.error (.address .malformed), [])
    | some _, some f => (.error (.header f), [])
    | some url, none => (service.verdict url m earlier,
        [.mail (some (Engine.calledAt url, correlation.header)) m.payload])

namespace Engine

/-- From one world to another, certain effects go out and nothing else happens, apart from the
counting of mails. -/
def Emits (effects : List Effect) (w w' : World) : Prop :=
  ∃ mails, w'.bare = { w.bare with trace := effects ++ w.sent, mails }

namespace Emits

variable {effects : List Effect} {w w' w₁ w₂ w₃ : World}

theorem none_of_bare (h : w'.bare = w.bare) : Emits [] w w' := ⟨w.mails, h⟩

theorem of_bare (h : w₂.bare = w₁.bare) (h' : Emits effects w₂ w₃) : Emits effects w₁ w₃ := by
  obtain ⟨mails, hemits⟩ := h'
  refine ⟨mails, ?_⟩
  rw [hemits, h, World.sent_of_bare h]

theorem then_bare (h : Emits effects w₁ w₂) (h' : w₃.bare = w₂.bare) : Emits effects w₁ w₃ := by
  obtain ⟨mails, hemits⟩ := h
  exact ⟨mails, h'.trans hemits⟩

end Emits

theorem exec_handing (service : MailService) (url : Url) (header : Json) (m : Message)
    (w : World) : ∃ w', exec (handing service url header m) w =
        (service.verdict url m w.mails, w') ∧
      Emits [.mail (some (calledAt url, header)) m.payload] w w' := by
  have hemitted : Emits [.mail (some (calledAt url, header)) m.payload] w
      (({ w with mails := w.mails + 1 } : World).noted
        (.mail (some (calledAt url, header)) m.payload)) := ⟨w.mails + 1, rfl⟩
  unfold handing MailService.verdict
  rw [exec_bind_ok (exec_get w), exec_bind_ok (exec_modify _ _), exec_bind_ok (exec_emit _ _)]
  cases service.reply w.mails m with
  | broken reason => exact ⟨_, rfl, hemitted⟩
  | answered status body =>
    cases url.isAbsolute with
    | false => exact ⟨_, rfl, hemitted⟩
    | true =>
      obtain ⟨w₁, hannotate, hbare₁⟩ := Tells.annotate "http.status_code" (.int status)
        (({ w with mails := w.mails + 1 } : World).noted
          (.mail (some (calledAt url, header)) m.payload))
      dsimp only
      simp only [Bool.not_true, Bool.false_eq_true, ↓reduceIte]
      cases MailReply.accepts status with
      | true =>
        obtain ⟨w₂, hlog, hbare₂⟩ := Tells.log .info mailLogger "automation.email.sent"
          [("card_id", .str m.card), ("status_code", .int status)] w₁
        refine ⟨w₂, ?_, (hemitted.then_bare hbare₁).then_bare hbare₂⟩
        exact (exec_bind_ok hannotate _).trans hlog
      | false =>
        exact ⟨w₁, exec_bind_ok hannotate _, hemitted.then_bare hbare₁⟩

theorem exec_post (service : MailService) (m : Message) (w : World) :
    ∃ w', exec (post service m) w =
        (match Url.parse? service.url, w.ambient.correlation.headerFault? with
          | none, _ => .error (.address .malformed)
          | some _, some f => .error (.header f)
          | some url, none => service.verdict url m w.mails, w') ∧
      Emits (match Url.parse? service.url, w.ambient.correlation.headerFault? with
          | none, _ => []
          | some _, some _ => []
          | some url, none =>
            [.mail (some (calledAt url, w.ambient.correlation.header)) m.payload]) w w' := by
  unfold post
  cases Url.parse? service.url with
  | none => exact ⟨w, rfl, .none_of_bare rfl⟩
  | some url =>
    have hhanded := exec_handing service url w.ambient.correlation.header m w
    dsimp only
    rw [exec_bind_ok (exec_get w)]
    unfold Json.headerFault?
    cases htruthy : w.ambient.correlation.isTruthy with
    | false =>
      unfold Json.header at hhanded ⊢
      rw [htruthy] at hhanded ⊢
      exact hhanded
    | true =>
      unfold Json.header at hhanded ⊢
      rw [htruthy] at hhanded ⊢
      simp only [↓reduceIte] at hhanded ⊢
      cases HeaderFault.of? w.ambient.correlation with
      | some f => exact ⟨w, rfl, .none_of_bare rfl⟩
      | none => exact hhanded

/-- A mail is given to the service, or recorded where there is none. -/
def giveMail (env : Environment) (m : Message) : Engine Unit :=
  match env.mailer with
  | some service => post service m
  | none => recordMail m

theorem send_eq (env : Environment) (m : Message) :
    send env m = spanning "automation.email.dispatch" ((annotate "card_id" (.str m.card) >>=
      fun _ => get >>= fun w => annotate "correlation_id" w.ambient.correlationShown) >>=
        fun _ => giveMail env m) := by
  unfold send giveMail
  rw [bind_assoc]
  exact congrArg (fun rest => spanning _ (annotate "card_id" (.str m.card) >>= rest))
    (funext fun _ => (bind_assoc _ _ _).symm)

theorem exec_giveMail (env : Environment) (m : Message) (w : World) :
    ∃ w', exec (giveMail env m) w =
        ((env.dispatch m w.ambient.correlation w.mails).1, w') ∧
      Emits (env.dispatch m w.ambient.correlation w.mails).2 w w' := by
  unfold giveMail Environment.dispatch
  cases env.mailer with
  | none =>
    obtain ⟨w', hlog, hbare⟩ := Tells.log .info mailLogger "automation.email.recorded"
      [("card_id", .str m.card)] (w.noted (.mail none m.payload))
    exact ⟨w', hlog, Emits.then_bare ⟨w.mails, rfl⟩ hbare⟩
  | some service =>
    obtain ⟨w', hpost, hemits⟩ := exec_post service m w
    refine ⟨w', hpost.trans ?_, ?_⟩
    · dsimp only
      split <;> rfl
    · dsimp only
      split at hemits <;> exact hemits

/-- Handing a mail over ends and sends as it is to. -/
theorem exec_send (env : Environment) (m : Message) (w : World) :
    ∃ w', exec (send env m) w = ((env.dispatch m w.ambient.correlation w.mails).1, w') ∧
      Emits (env.dispatch m w.ambient.correlation w.mails).2 w w' := by
  obtain ⟨w₁, hshown, hbare⟩ := Tells.bind (Tells.annotate "card_id" (.str m.card))
    (Tells.annotateOf "correlation_id" fun w => w.ambient.correlationShown)
    (w.opened "automation.email.dispatch")
  have hsame : w₁.bare = w.bare := hbare
  have hambient : w₁.ambient = w.ambient := World.ambient_of_bare hsame
  have hmails : w₁.mails = w.mails := (congrArg World.mails hsame :)
  obtain ⟨w₂, hgiven, hemits⟩ := exec_giveMail env m w₁
  rw [hambient, hmails] at hgiven hemits
  refine ⟨w₂.closed (faultOf (env.dispatch m w.ambient.correlation w.mails).1), ?_,
    (hemits.of_bare hsame).then_bare (World.bare_closed _ _)⟩
  rw [send_eq, exec_spanning, exec_bind_ok hshown, hgiven]

end Engine
end BoardRules
