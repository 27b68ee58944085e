import BoardRules.Http.Server
import BoardRules.Proofs.Board.Course
import BoardRules.Proofs.Store.Sound

/-! What the server does about a request. To find out what is asked for and to show what has come of
it changes nothing; so a request keeps to whatever the board and the automations keep to. -/
namespace BoardRules.Http

open Engine

theorem showing_still (status : Nat) (v : Json) (free : List Json) (w : World) :
    (exec (showing status v free) w).2 = w := by
  unfold showing
  split <;> rfl

theorem boardAnswer_still {α : Type} (status : Nat) (code : String) (shown : α → Json)
    (free : α → List Json) (r : Except BoardFailure α) (w : World) :
    (exec (boardAnswer status code shown free r) w).2 = w := by
  cases r with
  | error f => rfl
  | ok a => exact showing_still status (shown a) (free a) w

theorem complain_still (c : Content) (errors : List FieldError) (w : World) :
    (exec (complain c errors) w).2 = w := by
  unfold complain
  dsimp only
  split <;> rfl

theorem configured_still (env : Environment) (w : World) : (exec (configured env) w).2 = w := by
  unfold configured
  split <;> rfl

/-- To tell what has come of a request to the automations changes nothing. -/
theorem keeps_automationAnswer {α : Type} {R : World → World → Prop} (shown : α → Json)
    (free : α → List Json) {body : Engine α} (hbody : Keeps R body) :
    Keeps R (automationAnswer shown free body) := by
  have hend : ∀ w, (exec (automationAnswer shown free body) w).2 = (exec body w).2 := by
    intro w
    unfold automationAnswer
    rw [exec_bind_ok (exec_outcome body w)]
    cases (exec body w).1 with
    | ok a => exact showing_still 200 (shown a) (free a) _
    | error f =>
      dsimp only
      split <;> rfl
  intro w
  rw [hend]
  exact hbody w

/-- What a request for a target asks for, if it is well-formed. -/
def Target.command? (r : Request) : Target → Option Command
  | .route named ps =>
    if named.hasBody ∧ r.content = .unreadable then none
    else (Command.read named ps r.content).toOption
  | _ => none

theorem Target.command?_eq_some {r : Request} {t : Target} {command : Command}
    (h : t.command? r = some command) :
    ∃ route ps, t = .route route ps ∧ ¬(route.hasBody ∧ r.content = .unreadable) ∧
      Command.read route ps r.content = .ok command := by
  cases t with
  | route route ps =>
    unfold command? at h
    dsimp only at h
    split at h
    · cases h
    · rename_i hreadable
      refine ⟨route, ps, rfl, hreadable, ?_⟩
      cases hread : Command.read route ps r.content with
      | error es =>
        rw [hread] at h
        cases h
      | ok asked =>
        rw [hread] at h
        cases h
        rfl
  | _ => cases h

/-- What a request asks for is all that can have come of it. -/
theorem keeps_dispatch {site : Site} {R : World → World → Prop} (refl : ∀ w, R w w)
    (trans : ∀ w₁ w₂ w₃, R w₁ w₂ → R w₂ w₃ → R w₁ w₃) {r : Request} {t : Target}
    (hexecute : ∀ command, t.command? r = some command → Keeps R (execute site command)) :
    Keeps R (dispatch site r t) := by
  have hstill : ∀ {α : Type} {body : Engine α}, (∀ w, (exec body w).2 = w) → Keeps R body := by
    intro α body hbody w
    rw [hbody]
    exact refl w
  cases t with
  | route route ps =>
    unfold Http.dispatch
    dsimp only
    unfold Target.command? at hexecute
    by_cases hunreadable : route.hasBody ∧ r.content = .unreadable
    · rw [if_pos hunreadable]
      exact hstill fun _ => rfl
    · rw [if_neg hunreadable]
      simp only [if_neg hunreadable] at hexecute
      have hconfigured : Keeps R (configured site.env) := hstill (configured_still site.env)
      cases hread : Command.read route ps r.content with
      | ok command =>
        have hcommand : Keeps R (execute site command) := hexecute command (by rw [hread]; rfl)
        split
        · exact Keeps.seq (R := R) trans hconfigured fun _ _ w _ => hcommand w
        · exact hcommand
      | error es =>
        have hcomplain : Keeps R (complain r.content es) := hstill (complain_still r.content es)
        split
        · exact Keeps.seq (R := R) trans hconfigured fun _ _ w _ => hcomplain w
        · exact hcomplain
  | _ => exact hstill fun _ => rfl

/-- A relation that the board and the automations behind a site keep to, whatever is asked for. -/
structure SiteLaw (site : Site) (R : World → World → Prop) : Prop where
  refl : ∀ w, R w w
  trans : ∀ w₁ w₂ w₃, R w₁ w₂ → R w₂ w₃ → R w₁ w₃
  moveCard : ∀ card stage, Keeps R (Board.moveCard site.env site.handOver card stage)
  setField : ∀ card key type value,
    Keeps R (Board.setField site.env site.handOver card key type value)
  submitForm : ∀ card form responses email,
    Keeps R (Board.submitForm site.env site.handOver card form responses email)
  run : ∀ triggerType card pipe occasion depth,
    Keeps R (Engine.run site.env site.handOver triggerType card pipe occasion depth)
  listLogs : ∀ card, Keeps R (Engine.listLogs site.env card)

namespace SiteLaw

variable {site : Site} {R : World → World → Prop} (law : SiteLaw site R)

include law

theorem of_still {α : Type} {body : Engine α} (hbody : ∀ w, (exec body w).2 = w) :
    Keeps R body := by
  intro w
  rw [hbody]
  exact law.refl w

theorem bind {α β : Type} {x : Engine α} {f : α → Engine β} (hx : Keeps R x)
    (hf : ∀ a, Keeps R (f a)) : Keeps R (x >>= f) :=
  Keeps.seq (R := R) law.trans hx fun _ a w _ => hf a w

theorem execute (command : Command) : Keeps R (Http.execute site command) := by
  have hconfigured := law.of_still (configured_still site.env)
  cases command with
  | showCard card =>
    exact law.bind (law.of_still (Board.showCard_still site.env card)) fun r =>
      law.of_still (boardAnswer_still _ _ _ _ r)
  | moveCard card stage =>
    exact law.bind (law.moveCard card stage) fun r => law.of_still (boardAnswer_still _ _ _ _ r)
  | setField card key type value =>
    exact law.bind (law.setField card key type value) fun r =>
      law.of_still (boardAnswer_still _ _ _ _ r)
  | submitForm card form responses email =>
    exact law.bind (law.submitForm card form responses email) fun r =>
      law.of_still (boardAnswer_still _ _ _ _ r)
  | run triggerType card pipe occasion =>
    exact keeps_automationAnswer _ _ (law.bind (law.of_still fun _ => rfl) fun w =>
      law.run triggerType _ _ occasion w.ambient.depthOrZero)
  | listLogs card => exact keeps_automationAnswer _ _ (law.listLogs _)
  | health => exact law.bind hconfigured fun _ => law.of_still fun _ => rfl
  | metrics => exact law.bind hconfigured fun _ => law.of_still fun _ => rfl
  | manual => exact law.of_still fun _ => rfl

theorem dispatch (r : Request) (t : Target) : Keeps R (Http.dispatch site r t) :=
  keeps_dispatch law.refl law.trans fun command _ => law.execute command

end SiteLaw

/-- The reply that an outcome comes to. -/
def replyTo (r : Request) : Except Fault Outcome → Reply
  | .ok (status, answer) => ⟨status, some r.correlation, answer⟩
  | .error _ => ⟨500, none, .text "Internal Server Error"⟩

theorem exec_conclude (r : Request) (label : String) (outcome : Except Fault Outcome) (w : World) :
    (exec (conclude r label outcome) w).1 = .ok (replyTo r outcome) := by
  cases outcome <;> rfl

theorem exec_serving {α : Type} (r : Request) (t : Target) (body : Engine α) (w : World) :
    exec (serving r t body) w =
      let ended := exec body (w.opened (spanName r t))
      (ended.1, { ended.2 with spans := ended.2.spans.tail }.noted
        (.served (spanName r t) (.str r.correlation))) := by
  have hopen : exec (modify fun v : World =>
      { v with spans := { name := spanName r t } :: v.spans }) w =
        (.ok (), w.opened (spanName r t)) := rfl
  unfold serving
  dsimp only
  rw [exec_bind_ok hopen, exec_bind_ok (exec_outcome body _), exec_bind_ok (exec_modify _ _),
    exec_bind_ok (exec_emit _ _), exec_ofExcept]

/-- The world in which a request is dealt with. -/
def Request.within (r : Request) (path : List Char) (w : World) : World :=
  (w.opened (spanName r (Target.of r.method path))).within
    { w.ambient with correlation := .str r.correlation }

/-- Every request is replied to. -/
theorem exec_respond (site : Site) (r : Request) (path : List Char) (w : World) :
    (exec (respond site r path) w).1 = .ok (delivered r (replyTo r
      (exec (dispatch site r (Target.of r.method path)) (r.within path w)).1)) := by
  unfold respond
  dsimp only
  rw [exec_serving, withCorrelation, exec_withAmbient, exec_bind_ok (exec_outcome _ _), exec_map,
    exec_conclude]
  rfl

section

variable {site : Site} {R : World → World → Prop} (refl : ∀ w, R w w)
  (trans : ∀ w₁ w₂ w₃, R w₁ w₂ → R w₂ w₃ → R w₁ w₃)

include refl trans

theorem keeps_follow {r : Request} (hrespond : ∀ path, Keeps R (respond site r path)) :
    ∀ (fuel : Nat) (path : List Char), Keeps R (follow site r fuel path)
  | 0, path => hrespond path
  | fuel + 1, path => by
    unfold follow
    refine Keeps.seq (R := R) trans (hrespond path) fun _ reply w _ => ?_
    split
    · exact keeps_follow hrespond fuel _ w
    · exact refl w

/-- A request is answered, once for each address that it is sent on to. -/
theorem keeps_serve {r : Request}
    (hrespond : ∀ path, Keeps R (respond site { r with method := r.method.toUpper } path)) :
    Keeps R (serve site r) := by
  unfold serve
  dsimp only
  split
  · exact refl
  · rename_i url path _
    cases { r with method := r.method.toUpper }.headerFault? with
    | some f => exact refl
    | none =>
      cases addressFault? url with
      | some f => exact refl
      | none => exact keeps_follow refl trans hrespond redirectLimit _

end

/-- A site whose cascades are run in the same process. -/
def Site.sample : Site where
  settings := {}
  env := Environment.sample
  handOver := openPool

/-- A user's request to move the card to the second stage. -/
def Request.sample : Request where
  method := "POST"
  target := "/api/cards/00000000-0000-0000-0000-000000000003/move"
  headers := [("x-correlation-id", .str "abc-123")]
  body := "\x7b\"stage_id\": \"00000000-0000-0000-0000-000000000002\"\x7d"

end BoardRules.Http
