import BoardRules.Proofs.Board.Trace
import BoardRules.Proofs.Cascade.Trace
import BoardRules.Proofs.Http.Course
import BoardRules.Proofs.Run.Requests
import BoardRules.Session.Run

/-! The correlation id of a request to the server. It is carried into everything that the request
sets off: into the event, the run that the event asks for, the cascades of that run to any depth,
and the mails. It stands in the reply and in whatever error the reply tells, unless the request has
ended in a fault that nobody expects. -/
namespace BoardRules

open Engine

theorem Http.Request.correlation_isTruthy (r : Http.Request) :
    (Json.str r.correlation).isTruthy = true := by
  have hgiven : r.correlation.isEmpty = false := by
    unfold correlation
    split
    · split
      · rfl
      · rename_i hempty
        exact Bool.not_eq_true _ ▸ hempty
    · rfl
  unfold Json.isTruthy
  dsimp only
  rw [hgiven]
  rfl

variable {env : Environment} {h : HandOver} {c : String}

/-- What is published under a correlation id bears it, and so does the run that it sets off. -/
theorem sendsUnder_published (hc : (Json.str c).isTruthy = true)
    (hover : h.Keeps (SendsUnder (.str c))) (event : BoardEvent) (w : World) :
    SendsUnder (.str c) w (w.published env h event) := by
  have law : TraceLaw (SendsUnder (.str c)) := SendsUnder.law hc
  intro hw
  rw [published_eq]
  have htold : Sends (.str c) w
      (w.noted (.event (Envelope.complete w.ambient event.envelope))) := by
    refine .noted (e := .event _) ?_ w
    rw [event.complete_envelope, hw]
    rfl
  refine htold.trans (law.hear hover event w.ambient _ (fun w' hinside => ?_) hw)
  have hsame : ({ w.ambient with correlation := w.ambient.correlation.textOrNull } : Ambient) =
      w.ambient := by
    rw [hw]
    exact congrArg (fun correlation => { w.ambient with correlation }) hw.symm
  intro _
  refine Sends.within (a := { w.ambient with correlation := w.ambient.correlation.textOrNull })
    (hinside ?_)
  rw [World.ambient_within, hw]
  rfl

namespace Http

section

variable {site : Site}

theorem sendsUnder_site (hc : (Json.str c).isTruthy = true)
    (hover : site.handOver.Keeps (SendsUnder (.str c))) : SiteLaw site (SendsUnder (.str c)) where
  refl := (SendsUnder.law hc).refl
  trans := fun _ _ _ => (SendsUnder.law hc).trans
  moveCard := (SendsUnder.law hc).userMove (sendsUnder_published hc hover)
  setField := (SendsUnder.law hc).setField (sendsUnder_published hc hover)
  submitForm := (SendsUnder.law hc).submitForm (sendsUnder_published hc hover)
  run := (SendsUnder.law hc).run hover
  listLogs := (SendsUnder.law hc).listLogs

variable (r : Request) (hover : site.handOver.Keeps (SendsUnder (.str r.correlation)))

include hover

/-- All that a request sets off bears its correlation id. -/
theorem sends_respond (path : List Char) :
    Keeps (Sends (.str r.correlation)) (respond site r path) := by
  have law : TraceLaw (SendsUnder (.str r.correlation)) := SendsUnder.law r.correlation_isTruthy
  have hconclude : ∀ label outcome,
      Keeps (SendsUnder (.str r.correlation)) (conclude r label outcome) := by
    intro label outcome
    unfold conclude countRequest
    split
    · exact law.bind (law.bind (law.count _ _) fun _ => law.count _ _) fun _ =>
        law.bind (law.log _ _ _ _) fun _ => law.pure _
    · exact law.bind (law.bind (law.count _ _) fun _ => law.count _ _) fun _ =>
        law.bind (law.logFault _ _ _) fun _ => law.pure _
  have hdealt : ∀ t label, Keeps (SendsUnder (.str r.correlation)) (do
      let outcome ← outcome (dispatch site r t)
      delivered r <$> conclude r label outcome) := fun t label =>
    law.bind ((sendsUnder_site r.correlation_isTruthy hover).dispatch r t).outcome fun outcome =>
      Keeps.map _ (hconclude label outcome)
  have trans : ∀ w₁ w₂ w₃, Sends (.str r.correlation) w₁ w₂ → Sends (.str r.correlation) w₂ w₃ →
      Sends (.str r.correlation) w₁ w₃ := fun _ _ _ => Sends.trans
  unfold respond serving
  dsimp only
  refine Keeps.seq (R := Sends (.str r.correlation)) trans (fun _ => .unseen rfl rfl rfl)
    fun _ _ w₁ _ => Keeps.seq (R := Sends (.str r.correlation)) trans
      (Keeps.withCorrelation (hdealt _ _)).outcome (fun _ result w₂ _ => ?_) w₁
  refine Keeps.seq (R := Sends (.str r.correlation)) trans (fun _ => .unseen rfl rfl rfl)
    (fun _ _ w₃ _ => Keeps.seq (R := Sends (.str r.correlation)) trans
      (fun w => .noted (e := .served _ _) rfl w) (fun _ _ w₄ _ => ?_) w₃) w₂
  rw [exec_ofExcept]
  exact .unseen rfl rfl rfl

theorem sends_serve : Keeps (Sends (.str r.correlation)) (serve site r) :=
  keeps_serve (R := Sends (.str r.correlation)) (fun _ => .unseen rfl rfl rfl)
    (fun _ _ _ => Sends.trans)
    (sends_respond { r with method := r.method.toUpper } hover)

end

/-- Whether an error that an answer tells bears a correlation id; other answers tell of none. -/
def Answer.Signed (correlation : Json) : Answer → Prop
  | .json v => (v.entries.get? "code").isSome →
    v.entries.get? "correlation_id" = some correlation
  | _ => True

/-- Whether a program that comes to an outcome under a correlation id tells errors under it, and
does not end in that of a fault. -/
def Signs (correlation : Json) (body : Engine Outcome) : Prop :=
  ∀ w o w', w.ambient.correlation = correlation → exec body w = (.ok o, w') →
    o.1 ≠ 500 ∧ o.2.Signed correlation

namespace Signs

variable {correlation : Json}

theorem raise (f : Fault) : Signs correlation (Engine.raise f) := by
  intro w o w' _ hexec
  cases hexec

theorem pure {status : Nat} {answer : Answer} (hstatus : status ≠ 500)
    (hsigned : answer.Signed correlation) : Signs correlation (Pure.pure (status, answer)) := by
  intro w o' w' _ hexec
  cases hexec
  exact ⟨hstatus, hsigned⟩

theorem bind {α : Type} {x : Engine α} {f : α → Engine Outcome}
    (hx : Keeps (SendsUnder correlation) x) (hf : ∀ a, Signs correlation (f a)) :
    Signs correlation (x >>= f) := by
  intro w o w' hw hexec
  obtain ⟨a, w₁, hfirst, hrest⟩ := exec_bind_eq_ok.mp hexec
  have hsent := hx w hw
  rw [hfirst] at hsent
  have hw₁ : w₁.ambient.correlation = correlation := by
    rw [hsent.ambient]
    exact hw
  exact hf a w₁ o w' hw₁ hrest

theorem envelope {status : Nat} (hstatus : status ≠ 500) (code message : String) (details : Json) :
    Signs correlation (Http.envelope status code message details) := by
  intro w o w' hw hexec
  cases hexec
  refine ⟨hstatus, fun _ => ?_⟩
  rw [← hw]
  rfl

theorem showing {status : Nat} (hstatus : status ≠ 500) {v : Json} (free : List Json)
    (hplain : (v.portable.entries.get? "code").isSome = false) :
    Signs correlation (Http.showing status v free) := by
  unfold Http.showing
  split
  · exact raise _
  · refine pure hstatus fun hcode => ?_
    rw [hplain] at hcode
    cases hcode

theorem boardAnswer {α : Type} {status : Nat} (hstatus : status ≠ 500) (code : String)
    {shown : α → Json} (free : α → List Json)
    (hplain : ∀ a, ((shown a).portable.entries.get? "code").isSome = false)
    (r : Except BoardFailure α) :
    Signs correlation (Http.boardAnswer status code shown free r) := by
  cases r with
  | error f => exact envelope (by decide) code _ _
  | ok a => exact showing hstatus (free a) (hplain a)

theorem automationAnswer {α : Type} {shown : α → Json} (free : α → List Json) {body : Engine α}
    (hbody : Keeps (SendsUnder correlation) body)
    (hplain : ∀ a, ((shown a).portable.entries.get? "code").isSome = false) :
    Signs correlation (Http.automationAnswer shown free body) := by
  unfold Http.automationAnswer
  refine bind hbody.outcome fun r => ?_
  cases r with
  | ok a => exact showing (by decide) (free a) (hplain a)
  | error f =>
    dsimp only
    split
    · exact envelope (by decide) _ _ _
    · exact raise f

variable {site : Site}

theorem execute (hc : (Json.str c).isTruthy = true)
    (hover : site.handOver.Keeps (SendsUnder (.str c))) (command : Command) :
    Signs (.str c) (Http.execute site command) := by
  have law : SiteLaw site (SendsUnder (.str c)) := sendsUnder_site hc hover
  cases command with
  | showCard card =>
    exact bind ((SendsUnder.law hc).showCard card) fun r =>
      boardAnswer (by decide) _ _ (fun _ => rfl) r
  | moveCard card stage =>
    exact bind (law.moveCard card stage) fun r => boardAnswer (by decide) _ _ (fun _ => rfl) r
  | setField card key type value =>
    exact bind (law.setField card key type value) fun r =>
      boardAnswer (by decide) _ _ (fun _ => rfl) r
  | submitForm card form responses email =>
    exact bind (law.submitForm card form responses email) fun r =>
      boardAnswer (by decide) _ _ (fun _ => rfl) r
  | run triggerType card pipe occasion =>
    exact automationAnswer _ (law.bind (law.of_still fun _ => rfl) fun w =>
      law.run triggerType _ _ occasion w.ambient.depthOrZero) fun _ => rfl
  | listLogs card => exact automationAnswer _ (law.listLogs _) fun _ => rfl
  | health =>
    exact bind (law.of_still (configured_still site.env)) fun _ =>
      pure (by decide) fun hcode => by cases hcode
  | metrics =>
    refine bind (law.of_still (configured_still site.env)) fun _ => ?_
    split
    · exact pure (by decide) trivial
    · exact pure (by decide) fun hcode => by cases hcode
  | manual => exact pure (by decide) trivial

theorem dispatch (hc : (Json.str c).isTruthy = true)
    (hover : site.handOver.Keeps (SendsUnder (.str c))) (r : Request) (t : Target) :
    Signs (.str c) (Http.dispatch site r t) := by
  have law : SiteLaw site (SendsUnder (.str c)) := sendsUnder_site hc hover
  cases t with
  | route route ps =>
    have hconfigured : ∀ {body : Engine Outcome}, Signs (.str c) body →
        Signs (.str c) (configured site.env >>= fun _ => body) :=
      fun hbody => bind (law.of_still (configured_still site.env)) fun _ => hbody
    unfold Http.dispatch
    dsimp only
    split
    · exact pure (by decide) fun hcode => by cases hcode
    · cases Command.read route ps r.content with
      | ok command =>
        have hcommand : Signs (.str c) (Http.execute site command) := execute hc hover command
        split
        · exact hconfigured hcommand
        · exact hcommand
      | error es =>
        have hcomplain : Signs (.str c) (complain r.content es) := by
          unfold complain
          dsimp only
          split
          · exact pure (by decide) trivial
          · exact raise _
        split
        · exact hconfigured hcomplain
        · exact hcomplain
  | otherMethod _ => exact pure (by decide) fun hcode => by cases hcode
  | elsewhere _ => exact pure (by decide) trivial
  | unknown => exact pure (by decide) fun hcode => by cases hcode

end Signs

/-- Whether a reply bears a correlation id, in its header and in an error that it tells. One to a
fault that nobody expects bears none. -/
structure Reply.Signed (correlation : String) (reply : Reply) : Prop where
  header : reply.correlation = if reply.status = 500 then none else some correlation
  answer : reply.answer.Signed (.str correlation)

section

variable {site : Site} {r : Request} (hover : site.handOver.Keeps (SendsUnder (.str r.correlation)))

include hover

theorem signed_respond {path : List Char} {w w' : World} {reply : Reply}
    (hexec : exec (respond site r path) w = (.ok reply, w')) : reply.Signed r.correlation := by
  have hreply := exec_respond site r path w
  rw [hexec] at hreply
  obtain rfl := Except.ok.inj hreply
  have hreplied : (replyTo r (exec (dispatch site r (Target.of r.method path))
      (r.within path w)).1).Signed r.correlation := by
    rcases houtcome : exec (dispatch site r (Target.of r.method path)) (r.within path w) with
      ⟨f | ⟨status, answer⟩, w₁⟩
    · exact ⟨rfl, trivial⟩
    · obtain ⟨hstatus, hsigned⟩ :=
        Signs.dispatch r.correlation_isTruthy hover r _ _ _ _ rfl houtcome
      exact ⟨(if_neg hstatus).symm, hsigned⟩
  unfold delivered
  split
  · exact ⟨hreplied.header, trivial⟩
  · exact hreplied

theorem signed_follow {reply : Reply} :
    ∀ (fuel : Nat) (path : List Char) (w w' : World),
      exec (follow site r fuel path) w = (.ok reply, w') → reply.Signed r.correlation
  | 0, _, _, _, hexec => signed_respond hover hexec
  | fuel + 1, path, w, w', hexec => by
    obtain ⟨first, w₁, hrespond, hrest⟩ := exec_bind_eq_ok.mp hexec
    split at hrest
    · exact signed_follow fuel _ w₁ w' hrest
    · cases hrest
      exact signed_respond hover hrespond

/-- However often a request is sent on, the reply that comes back bears its correlation id. -/
theorem signed_serve {w w' : World} {reply : Reply}
    (hexec : exec (serve site r) w = (.ok reply, w')) : reply.Signed r.correlation := by
  unfold serve at hexec
  dsimp only at hexec
  split at hexec
  · cases hexec
  · rename_i url path _
    cases hheader : { r with method := r.method.toUpper }.headerFault? with
    | some f =>
      rw [hheader] at hexec
      cases hexec
    | none =>
      rw [hheader] at hexec
      cases haddress : addressFault? url with
      | some f =>
        rw [haddress] at hexec
        cases hexec
      | none =>
        rw [haddress] at hexec
        exact signed_follow (r := { r with method := r.method.toUpper }) hover _ _ _ _ hexec

end
end Http

namespace CascadeMode

theorem sendsUnder_handOver (mode : CascadeMode) (hc : (Json.str c).isTruthy = true) :
    mode.handOver.Keeps (SendsUnder (.str c)) := by
  cases mode with
  | pool => exact sendsUnder_openPool
  | closed => exact sendsUnder_closedPool hc
  | queue | worked => exact sendsUnder_jobQueue hc
  | broken => exact sendsUnder_brokenQueue hc

/-- What happens to the requests that are left in the end. -/
theorem settles_finish (mode : CascadeMode) (env : Environment)
    (hc : (Json.str c).isTruthy = true) {w : World}
    (howes : w.Owes (.str c)) : Settles (.str c) w (exec (mode.finish env) w).2 := by
  have hnone : Settles (.str c) w (w.pending []) :=
    ⟨⟨[], rfl, by simp⟩, by simp [World.Owes, World.pending]⟩
  cases mode with
  | pool =>
    have hsettled : Settles (.str c) w (exec (settle env (runOnWorker env openPool)) w).2 :=
      settles_settle (fun request hrequest =>
        sends_runOnWorker env hc sendsUnder_openPool hrequest) howes
    unfold finish
    rw [exec_bind]
    generalize exec (settle env (runOnWorker env openPool)) w = settled at hsettled
    rcases settled with ⟨f | _, w₁⟩
    · exact hsettled
    · exact hsettled
  | worked =>
    exact settles_settle (fun request hrequest =>
      (sends_runJob env hc (sendsUnder_jobQueue hc) hrequest).outcome) howes
  | _ => exact hnone

end CascadeMode

namespace Session

theorem sends_request (s : Session) (r : Http.Request) :
    Keeps (Sends (.str r.correlation)) (Http.serve s.site r) :=
  Http.sends_serve r (s.mode.sendsUnder_handOver r.correlation_isTruthy)

/-- Through a whole step of a session, with the cascades that are run after it. -/
theorem effects_take (s : Session) (index : Nat) (ambient : Ambient) (r : Http.Request) :
    ∀ e ∈ (s.take index ambient (.request r)).1.effects, e.Bears (.str r.correlation) := by
  have hserved : Sends (.str r.correlation) (opening s.world index)
      (exec (withAmbient (fun _ => ambient) (s.act (.request r))) (opening s.world index)).2 := by
    rw [exec_withAmbient]
    exact (Keeps.map _ (s.sends_request r) _).within
  obtain ⟨-, ⟨effects, htrace, hall⟩, ⟨requests, hqueue, howed⟩⟩ := hserved
  unfold take program
  dsimp only
  rw [exec_bind_ok (exec_outcome _ _)]
  generalize exec (withAmbient (fun _ => ambient) (s.act (.request r))) (opening s.world index) =
    served at htrace hqueue
  have howes : served.2.Owes (.str r.correlation) := by
    unfold World.Owes
    rw [hqueue]
    exact howed
  obtain ⟨⟨effects', htrace', hall'⟩, -⟩ :=
    s.mode.settles_finish s.environment r.correlation_isTruthy howes
  have hend : ∀ e ∈ (exec (s.mode.finish s.environment) served.2).2.trace.reverse,
      e.Bears (.str r.correlation) := by
    intro e he
    rw [List.mem_reverse, htrace', htrace] at he
    rcases List.mem_append.mp he with he | he
    · exact hall' e he
    · exact hall e (by simpa [opening] using he)
  -- workers that end in a fault end the step; what they have written down by then is seen
  rw [exec_bind]
  generalize exec (s.mode.finish s.environment) served.2 = finished at hend
  rcases finished with ⟨f | reports, w₂⟩
  · exact hend
  · exact hend

end Session

/-- A change that is published where the settings are right sets off one run in a known pipe. It
starts from what is stored when the event is published and in the ambient context of that time. -/
theorem published_runs {event : BoardEvent} {pipe : Uuid} (hpipe : event.pipe? = some pipe)
    (hsettings : env.misconfigured = []) {w : World} (hw : w.ambient.correlation = .str c) :
    ∃ w₀ w₁ r, w₀.ledger = w.ledger ∧
      exec (run env h event.triggerType (.ofUuid event.card) (.ofUuid pipe) (.told event.context)
        (if 0 ≤ w.ambient.depthOrZero then w.ambient.depthOrZero else 0)) w₀ = (r, w₁) ∧
      (w.published env h event).ledger = { w₁.ledger with ambient := w.ambient } := by
  have hsame : w.ambient.correlation.textOrNull = w.ambient.correlation := by
    rw [hw]
    rfl
  cases setsOff_published env h hpipe w with
  | run _ hstart hrun hend =>
    rw [hsame] at hstart
    exact ⟨_, _, _, hstart, hrun, hend⟩
  | misconfigured hwrong => exact absurd hsettings hwrong

/-- Correlation ids. In order: a request is handed over after a move that succeeds and is not too
deep, and after no other action; while requests are put aside, a run leaves one for each move that
it makes, which names the card, its new stage, the pipe of that stage, the depth below the run's and
the run's correlation id; such a request is the run of that card under that id, and it is the same
once it has been written down and read again; the run that an event of the board asks for takes
place in the ambient context of the event; all that a request to the server writes down and puts
aside bears its correlation id, and so does the reply, unless it is that to a fault which nobody
expects; what workers make of requests under a correlation id bears it, to any depth and in any
order; and so it is with all that can be seen of a step of a session. -/
theorem correlation_carried :
    (∀ env ctx payload w, Followed env ctx payload w fun h => exec (perform env h ctx payload) w) ∧
    (∀ (env : Environment) (h : HandOver) (triggerType : String) (card pipe : RowRef)
        (occasion : Occasion) (depth : Int) (w w' : World) (r : Except Fault Report),
      h.PutsAside → exec (run env h triggerType card pipe occasion depth) w = (r, w') →
        ∃ rows requests, w'.store.history = w.store.history ++ rows ∧
          w'.queue = w.queue ++ requests ∧
          (depth + 1 ≤ env.maxDepth → List.Forall₂
            (w.store.CallsFor (depth + 1) w.ambient.correlation) rows requests) ∧
          (env.maxDepth < depth + 1 → requests = []) ∧
          ∀ report, r = .ok report → rows.length = report.moves) ∧
    (∀ (env : Environment) (h : HandOver) (card pipe stage : Uuid) (depth : Int)
        (correlation : Json),
      runCascade env h ⟨card.text, pipe.text, stage.text, depth, correlation⟩ =
        Engine.withCorrelation correlation (run env h "card_enters_stage" (.ofUuid card)
          (.ofUuid pipe) (.told { stageId := some stage.text }) depth)) ∧
    (∀ (env : Environment) (h : HandOver) (request : CascadeRequest),
      runJob env h request.toPayload = configured env >>= fun _ => runCascade env h request) ∧
    (∀ (env : Environment) (h : HandOver) (event : BoardEvent) (pipe : Uuid) (c : String)
        (w : World),
      event.pipe? = some pipe → env.misconfigured = [] → w.ambient.correlation = .str c →
        ∃ w₀ w₁ r, w₀.ledger = w.ledger ∧
          exec (run env h event.triggerType (.ofUuid event.card) (.ofUuid pipe)
            (.told event.context)
            (if 0 ≤ w.ambient.depthOrZero then w.ambient.depthOrZero else 0)) w₀ = (r, w₁) ∧
          (w.published env h event).ledger = { w₁.ledger with ambient := w.ambient }) ∧
    (∀ (site : Http.Site) (mode : CascadeMode) (r : Http.Request), site.handOver = mode.handOver →
      Keeps (Sends (.str r.correlation)) (Http.serve site r) ∧
        ∀ w w' reply, exec (Http.serve site r) w = (.ok reply, w') → reply.Signed r.correlation) ∧
    (∀ (env : Environment) (mode : CascadeMode) (c : String) (w w' : World),
      c.isEmpty = false → w.Owes (.str c) → Worked env mode.handOver w w' →
        Settles (.str c) w w') ∧
    ∀ (s : Session) (index : Nat) (ambient : Ambient) (r : Http.Request),
      ∀ e ∈ (s.take index ambient (.request r)).1.effects, e.Bears (.str r.correlation) := by
  refine ⟨perform_followed, ?_, runCascade_entered, runJob_toPayload, ?_, ?_, ?_,
    Session.effects_take⟩
  · intro env h triggerType card pipe occasion depth w w' r haside hexec
    exact run_requests haside hexec
  · intro env h event pipe c w hpipe hsettings hw
    exact published_runs hpipe hsettings hw
  · intro site mode r hmode
    have hover : site.handOver.Keeps (SendsUnder (.str r.correlation)) := by
      rw [hmode]
      exact mode.sendsUnder_handOver r.correlation_isTruthy
    exact ⟨Http.sends_serve r hover, fun w w' reply hexec => Http.signed_serve hover hexec⟩
  · intro env mode c w w' hc howes hworked
    have htruthy : (Json.str c).isTruthy = true := by
      unfold Json.isTruthy
      dsimp only
      rw [hc]
      rfl
    exact settles_of_worked htruthy (mode.sendsUnder_handOver htruthy) hworked howes

/-- On the small board: a run under a correlation id moves the card to the second stage, and leaves
one request under that id. -/
theorem correlation_carried_sample : ∃ r w',
    exec (run Environment.sample openPool "card_enters_stage" (.ofUuid ⟨3, by decide⟩)
        (.ofUuid ⟨1, by decide⟩) .untold 0)
      { store := Store.sample, ambient := { correlation := .str "abc-123" } } = (r, w') ∧
    w'.queue = [⟨Uuid.text ⟨3, by decide⟩, Uuid.text ⟨1, by decide⟩, Uuid.text ⟨2, by decide⟩, 1,
      .str "abc-123"⟩] ∧
    ∃ rows, List.Forall₂ (Store.sample.CallsFor 1 (.str "abc-123")) rows w'.queue := by
  refine ⟨_, _, rfl, by decide +kernel, ?_⟩
  obtain ⟨rows, requests, -, hqueue, hhanded, -⟩ := correlation_carried.2.1 Environment.sample
    openPool "card_enters_stage" (.ofUuid ⟨3, by decide⟩) (.ofUuid ⟨1, by decide⟩) .untold 0
    { store := Store.sample, ambient := { correlation := .str "abc-123" } } _ _
    putsAside_openPool rfl
  rw [hqueue]
  exact ⟨rows, hhanded (by decide)⟩

/-- A request that ends in a fault which nobody expects is replied to without its correlation id,
even though a move has been published under it. -/
theorem correlation_withheld : ∃ reply w',
    exec (Http.respond .sample .sample Http.Request.sample.target.toList)
      { store := Store.burdened } = (.ok reply, w') ∧
    Http.Request.sample.correlation = "abc-123" ∧ reply.correlation = none ∧
    w'.events.map (fun envelope => envelope.get? "correlation_id") = [some (.str "abc-123")] := by
  have hreply := Http.exec_respond .sample .sample Http.Request.sample.target.toList
    { store := Store.burdened }
  have hevents : (exec (Http.respond .sample .sample Http.Request.sample.target.toList)
      { store := Store.burdened }).2.events.map (fun envelope => envelope.get? "correlation_id") =
        [some (.str "abc-123")] := by
    decide +kernel
  have hheader : (exec (Http.respond .sample .sample Http.Request.sample.target.toList)
      { store := Store.burdened }).1.toOption.bind Http.Reply.correlation = none := by
    decide +kernel
  generalize exec (Http.respond .sample .sample Http.Request.sample.target.toList)
      { store := Store.burdened } = answered at *
  generalize Http.delivered _ _ = reply at hreply
  obtain ⟨r, w'⟩ := answered
  cases hreply
  exact ⟨reply, w', rfl, by decide +kernel, hheader, hevents⟩

end BoardRules
