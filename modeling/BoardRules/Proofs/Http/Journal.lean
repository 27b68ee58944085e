import BoardRules.Proofs.Board.Trace
import BoardRules.Proofs.Http.Course
import BoardRules.Proofs.Run.Balance

/-! The journal of a request to the server. Whatever happens there happens in the run that is asked
for, or in the run that is set off by the event of a change. -/
namespace BoardRules

open Engine

namespace Journal

section

variable (env : Environment) (h : HandOver) (K : CascadeRequest → Journal)

/-- The run that an event asks for begins only if the settings are right and the depth is read. -/
def eventRun (r : EventRun) : Journal :=
  after (configured env) fun _ =>
    after (Engine.ofExcept (r.noted.notedDepth.mapError Fault.integer)) fun depth =>
      runOn env h K r.trigger (.ofJson r.card) (.ofJson r.pipe) r.context (some depth)

def answer (r : EventRun) : Journal := fun w =>
  eventRun env h K r (w.within { w.ambient with correlation := r.correlation })

/-- An event sets off a run if it names a pipe. -/
@[irreducible] def published (event : BoardEvent) : Journal := fun w =>
  match event.pipe? with
  | some pipe => answer env h K (event.eventRun w.ambient pipe)
      (w.noted (.event (Envelope.complete w.ambient event.envelope)))
  | none => []

@[irreducible] def moveCard (card stage : Uuid) : Journal := fun w =>
  if env.boardFails then []
  else
    match w.store.userMove card stage with
    | .ok (_, some move) => published env h K (.stageChanged move) (w.moved move)
    | _ => []

@[irreducible] def setField (card : Uuid) (key type : String) (value : Json) : Journal := fun w =>
  if env.boardFails then []
  else
    match w.store.findCard card with
    | .ok row => published env h K (.fieldChanged row.id (w.store.pipeOf row) key value)
        (w.fieldSet row.id key type value)
    | .error _ => []

@[irreducible] def submitForm (card form : Uuid) (responses : Entries) (email : Option String) :
    Journal := fun w =>
  if env.boardFails then []
  else
    match w.store.findCard card, w.store.findForm form with
    | .ok row, .ok target =>
      let done := w.submission row.id target.id responses email
      published env h K (.formSubmitted row.id (w.store.pipeOfForm target) target.id done.id)
        (w.submitting done.row)
    | _, _ => []

end

section

variable {env : Environment} {h : HandOver} {K : CascadeRequest → Journal}
  (hK : ∀ request, (K request).Accounts (h request))

include hK

theorem accounts_eventRun (r : EventRun) :
    (eventRun env h K r).Accounts (Engine.eventRun env h r) :=
  .after_silent Silent.law.configured fun _ => .after_silent (Silent.law.ofExcept _) fun depth =>
    accounts_runOn hK r.trigger _ _ r.context (some depth)

theorem accounts_answer (event : String) (r : EventRun) :
    (answer env h K r).Accounts (Engine.answer env h event r) := by
  have hanswer : Engine.answer env h event r = withCorrelation r.correlation
      (Engine.outcome (Engine.eventRun env h r) >>= _) := rfl
  rw [hanswer]
  refine ((accounts_eventRun hK r).outcome.before_silent fun result => ?_).withAmbient fun a =>
    { a with correlation := r.correlation }
  cases result with
  | ok report => exact Silent.law.pure ()
  | error f => exact Silent.law.logFault _ _ _

/-- What is told of an event is what happens once it is published. -/
theorem published_ends (event : BoardEvent) (w : World) :
    Tally (published env h K event w) w (w.published env h event) ∧
      Settled (published env h K event w) := by
  have hnoted : Silent w (w.noted (.event (Envelope.complete w.ambient event.envelope))) :=
    .nothing (w.counted_noted rfl) rfl
  rw [published_eq]
  unfold published hear
  rw [event.of?_envelope]
  cases event.pipe? with
  | none => exact ⟨hnoted, .nil⟩
  | some pipe =>
    obtain ⟨htally, hsettled⟩ := Accounts.iff_ends.mp
      (accounts_answer hK event.name (event.eventRun w.ambient pipe)) _
    exact ⟨hnoted.trans htally, hsettled⟩

/-- So a change that counts nothing by itself comes to what its event sets off. -/
theorem published_ends_of {w w₁ : World} (hchange : Silent w w₁) (event : BoardEvent) :
    Tally (published env h K event w₁) w (w₁.published env h event) ∧
      Settled (published env h K event w₁) :=
  (published_ends hK event w₁).imp_left hchange.trans

theorem accounts_moveCard (card stage : Uuid) :
    (moveCard env h K card stage).Accounts (Board.moveCard env h card stage) := by
  refine Accounts.iff_ends.mpr fun w => ?_
  rw [Board.exec_moveCard]
  unfold moveCard
  split
  · exact ⟨Silent.law.refl w, .nil⟩
  · rcases w.store.userMove card stage with f | ⟨row, _ | move⟩
    · exact ⟨Silent.law.refl w, .nil⟩
    · exact ⟨Silent.law.refl w, .nil⟩
    · exact published_ends_of hK (Silent.law.moved w move) _

theorem accounts_setField (card : Uuid) (key type : String) (value : Json) :
    (setField env h K card key type value).Accounts
      (Board.setField env h card key type value) := by
  refine Accounts.iff_ends.mpr fun w => ?_
  rw [Board.exec_setField]
  unfold setField
  split
  · exact ⟨Silent.law.refl w, .nil⟩
  · rcases w.store.findCard card with f | row
    · exact ⟨Silent.law.refl w, .nil⟩
    · exact published_ends_of hK (Silent.law.fieldSet w _ _ _ _) _

theorem accounts_submitForm (card form : Uuid) (responses : Entries) (email : Option String) :
    (submitForm env h K card form responses email).Accounts
      (Board.submitForm env h card form responses email) := by
  refine Accounts.iff_ends.mpr fun w => ?_
  rw [Board.exec_submitForm]
  unfold submitForm
  split
  · exact ⟨Silent.law.refl w, .nil⟩
  · rcases w.store.findCard card with f | row
    · exact ⟨Silent.law.refl w, .nil⟩
    · rcases w.store.findForm form with f | target
      · exact ⟨Silent.law.refl w, .nil⟩
      · exact published_ends_of hK (Silent.law.submitting w _) _

end

section

variable (site : Http.Site) (K : CascadeRequest → Journal) (r : Http.Request)

/-- What is asked for, once it has been understood. -/
def command : Http.Command → Journal
  | .moveCard card stage => moveCard site.env site.handOver K card stage
  | .setField card key type value => setField site.env site.handOver K card key type value
  | .submitForm card form responses email =>
    submitForm site.env site.handOver K card form responses email
  | .run triggerType card pipe occasion => fun w =>
    run site.env site.handOver K triggerType (.ofUuid card) (.ofUuid pipe) occasion
      w.ambient.depthOrZero w
  | _ => nothing

def dispatch : Http.Target → Journal
  | .route route ps =>
    let asked := match Http.Command.read route ps r.content with
      | .ok asked => command site K asked
      | .error _ => nothing
    if route.hasBody ∧ r.content = .unreadable then nothing
    else if Http.needsAutomations route r.content then after (configured site.env) fun _ => asked
    else asked
  | _ => nothing

def respond (path : List Char) : Journal := fun w =>
  dispatch site K r (Http.Target.of r.method path) (r.within path w)

def follow : Nat → List Char → Journal
  | 0, path => respond site K r path
  | fuel + 1, path => fun w =>
    respond site K r path w ++ after (Http.respond site r path) (fun _ =>
      match Http.Target.of r.method path with
      | .elsewhere path => follow fuel (Http.ledTo path)
      | _ => nothing) w

def serve : Journal :=
  let r := { r with method := r.method.toUpper }
  match (Url.parse? r.target).bind fun u => (Http.escapedPath? u).map (u, ·) with
  | none => nothing
  | some (url, path) =>
    if r.headerFault?.isSome || (Http.addressFault? url).isSome then nothing
    else follow site K r Http.redirectLimit (Http.seenPath path)

end

section

variable {site : Http.Site} {K : CascadeRequest → Journal}

theorem silent_of_still {α : Type} {body : Engine α} (hbody : ∀ w, (exec body w).2 = w) :
    Keeps Silent body := by
  intro w
  rw [hbody]
  exact Silent.law.refl w

theorem Accounts.automationAnswer {α : Type} {J : Journal} (shown : α → Json) (free : α → List Json)
    {body : Engine α} (hbody : J.Accounts body) :
    J.Accounts (Http.automationAnswer shown free body) := by
  refine .before_silent hbody.outcome fun result => ?_
  cases result with
  | ok a => exact silent_of_still (Http.showing_still 200 (shown a) (free a))
  | error f =>
    dsimp only
    split
    · exact silent_of_still fun _ => rfl
    · exact Silent.law.raise f

theorem silent_conclude (r : Http.Request) (label : String)
    (outcome : Except Fault Http.Outcome) : Keeps Silent (Http.conclude r label outcome) := by
  have hcounted : ∀ status, Keeps Silent (Http.countRequest r label status) := fun status =>
    Silent.law.bind (silent_count (by decide) _) fun _ => silent_count (by decide) _
  cases outcome with
  | ok answered =>
    exact Silent.law.bind (hcounted _) fun _ => Silent.law.bind (Silent.law.log _ _ _ _) fun _ =>
      Silent.law.pure _
  | error f =>
    exact Silent.law.bind (hcounted _) fun _ => Silent.law.bind (Silent.law.logFault _ _ _)
      fun _ => Silent.law.pure _

section

variable (hK : ∀ request, (K request).Accounts (site.handOver request))

include hK

theorem accounts_command (asked : Http.Command) :
    (command site K asked).Accounts (Http.execute site asked) := by
  have hanswered : ∀ {α : Type} (status : Nat) (code : String) (shown : α → Json)
      (free : α → List Json) (r : Except BoardFailure α),
      Keeps Silent (Http.boardAnswer status code shown free r) := fun status code shown free r =>
    silent_of_still (Http.boardAnswer_still status code shown free r)
  cases asked with
  | showCard card =>
    exact .silent (Silent.law.bind (Silent.law.showCard card) fun r => hanswered _ _ _ _ r)
  | moveCard card stage =>
    exact (accounts_moveCard hK card stage).before_silent fun r => hanswered _ _ _ _ r
  | setField card key type value =>
    exact (accounts_setField hK card key type value).before_silent fun r => hanswered _ _ _ _ r
  | submitForm card form responses email =>
    exact (accounts_submitForm hK card form responses email).before_silent fun r =>
      hanswered _ _ _ _ r
  | run triggerType card pipe occasion =>
    unfold command Http.execute
    exact .automationAnswer _ _ (.get_bind fun v =>
      accounts_run hK triggerType _ _ occasion v.ambient.depthOrZero)
  | listLogs card => exact .silent (Http.keeps_automationAnswer _ _ (Silent.law.listLogs _))
  | health => exact .silent (Silent.law.bind Silent.law.configured fun _ => Silent.law.pure _)
  | metrics => exact .silent (Silent.law.bind Silent.law.configured fun _ => Silent.law.pure _)
  | manual => exact .silent (Silent.law.pure _)

theorem accounts_dispatch (r : Http.Request) (t : Http.Target) :
    (dispatch site K r t).Accounts (Http.dispatch site r t) := by
  cases t with
  | route route ps =>
    have hasked : (match Http.Command.read route ps r.content with
        | .ok asked => command site K asked
        | .error _ => nothing).Accounts
        (match Http.Command.read route ps r.content with
        | .ok asked => Http.execute site asked
        | .error es => Http.complain r.content es) := by
      cases Http.Command.read route ps r.content with
      | ok asked => exact accounts_command hK asked
      | error es => exact .silent (silent_of_still (Http.complain_still r.content es))
    unfold dispatch Http.dispatch
    dsimp only
    split
    · exact .silent (Silent.law.pure _)
    · split
      · exact .after_silent Silent.law.configured fun _ => hasked
      · exact hasked
  | _ => exact .silent (Silent.law.pure _)

theorem accounts_respond (r : Http.Request) (path : List Char) :
    (respond site K r path).Accounts (Http.respond site r path) := by
  have hreplied := (((accounts_dispatch hK r (Http.Target.of r.method path)).outcome.before_silent
    fun result => silent_conclude r ((Http.Target.of r.method path).label?.getD
      (PathLabel.ofRequest (String.ofList path))) result).map (Http.delivered r)).withAmbient
        fun a => { a with correlation := .str r.correlation }
  refine ⟨fun w => ?_, fun w => hreplied.settled _⟩
  unfold Http.respond
  dsimp only
  rw [Http.exec_serving]
  have hclosed : ∀ v : World, Silent v ({ v with spans := v.spans.tail }.noted
      (.served (Http.spanName r (Http.Target.of r.method path)) (.str r.correlation))) :=
    fun v => .nothing (World.counted_noted _ rfl) rfl
  exact ((silent_opened w _).trans (hreplied.recounts _)).before (hclosed _)

theorem accounts_follow (r : Http.Request) : ∀ (fuel : Nat) (path : List Char),
    (follow site K r fuel path).Accounts (Http.follow site r fuel path)
  | 0, path => accounts_respond hK r path
  | fuel + 1, path => by
    refine .bind (accounts_respond hK r path) fun reply => ?_
    cases Http.Target.of r.method path with
    | elsewhere path => exact accounts_follow r fuel (Http.ledTo path)
    | _ => exact .silent (Silent.law.pure _)

theorem accounts_serve (r : Http.Request) :
    (serve site K r).Accounts (Http.serve site r) := by
  unfold serve Http.serve
  dsimp only
  cases (Url.parse? r.target).bind fun u => (Http.escapedPath? u).map (u, ·) with
  | none => exact .silent (Silent.law.raise _)
  | some address =>
    obtain ⟨url, path⟩ := address
    dsimp only
    cases { r with method := r.method.toUpper }.headerFault? with
    | some f => exact .silent Silent.law.refl
    | none =>
      cases Http.addressFault? url with
      | some f => exact .silent Silent.law.refl
      | none => exact accounts_follow hK _ _ _

end
end
end Journal
end BoardRules
