import BoardRules.Proofs.Board.Trace
import BoardRules.Proofs.Http.Course

/-! Requests to change the board. Such a request needs nothing but the board. If it is well-formed
and comes to something there, a change is committed and then published, and what is shown in the
reply is looked up after that. -/
namespace BoardRules.Http

open Engine

/-- Whether a route is one for changes of the board. -/
def Route.changes : Route → Bool
  | .move | .field | .submission => true
  | _ => false

def Command.changes : Command → Bool
  | .moveCard .. | .setField .. | .submitForm .. => true
  | _ => false

theorem Command.changes_of_read {route : Route} {ps : Parameters} {c : Content} {command : Command}
    (hroute : route.changes = true) (hread : Command.read route ps c = .ok command) :
    command.changes = true := by
  cases route with
  | move | field | submission =>
    cases c with
    | malformed => cases hread
    | _ =>
      obtain ⟨_, -, hread⟩ := bind_eq_ok.mp hread
      cases hread
      rfl
  | _ => cases hroute

/-- A body that cannot be read asks for nothing. -/
theorem Command.read_unreadable {route : Route} {ps : Parameters} (hroute : route.changes = true)
    (command : Command) : Command.read route ps .unreadable ≠ .ok command := by
  intro hread
  cases route with
  | move =>
    obtain ⟨⟨card, stage⟩, hboth, -⟩ := bind_eq_ok.mp hread
    cases (Checked.both_eq_ok.mp hboth).2
  | field =>
    obtain ⟨⟨card, type, value⟩, hboth, -⟩ := bind_eq_ok.mp hread
    cases (Checked.both_eq_ok.mp hboth).2
  | submission =>
    obtain ⟨⟨card, form, responses, email⟩, hboth, -⟩ := bind_eq_ok.mp hread
    cases (Checked.both_eq_ok.mp (Checked.both_eq_ok.mp hboth).2).2
  | _ => cases hroute

/-- The change that a request asks for, and the event that tells of it. In the second world the
change is committed, and the event is not yet published. -/
inductive Command.Commits (w : World) : Command → World → BoardEvent → Prop where
  | moved {card stage : Uuid} {row : CardRow} {move : CardMove}
    (hmove : w.store.userMove card stage = .ok (row, some move)) :
    Commits w (.moveCard card stage) (w.moved move) (.stageChanged move)
  | fieldSet {card : Uuid} {row : CardRow} (key type : String) (value : Json)
    (hcard : w.store.findCard card = .ok row) :
    Commits w (.setField card key type value) (w.fieldSet row.id key type value)
      (.fieldChanged row.id (w.store.pipeOf row) key value)
  | submitted {card form : Uuid} {row : CardRow} {target : FormRow} (responses : Entries)
    (email : Option String) (hcard : w.store.findCard card = .ok row)
    (hform : w.store.findForm form = .ok target) :
    Commits w (.submitForm card form responses email)
      (w.submitting (w.submission row.id target.id responses email).row)
      (.formSubmitted row.id (w.store.pipeOfForm target) target.id
        (w.submission row.id target.id responses email).id)

namespace Command.Commits

variable {w w₁ : World} {command : Command} {event : BoardEvent}

theorem ambient (h : command.Commits w w₁ event) : w₁.ambient = w.ambient := by
  cases h <;> rfl

theorem events (h : command.Commits w w₁ event) : w₁.events = w.events := by
  cases h <;> rfl

variable {card stage form : Uuid}

theorem userMove (h : (Command.moveCard card stage).Commits w w₁ event) :
    ∃ row move, w.store.userMove card stage = .ok (row, some move) := by
  cases h with
  | moved hmove => exact ⟨_, _, hmove⟩

theorem findCard {key type : String} {value : Json}
    (h : (Command.setField card key type value).Commits w w₁ event) :
    ∃ row, w.store.findCard card = .ok row := by
  cases h with
  | fieldSet _ _ _ hcard => exact ⟨_, hcard⟩

theorem findBoth {responses : Entries} {email : Option String}
    (h : (Command.submitForm card form responses email).Commits w w₁ event) :
    ∃ row target, w.store.findCard card = .ok row ∧ w.store.findForm form = .ok target := by
  cases h with
  | submitted _ _ hcard hform => exact ⟨_, _, hcard, hform⟩

end Command.Commits

/-- The values of any shape that are shown when a change has been made: the fields of the card, or
what has been filled in. -/
def Command.shown (s : Store) : Command → List Json
  | .moveCard card _ | .setField card .. => (s.fieldRows card).map FieldRow.value
  | .submitForm _ _ responses _ => responses.map Prod.snd
  | _ => []

/-- Whether none of the values is too deep to be shown. -/
def Shallow (free : List Json) : Prop := ∀ x ∈ free, x.depth ≤ depthLimit

instance (free : List Json) : Decidable (Shallow free) :=
  inferInstanceAs (Decidable (∀ x ∈ free, x.depth ≤ depthLimit))

/-- The status of a reply that shows what has been made. -/
def Command.success : Command → Nat
  | .submitForm .. => 201
  | _ => 200

/-- The status of the reply to a change that has been made, with what is stored then. -/
def Command.statusIn (s : Store) (command : Command) : Nat :=
  if Shallow (command.shown s) then command.success else 500

theorem Command.statusIn_eq_iff (command : Command) (s s' : Store) :
    command.statusIn s = command.statusIn s' ↔
      (Shallow (command.shown s) ↔ Shallow (command.shown s')) := by
  have hsuccess : command.success ≠ 500 := by
    cases command <;> simp [success]
  unfold statusIn
  by_cases hs : Shallow (command.shown s)
  · by_cases hs' : Shallow (command.shown s')
    · simp [hs, hs']
    · simp [hs, hs', hsuccess]
  · by_cases hs' : Shallow (command.shown s')
    · simp [hs, hs', hsuccess.symm]
    · simp [hs, hs']

def statusOf : Except Fault Outcome → Nat
  | .ok outcome => outcome.1
  | .error _ => 500

theorem status_replyTo (r : Request) (outcome : Except Fault Outcome) :
    (replyTo r outcome).status = statusOf outcome := by
  cases outcome <;> rfl

theorem statusOf_showing (status : Nat) (v : Json) (free : List Json) (w : World) :
    statusOf (exec (showing status v free) w).1 = if Shallow free then status else 500 := by
  unfold showing
  by_cases hdeep : free.any fun x => depthLimit < x.depth
  · have hshallow : ¬Shallow free := by simpa [Shallow] using hdeep
    rw [if_pos hdeep, if_neg hshallow]
    rfl
  · have hshallow : Shallow free := by simpa [Shallow] using hdeep
    rw [if_neg hdeep, if_pos hshallow]
    rfl

/-- Whether no change can be made for a request: the tables are gone, or it is not well-formed, or
what it asks for comes to nothing on the board. -/
def Site.Idle (site : Site) (asked : Checked Command) (w : World) : Prop :=
  site.env.boardFails = true ∨
    ∀ command w₁ event, asked = .ok command → ¬command.Commits w w₁ event

theorem Site.Idle.of_read {site : Site} {asked : Checked Command} {w : World}
    (hasked : ∀ command, asked ≠ .ok command) : site.Idle asked w :=
  .inr fun command _ _ hok _ => hasked command hok

theorem exec_answered {α : Type} (status : Nat) (code : String) (shown : α → Json)
    (free : α → List Json) {x : Engine (Except BoardFailure α)} {r : Except BoardFailure α}
    {w w₁ : World} (hx : exec x w = (.ok r, w₁)) :
    exec (x >>= boardAnswer status code shown free) w =
      ((exec (boardAnswer status code shown free r) w₁).1, w₁) := by
  rw [exec_bind_ok hx]
  exact Prod.ext rfl (boardAnswer_still status code shown free r w₁)

/-- A request for a change needs nothing but the board. -/
theorem exec_dispatch_change {site : Site} {r : Request} {route : Route} {ps : Parameters}
    (hchanges : route.changes = true) (w : World) :
    exec (dispatch site r (.route route ps)) w =
      if r.content = .unreadable then (.ok (brief 400 "There was an error parsing the body"), w)
      else
        match Command.read route ps r.content with
        | .ok command => exec (execute site command) w
        | .error es => exec (complain r.content es) w := by
  have hbody : route.hasBody = true := by cases route <;> first | rfl | cases hchanges
  have hneeds : needsAutomations route r.content = false := by
    cases route <;> first | rfl | cases hchanges
  unfold dispatch
  dsimp only
  by_cases hunreadable : r.content = .unreadable
  · rw [if_pos ⟨hbody, hunreadable⟩, if_pos hunreadable]
    rfl
  · rw [if_neg fun hboth => hunreadable hboth.2, if_neg hunreadable, hneeds]
    cases Command.read route ps r.content <;> rfl

theorem conclude_frame (r : Request) (label : String) (outcome : Except Fault Outcome) (w : World) :
    (exec (conclude r label outcome) w).2.store = w.store ∧
      (exec (conclude r label outcome) w).2.events = w.events := by
  cases outcome <;> exact ⟨rfl, rfl⟩

/-- What is stored and what is published when a request has been replied to is what there is when
it has been dealt with. The ambient context is what it was before. -/
theorem respond_ends {site : Site} {r : Request} {path : List Char} {w w₁ : World}
    {outcome : Except Fault Outcome}
    (hdealt : exec (dispatch site r (Target.of r.method path)) (r.within path w) = (outcome, w₁)) :
    ∃ w', exec (respond site r path) w = (.ok (delivered r (replyTo r outcome)), w') ∧
      w'.store = w₁.store ∧ w'.events = w₁.events ∧ w'.ambient = w.ambient := by
  have hreply := exec_respond site r path w
  have hframe : (exec (respond site r path) w).2.store = w₁.store ∧
      (exec (respond site r path) w).2.events = w₁.events ∧
      (exec (respond site r path) w).2.ambient = w.ambient := by
    unfold respond
    dsimp only
    rw [exec_serving, withCorrelation, exec_withAmbient, exec_bind_ok (exec_outcome _ _),
      exec_map]
    obtain ⟨hstore, hevents⟩ := conclude_frame r
      ((Target.of r.method path).label?.getD (PathLabel.ofRequest (String.ofList path)))
      (exec (dispatch site r (Target.of r.method path)) (r.within path w)).1
      (exec (dispatch site r (Target.of r.method path)) (r.within path w)).2
    exact ⟨hstore.trans (congrArg (fun p => p.2.store) hdealt),
      hevents.trans (congrArg (fun p => p.2.events) hdealt), rfl⟩
  rw [hdealt] at hreply
  exact ⟨_, Prod.ext hreply rfl, hframe⟩

/-- What a request for a change has come to at a site. The change has been committed and then told
of by one event, and the status of the reply is that of what is stored since. -/
structure Site.Carries (site : Site) (r : Request) (path : List Char) (command : Command)
    (event : BoardEvent) (envelope : Entries) (w w₁ w' : World) (reply : Reply) : Prop where
  commits : command.Commits (r.within path w) w₁ event
  store : w'.store = (w₁.published site.env site.handOver event).store
  events : w'.events = envelope :: w.events
  status : reply.status = command.statusIn w'.store

theorem status_delivered (r : Request) (reply : Reply) :
    (delivered r reply).status = reply.status := by
  unfold delivered
  split <;> rfl

theorem carries_respond {site : Site} {r : Request} {path : List Char} {command : Command}
    {event : BoardEvent} {w w₁ : World} {outcome : Except Fault Outcome}
    (hover : site.handOver.Keeps Eventless) (hcommits : command.Commits (r.within path w) w₁ event)
    (hstatus : statusOf outcome =
      command.statusIn (w₁.published site.env site.handOver event).store)
    (hdealt : exec (dispatch site r (Target.of r.method path)) (r.within path w) =
      (outcome, w₁.published site.env site.handOver event)) :
    ∃ reply w', exec (respond site r path) w = (.ok reply, w') ∧ w'.ambient = w.ambient ∧
      site.Carries r path command event
        (Envelope.complete { w.ambient with correlation := .str r.correlation } event.envelope)
        w w₁ w' reply := by
  obtain ⟨w', hexec, hstore, hevents, hambient⟩ := respond_ends hdealt
  refine ⟨_, w', hexec, hambient, hcommits, hstore, ?_, ?_⟩
  -- the change itself publishes nothing, so the one event is that of the change
  · rw [hevents, events_published hover, hcommits.ambient, hcommits.events]
    rfl
  · rw [status_delivered, status_replyTo, hstatus, hstore]

end BoardRules.Http
