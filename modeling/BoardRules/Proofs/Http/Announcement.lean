import BoardRules.Proofs.Http.Change
import BoardRules.Proofs.Store.History
import BoardRules.Proofs.Store.ReadBack

/-! What is told of a change that a user asks for. It is worked out from the request and from what
is stored, and it is the event of the change that is committed, if there is one to commit. -/
namespace BoardRules

open Engine

/-- What an event tells: its name, and what it says of the change. -/
structure Announcement where
  name : String
  payload : Entries

/-- The envelope under which something is told in an ambient context. -/
def Announcement.envelope (told : Announcement) (a : Ambient) : Entries :=
  [("event_type", .str told.name), ("version", .int 1), ("payload", .obj told.payload),
    ("correlation_id", a.correlation), ("meta", .obj [("cascade_depth", .int a.depthOrZero)])]

namespace BoardEvent

def announcement (event : BoardEvent) : Announcement := ⟨event.name, event.payload⟩

theorem envelope_announcement (event : BoardEvent) (a : Ambient) :
    event.announcement.envelope a = Envelope.complete a event.envelope :=
  (event.complete_envelope a).symm

theorem pipe?_of_null {event : BoardEvent}
    (hnull : event.announcement.payload.get? "pipe_id" = some .null) : event.pipe? = none := by
  have hnamed : event.announcement.payload.get? "pipe_id" =
      some (Json.ofText? (event.pipe?.map Uuid.text)) := by
    cases event <;> rfl
  rw [hnamed] at hnull
  cases hpipe : event.pipe? with
  | none => rfl
  | some pipe =>
    rw [hpipe] at hnull
    cases hnull

end BoardEvent

namespace Store

variable (s : Store)

/-- What is told of a move: the card, its new stage with the pipe of that, and the stage in which it
has been, if there is one. Nothing is told if the card or the stage is not there, or if the card is
in that stage already. -/
def moveTold? (card stage : Uuid) : Option Announcement :=
  match s.card? card, s.stage? stage with
  | some row, some target =>
    if row.stage = some stage then none
    else some ⟨"card.stage_changed", [("card_id", .str card.text),
      ("pipe_id", .str target.pipe.text), ("stage_id", .str stage.text),
      ("from_stage_id", Json.ofText? ((s.stageOf row).map fun before => before.id.text))]⟩
  | _, _ => none

/-- What is told of a field that is set: the card, the pipe of its stage, the key and the value.
Nothing is told if the card is not there. -/
def fieldTold? (card : Uuid) (key : String) (value : Json) : Option Announcement :=
  (s.card? card).map fun row =>
    ⟨"card.field_changed", [("card_id", .str card.text),
      ("pipe_id", Json.ofText? ((s.stageOf row).map fun stage => stage.pipe.text)),
      ("field_key", .str key), ("field_value", value)]⟩

/-- What is told of a form that is submitted: the card, the form with the pipe of its stage, and the
submission. Nothing is told if the card or the form is not there. -/
def submissionTold? (card form : Uuid) (submission : String) : Option Announcement :=
  match s.card? card, s.form? form with
  | some _, some target =>
    some ⟨"form.submitted", [("card_id", .str card.text),
      ("pipe_id", Json.ofText? ((s.stage? target.stage).map fun stage => stage.pipe.text)),
      ("form_id", .str form.text), ("submission_id", .str submission)]⟩
  | _, _ => none

theorem moveTold?_eq_some_iff {card stage : Uuid} {told : Announcement} :
    s.moveTold? card stage = some told ↔
      ∃ row move, s.userMove card stage = .ok (row, some move) ∧
        told = (BoardEvent.stageChanged move).announcement := by
  unfold moveTold? userMove findCard findStage
  cases hcard : s.card? card with
  | none => simp [bind, Except.bind]
  | some row =>
    cases hstage : s.stage? stage with
    | none => simp [bind, Except.bind]
    | some target =>
      obtain rfl := id_of_card? hcard
      obtain rfl := id_of_stage? hstage
      by_cases hsame : row.stage = some target.id
      · simp [bind, Except.bind, pure, Except.pure, hsame]
      · simp [bind, Except.bind, pure, Except.pure, hsame, BoardEvent.announcement,
          BoardEvent.name, BoardEvent.payload, moveOf, Function.comp_def, eq_comm]

theorem fieldTold?_eq_some_iff {card : Uuid} {key : String} {value : Json} {told : Announcement} :
    s.fieldTold? card key value = some told ↔
      ∃ row, s.findCard card = .ok row ∧
        told = (BoardEvent.fieldChanged row.id (s.pipeOf row) key value).announcement := by
  unfold fieldTold? findCard
  cases hcard : s.card? card with
  | none => simp
  | some row =>
    obtain rfl := id_of_card? hcard
    simp [BoardEvent.announcement, BoardEvent.name, BoardEvent.payload, pipeOf,
      Function.comp_def, eq_comm]

theorem submissionTold?_eq_some_iff {card form : Uuid} {submission : String}
    {told : Announcement} :
    s.submissionTold? card form submission = some told ↔
      ∃ row target, s.findCard card = .ok row ∧ s.findForm form = .ok target ∧
        told = (BoardEvent.formSubmitted row.id (s.pipeOfForm target) target.id
          submission).announcement := by
  unfold submissionTold? findCard findForm
  cases hcard : s.card? card with
  | none => simp
  | some row =>
    cases hform : s.form? form with
    | none => simp
    | some target =>
      obtain rfl := id_of_card? hcard
      obtain rfl := id_of_form? hform
      simp [BoardEvent.announcement, BoardEvent.name, BoardEvent.payload, pipeOfForm,
        Function.comp_def, eq_comm]

/-- Whether what an event tells of is stored: a card is in its new stage, and the last row of the
history is that of its move; a field holds the value or one alike it; the last submission is one of
the form for the card. -/
def Shows (s : Store) : BoardEvent → Prop
  | .stageChanged move =>
    (s.card? move.card).bind CardRow.stage = some move.toStage ∧
      ∃ time, s.history.getLast? = some (.ofMove move time)
  | .fieldChanged card _ key value =>
    ∃ row, s.fieldRow? card key = some row ∧ (row.value = value ∨ row.value.alike value = true)
  | .formSubmitted card _ form _ =>
    ∃ row, s.submissions.getLast? = some row ∧ row.card = card ∧ row.form = form

end Store

/-- An event that names no pipe is published, and nothing else happens. -/
theorem published_noted (env : Environment) (h : HandOver) {event : BoardEvent}
    (hnull : event.announcement.payload.get? "pipe_id" = some .null) (w : World) :
    w.published env h event = w.noted (.event (event.announcement.envelope w.ambient)) := by
  rw [published_eq, event.envelope_announcement]
  unfold hear
  rw [event.of?_envelope, BoardEvent.pipe?_of_null hnull]
  rfl

/-- The characters that may stay as they are, looked up in a list. -/
theorem Url.isVisibleExcept_eq (others : String) : isVisibleExcept others =
    fun c => 0x21 ≤ c.toNat && c.toNat ≤ 0x7e && !decide (c ∈ others.toList) := by
  funext c
  unfold isVisibleExcept
  rw [String.contains_char_eq]

namespace Http

namespace Command

/-- What is told of the change that a request asks for. -/
def announcement? (w : World) : Command → Option Announcement
  | .moveCard card stage => w.store.moveTold? card stage
  | .setField card key _ value => w.store.fieldTold? card key value
  | .submitForm card form _ _ =>
    w.store.submissionTold? card form ("submission-" ++ Decimal.natText (w.submitted + 1))
  | _ => none

variable {command : Command} {w w₁ : World} {event : BoardEvent}

/-- Something is told just if there is a change to commit, and then the event of that. -/
theorem announcement?_eq_some_iff {told : Announcement} :
    command.announcement? w = some told ↔
      ∃ w₁ event, command.Commits w w₁ event ∧ told = event.announcement := by
  cases command with
  | moveCard card stage =>
    refine (w.store.moveTold?_eq_some_iff).trans ⟨?_, ?_⟩
    · rintro ⟨row, move, hmove, rfl⟩
      exact ⟨_, _, .moved hmove, rfl⟩
    · rintro ⟨w₁, event, hcommits, rfl⟩
      cases hcommits with
      | moved hmove => exact ⟨_, _, hmove, rfl⟩
  | setField card key type value =>
    refine (w.store.fieldTold?_eq_some_iff).trans ⟨?_, ?_⟩
    · rintro ⟨row, hcard, rfl⟩
      exact ⟨_, _, .fieldSet key type value hcard, rfl⟩
    · rintro ⟨w₁, event, hcommits, rfl⟩
      cases hcommits with
      | fieldSet _ _ _ hcard => exact ⟨_, hcard, rfl⟩
  | submitForm card form responses email =>
    refine (w.store.submissionTold?_eq_some_iff).trans ⟨?_, ?_⟩
    · rintro ⟨row, target, hcard, hform, rfl⟩
      exact ⟨_, _, .submitted responses email hcard hform, rfl⟩
    · rintro ⟨w₁, event, hcommits, rfl⟩
      cases hcommits with
      | submitted _ _ hcard hform => exact ⟨_, _, hcard, hform, rfl⟩
  | _ =>
    constructor
    · intro hnone
      cases hnone
    · rintro ⟨w₁, event, hcommits, -⟩
      cases hcommits

/-- What an event tells of is committed before it is published. -/
theorem Commits.shows (h : command.Commits w w₁ event) : w₁.store.Shows event := by
  cases h with
  | @moved card stage row move hmove =>
    obtain ⟨-, hcard, target, -, -, -, rfl⟩ := Store.userMove_eq_some hmove
    refine ⟨?_, .live w.step w.tick, List.getLast?_concat⟩
    have hmoved := Store.card?_modifyCard w.store (f := fun c => { c with
      stage := some target.id, updatedAt := .live w.step w.tick }) (fun _ => rfl) row.id row.id
    rw [hcard, Option.map_some, if_pos rfl] at hmoved
    exact congrArg (fun found => found.bind CardRow.stage) hmoved
  | @fieldSet card row key type value hcard =>
    have hput := (Store.rowPut_setField w.store row.id key type value (.live w.step w.tick)).value
    obtain ⟨found, hfound, hvalue⟩ := Option.map_eq_some_iff.mp hput
    refine ⟨found, hfound, ?_⟩
    rw [hvalue]
    exact w.store.keptValue_alike
  | submitted responses email hcard hform => exact ⟨_, List.getLast?_concat, rfl, rfl⟩

theorem announcement?_of_idle (hchanges : command.changes = false) :
    command.announcement? w = none := by
  cases command <;> first | rfl | cases hchanges

/-- A request for a change comes on a route for changes. -/
theorem route_changes_of_read {route : Route} {ps : Parameters} {c : Content}
    (hread : Command.read route ps c = .ok command) (hchanges : command.changes = true) :
    route.changes = true := by
  cases route with
  | move | field | submission => rfl
  | card | logs =>
    obtain ⟨card, -, rfl⟩ := map_eq_ok.mp hread
    cases hchanges
  | run =>
    cases c with
    | malformed => cases hread
    | _ =>
      have hbody : Content.read _ runOf = .ok command := hread
      unfold Content.read Checked.within at hbody
      obtain ⟨_, -, hrun⟩ := bind_eq_ok.mp (mapError_eq_ok hbody)
      obtain ⟨_, -, hrun⟩ := bind_eq_ok.mp hrun
      cases hrun
      cases hchanges
  | _ =>
    cases hread
    cases hchanges

end Command

/-- What a request asks for where it is sent, or where it is sent on to from there. -/
def Request.commandAt? (r : Request) : Nat → List Char → Option Command
  | 0, path => (Target.of r.method path).command? r
  | fuel + 1, path =>
    match Target.of r.method path with
    | .elsewhere path => r.commandAt? fuel (ledTo path)
    | t => t.command? r

/-- What a request asks for, if it gets to the server and is well-formed. -/
def Request.command? (r : Request) : Option Command :=
  let r := { r with method := r.method.toUpper }
  match (Url.parse? r.target).bind fun u => (escapedPath? u).map (u, ·) with
  | none => none
  | some (url, path) =>
    if r.headerFault?.isSome || (addressFault? url).isSome then none
    else r.commandAt? redirectLimit (seenPath path)

theorem command?_sample :
    Request.sample.command? = some (.moveCard ⟨3, by decide⟩ ⟨2, by decide⟩) := by
  have hparsed : Url.parse? Request.sample.target =
      some ⟨"", "", "", none, Request.sample.target, none, none⟩ := by
    unfold Url.parse? Url.isSafeInPath
    simp only [Url.isVisibleExcept_eq]
    decide +kernel
  unfold Request.command?
  dsimp only
  rw [hparsed]
  decide +kernel

/-- What is told of the change that a request asks for at a site. Without the tables nothing is. -/
def Site.announcement? (site : Site) (asked : Option Command) (w : World) : Option Announcement :=
  if site.env.boardFails then none else asked.bind (Command.announcement? w)

theorem Site.announcement?_congr {site : Site} {asked : Option Command} {w v : World}
    (hstore : v.store = w.store) (hsubmitted : v.submitted = w.submitted) :
    site.announcement? asked v = site.announcement? asked w := by
  have hsame : Command.announcement? v = Command.announcement? w := by
    funext command
    cases command <;> simp only [Command.announcement?, hstore, hsubmitted]
  unfold announcement?
  rw [hsame]

end Http
end BoardRules
