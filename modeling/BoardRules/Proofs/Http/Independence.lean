import BoardRules.Proofs.Http.Change
import BoardRules.Proofs.Store.Board
import BoardRules.Session.Run

/-! Requests to change the board do not depend on the automations. Two sites that serve the same
board commit the same change for the same request and publish the same event, whatever automations
they have and however the runs end that the event sets off. Their replies have the same status,
except that a card is not shown any more once a run has left it a field which is too deep. -/
namespace BoardRules

open Engine

/-- Whether two worlds are the same to a user: the board, the clock and the ambient context. -/
structure World.Alike (w v : World) : Prop where
  board : w.store.board = v.store.board
  ambient : w.ambient = v.ambient
  step : w.step = v.step
  tick : w.tick = v.tick
  submitted : w.submitted = v.submitted

/-- Whoever takes cascades over publishes nothing. -/
theorem CascadeMode.eventless_handOver (mode : CascadeMode) :
    mode.handOver.Keeps Eventless := by
  intro request w _
  cases mode <;> rfl

namespace World.Alike

variable {w v : World} (h : w.Alike v)

include h

theorem findCard (card : Uuid) : v.store.findCard card = w.store.findCard card := by
  rw [← v.store.findCard_board, ← h.board, w.store.findCard_board]

theorem findForm (form : Uuid) : v.store.findForm form = w.store.findForm form := by
  rw [← v.store.findForm_board, ← h.board, w.store.findForm_board]

theorem userMove (card stage : Uuid) :
    v.store.userMove card stage = w.store.userMove card stage := by
  rw [← v.store.userMove_board, ← h.board, w.store.userMove_board]

theorem pipeOf (card : CardRow) : v.store.pipeOf card = w.store.pipeOf card := by
  rw [← v.store.pipeOf_board, ← h.board, w.store.pipeOf_board]

theorem pipeOfForm (form : FormRow) : v.store.pipeOfForm form = w.store.pipeOfForm form := by
  rw [← v.store.pipeOfForm_board, ← h.board, w.store.pipeOfForm_board]

theorem fieldRows (card : Uuid) : v.store.fieldRows card = w.store.fieldRows card := by
  rw [← v.store.fieldRows_board, ← h.board, w.store.fieldRows_board]

theorem sheetOf (row : CardRow) : Board.sheetOf row v = Board.sheetOf row w := by
  unfold Board.sheetOf
  rw [h.fieldRows]

theorem moved (move : CardMove) : (w.moved move).store.board = (v.moved move).store.board := by
  unfold World.moved
  change (w.store.applyMove move _).board = (v.store.applyMove move _).board
  rw [Store.board_applyMove, Store.board_applyMove, h.board, h.step, h.tick]

theorem fieldSet (card : Uuid) (key type : String) (value : Json) :
    (w.fieldSet card key type value).store.board =
      (v.fieldSet card key type value).store.board := by
  change (w.store.setField card key type value _).board =
    (v.store.setField card key type value _).board
  rw [Store.board_setField, Store.board_setField, h.board, h.step, h.tick]

theorem submission (card form : Uuid) (responses : Entries) (email : Option String) :
    v.submission card form responses email = w.submission card form responses email := by
  unfold World.submission
  rw [h.step, h.tick, h.submitted]

theorem submitting (row : SubmissionRow) :
    (w.submitting row).store.board = (v.submitting row).store.board := by
  change (w.store.addSubmission row).board = (v.store.addSubmission row).board
  rw [Store.board_addSubmission, Store.board_addSubmission, h.board]

end World.Alike

namespace Http

/-- How a request for a change comes out at two sites: no change can be made at either and it has
the same outcome, or a change is committed at both and the same event is published. -/
inductive Parallel (site site' : Site) (asked : Checked Command) (w v : World) :
    Except Fault Outcome × World → Except Fault Outcome × World → Prop where
  | unchanged (outcome : Except Fault Outcome) (hidle : site.Idle asked w) :
    Parallel site site' asked w v (outcome, w) (outcome, v)
  | committed (command : Command) (event : BoardEvent) (w₁ v₁ : World)
    (outcome outcome' : Except Fault Outcome) (hasked : asked = .ok command)
    (hw : command.Commits w w₁ event) (hv : command.Commits v v₁ event)
    (hboard : w₁.store.board = v₁.store.board)
    (hstatus : statusOf outcome =
      command.statusIn (w₁.published site.env site.handOver event).store)
    (hstatus' : statusOf outcome' =
      command.statusIn (v₁.published site'.env site'.handOver event).store) :
    Parallel site site' asked w v (outcome, w₁.published site.env site.handOver event)
      (outcome', v₁.published site'.env site'.handOver event)

section

variable {α : Type} (status : Nat) (code : String) (shown : α → Json) (free : α → List Json)

/-- What is answered tells nothing of what is stored besides what it is about. -/
theorem boardAnswer_congr (r : Except BoardFailure α) {w v : World} (h : w.ambient = v.ambient) :
    (exec (boardAnswer status code shown free r) v).1 =
      (exec (boardAnswer status code shown free r) w).1 := by
  cases r with
  | error f =>
    unfold boardAnswer envelope
    dsimp only
    rw [exec_bind_ok (exec_get w), exec_bind_ok (exec_get v), h]
    rfl
  | ok a =>
    unfold boardAnswer showing
    dsimp only
    split <;> rfl

variable {status code shown free} {site site' : Site} {command : Command} {w v : World}

/-- Without the tables a request ends in the same fault at both sites. -/
theorem Parallel.of_rows {x y : Engine (Except BoardFailure α)} {f : Fault}
    {p q : Except Fault (Except BoardFailure α) × World}
    (hx : exec x w = if site.env.boardFails then (.error f, w) else p)
    (hy : exec y v = if site.env.boardFails then (.error f, v) else q)
    (hrest : exec x w = p → exec y v = q →
      Parallel site site' (.ok command) w v (exec (x >>= boardAnswer status code shown free) w)
        (exec (y >>= boardAnswer status code shown free) v)) :
    Parallel site site' (.ok command) w v (exec (x >>= boardAnswer status code shown free) w)
      (exec (y >>= boardAnswer status code shown free) v) := by
  cases hfails : site.env.boardFails with
  | true =>
    rw [hfails, if_pos rfl] at hx hy
    rw [exec_bind_error hx, exec_bind_error hy]
    exact .unchanged (.error f) (.inl hfails)
  | false =>
    rw [hfails, if_neg Bool.false_ne_true] at hx hy
    exact hrest hx hy

theorem Parallel.of_same (h : w.Alike v) (hidle : ∀ w₁ event, ¬command.Commits w w₁ event)
    {x y : Engine (Except BoardFailure α)} {r : Except BoardFailure α}
    (hx : exec x w = (.ok r, w)) (hy : exec y v = (.ok r, v)) :
    Parallel site site' (.ok command) w v (exec (x >>= boardAnswer status code shown free) w)
      (exec (y >>= boardAnswer status code shown free) v) := by
  rw [exec_answered _ _ _ _ hx, exec_answered _ _ _ _ hy,
    boardAnswer_congr status code shown free r h.ambient]
  refine .unchanged _ (.inr fun asked w₁ event hasked => ?_)
  cases hasked
  exact hidle w₁ event

theorem Parallel.of_committed {x y : Engine (Except BoardFailure α)} {a b : α} {event : BoardEvent}
    {w₁ v₁ : World} (hw : command.Commits w w₁ event) (hv : command.Commits v v₁ event)
    (hboard : w₁.store.board = v₁.store.board)
    (hx : exec x w = (.ok (.ok a), w₁.published site.env site.handOver event))
    (hy : exec y v = (.ok (.ok b), v₁.published site'.env site'.handOver event))
    (hsuccess : status = command.success)
    (hshown : free a = command.shown (w₁.published site.env site.handOver event).store)
    (hshown' : free b = command.shown (v₁.published site'.env site'.handOver event).store) :
    Parallel site site' (.ok command) w v (exec (x >>= boardAnswer status code shown free) w)
      (exec (y >>= boardAnswer status code shown free) v) := by
  have hstatus : ∀ (a : α) (s : Store) (u : World), free a = command.shown s →
      statusOf (exec (boardAnswer status code shown free (.ok a)) u).1 = command.statusIn s := by
    intro a s u hfree
    unfold Command.statusIn
    rw [← hfree, ← hsuccess]
    exact statusOf_showing status (shown a) (free a) u
  rw [exec_answered _ _ _ _ hx, exec_answered _ _ _ _ hy]
  exact .committed command event w₁ v₁ _ _ rfl hw hv hboard (hstatus a _ _ hshown)
    (hstatus b _ _ hshown')

end

section

variable {site site' : Site} {w v : World}
  (hfails : site.env.boardFails = site'.env.boardFails) (h : w.Alike v)

include hfails h

theorem parallel_moveCard (card stage : Uuid) :
    Parallel site site' (.ok (.moveCard card stage)) w v
      (exec (execute site (.moveCard card stage)) w)
      (exec (execute site' (.moveCard card stage)) v) := by
  have hw := Board.exec_moveCard site.env site.handOver card stage w
  have hv := Board.exec_moveCard site'.env site'.handOver card stage v
  -- the other request is one about the same board, so it goes the same way
  rw [← hfails, h.userMove, ← h.step, ← h.tick] at hv
  refine .of_rows hw hv fun hw hv => ?_
  have hidle (hnone : ∀ row move, w.store.userMove card stage ≠ .ok (row, some move)) :
      ∀ w₁ event, ¬(Command.moveCard card stage).Commits w w₁ event := by
    intro w₁ event hcommits
    obtain ⟨row, move, hmoved⟩ := hcommits.userMove
    exact hnone row move hmoved
  rcases hmove : w.store.userMove card stage with f | ⟨row, none | move⟩
  · rw [hmove] at hw hv
    exact .of_same h (hidle fun _ _ hsome => by cases hmove.symm.trans hsome) hw hv
  · rw [hmove] at hw hv
    dsimp only at hw hv
    rw [h.sheetOf] at hv
    exact .of_same h (hidle fun _ _ hsome => by cases hmove.symm.trans hsome) hw hv
  · rw [hmove] at hw hv
    obtain ⟨rfl, -⟩ := Store.userMove_eq_some hmove
    exact .of_committed (.moved hmove) (.moved ((h.userMove row.id stage).trans hmove))
      (h.moved move) hw hv rfl rfl rfl

theorem parallel_setField (card : Uuid) (key type : String) (value : Json) :
    Parallel site site' (.ok (.setField card key type value)) w v
      (exec (execute site (.setField card key type value)) w)
      (exec (execute site' (.setField card key type value)) v) := by
  have hw := Board.exec_setField site.env site.handOver card key type value w
  have hv := Board.exec_setField site'.env site'.handOver card key type value v
  rw [← hfails, h.findCard, ← h.step, ← h.tick] at hv
  refine .of_rows hw hv fun hw hv => ?_
  cases hfound : w.store.findCard card with
  | error f =>
    have hidle : ∀ w₁ event, ¬(Command.setField card key type value).Commits w w₁ event := by
      intro w₁ event hcommits
      obtain ⟨_, hcard⟩ := hcommits.findCard
      cases hfound.symm.trans hcard
    rw [hfound] at hw hv
    exact .of_same h hidle hw hv
  | ok row =>
    rw [hfound] at hw hv
    dsimp only at hw hv
    have hcommits := Command.Commits.fieldSet key type value ((h.findCard card).trans hfound)
    rw [h.pipeOf] at hv hcommits
    obtain ⟨rfl, -⟩ := Store.findCard_eq_ok hfound
    exact .of_committed (.fieldSet key type value hfound) hcommits
      (h.fieldSet row.id key type value) hw hv rfl rfl rfl

theorem parallel_submitForm (card form : Uuid) (responses : Entries) (email : Option String) :
    Parallel site site' (.ok (.submitForm card form responses email)) w v
      (exec (execute site (.submitForm card form responses email)) w)
      (exec (execute site' (.submitForm card form responses email)) v) := by
  have hw := Board.exec_submitForm site.env site.handOver card form responses email w
  have hv := Board.exec_submitForm site'.env site'.handOver card form responses email v
  rw [← hfails, h.findCard, h.findForm] at hv
  refine .of_rows hw hv fun hw hv => ?_
  cases hfound : w.store.findCard card with
  | error f =>
    have hidle : ∀ w₁ event,
        ¬(Command.submitForm card form responses email).Commits w w₁ event := by
      intro w₁ event hcommits
      obtain ⟨_, _, hcard, -⟩ := hcommits.findBoth
      cases hfound.symm.trans hcard
    rw [hfound] at hw hv
    exact .of_same h hidle hw hv
  | ok row =>
    rw [hfound] at hw hv
    cases hform : w.store.findForm form with
    | error f =>
      have hidle : ∀ w₁ event,
          ¬(Command.submitForm card form responses email).Commits w w₁ event := by
        intro w₁ event hcommits
        obtain ⟨_, _, -, hstored⟩ := hcommits.findBoth
        cases hform.symm.trans hstored
      rw [hform] at hw hv
      exact .of_same h hidle hw hv
    | ok target =>
      rw [hform] at hw hv
      dsimp only at hw hv
      have hcommits := Command.Commits.submitted responses email
        ((h.findCard card).trans hfound) ((h.findForm form).trans hform)
      rw [h.pipeOfForm, h.submission] at hv hcommits
      exact .of_committed (.submitted responses email hfound hform) hcommits (h.submitting _)
        hw hv rfl rfl rfl

theorem parallel_execute {command : Command} (hchanges : command.changes = true) :
    Parallel site site' (.ok command) w v (exec (execute site command) w)
      (exec (execute site' command) v) := by
  cases command with
  | moveCard card stage => exact parallel_moveCard hfails h card stage
  | setField card key type value => exact parallel_setField hfails h card key type value
  | submitForm card form responses email =>
    exact parallel_submitForm hfails h card form responses email
  | _ => cases hchanges

theorem parallel_dispatch (r : Request) {route : Route} (ps : Parameters)
    (hchanges : route.changes = true) :
    Parallel site site' (Command.read route ps r.content) w v
      (exec (dispatch site r (.route route ps)) w)
      (exec (dispatch site' r (.route route ps)) v) := by
  rw [exec_dispatch_change hchanges, exec_dispatch_change hchanges]
  by_cases hunreadable : r.content = .unreadable
  · rw [if_pos hunreadable, if_pos hunreadable]
    refine .unchanged _ (.of_read fun command hread => ?_)
    rw [hunreadable] at hread
    exact Command.read_unreadable hchanges command hread
  · rw [if_neg hunreadable, if_neg hunreadable]
    cases hread : Command.read route ps r.content with
    | error es =>
      dsimp only
      unfold complain
      dsimp only
      have hnone : ∀ command, (.error es : Checked Command) ≠ .ok command :=
        fun _ hok => by cases hok
      split <;> exact .unchanged _ (.of_read hnone)
    | ok command => exact parallel_execute hfails h (Command.changes_of_read hchanges hread)

end

end Http

theorem World.Alike.asked {w v : World} (h : w.Alike v) (r : Http.Request) (path : List Char) :
    (r.within path w).Alike (r.within path v) :=
  ⟨h.board, congrArg (fun a : Ambient => { a with correlation := .str r.correlation }) h.ambient,
    h.step, h.tick, h.submitted⟩

/-- A request for a change comes to the same at two sites with the same board. Publishing an event
succeeds, whatever comes of the run that it sets off, and leaves the ambient context as it was. If
no change can be made for the request, nothing happens at either site and it is replied to in the
same way. Otherwise the same change is committed at both and the same event is published, once; the
replies have the same status then just if what they are to show is too deep at both sites or at
none. -/
theorem changes_independent (site site' : Http.Site) (r : Http.Request) (path : List Char)
    (route : Http.Route) (ps : Http.Parameters) (w v : World)
    (hfails : site.env.boardFails = site'.env.boardFails)
    (hover : site.handOver.Keeps Eventless) (hover' : site'.handOver.Keeps Eventless)
    (htarget : Http.Target.of r.method path = .route route ps) (hchanges : route.changes = true)
    (h : w.Alike v) :
    (∀ event u, exec (publish site.env site.handOver event.envelope) u =
        (.ok (), u.published site.env site.handOver event) ∧
      (u.published site.env site.handOver event).ambient = u.ambient) ∧
    ∃ reply reply' w' v', exec (Http.respond site r path) w = (.ok reply, w') ∧
      exec (Http.respond site' r path) v = (.ok reply', v') ∧
      w'.ambient = w.ambient ∧ v'.ambient = v.ambient ∧
      ((site.Idle (Http.Command.read route ps r.content) (r.within path w) ∧ reply = reply' ∧
          w'.store = w.store ∧ v'.store = v.store ∧ w'.events = w.events ∧ v'.events = v.events) ∨
        ∃ command event envelope w₁ v₁, Http.Command.read route ps r.content = .ok command ∧
          site.Carries r path command event envelope w w₁ w' reply ∧
          site'.Carries r path command event envelope v v₁ v' reply' ∧
          w₁.store.board = v₁.store.board ∧
          (reply.status = reply'.status ↔
            (Http.Shallow (command.shown w'.store) ↔ Http.Shallow (command.shown v'.store)))) := by
  refine ⟨fun event u => ⟨exec_publish _ _ event u, ambient_published event u⟩, ?_⟩
  have hparallel := Http.parallel_dispatch hfails (h.asked r path) r ps hchanges
  rw [← htarget] at hparallel
  generalize hw : exec (Http.dispatch site r _) _ = dealt at hparallel
  generalize hv : exec (Http.dispatch site' r _) _ = dealt' at hparallel
  cases hparallel with
  | unchanged outcome hidle =>
    obtain ⟨w', hexec, hstore, hevents, hambient⟩ := Http.respond_ends hw
    obtain ⟨v', hexec', hstore', hevents', hambient'⟩ := Http.respond_ends hv
    exact ⟨_, _, w', v', hexec, hexec', hambient, hambient',
      .inl ⟨hidle, rfl, hstore, hstore', hevents, hevents'⟩⟩
  | committed command event w₁ v₁ outcome outcome' hread hcommits hcommits' hboard hstatus
      hstatus' =>
    obtain ⟨reply, w', hexec, hambient, hcarries⟩ := Http.carries_respond hover hcommits hstatus hw
    obtain ⟨reply', v', hexec', hambient', hcarries'⟩ :=
      Http.carries_respond hover' hcommits' hstatus' hv
    rw [← h.ambient] at hcarries'
    refine ⟨reply, reply', w', v', hexec, hexec', hambient, hambient',
      .inr ⟨command, event, _, w₁, v₁, hread, hcarries, hcarries', hboard, ?_⟩⟩
    rw [hcarries.status, hcarries'.status, command.statusIn_eq_iff]

/-- A user moves a card, and an automation burdens it. The move is committed and published as it is
without the automation, but the reply does not have the status that it has then. -/
theorem changes_independent_burdening : ∃ reply reply' w' v',
    exec (Http.respond .sample .sample Http.Request.sample.target.toList)
      { store := Store.burdening } = (.ok reply, w') ∧
    exec (Http.respond .sample .sample Http.Request.sample.target.toList)
      { store := { Store.burdening with automations := [] } } = (.ok reply', v') ∧
    reply.status = 500 ∧ reply'.status = 200 ∧
    ∃ command event envelope w₁ v₁,
      Http.Site.sample.Carries .sample Http.Request.sample.target.toList command event envelope
        { store := Store.burdening } w₁ w' reply ∧
      Http.Site.sample.Carries .sample Http.Request.sample.target.toList command event envelope
        { store := { Store.burdening with automations := [] } } v₁ v' reply' ∧
      w₁.store.board = v₁.store.board := by
  obtain ⟨-, reply, reply', w', v', hexec, hexec', -, -, hcome⟩ := changes_independent
    .sample .sample .sample Http.Request.sample.target.toList .move _ { store := Store.burdening }
    { store := { Store.burdening with automations := [] } } rfl
    CascadeMode.pool.eventless_handOver CascadeMode.pool.eventless_handOver rfl rfl
    ⟨rfl, rfl, rfl, rfl, rfl⟩
  have hstatus : (exec (Http.respond .sample .sample Http.Request.sample.target.toList)
      { store := Store.burdening }).1.toOption.map Http.Reply.status = some 500 := by
    decide +kernel
  have hstatus' : (exec (Http.respond .sample .sample Http.Request.sample.target.toList)
      { store := { Store.burdening with automations := [] } }).1.toOption.map Http.Reply.status =
        some 200 := by
    decide +kernel
  rw [hexec] at hstatus
  rw [hexec'] at hstatus'
  obtain hstatus : reply.status = 500 := Option.some.inj hstatus
  obtain hstatus' : reply'.status = 200 := Option.some.inj hstatus'
  obtain ⟨-, hsame, -⟩ | ⟨command, event, envelope, w₁, v₁, -, hcarries, hcarries', hboard, -⟩ :=
    hcome
  · rw [hsame, hstatus'] at hstatus
    cases hstatus
  · exact ⟨reply, reply', w', v', hexec, hexec', hstatus, hstatus', command, event, envelope, w₁,
      v₁, hcarries, hcarries', hboard⟩

end BoardRules
