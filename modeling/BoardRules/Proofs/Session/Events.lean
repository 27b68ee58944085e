import BoardRules.Proofs.Cascade.Trace
import BoardRules.Proofs.Http.Announcement
import BoardRules.Proofs.Http.Independence

/-! Events mirror what users change. Every change that a request commits is told of by one event,
and there are no other ones: none for a request that fails or finds nothing to change, and none for
anything that runs and their cascades do. -/
namespace BoardRules

open Engine

namespace Engine

theorem eventless_withCorrelation {α : Type} {correlation : Json} {body : Engine α}
    (hbody : Keeps Eventless body) :
    Keeps Eventless (Engine.withCorrelation correlation body) := by
  intro w
  unfold Engine.withCorrelation
  rw [exec_withAmbient]
  exact hbody (w.within { w.ambient with correlation })

variable {env : Environment} {h : HandOver} (hover : h.Keeps Eventless)

include hover

theorem eventless_runCascade (request : CascadeRequest) :
    Keeps Eventless (runCascade env h request) := by
  unfold runCascade
  apply eventless_withCorrelation
  exact Eventless.law.run hover _ _ _ _ _

theorem eventless_runOnWorker (request : CascadeRequest) :
    Keeps Eventless (runOnWorker env h request) := by
  unfold runOnWorker
  refine Eventless.law.bind (eventless_runCascade hover request).outcome fun r => ?_
  cases r with
  | ok report => exact Eventless.law.pure ()
  | error f => exact Eventless.law.logFault _ _ _

theorem eventless_runJob (payload : Json) : Keeps Eventless (runJob env h payload) := by
  unfold runJob
  refine Eventless.law.bind Eventless.law.configured fun _ => ?_
  split
  · exact eventless_runCascade hover _
  · exact Eventless.law.raise _

/-- Workers publish nothing, whatever they take and in which order. -/
theorem eventless_of_worked {w w' : World} (hworked : Worked env h w w') : Eventless w w' := by
  have hdetached : ∀ {α : Type} {body : Engine α}, Keeps Eventless body →
      ∀ (v : World) (queue : List CascadeRequest),
        Eventless v (exec (detached body) (v.pending queue)).2 := by
    intro α body hbody v queue
    rw [exec_detached]
    exact hbody { v.pending queue with spans := [], ambient := {} }
  induction hworked with
  | done w => rfl
  | ran before request after _ _ ih =>
    exact ih.trans (hdetached (eventless_runOnWorker hover request) _ _)
  | job before request after _ _ ih =>
    exact ih.trans (hdetached (eventless_runJob hover request.toPayload) _ _)

end Engine

theorem HandOver.Usual.eventless {env : Environment} {h : HandOver} (hh : h.Usual env) :
    h.Keeps Eventless := by
  induction hh with
  | mode m => exact m.eventless_handOver
  | inPlace _ ih =>
    intro request w _
    exact Eventless.law.bind (eventless_runCascade ih request).outcome
      (fun _ => Eventless.law.pure true) w

namespace Http

/-- A request that asks for no change publishes nothing. -/
theorem eventless_execute {site : Site} (hover : site.handOver.Keeps Eventless) {command : Command}
    (hchanges : command.changes = false) : Keeps Eventless (execute site command) := by
  have law : TraceLaw Eventless := Eventless.law
  cases command with
  | moveCard | setField | submitForm => cases hchanges
  | showCard card =>
    exact law.bind (law.showCard card) fun r w =>
      congrArg World.events (boardAnswer_still _ _ _ _ r w)
  | run triggerType card pipe occasion =>
    exact keeps_automationAnswer _ _ (law.bind (fun w => law.refl w) fun w =>
      law.run hover triggerType _ _ occasion w.ambient.depthOrZero)
  | listLogs card => exact keeps_automationAnswer _ _ (law.listLogs _)
  | health => exact law.bind law.configured fun _ => law.pure _
  | metrics => exact law.bind law.configured fun _ => law.pure _
  | manual => exact law.pure _

/-- Without the tables no change can be made. -/
theorem execute_cut {site : Site} (hfails : site.env.boardFails = true) {command : Command}
    (hchanges : command.changes = true) (w : World) : (exec (execute site command) w).2 = w := by
  cases command with
  | moveCard card stage =>
    have hmove := Board.exec_moveCard site.env site.handOver card stage w
    rw [if_pos hfails] at hmove
    exact congrArg Prod.snd (exec_bind_error hmove _)
  | setField card key type value =>
    have hset := Board.exec_setField site.env site.handOver card key type value w
    rw [if_pos hfails] at hset
    exact congrArg Prod.snd (exec_bind_error hset _)
  | submitForm card form responses email =>
    have hsubmit := Board.exec_submitForm site.env site.handOver card form responses email w
    rw [if_pos hfails] at hsubmit
    exact congrArg Prod.snd (exec_bind_error hsubmit _)
  | _ => cases hchanges

/-- What has come of a request on the board. -/
inductive Site.Mirrors (site : Site) (correlation : String) (asked : Option Command) (w : World) :
    Except Fault Reply → World → Prop where
  /-- Nothing is to be told, and nothing is published. Unless something else than a change has been
  asked for, what is stored is as it was. -/
  | quiet {r : Except Fault Reply} {w' : World} (hnone : site.announcement? asked w = none)
    (hevents : w'.events = w.events)
    (hstore : (∀ command, asked = some command → command.changes = true) → w'.store = w.store) :
    Mirrors site correlation asked w r w'
  /-- A change is committed, and then the event that tells of it is published. The status of the
  reply is that of what is stored since. -/
  | told {w' : World} {reply : Reply} (command : Command) (event : BoardEvent) (w₀ w₁ : World)
    (hasked : asked = some command) (htold : site.announcement? asked w = some event.announcement)
    (hstart : w₀.store = w.store) (hcommits : command.Commits w₀ w₁ event)
    (hstore : w'.store = (w₁.published site.env site.handOver event).store)
    (hevents : w'.events =
      event.announcement.envelope { w.ambient with correlation := .str correlation } :: w.events)
    (hstatus : reply.status = command.statusIn w'.store) :
    Mirrors site correlation asked w (.ok reply) w'

section

variable {site : Site} {correlation : String} {asked : Option Command} {r : Except Fault Reply}
  {w w' v : World}

theorem Site.Mirrors.of_start (h : site.Mirrors correlation asked v r w')
    (hstore : v.store = w.store) (hsubmitted : v.submitted = w.submitted)
    (hevents : v.events = w.events) (hambient : v.ambient = w.ambient) :
    site.Mirrors correlation asked w r w' := by
  cases h with
  | quiet hnone hevents' hstore' =>
    rw [Site.announcement?_congr hstore hsubmitted] at hnone
    exact .quiet hnone (hevents'.trans hevents) fun hall => (hstore' hall).trans hstore
  | told command event w₀ w₁ hasked htold hstart hcommits hstore' hevents' hstatus =>
    rw [Site.announcement?_congr hstore hsubmitted] at htold
    rw [hambient, hevents] at hevents'
    exact .told command event w₀ w₁ hasked htold (hstart.trans hstore) hcommits hstore' hevents'
      hstatus

theorem Site.Mirrors.events (h : site.Mirrors correlation asked w r w') :
    w'.events = ((site.announcement? asked w).map fun told =>
      told.envelope { w.ambient with correlation := .str correlation }).toList ++ w.events := by
  cases h with
  | quiet hnone hevents =>
    rw [hnone]
    exact hevents
  | told command event w₀ w₁ hasked htold hstart hcommits hstore hevents =>
    rw [htold]
    exact hevents

/-- A request that is refused has published nothing. -/
theorem Site.Mirrors.events_of_refusal {reply : Reply}
    (h : site.Mirrors correlation asked w (.ok reply) w') (hlow : 400 ≤ reply.status)
    (hhigh : reply.status < 500) : w'.events = w.events := by
  cases h with
  | quiet hnone hevents => exact hevents
  | told command event w₀ w₁ hasked htold hstart hcommits hstore hevents hstatus =>
    have hsuccess : command.success ≤ 201 := by cases command <;> simp [Command.success]
    unfold Command.statusIn at hstatus
    split at hstatus <;> omega

theorem Parallel.first {site' : Site} {read : Checked Command} {v : World}
    {p q : Except Fault Outcome × World} (h : Parallel site site' read w v p q) :
    (site.Idle read w ∧ p.2 = w) ∨
      ∃ command event w₁, read = .ok command ∧ command.Commits w w₁ event ∧
        p.2 = w₁.published site.env site.handOver event ∧
        statusOf p.1 = command.statusIn p.2.store := by
  cases h with
  | unchanged outcome hidle => exact .inl ⟨hidle, rfl⟩
  | committed command event w₁ v₁ outcome outcome' hread hw hv hboard hstatus hstatus' =>
    exact .inr ⟨command, event, w₁, hread, hw, rfl, hstatus⟩

end

/-- How a request for a target is dealt with: nothing is to be told and nothing is published, or a
change is committed and then published. -/
inductive Site.Tells (site : Site) (asked : Option Command) (w : World) :
    Except Fault Outcome × World → Prop where
  | quiet {p : Except Fault Outcome × World} (hnone : site.announcement? asked w = none)
    (hevents : Eventless w p.2)
    (hkept : (∀ command, asked = some command → command.changes = true) → p.2 = w) :
    Tells site asked w p
  | told {p : Except Fault Outcome × World} (command : Command) (event : BoardEvent) (w₁ : World)
    (hasked : asked = some command) (htold : site.announcement? asked w = some event.announcement)
    (hcommits : command.Commits w w₁ event)
    (hworld : p.2 = w₁.published site.env site.handOver event)
    (hstatus : statusOf p.1 = command.statusIn p.2.store) : Tells site asked w p

section

variable {site : Site} (r : Request)

/-- Where nothing that is asked for changes anything, nothing is changed. -/
theorem dispatch_still {t : Target} {w : World} (hstill : ∀ command, t.command? r = some command →
    ∀ v, (exec (execute site command) v).2 = v) : (exec (dispatch site r t) w).2 = w :=
  keeps_dispatch (R := fun w w' => w' = w) (fun _ => rfl) (fun _ _ _ h h' => h'.trans h) hstill w

theorem tells_of_idle (hover : site.handOver.Keeps Eventless) {t : Target}
    (hidle : ∀ command, t.command? r = some command → command.changes = false) (w : World) :
    site.Tells (t.command? r) w (exec (dispatch site r t) w) := by
  refine .quiet ?_ ?_ fun hall => dispatch_still r fun command hasked => ?_
  · unfold Site.announcement?
    split
    · rfl
    · rw [Option.bind_eq_none_iff]
      exact fun command hasked => Command.announcement?_of_idle (hidle command hasked)
  · exact keeps_dispatch (R := Eventless) (fun _ => rfl) (fun _ _ _ h h' => h'.trans h)
      (fun command hasked => eventless_execute hover (hidle command hasked)) w
  · cases (hidle command hasked).symm.trans (hall command hasked)

theorem tells_of_change {t : Target} {command : Command} (hasked : t.command? r = some command)
    (hchanges : command.changes = true) (w : World) :
    site.Tells (some command) w (exec (dispatch site r t) w) := by
  cases hfails : site.env.boardFails with
  | true =>
    have hsame : (exec (dispatch site r t) w).2 = w := by
      refine dispatch_still r fun other hother => ?_
      obtain rfl := Option.some.inj (hother.symm.trans hasked)
      exact execute_cut hfails hchanges
    exact .quiet (if_pos hfails) (congrArg World.events hsame) fun _ => hsame
  | false =>
    have htold : site.announcement? (some command) w = command.announcement? w :=
      if_neg (by rw [hfails]; exact Bool.false_ne_true)
    obtain ⟨route, ps, rfl, -, hread⟩ := Target.command?_eq_some hasked
    have halike : w.Alike w := ⟨rfl, rfl, rfl, rfl, rfl⟩
    have hparallel : Parallel site site (Command.read route ps r.content) w w
        (exec (dispatch site r (.route route ps)) w)
        (exec (dispatch site r (.route route ps)) w) :=
      parallel_dispatch rfl halike r ps (Command.route_changes_of_read hread hchanges)
    rcases hparallel.first with ⟨hidle, hsame⟩ |
      ⟨other, event, w₁, hother, hcommits, hworld, hstatus⟩
    · refine .quiet ?_ (congrArg World.events hsame) fun _ => hsame
      rw [htold, Option.eq_none_iff_forall_ne_some]
      intro told hsome
      obtain ⟨w₁, event, hcommits, -⟩ := Command.announcement?_eq_some_iff.mp hsome
      obtain hfailing | hnone := hidle
      · cases hfails.symm.trans hfailing
      · exact hnone command w₁ event hread hcommits
    · obtain rfl := Except.ok.inj (hother.symm.trans hread)
      have hsome := Command.announcement?_eq_some_iff.mpr ⟨w₁, event, hcommits, rfl⟩
      exact .told other event w₁ rfl (htold.trans hsome) hcommits hworld hstatus

variable (hover : site.handOver.Keeps Eventless)

include hover

theorem tells_dispatch (t : Target) (w : World) :
    site.Tells (t.command? r) w (exec (dispatch site r t) w) := by
  by_cases hchange : ∃ command, t.command? r = some command ∧ command.changes = true
  · obtain ⟨command, hasked, hchanges⟩ := hchange
    rw [hasked]
    exact tells_of_change r hasked hchanges w
  · refine tells_of_idle r hover (fun command hasked => Bool.eq_false_iff.mpr fun hchanges => ?_) w
    exact hchange ⟨command, hasked, hchanges⟩

theorem mirrors_respond (path : List Char) (w : World) :
    ∃ reply w', exec (respond site r path) w = (.ok reply, w') ∧
      site.Mirrors r.correlation ((Target.of r.method path).command? r) w (.ok reply) w' := by
  have hsame : ∀ asked, site.announcement? asked (r.within path w) = site.announcement? asked w :=
    fun asked => Site.announcement?_congr rfl rfl
  have hdealt : exec (dispatch site r (Target.of r.method path)) (r.within path w) =
      (_, _) := Prod.mk.eta.symm
  obtain ⟨w', hexec, hstore, hevents, -⟩ := respond_ends hdealt
  refine ⟨_, w', hexec, ?_⟩
  cases tells_dispatch r hover (Target.of r.method path) (r.within path w) with
  | quiet hnone heventless hkept =>
    rw [hsame] at hnone
    refine .quiet hnone (hevents.trans heventless) fun hall => ?_
    rw [hstore, hkept hall]
    rfl
  | told command event w₁ hasked htold hcommits hworld hstatus =>
    rw [hsame] at htold
    refine .told command event (r.within path w) w₁ hasked htold rfl hcommits
      (hstore.trans (congrArg World.store hworld)) ?_ ?_
    -- the change itself publishes nothing, so the one event is that of the change
    · rw [hevents, hworld, events_published hover, hcommits.ambient, hcommits.events,
        event.envelope_announcement]
      rfl
    · rw [status_delivered, status_replyTo, hstatus, hstore]

omit hover in
variable (site) in
/-- Being sent on to another address changes nothing that a request can ask for. -/
theorem respond_elsewhere {path path' : List Char} (htarget : Target.of r.method path =
    .elsewhere path') (w : World) :
    ∃ reply w', exec (respond site r path) w = (.ok reply, w') ∧ w'.store = w.store ∧
      w'.events = w.events ∧ w'.ambient = w.ambient ∧ w'.submitted = w.submitted := by
  have hdealt : exec (dispatch site r (Target.of r.method path)) (r.within path w) =
      (.ok (307, .text ""), r.within path w) := by
    rw [htarget]
    rfl
  obtain ⟨w', hexec, hstore, hevents, hambient⟩ := respond_ends hdealt
  refine ⟨_, w', hexec, hstore, hevents, hambient, ?_⟩
  have hsubmitted : (exec (respond site r path) w).2.submitted = w.submitted := by
    unfold respond
    dsimp only
    rw [exec_serving, withCorrelation, exec_withAmbient, exec_bind_ok (exec_outcome _ _), exec_map,
      htarget]
    rfl
  rw [hexec] at hsubmitted
  exact hsubmitted

theorem mirrors_follow :
    ∀ (fuel : Nat) (path : List Char) (w : World), site.Mirrors r.correlation
      (r.commandAt? fuel path) w (exec (follow site r fuel path) w).1
      (exec (follow site r fuel path) w).2
  | 0, path, w => by
    obtain ⟨reply, w', hexec, hmirrors⟩ := mirrors_respond r hover path w
    unfold follow
    rw [hexec]
    exact hmirrors
  | fuel + 1, path, w => by
    unfold follow Request.commandAt?
    cases htarget : Target.of r.method path with
    | elsewhere path' =>
      obtain ⟨reply, w₁, hexec, hstore, hevents, hambient, hsubmitted⟩ :=
        respond_elsewhere site r htarget w
      rw [exec_bind_ok hexec]
      have hrest := mirrors_follow fuel (ledTo path') w₁
      exact hrest.of_start hstore hsubmitted hevents hambient
    | _ =>
      obtain ⟨reply, w', hexec, hmirrors⟩ := mirrors_respond r hover path w
      rw [htarget] at hmirrors
      rw [exec_bind_ok hexec]
      exact hmirrors

/-- A request is sent on to other addresses until one of them deals with it. -/
theorem mirrors_serve (w : World) : site.Mirrors r.correlation r.command? w
    (exec (serve site r) w).1 (exec (serve site r) w).2 := by
  have hunread : ∀ f : Fault, site.Mirrors r.correlation none w (.error f) w := by
    intro f
    refine .quiet ?_ rfl fun _ => rfl
    unfold Site.announcement?
    split <;> rfl
  unfold serve Request.command?
  dsimp only
  cases ((Url.parse? r.target).bind fun u => (escapedPath? u).map (u, ·)) with
  | none => exact hunread _
  | some addressed =>
    obtain ⟨url, path⟩ := addressed
    dsimp only
    cases { r with method := r.method.toUpper }.headerFault? with
    | some f => exact hunread _
    | none =>
      cases addressFault? url with
      | some f => exact hunread _
      | none => exact mirrors_follow { r with method := r.method.toUpper } hover _ _ w

end

end Http

/-- What can happen in time, with the events that it is to publish, the latest last. Users send
requests to the server, and what they change is told; runs and actions are started, and workers take
what cascades have been put aside, in any order. -/
inductive Happens : World → List Entries → World → Prop where
  | nothing (w : World) : Happens w [] w
  | served (site : Http.Site) (hover : site.handOver.Usual site.env) (r : Http.Request)
    (w : World) :
    Happens w ((site.announcement? r.command? w).map fun told =>
      told.envelope { w.ambient with correlation := .str r.correlation }).toList
        (exec (Http.serve site r) w).2
  | ran (env : Environment) (h : HandOver) (hover : h.Usual env) (triggerType : String)
    (card pipe : RowRef) (occasion : Occasion) (depth : Int) (w : World) :
    Happens w [] (exec (run env h triggerType card pipe occasion depth) w).2
  | performed (env : Environment) (h : HandOver) (hover : h.Usual env) (ctx : ActionContext)
    (payload : Json) (w : World) : Happens w [] (exec (perform env h ctx payload) w).2
  | worked (env : Environment) (h : HandOver) (hover : h.Usual env) {w w' : World}
    (hworked : Worked env h w w') : Happens w [] w'
  | trans {w₁ w₂ w₃ : World} {first second : List Entries} (h₁ : Happens w₁ first w₂)
    (h₂ : Happens w₂ second w₃) : Happens w₁ (first ++ second) w₃

/-- Over all that happens, the events are those that are to be published, each once and in order. -/
theorem Happens.events {w w' : World} {told : List Entries} (h : Happens w told w') :
    w'.events = told.reverse ++ w.events := by
  induction h with
  | nothing w => rfl
  | served site hover r w =>
    rw [(Http.mirrors_serve r hover.eventless w).events]
    cases site.announcement? r.command? w <;> rfl
  | ran env h hover triggerType card pipe occasion depth w =>
    exact Eventless.law.run hover.eventless triggerType card pipe occasion depth w
  | performed env h hover ctx payload w =>
    exact Eventless.law.perform hover.eventless ctx payload w
  | worked env h hover hworked => exact eventless_of_worked hover.eventless hworked
  | trans _ _ ih₁ ih₂ => rw [ih₂, ih₁, List.reverse_append, List.append_assoc]

/-- Events mirror what users change. In order: something is told of what a request asks for just if
there is a change to commit, and then it is the event of that change; what the event tells of is
stored before it is published; a request that is served publishes what is told, once, or else it
publishes nothing, and then a request for a change has left what is stored as it was; a request that
is refused publishes nothing; over all that happens, the events that are published are those that
are told, in order, and neither runs nor cascades publish any; and an event that names no pipe sets
off nothing. -/
theorem events_mirror_changes :
    (∀ (command : Http.Command) (w : World) (told : Announcement),
      command.announcement? w = some told ↔
        ∃ w₁ event, command.Commits w w₁ event ∧ told = event.announcement) ∧
    (∀ (command : Http.Command) (w w₁ : World) (event : BoardEvent),
      command.Commits w w₁ event → w₁.store.Shows event) ∧
    (∀ (site : Http.Site) (r : Http.Request) (w : World), site.handOver.Usual site.env →
      site.Mirrors r.correlation r.command? w (exec (Http.serve site r) w).1
        (exec (Http.serve site r) w).2) ∧
    (∀ (site : Http.Site) (r : Http.Request) (w w' : World) (reply : Http.Reply),
      site.handOver.Usual site.env → exec (Http.serve site r) w = (.ok reply, w') →
        400 ≤ reply.status → reply.status < 500 → w'.events = w.events) ∧
    (∀ (w w' : World) (told : List Entries), Happens w told w' →
      w'.events = told.reverse ++ w.events) ∧
    (∀ (env : Environment) (h : HandOver) (event : BoardEvent) (w : World),
      event.announcement.payload.get? "pipe_id" = some .null →
        w.published env h event =
          w.noted (.event (event.announcement.envelope w.ambient))) := by
  refine ⟨fun command w told => Http.Command.announcement?_eq_some_iff,
    fun command w w₁ event hcommits => hcommits.shows,
    fun site r w hover => Http.mirrors_serve r hover.eventless w,
    fun site r w w' reply hover hexec hlow hhigh => ?_,
    fun w w' told hhappens => hhappens.events,
    fun env h event w hnull => published_noted env h hnull w⟩
  have hmirrors := Http.mirrors_serve r hover.eventless w
  rw [hexec] at hmirrors
  exact hmirrors.events_of_refusal hlow hhigh

/-- A user moves the card of the small board, and then a run is started. One event is published. -/
theorem events_mirror_changes_sample : ∃ told w', Happens { store := Store.sample } told w' ∧
    w'.events = told.reverse ∧
    told.map (fun envelope => (envelope.get? "event_type", envelope.getD "payload")) =
      [(some (.str "card.stage_changed"), .obj [
        ("card_id", .str "00000000-0000-0000-0000-000000000003"),
        ("pipe_id", .str "00000000-0000-0000-0000-000000000001"),
        ("stage_id", .str "00000000-0000-0000-0000-000000000002"),
        ("from_stage_id", .str "00000000-0000-0000-0000-000000000001")])] := by
  have hover : openPool.Usual Environment.sample := .mode .pool
  have hhappens : Happens { store := Store.sample } _ _ :=
    .trans (.served .sample hover .sample { store := Store.sample })
      (.ran Environment.sample openPool hover "card_enters_stage" (.ofUuid ⟨3, by decide⟩)
        (.ofUuid ⟨1, by decide⟩) .untold 0 _)
  rw [Http.command?_sample] at hhappens
  refine ⟨_, _, hhappens, ?_, by decide +kernel⟩
  rw [events_mirror_changes.2.2.2.2.1 _ _ _ hhappens]
  exact List.append_nil _

end BoardRules
