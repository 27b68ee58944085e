import BoardRules.Proofs.Cascade.Trace
import BoardRules.Proofs.Cascade.Unfold
import BoardRules.Proofs.Http.Journal

/-! The counters and the audit log agree. Requests of users, runs and cascades happen one after
another. However each of them ends, the counters of the automations have gone on just as far as the
audit log and the runs. -/
namespace BoardRules

open Engine

/-- One of the usual ways to take requests over. -/
inductive Taker where
  | mode (m : CascadeMode)
  | inPlace (rest : Taker)

namespace Taker

variable (env : Environment)

def handOver : Taker → HandOver
  | mode m => m.handOver
  | inPlace rest => Engine.inPlace env rest.handOver

/-- What happens while a request is taken over: all of its run, if that takes place at once. -/
def journal : Taker → CascadeRequest → Journal
  | mode _ => fun _ => Journal.nothing
  | inPlace rest => Journal.runCascade env (rest.handOver env) rest.journal

/-- There are no other usual ways. -/
theorem usual_iff {h : HandOver} : h.Usual env ↔ ∃ t : Taker, t.handOver env = h := by
  constructor
  · intro hh
    induction hh with
    | mode m => exact ⟨.mode m, rfl⟩
    | inPlace _ ih =>
      obtain ⟨rest, rfl⟩ := ih
      exact ⟨.inPlace rest, rfl⟩
  · rintro ⟨t, rfl⟩
    induction t with
    | mode m => exact .mode m
    | inPlace rest ih => exact .inPlace ih

theorem silent_mode (m : CascadeMode) (request : CascadeRequest) :
    Keeps Silent (m.handOver request) := by
  have law := Silent.law
  have hemit : ∀ e : Effect, e.count? = none → Keeps Silent (emit e) :=
    fun e he w => .nothing (w.counted_noted he) rfl
  have hput : Keeps Silent (enqueue request) := fun w => .nothing rfl rfl
  cases m with
  | pool => exact law.bind (hemit _ rfl) fun _ => law.bind hput fun _ => law.pure true
  | closed =>
    exact law.bind (law.logFault _ _ _) fun _ => law.bind (hemit _ rfl) fun _ => law.pure false
  | queue | worked =>
    exact law.bind (hemit _ rfl) fun _ => law.bind hput fun _ => law.bind (law.log _ _ _ _)
      fun _ => law.pure true
  | broken => exact law.bind (law.logFault _ _ _) fun _ => law.pure false

theorem accounts : ∀ (t : Taker) (request : CascadeRequest),
    (t.journal env request).Accounts (t.handOver env request)
  | mode m, request => .silent (silent_mode m request)
  | inPlace rest, request =>
    (Journal.accounts_runCascade rest.accounts request).outcome.before_silent fun _ =>
      Silent.law.pure true

end Taker

namespace Journal

/-- A job is run if the settings are right and its payload is a request. -/
def runJob (env : Environment) (h : HandOver) (K : CascadeRequest → Journal) (payload : Json) :
    Journal :=
  after (configured env) fun _ =>
    match CascadeRequest.ofPayload payload with
    | .ok request => runCascade env h K request
    | .error _ => nothing

section

variable {env : Environment} {h : HandOver} {K : CascadeRequest → Journal}
  (hK : ∀ request, (K request).Accounts (h request))

include hK

theorem accounts_runOnWorker (request : CascadeRequest) :
    (runCascade env h K request).Accounts (Engine.runOnWorker env h request) := by
  refine (accounts_runCascade hK request).outcome.before_silent fun result => ?_
  cases result with
  | ok report => exact Silent.law.pure ()
  | error f => exact Silent.law.logFault _ _ _

theorem accounts_runJob (payload : Json) :
    (runJob env h K payload).Accounts (Engine.runJob env h payload) := by
  refine .after_silent Silent.law.configured fun _ => ?_
  cases CascadeRequest.ofPayload payload with
  | ok request => exact accounts_runCascade hK request
  | error f => exact .silent (Silent.law.raise _)

end
end Journal

/-- What can come of time, with what is told of it, the latest last. Users send requests to the
server or ask for something without it, runs are started, and workers take up cascades. In between,
anything can happen that counts nothing and enters nothing into the audit log. -/
inductive Chronicle : World → List Occurrence → World → Prop where
  | elsewhere {w w' : World} (htrace : w'.trace = w.trace)
    (hlogs : w'.store.logs = w.store.logs) : Chronicle w [] w'
  | served (site : Http.Site) (t : Taker) (htaker : t.handOver site.env = site.handOver)
    (r : Http.Request) (w : World) :
    Chronicle w (Journal.serve site (t.journal site.env) r w) (exec (Http.serve site r) w).2
  | asked (site : Http.Site) (t : Taker) (htaker : t.handOver site.env = site.handOver)
    (command : Http.Command) (w : World) :
    Chronicle w (Journal.command site (t.journal site.env) command w)
      (exec (Http.execute site command) w).2
  | ran (env : Environment) (t : Taker) (triggerType : String) (card pipe : RowRef) (told : Json)
    (depth : Option Int) (w : World) :
    Chronicle w
      (Journal.runOn env (t.handOver env) (t.journal env) triggerType card pipe told depth w)
      (exec (runOn env (t.handOver env) triggerType card pipe told depth) w).2
  | worked (env : Environment) (t : Taker) (request : CascadeRequest) (w : World) :
    Chronicle w
      (Journal.runCascade env (t.handOver env) (t.journal env) request
        { w with spans := [], ambient := {} })
      (exec (detached (runOnWorker env (t.handOver env) request)) w).2
  | job (env : Environment) (t : Taker) (payload : Json) (w : World) :
    Chronicle w
      (Journal.runJob env (t.handOver env) (t.journal env) payload
        { w with spans := [], ambient := {} })
      (exec (detached (runJob env (t.handOver env) payload)) w).2
  | trans {w₁ w₂ w₃ : World} {js js' : List Occurrence} (h : Chronicle w₁ js w₂)
    (h' : Chronicle w₂ js' w₃) : Chronicle w₁ (js ++ js') w₃

/-- All that comes of time is told, and no action is awaited in the end unless a run has raised. -/
theorem Chronicle.accounted {w w' : World} {js : List Occurrence} (h : Chronicle w js w') :
    Tally js w w' ∧ Settled js := by
  have hends : ∀ {α : Type} {J : Journal} {body : Engine α}, J.Accounts body → ∀ w,
      Tally (J w) w (exec body w).2 ∧ Settled (J w) := fun h => Journal.Accounts.iff_ends.mp h
  induction h with
  | elsewhere htrace hlogs =>
    exact ⟨.nothing (by unfold World.counted; rw [htrace]) hlogs, .nil⟩
  | served site t htaker r w =>
    exact hends (Journal.accounts_serve (fun request => htaker ▸ t.accounts site.env request) r) w
  | asked site t htaker command w =>
    exact hends
      (Journal.accounts_command (fun request => htaker ▸ t.accounts site.env request) command) w
  | ran env t triggerType card pipe told depth w =>
    exact hends (Journal.accounts_runOn (t.accounts env) triggerType card pipe told depth) w
  | worked env t request w =>
    exact hends (Journal.accounts_runOnWorker (t.accounts env) request).detached w
  | job env t payload w =>
    exact hends (Journal.accounts_runJob (t.accounts env) payload).detached w
  | trans _ _ ih ih' => exact ⟨ih.1.trans ih'.1, ih.2.append ih'.2⟩

/-- What workers make of the requests that are put aside is told, too. -/
theorem Chronicle.of_worked {env : Environment} {t : Taker} {w w' : World}
    (h : Worked env (t.handOver env) w w') : ∃ js, Chronicle w js w' := by
  induction h with
  | done w => exact ⟨[], .elsewhere rfl rfl⟩
  | @ran w w' before request after _ _ ih =>
    obtain ⟨js, hrest⟩ := ih
    have htaken : Chronicle w [] (w.pending (before ++ after)) := .elsewhere rfl rfl
    exact ⟨_, htaken.trans ((Chronicle.worked env t request _).trans hrest)⟩
  | @job w w' before request after _ _ ih =>
    obtain ⟨js, hrest⟩ := ih
    have htaken : Chronicle w [] (w.pending (before ++ after)) := .elsewhere rfl rfl
    exact ⟨_, htaken.trans ((Chronicle.job env t request.toPayload _).trans hrest)⟩

namespace Occurrence

/-- The trigger type of a run that is over. -/
def run? : Occurrence → Option String
  | ran triggerType _ => some triggerType
  | _ => none

def isRaise : Occurrence → Bool
  | ran _ raised => raised
  | _ => false

def isBlock : Occurrence → Bool
  | blocked => true
  | _ => false

/-- How often something is counted up is how often that happens which it is counted up for. -/
theorem count_map {α : Type} {f : Occurrence → Option α} {p : α → Bool}
    {c : String × List (String × String)} (h : ∀ o : Occurrence, (o.count == c) = (f o).any p)
    (js : List Occurrence) : (js.map count).count c = (js.filterMap f).countP p := by
  induction js with
  | nil => rfl
  | cons o js ih =>
    rw [List.map_cons, List.count_cons, ih, h]
    cases hf : f o with
    | none =>
      rw [List.filterMap_cons_none hf]
      rfl
    | some a =>
      rw [List.filterMap_cons_some hf, List.countP_cons]
      rfl

variable (js : List Occurrence)

theorem count_runs (triggerType : String) :
    (js.map count).count ("automation_runs_total", [("trigger_type", triggerType)]) =
      (js.filterMap run?).count triggerType :=
  count_map (fun o => by cases o <;> simp [count, run?]) js

theorem count_blocks :
    (js.map count).count ("automation_cascade_blocks_total", [("reason", "MAX_DEPTH")]) =
      js.countP isBlock := by
  rw [count_map (f := some) (p := isBlock) (fun o => by cases o <;> simp [count, isBlock]) js,
    List.filterMap_some]

theorem count_actions (type status : String) :
    (js.map count).count ("automation_actions_total",
      [("action_type", type), ("status", status)]) =
        (js.filterMap acted?).count (type, status) :=
  count_map (fun o => by cases o <;> simp [count, acted?]) js

theorem count_executions (triggerType status : String) :
    (js.map count).count ("automation_executions_total",
      [("trigger_type", triggerType), ("status", status)]) =
        (js.filterMap row?).countP fun row =>
          row.triggerType == triggerType && row.status == status :=
  count_map (fun o => by
    rw [Bool.eq_iff_iff]
    cases o <;> simp [count, row?]) js

end Occurrence

theorem Tally.reading {js : List Occurrence} {w w' : World} (h : Tally js w w') {counter : String}
    (hcounter : counter ∈ automationCounters) (labels : List (String × String)) :
    w'.reading counter labels =
      w.reading counter labels + (js.map Occurrence.count).count (counter, labels) := by
  rw [World.reading_eq w' hcounter, World.reading_eq w hcounter, h.counted, List.count_append,
    List.count_reverse, Nat.add_comm]

/-- Where no action is awaited, the actions that have been counted are those told of. -/
theorem Awaits.count_actions {js : List Occurrence} (h : Awaits [] js) (type status : String) :
    (js.filterMap Occurrence.acted?).count (type, status) =
      ((js.filterMap Occurrence.row?).flatMap LogRow.kinds).count (type, status) := by
  rw [List.Perm.count_eq h, List.append_nil]

/-- From one world to another, the counters of the automations go on with the rows that are entered
into the audit log and with the runs and moves of which is told. -/
structure CountersAgree (js : List Occurrence) (rows : List LogRow) (w w' : World) : Prop where
  logs : w'.store.logs = w.store.logs ++ rows
  /-- An execution is counted for every row, whatever becomes of the run. -/
  executions : ∀ triggerType status,
    w'.reading "automation_executions_total" [("trigger_type", triggerType), ("status", status)] =
      w.reading "automation_executions_total" [("trigger_type", triggerType), ("status", status)] +
        rows.countP fun row => row.triggerType == triggerType && row.status == status
  /-- A run is counted whether it raises or not. -/
  runs : ∀ triggerType,
    w'.reading "automation_runs_total" [("trigger_type", triggerType)] =
      w.reading "automation_runs_total" [("trigger_type", triggerType)] +
        (js.filterMap Occurrence.run?).count triggerType
  blocks : w'.reading "automation_cascade_blocks_total" [("reason", "MAX_DEPTH")] =
    w.reading "automation_cascade_blocks_total" [("reason", "MAX_DEPTH")] +
      js.countP Occurrence.isBlock
  /-- If no run raises, an action is counted for every entry about one in the rows. -/
  actions : (∀ triggerType, Occurrence.ran triggerType true ∉ js) → ∀ type status,
    w'.reading "automation_actions_total" [("action_type", type), ("status", status)] =
      w.reading "automation_actions_total" [("action_type", type), ("status", status)] +
        (rows.flatMap LogRow.kinds).count (type, status)

theorem Chronicle.countersAgree {w w' : World} {js : List Occurrence} (h : Chronicle w js w') :
    CountersAgree js (js.filterMap Occurrence.row?) w w' := by
  obtain ⟨htally, hsettled⟩ := h.accounted
  have hreading : ∀ counter ∈ automationCounters, ∀ labels, w'.reading counter labels =
      w.reading counter labels + (js.map Occurrence.count).count (counter, labels) :=
    fun counter hcounter labels => htally.reading hcounter labels
  refine ⟨htally.logs, fun triggerType status => ?_, fun triggerType => ?_, ?_,
    fun hcalm type status => ?_⟩
  · rw [hreading _ (by decide), Occurrence.count_executions]
  · rw [hreading _ (by decide), Occurrence.count_runs]
  · rw [hreading _ (by decide), Occurrence.count_blocks]
  · rw [hreading _ (by decide), Occurrence.count_actions,
      (hsettled hcalm).count_actions type status]

theorem Occurrence.not_raised_of_all {js : List Occurrence}
    (h : js.all (fun o => !o.isRaise) = true) (triggerType : String) :
    Occurrence.ran triggerType true ∉ js := fun hmem => nomatch List.all_eq_true.mp h _ hmem

/-- The counters agree with the audit log. In order: over all that can come of time, an execution is
counted for every row of the audit log, a run for every run, a block for every cascade that is
blocked, and, unless a run raises, an action for every entry about one; a run begins only if its
occasion is well-formed, and then it is told of once it is over, whether it has raised or not; an
action at the greatest depth blocks a cascade just if it is a move that succeeds, and sets off
nothing; and an action at a smaller depth blocks none by itself. -/
theorem counters_agree :
    (∀ w w' js, Chronicle w js w' → ∃ rows, CountersAgree js rows w w') ∧
    (∀ (env : Environment) (h : HandOver) (K : CascadeRequest → Journal) (triggerType : String)
        (card pipe : RowRef) (told : Json) (depth : Option Int) (w : World),
      (∀ es, Occasion.ofJson told = .error es →
        Journal.runOn env h K triggerType card pipe told depth w = []) ∧
      ∀ occasion, Occasion.ofJson told = .ok occasion →
        ∃ js, Journal.runOn env h K triggerType card pipe told depth w = js ++ [.ran triggerType
          (!(exec (runOn env h triggerType card pipe told depth) w).1.isOk)]) ∧
    (∀ (env : Environment) (h : HandOver) (K : CascadeRequest → Journal) (ctx : ActionContext)
        (payload : Json) (w w' : World) (record : ActionRecord),
      exec (perform env h ctx payload) w = (.ok record, w') →
        (env.maxDepth < ctx.depth + 1 → Journal.perform env h K ctx payload w =
          (if record.isMove then [.blocked] else []) ++
            [.acted record.type record.outcome.status]) ∧
        (ctx.depth + 1 ≤ env.maxDepth → ∃ js,
          Journal.perform env h K ctx payload w =
            js ++ [.acted record.type record.outcome.status] ∧
          (js = [] ∨ ∃ request v, js = K request v))) := by
  refine ⟨fun w w' js h => ⟨_, h.countersAgree⟩, ?_, ?_⟩
  · intro env h K triggerType card pipe told depth w
    refine ⟨fun es hes => ?_, fun occasion hoccasion => ?_⟩
    · have hread : exec (occasionOf told) w = (.error (.invalid "TriggerContext" es), w) := by
        unfold occasionOf
        rw [hes]
        rfl
      exact Journal.after_error hread _
    · have hread : exec (occasionOf told) w = (.ok occasion, w) := by
        unfold occasionOf
        rw [hoccasion]
        rfl
      unfold Journal.runOn Engine.runOn
      rw [Journal.after_ok hread, exec_bind_ok hread, exec_bind_ok (exec_get w)]
      unfold Journal.run
      exact ⟨_, rfl⟩
  · intro env h K ctx payload w w' record hexec
    refine ⟨fun hdeep => Journal.perform_deepest hdeep hexec, fun hdepth => ?_⟩
    refine ⟨Journal.attempt env K ctx payload (w.acting ctx payload), ?_,
      Journal.attempt_handed hdepth payload _⟩
    unfold Journal.perform
    rw [Journal.after_ok hexec]

/-- On the small board, the first run moves the card and is followed by a cascade at once. The second
one moves it at the greatest depth, where a cascade is blocked. -/
theorem counters_agree_sample : ∃ js w' rows, Chronicle { store := Store.sample } js w' ∧
    w'.store.logs = rows ∧
    rows.countP (fun row => row.triggerType == "card_enters_stage" && row.status == "success") = 2 ∧
    (js.filterMap Occurrence.run?).count "card_enters_stage" = 3 ∧
    js.countP Occurrence.isBlock = 1 ∧
    (rows.flatMap LogRow.kinds).count ("move_card", "success") = 2 := by
  have hchronicle : Chronicle { store := Store.sample } _ _ :=
    .trans (.ran Environment.sample (.inPlace (.mode .pool)) "card_enters_stage"
        (.ofUuid ⟨3, by decide⟩) (.ofUuid ⟨1, by decide⟩) .null none { store := Store.sample })
      (.ran Environment.sample (.mode .pool) "card_enters_stage" (.ofUuid ⟨3, by decide⟩)
        (.ofUuid ⟨1, by decide⟩) .null (some 3) _)
  obtain ⟨rows, hagree⟩ := counters_agree.1 _ _ _ hchronicle
  refine ⟨_, _, rows, hchronicle, hagree.logs, ?_, ?_, ?_, ?_⟩
  · refine Nat.add_left_cancel ((hagree.executions "card_enters_stage" "success").symm.trans ?_)
    decide +kernel
  · refine Nat.add_left_cancel ((hagree.runs "card_enters_stage").symm.trans ?_)
    decide +kernel
  · refine Nat.add_left_cancel (hagree.blocks.symm.trans ?_)
    decide +kernel
  · refine Nat.add_left_cancel ((hagree.actions ?_ "move_card" "success").symm.trans ?_)
    · exact Occurrence.not_raised_of_all (by decide +kernel)
    · decide +kernel

end BoardRules
