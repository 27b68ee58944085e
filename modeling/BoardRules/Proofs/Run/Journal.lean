import BoardRules.Proofs.Action.Follow
import BoardRules.Proofs.Engine.Count
import BoardRules.Proofs.Run.Trace

/-! The journal of a run. It is read off the programs that a run consists of, each from the world in
which it begins: an action that comes to a record has taken place, a move that is committed at the
greatest depth blocks a cascade, an automation that is entered stands in the audit log, and a run is
over whichever way it ends. What becomes of a request that is handed over has a journal of its own.
-/
namespace BoardRules

open Engine

section

variable (w : World)

theorem silent_opened (name : String) : Silent w (w.opened name) := .nothing rfl rfl

theorem silent_acting (ctx : ActionContext) (payload : Json) : Silent w (w.acting ctx payload) := by
  have hshown : Keeps Silent (showAction ctx (Action.recordedType payload)) :=
    Silent.law.bind (Silent.law.annotate _ _) fun _ => Silent.law.bind (Silent.law.annotate _ _)
      fun _ => Silent.law.bind (Silent.law.annotate _ _) fun _ =>
        Keeps.get_bind fun w => Silent.law.annotate _ _ w
  exact (silent_opened w _).trans (hshown _)

theorem silent_executing (a : AutomationView) (card : RowRef) : Silent w (w.executing a card) := by
  have hshown : Keeps Silent (showExecution a card) :=
    Silent.law.bind (Silent.law.annotate _ _) fun _ => Silent.law.annotate _ _
  exact (silent_opened w _).trans (hshown _)

end

namespace Journal

section

variable (env : Environment) (h : HandOver) (K : CascadeRequest → Journal)

/-- After a move at a depth. -/
def schedule (move : CardMove) (depth : Int) : Journal := fun w =>
  if env.maxDepth < depth + 1 then [.blocked]
  else K (requestAfter move (depth + 1) w.ambient.correlation) w

/-- A move is looked up and committed, and only then something can follow. -/
def attempt (ctx : ActionContext) (payload : Json) : Journal :=
  match Action.ofJson payload with
  | .ok (.moveCard target) => after (moveNeeds env ctx.card target) fun needs =>
    after (commitMove env ctx needs.1 needs.2) fun move => schedule env K move ctx.depth
  | _ => nothing

def perform (ctx : ActionContext) (payload : Json) : Journal := fun w =>
  attempt env K ctx payload (w.acting ctx payload) ++
    after (Engine.perform env h ctx payload)
      (fun record _ => [.acted record.type record.outcome.status]) w

def performAll (ctx : ActionContext) : List Json → Journal
  | [] => nothing
  | payload :: payloads => fun w =>
    perform env h K ctx payload w ++
      after (Engine.perform env h ctx payload) (fun record =>
        match record.error? with
        | some _ => nothing
        | none => performAll ctx payloads) w

def execution (a : AutomationView) (card : RowRef) (depth : Int) : Journal :=
  after (gate env a card) fun met =>
    match met with
    | some false => nothing
    | _ => performAll env h K { card, automation := a.id, depth } a.actions

def enter (a : AutomationView) (card : RowRef) (triggerType : String) (e : Execution) : Journal :=
  fun w => after (Engine.enter env a card triggerType e) (fun _ _ =>
    (card.id?.map fun id =>
      Occurrence.entered (e.logRow id a.id triggerType (.live w.step w.tick))).toList) w

def execute (a : AutomationView) (card : RowRef) (triggerType : String) (depth : Int) : Journal :=
  fun w =>
    execution env h K a card depth (w.executing a card) ++
      after (Engine.execution env h a card depth) (enter env a card triggerType)
        (w.executing a card)

def executeMatching (card : RowRef) (triggerType : String) (depth : Int) :
    List (AutomationView × ReportDetail) → Journal
  | [] => nothing
  | p :: rest => fun w =>
    (if p.2.isMatch then execute env h K p.1 card triggerType depth w else []) ++
      after (turn env h card triggerType depth p)
        (fun _ => executeMatching card triggerType depth rest) w

def runCore (triggerType : String) (card pipe : RowRef) (occasion : Occasion) (depth : Int) :
    Journal :=
  after (opened env triggerType pipe occasion) fun found =>
    match found with
    | none => nothing
    | some examined => executeMatching env h K card triggerType depth examined

@[irreducible] def run (triggerType : String) (card pipe : RowRef) (occasion : Occasion)
    (depth : Int) : Journal := fun w =>
  runCore env h K triggerType card pipe occasion depth
      (w.running triggerType card pipe depth) ++
    [.ran triggerType (!(exec (Engine.run env h triggerType card pipe occasion depth) w).1.isOk)]

/-- A run begins only if what is told of the occasion is well-formed. -/
def runOn (triggerType : String) (card pipe : RowRef) (told : Json) (depth : Option Int) :
    Journal :=
  after (occasionOf told) fun occasion w =>
    run env h K triggerType card pipe occasion (depth.getD w.ambient.depthOrZero) w

def runCascade (request : CascadeRequest) : Journal := fun w =>
  run env h K "card_enters_stage" (.ofText request.cardId) (.ofText request.pipeId)
    (.told { stageId := some request.stageId }) request.depth
    (w.within { w.ambient with correlation := request.correlation })

end

section

variable {env : Environment} {h : HandOver} {K : CascadeRequest → Journal}

/-- An entry is written and counted, or it is neither. -/
theorem recounts_enter (a : AutomationView) (card : RowRef) (triggerType : String)
    (e : Execution) :
    (enter env a card triggerType e).Recounts (Engine.enter env a card triggerType e) := by
  intro w
  have hunwritten : ∀ w', exec (Engine.enter env a card triggerType e) w =
      (.error .storageWrite, w') → Silent w w' → Tally (enter env a card triggerType e w) w
        (exec (Engine.enter env a card triggerType e) w).2 := by
    intro w' hexec hsilent
    unfold enter
    rw [after_error hexec, hexec]
    exact hsilent
  cases hfails : env.storageFails w.accesses with
  | true =>
    refine hunwritten w.accessed (exec_bind_error ?_ _) (.nothing rfl rfl)
    unfold appendLog
    rw [exec_writing, if_pos hfails]
  | false =>
    cases hid : card.id? with
    | none =>
      refine hunwritten w.accessed.ticked (exec_bind_error ?_ _) (.nothing rfl rfl)
      unfold appendLog
      rw [exec_writing, hfails, hid]
      rfl
    | some id =>
      have hwritten : exec (appendLog env
          { card, automation := a.id, status := e.status.word, triggerType
            conditionsMet := e.conditionsMet, actions := e.actions.map ActionRecord.logEntry
            error := e.error }) w =
          (.ok (), w.accessed.ticked.storing
            (w.store.addLog (e.logRow id a.id triggerType (.live w.step w.tick)))) := by
        unfold appendLog
        rw [exec_writing, hfails, hid]
        rfl
      have hcounted : Tally [.entered (e.logRow id a.id triggerType (.live w.step w.tick))] w
          ((w.accessed.ticked.storing
            (w.store.addLog (e.logRow id a.id triggerType (.live w.step w.tick)))).noted
              (.count "automation_executions_total"
                [("trigger_type", triggerType), ("status", e.status.word)])) :=
        Tally.entered _ rfl rfl
      obtain ⟨w', hexec, htally⟩ : ∃ w',
          exec (Engine.enter env a card triggerType e) w = (.ok (), w') ∧
            Tally [.entered (e.logRow id a.id triggerType (.live w.step w.tick))] w w' :=
        ⟨_, exec_bind_ok hwritten _, hcounted.before (Silent.law.log _ _ _ _ _)⟩
      unfold enter
      rw [after_ok hexec, hexec, hid]
      exact htally

/-- What an attempt is recorded as is counted. -/
theorem tally_concludeRecord (ctx : ActionContext) (payload : Json) (r : Except Fault Entries)
    (w : World) :
    Tally (after (concludeRecord ctx payload r)
        (fun record _ => [.acted record.type record.outcome.status]) w) w
      (exec (concludeRecord ctx payload r) w).2 := by
  have hconcluded : ∀ result v v', exec (concludeAction ctx (Action.recordedType payload) r) w =
      (.ok result, v) → exec (noteSuccess (Action.recordedType payload) result) (v.closed none) =
        (.ok (), v') → Tally [.acted (Action.recordedType payload) result.status] w v' →
      Tally (after (concludeRecord ctx payload r)
        (fun record _ => [.acted record.type record.outcome.status]) w) w
        (exec (concludeRecord ctx payload r) w).2 := by
    intro result v v' hresult hnoted htally
    have hexec : exec (concludeRecord ctx payload r) w = (.ok (recordOf payload result), v') := by
      unfold concludeRecord
      rw [exec_bind_ok (exec_outcome _ _), hresult, exec_bind_ok (exec_closeSpan _ _)]
      exact exec_bind_ok hnoted _
    rw [after_ok hexec, hexec]
    exact htally
  rcases r with f | report
  · cases f with
    | action a =>
      have hmarked : Silent w (exec (markFailed a.message) w).2 := Silent.law.markFailed _ w
      have hcounted := hmarked.trans (Tally.noted (exec (markFailed a.message) w).2
        (.acted (Action.recordedType payload) "error") rfl)
      have hlogged := hcounted.before (Silent.law.log .warning actionLogger
        "automation.action.failed" [("action_type", .str (Action.recordedType payload)),
          ("automation_id", .str ctx.automation.text), ("card_id", .str ctx.card.text),
          ("reason", .str a.code), ("error", .str a.message)] _)
      exact hconcluded (.error a.message) _ _ rfl rfl
        (hlogged.before (Silent.law.closeSpan none _))
    | _ => exact Silent.law.closeSpan (some _) w
  · exact hconcluded (.success report) w _ rfl rfl
      ((Silent.law.closeSpan none w).trans (Tally.noted _ (.acted _ _) rfl))

theorem recounts_countRun (triggerType : String) (raised : Bool) :
    Recounts (fun _ => [.ran triggerType raised]) (countRun triggerType) := fun w =>
  (Tally.noted w (.ran triggerType raised) rfl).before (silent_count (by decide) _ _)

section

variable (hK : ∀ request, (K request).Recounts (h request))

include hK

theorem recounts_schedule (move : CardMove) (depth : Int) :
    (schedule env K move depth).Recounts (scheduleCascade env h move depth) := by
  intro w
  unfold schedule scheduleCascade
  dsimp only
  split
  · have hlogged : Tally [] w _ := Silent.law.log .warning runLogger "automation_cascade_blocked"
      [("reason", .str "MAX_DEPTH"), ("card_id", .str move.card.text),
        ("stage_id", .str move.toStage.text), ("cascade_depth", .int (depth + 1)),
        ("max_depth", .int env.maxDepth)] w
    exact hlogged.trans (Tally.noted _ .blocked rfl)
  · rw [exec_bind_ok (exec_get w)]
    refine Recounts.before_silent (hK _) (fun taken => ?_) w
    cases taken with
    | false => exact Silent.law.pure false
    | true => exact Silent.law.bind (Silent.law.log _ _ _ _) fun _ => Silent.law.pure true

theorem recounts_attempt (ctx : ActionContext) (payload : Json) :
    (attempt env K ctx payload).Recounts (Engine.attempt env h ctx payload) := by
  unfold attempt
  cases haction : Action.ofJson payload with
  | error f =>
    unfold Engine.attempt
    rw [haction]
    exact .silent (Silent.law.raise _)
  | ok action =>
    cases action with
    | moveCard target =>
      rw [attempt_move haction, moveToStage_eq]
      exact .after_silent (Silent.law.moveNeeds _ _) fun needs =>
        .after_silent (Silent.law.commitMove _ _ _) fun move =>
          .before_silent (recounts_schedule hK move ctx.depth) fun _ => Silent.law.pure _
    | _ =>
      unfold Engine.attempt
      rw [haction]
      exact .silent (Silent.law.carryOut h ctx fun target htarget => nomatch htarget)

theorem recounts_perform (ctx : ActionContext) (payload : Json) :
    (perform env h K ctx payload).Recounts (Engine.perform env h ctx payload) := by
  intro w
  have hshown : Silent w (w.acting ctx payload) := silent_acting w ctx payload
  have hattempted : (attempt env K ctx payload).Recounts (Engine.attempt env h ctx payload) :=
    recounts_attempt hK ctx payload
  have hconcluded := tally_concludeRecord ctx payload
    (exec (Engine.attempt env h ctx payload) (w.acting ctx payload)).1
    (exec (Engine.attempt env h ctx payload) (w.acting ctx payload)).2
  have hperform : exec (Engine.perform env h ctx payload) w = exec (concludeRecord ctx payload
      (exec (Engine.attempt env h ctx payload) (w.acting ctx payload)).1)
      (exec (Engine.attempt env h ctx payload) (w.acting ctx payload)).2 :=
    exec_perform_acting env h ctx payload w
  unfold perform after
  rw [hperform]
  exact (hshown.trans (hattempted _)).trans hconcluded

theorem recounts_performAll (ctx : ActionContext) : ∀ payloads,
    (performAll env h K ctx payloads).Recounts (Engine.performAll env h ctx payloads)
  | [] => .silent (Silent.law.pure [])
  | payload :: payloads => by
    refine .bind (recounts_perform hK ctx payload) fun record => ?_
    cases record.error? with
    | some message => exact .silent (Silent.law.pure _)
    | none =>
      exact .before_silent (recounts_performAll ctx payloads) fun _ => Silent.law.pure _

theorem recounts_execution (a : AutomationView) (card : RowRef) (depth : Int) :
    (execution env h K a card depth).Recounts (Engine.execution env h a card depth) := by
  refine .after_silent (Silent.law.gate a card) fun met => ?_
  rcases met with _ | _ | _
  · exact .before_silent (recounts_performAll hK _ _) fun _ => Silent.law.pure _
  · exact .silent (Silent.law.pure _)
  · exact .before_silent (recounts_performAll hK _ _) fun _ => Silent.law.pure _

theorem recounts_execute (a : AutomationView) (card : RowRef) (triggerType : String)
    (depth : Int) : (execute env h K a card triggerType depth).Recounts
      (Engine.execute env h a card triggerType depth) := by
  intro w
  rw [exec_execute]
  have hshown : Silent w (w.executing a card) := silent_executing w a card
  have hexecution : (execution env h K a card depth).Recounts
      (Engine.execution env h a card depth) := recounts_execution hK a card depth
  have hentered : ∀ e, (enter env a card triggerType e).Recounts (do
      Engine.enter env a card triggerType e
      annotate "status" (.str e.status.word)
      return e) := fun e =>
    (recounts_enter a card triggerType e).before_silent fun _ =>
      Silent.law.bind (Silent.law.annotate _ _) fun _ => Silent.law.pure e
  exact (hshown.trans (hexecution.bind hentered _)).before (Silent.law.closeSpan _ _)

theorem recounts_executeMatching (card : RowRef) (triggerType : String) (depth : Int) :
    ∀ examined, (executeMatching env h K card triggerType depth examined).Recounts
      (Engine.executeMatching env h card triggerType depth examined)
  | [] => .silent (Silent.law.pure [])
  | p :: rest => by
    rw [executeMatching_cons]
    refine .bind (J := fun w => if p.2.isMatch then _ else []) ?_ fun _ =>
      .before_silent (recounts_executeMatching card triggerType depth rest) fun _ =>
        Silent.law.pure _
    unfold turn
    split
    · exact .map _ (recounts_execute hK p.1 card triggerType depth)
    · exact .silent (Silent.law.pure _)

theorem recounts_runInSpan (triggerType : String) (card pipe : RowRef) (occasion : Occasion)
    (depth : Int) :
    (after (showRun triggerType card pipe depth) fun _ =>
      runCore env h K triggerType card pipe occasion depth).Recounts
        (runInSpan env h triggerType card pipe occasion depth) := by
  have hshown : Keeps Silent (showRun triggerType card pipe depth) :=
    Silent.law.bind (Silent.law.annotate _ _) fun _ => Silent.law.bind (Silent.law.annotate _ _)
      fun _ => Silent.law.bind (Silent.law.annotate _ _) fun _ =>
        Silent.law.bind (Silent.law.annotate _ _) fun _ =>
          Keeps.get_bind fun w => Silent.law.annotate _ _ w
  have hopened : Keeps Silent (opened env triggerType pipe occasion) := by
    refine Silent.law.bind (Silent.law.loadAutomations pipe triggerType) fun found => ?_
    cases found with
    | none => exact Silent.law.pure none
    | some automations =>
      exact Keeps.map _ (Silent.law.mapM (Silent.law.examine triggerType occasion) automations)
  rw [runInSpan_eq]
  refine .after_silent hshown fun _ => .after_silent hopened fun found => ?_
  cases found with
  | none => exact .silent (Silent.law.bind (Silent.law.log _ _ _ _) fun _ => Silent.law.pure _)
  | some examined =>
    exact .before_silent (recounts_executeMatching hK card triggerType depth examined)
      fun details => Silent.law.bind (Silent.law.bind (Silent.law.annotate _ _) fun _ =>
        Silent.law.bind (Silent.law.annotate _ _) fun _ => Silent.law.log _ _ _ _) fun _ =>
          Silent.law.pure _

/-- A run is counted once it is over, whichever way it ends. -/
theorem recounts_run (triggerType : String) (card pipe : RowRef) (occasion : Occasion)
    (depth : Int) : (run env h K triggerType card pipe occasion depth).Recounts
      (Engine.run env h triggerType card pipe occasion depth) := by
  intro w
  have hspan : (after (showRun triggerType card pipe depth) fun _ =>
      runCore env h K triggerType card pipe occasion depth).Recounts
        (runInSpan env h triggerType card pipe occasion depth) :=
    recounts_runInSpan hK triggerType card pipe occasion depth
  have hbody := (hspan.spanning "automation.run").outcome
  have hrun := ((hbody.bind (F := fun result _ => [.ran triggerType (!result.isOk)]) fun result =>
    (recounts_countRun triggerType (!result.isOk)).before_silent fun _ =>
      Silent.law.ofExcept result).withAmbient fun a => { a with depth := some depth }) w
  have hshow : exec (showRun triggerType card pipe depth)
      ((w.within { w.ambient with depth := some depth }).opened "automation.run") =
      (.ok (), w.running triggerType card pipe depth) :=
    (passes_showRun triggerType card pipe depth).exec_eq _
  have hended : (exec (Engine.run env h triggerType card pipe occasion depth) w).1 =
      (exec (Engine.spanning "automation.run"
        (runInSpan env h triggerType card pipe occasion depth))
          (w.within { w.ambient with depth := some depth })).1 := by
    obtain ⟨_, -, hcount⟩ := exec_countRun triggerType (exec (Engine.spanning "automation.run"
      (runInSpan env h triggerType card pipe occasion depth))
        (w.within { w.ambient with depth := some depth })).2
    unfold Engine.run withDepth
    rw [exec_withAmbient, exec_bind_ok (exec_outcome _ _), exec_bind_ok hcount, exec_ofExcept]
  unfold run
  rw [hended]
  dsimp only at hrun
  rw [after_ok hshow, after_ok (exec_outcome _ _)] at hrun
  exact hrun

end

/-- At the greatest depth a move that is made blocks a cascade. -/
theorem attempt_move_deepest {ctx : ActionContext} (hdeep : env.maxDepth < ctx.depth + 1)
    {payload : Json} {target : String} (haction : Action.ofJson payload = .ok (.moveCard target))
    (w : World) : attempt env K ctx payload w =
      if (exec (Engine.attempt env h ctx payload) w).1.isOk then [.blocked] else [] := by
  rw [attempt_move haction, moveToStage_eq]
  unfold attempt
  rw [haction]
  dsimp only
  rcases hneeds : exec (moveNeeds env ctx.card target) w with ⟨f | needs, w₁⟩
  · rw [after_error hneeds, exec_bind_error hneeds]
    rfl
  · rw [after_ok hneeds, exec_bind_ok hneeds]
    rcases hcommit : exec (commitMove env ctx needs.1 needs.2) w₁ with ⟨f | move, w₂⟩
    · rw [after_error hcommit, exec_bind_error hcommit]
      rfl
    · obtain ⟨w₃, -, hrefused⟩ := scheduleCascade_refused env move hdeep w₂
      rw [after_ok hcommit, exec_bind_ok hcommit, exec_bind_ok (hrefused h)]
      exact if_pos hdeep

/-- No other action does, and none that fails. -/
theorem attempt_deepest {ctx : ActionContext} (hdeep : env.maxDepth < ctx.depth + 1)
    {payload : Json} {w : World} {record : ActionRecord}
    (hrecord : recorded payload (exec (Engine.attempt env h ctx payload) w).1 = .ok record) :
    attempt env K ctx payload w = if record.isMove then [.blocked] else [] := by
  cases hended : (exec (Engine.attempt env h ctx payload) w).1 with
  | error f =>
    rw [hended] at hrecord
    rw [isMove_of_fault payload f record hrecord]
    cases haction : Action.ofJson payload with
    | error g => simp [attempt, haction, nothing]
    | ok action =>
      cases action with
      | moveCard target =>
        rw [attempt_move_deepest hdeep haction, hended]
        rfl
      | _ => simp [attempt, haction, nothing]
  | ok report =>
    rw [hended] at hrecord
    cases haction : Action.ofJson payload with
    | error g =>
      unfold Engine.attempt at hended
      rw [haction] at hended
      cases hended
    | ok action =>
      cases action with
      | moveCard target =>
        rw [attempt_move_deepest hdeep haction, hended]
        cases hrecord
        rw [isMove_of_success report haction]
        rfl
      | _ =>
        rw [isMove_of_report haction (fun target h => nomatch h) record hrecord]
        simp [attempt, haction, nothing]

/-- At a smaller depth nothing is blocked. What follows is what becomes of one request. -/
theorem attempt_handed {ctx : ActionContext} (hdepth : ctx.depth + 1 ≤ env.maxDepth)
    (payload : Json) (w : World) : attempt env K ctx payload w = [] ∨
      ∃ request w₁, attempt env K ctx payload w = K request w₁ := by
  unfold attempt
  cases Action.ofJson payload with
  | error f => exact .inl rfl
  | ok action =>
    cases action with
    | moveCard target =>
      dsimp only
      rcases hneeds : exec (moveNeeds env ctx.card target) w with ⟨f | needs, w₁⟩
      · exact .inl (after_error hneeds _)
      · rw [after_ok hneeds]
        rcases hcommit : exec (commitMove env ctx needs.1 needs.2) w₁ with ⟨f | move, w₂⟩
        · exact .inl (after_error hcommit _)
        · rw [after_ok hcommit]
          exact .inr ⟨_, w₂, if_neg (Int.not_lt.mpr hdepth)⟩
    | _ => exact .inl rfl

/-- An action at the greatest depth comes to a record and sets off nothing. -/
theorem perform_deepest {ctx : ActionContext} (hdeep : env.maxDepth < ctx.depth + 1)
    {payload : Json} {w w' : World} {record : ActionRecord}
    (hexec : exec (Engine.perform env h ctx payload) w = (.ok record, w')) :
    perform env h K ctx payload w =
      (if record.isMove then [.blocked] else []) ++ [.acted record.type record.outcome.status] := by
  have hended := congrArg Prod.fst hexec
  obtain ⟨w₁, -, hconclude⟩ := exec_concludeRecord ctx payload
    (exec (Engine.attempt env h ctx payload) (w.acting ctx payload)).1
    (exec (Engine.attempt env h ctx payload) (w.acting ctx payload)).2
  rw [exec_perform_acting, exec_bind_ok (exec_outcome _ _), hconclude] at hended
  unfold perform
  rw [after_ok hexec, attempt_deepest hdeep hended]

end
end Journal
end BoardRules
