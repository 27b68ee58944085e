import BoardRules.Engine.Run

/-! How deep cascades are. A run depends on whoever takes requests over only through requests that
are deeper than the run by one and no deeper than is allowed: it hands over no others. -/
namespace BoardRules.Engine

/-- Whether two takers are the same to a run at a depth. -/
def AgreeBelow (env : Environment) (depth : Int) (h h' : HandOver) : Prop :=
  ∀ request, request.depth = depth + 1 → request.depth ≤ env.maxDepth → h request = h' request

variable {env : Environment} {depth : Int} {h h' : HandOver}

theorem agreeBelow_of_le (hdepth : env.maxDepth ≤ depth) : AgreeBelow env depth h h' := by
  intro request hdeeper hallowed
  omega

theorem scheduleCascade_congr (hagree : AgreeBelow env depth h h') (move : CardMove) :
    scheduleCascade env h move depth = scheduleCascade env h' move depth := by
  unfold scheduleCascade
  dsimp only
  by_cases hdepth : env.maxDepth < depth + 1
  · rw [if_pos hdepth, if_pos hdepth]
  · rw [if_neg hdepth, if_neg hdepth]
    have hrequest : ∀ correlation, h (requestAfter move (depth + 1) correlation) =
        h' (requestAfter move (depth + 1) correlation) := fun correlation =>
      hagree _ rfl (Int.not_lt.mp hdepth)
    simp only [hrequest]

theorem carryOut_congr (ctx : ActionContext) (hagree : AgreeBelow env ctx.depth h h')
    (action : Action) : carryOut env h ctx action = carryOut env h' ctx action := by
  cases action with
  | moveCard target =>
    unfold carryOut moveToStage
    simp only [scheduleCascade_congr hagree]
  | _ => rfl

theorem perform_congr (ctx : ActionContext) (hagree : AgreeBelow env ctx.depth h h')
    (payload : Json) : perform env h ctx payload = perform env h' ctx payload := by
  have hattempt : attempt env h ctx payload = attempt env h' ctx payload := by
    unfold attempt
    simp only [carryOut_congr ctx hagree]
  unfold perform tryAction
  rw [hattempt]

theorem performAll_congr (ctx : ActionContext) (hagree : AgreeBelow env ctx.depth h h')
    (payloads : List Json) : performAll env h ctx payloads = performAll env h' ctx payloads := by
  induction payloads with
  | nil => rfl
  | cons payload payloads ih =>
    unfold performAll
    rw [perform_congr ctx hagree, ih]

theorem execute_congr (hagree : AgreeBelow env depth h h') (a : AutomationView) (card : RowRef)
    (triggerType : String) :
    execute env h a card triggerType depth = execute env h' a card triggerType depth := by
  have hall := performAll_congr { card, automation := a.id, depth } hagree a.actions
  unfold execute execution
  simp only [hall]

theorem executeMatching_congr (hagree : AgreeBelow env depth h h') (card : RowRef)
    (triggerType : String) (examined : List (AutomationView × ReportDetail)) :
    executeMatching env h card triggerType depth examined =
      executeMatching env h' card triggerType depth examined := by
  induction examined with
  | nil => rfl
  | cons p examined ih =>
    unfold executeMatching
    rw [execute_congr hagree, ih]

/-- A run is the same for any two takers that agree on requests deeper by one and still allowed. -/
theorem run_congr (hagree : AgreeBelow env depth h h') (triggerType : String) (card pipe : RowRef)
    (occasion : Occasion) :
    run env h triggerType card pipe occasion depth =
      run env h' triggerType card pipe occasion depth := by
  unfold run runInSpan runLoaded
  simp only [executeMatching_congr hagree]

end BoardRules.Engine
