import BoardRules.Proofs.Action.Course

/-! The record of an action. An action is tried once, inside a span; what is recorded depends on how
the attempt ended, and the ledger is the one that the attempt has left. -/
namespace BoardRules

namespace Action

/-- The type that an action is stored with. -/
def typeName : Action → String
  | .sendFormLink .. => "send_form_link"
  | .sendEmail .. => "send_email"
  | .moveCard _ => "move_card"
  | .updateField .. => "update_field"

theorem configured_eq_ok {type : String} {read : Entries → Checked Action} {config : Option Json}
    {action : Action} (h : configured type read config = .ok action) :
    ∃ es, read es = .ok action := by
  have hread := mapError_eq_ok (mapError_eq_ok h)
  split at hread
  · cases hread
  · exact ⟨_, hread⟩
  · cases hread

/-- Each type has a reader of its own, which reads no actions of other types. -/
theorem typeName_of_reader {type : String} {read : Entries → Checked Action} {es : Entries}
    {action : Action} (hreader : reader? type = some read) (hread : read es = .ok action) :
    action.typeName = type := by
  unfold reader? at hreader
  split at hreader
  all_goals
    cases hreader
    try
      obtain ⟨p, -, hp⟩ := bind_eq_ok.mp hread
      cases hp
      rfl

theorem type_of_ofJson {payload : Json} {action : Action} (h : ofJson payload = .ok action) :
    payload.entries.getD "type" = .str action.typeName := by
  unfold ofJson at h
  dsimp only at h
  split at h
  · cases h
  · rename_i type read hreader
    obtain ⟨text, htext, hmap⟩ := Option.bind_eq_some_iff.mp hreader
    obtain ⟨read', hread', hpair⟩ := Option.map_eq_some_iff.mp hmap
    cases hpair
    obtain ⟨es, hes⟩ := configured_eq_ok (mapError_eq_ok h)
    rw [typeName_of_reader hread' hes]
    unfold Json.text? at htext
    split at htext
    · rename_i hstr
      cases htext
      exact hstr
    · cases htext

theorem recordedType_of_ofJson {payload : Json} {action : Action}
    (h : ofJson payload = .ok action) : recordedType payload = action.typeName := by
  unfold recordedType
  rw [type_of_ofJson h]
  cases action <;> rfl

end Action

namespace Engine

variable {env : Environment} {ctx : ActionContext} {payload : Json} {w : World}

def recordOf (payload : Json) (result : ActionOutcome) : ActionRecord :=
  ⟨Action.recordedType payload, Action.recordedConfig payload, result⟩

/-- What is recorded of an attempt. Only the failures of an action become records. -/
def recorded (payload : Json) : Except Fault Entries → Except Fault ActionRecord
  | .ok report => .ok (recordOf payload (.success report))
  | .error (.action a) => .ok (recordOf payload (.error a.message))
  | .error f => .error f

theorem passes_noteFailure (ctx : ActionContext) (type : String) (f : ActionFailure) :
    Passes (noteFailure ctx type f) := by
  unfold noteFailure
  refine Passes.bind (fun w => ⟨_, rfl, quiet_markFailed _ w⟩) ?_
  refine Passes.bind (fun w => ⟨_, rfl, quiet_count _ (by decide) (by decide) _ w⟩) ?_
  exact passes_log actionLogger (by decide) _ _ _

def showAction (ctx : ActionContext) (type : String) : Engine Unit := do
  annotate "action_type" (.str type)
  annotate "automation_id" (.str ctx.automation.text)
  annotate "card_id" (.str ctx.card.text)
  annotate "correlation_id" (← get).ambient.correlationShown

theorem passes_showAction (ctx : ActionContext) (type : String) : Passes (showAction ctx type) := by
  unfold showAction
  exact Passes.bind (passes_annotate _ _) (Passes.bind (passes_annotate _ _)
    (Passes.bind (passes_annotate _ _) (passes_annotateOf _ _)))

def concludeAction (ctx : ActionContext) (type : String) :
    Except Fault Entries → Engine ActionOutcome
  | .ok result => return .success result
  | .error (.action f) => do
    noteFailure ctx type f
    return .error f.message
  | .error f => raise f

theorem tryAction_eq (h : HandOver) (type : String) :
    tryAction env h ctx payload type =
      showAction ctx type >>= fun _ =>
        outcome (attempt env h ctx payload) >>= concludeAction ctx type := by
  unfold tryAction showAction
  simp only [bind_assoc]
  rfl

def noteSuccess (type : String) : ActionOutcome → Engine Unit
  | .success _ => count "automation_actions_total" [("action_type", type), ("status", "success")]
  | .error _ => pure ()

theorem passes_noteSuccess (type : String) (result : ActionOutcome) :
    Passes (noteSuccess type result) := by
  cases result with
  | success => exact fun w => ⟨_, rfl, quiet_count _ (by decide) (by decide) _ w⟩
  | error => exact fun w => ⟨w, rfl, rfl⟩

theorem exec_concludeAction (ctx : ActionContext) (type : String) (r : Except Fault Entries)
    (w : World) : ∃ w', w'.ledger = w.ledger ∧
      exec (concludeAction ctx type r) w =
        (match r with
          | .ok report => .ok (.success report)
          | .error (.action a) => .ok (.error a.message)
          | .error f => .error f, w') := by
  rcases r with f | report
  · cases f with
    | action a =>
      obtain ⟨w', hexec, hledger⟩ := passes_noteFailure ctx type a w
      exact ⟨w', hledger, exec_bind_ok hexec _⟩
    | _ => exact ⟨w, rfl, rfl⟩
  · exact ⟨w, rfl, rfl⟩

def concludeRecord (ctx : ActionContext) (payload : Json) (r : Except Fault Entries) :
    Engine ActionRecord := do
  let result ← outcome (concludeAction ctx (Action.recordedType payload) r)
  closeSpan (faultOf result)
  let result ← ofExcept result
  noteSuccess (Action.recordedType payload) result
  return recordOf payload result

/-- The ledger is done with once the attempt is. -/
theorem exec_concludeRecord (ctx : ActionContext) (payload : Json) (r : Except Fault Entries)
    (w : World) : ∃ w', w'.ledger = w.ledger ∧
      exec (concludeRecord ctx payload r) w = (recorded payload r, w') := by
  obtain ⟨w₁, hledger₁, hconclude⟩ := exec_concludeAction ctx (Action.recordedType payload) r w
  unfold concludeRecord
  rw [exec_bind_ok (exec_outcome _ _), hconclude, exec_bind_ok (exec_closeSpan _ _)]
  have hended : ∀ result, ∃ w', w'.ledger = w.ledger ∧
      exec (noteSuccess (Action.recordedType payload) result >>= fun _ =>
        pure (recordOf payload result)) (w₁.closed none) = (.ok (recordOf payload result), w') := by
    intro result
    obtain ⟨w', hexec, hledger⟩ :=
      passes_noteSuccess (Action.recordedType payload) result (w₁.closed none)
    refine ⟨w', ?_, exec_bind_ok hexec _⟩
    rw [hledger, World.ledger_closed, hledger₁]
  rcases r with f | report
  · cases f with
    | action a => exact hended (.error a.message)
    | _ => exact ⟨_, (World.ledger_closed _ _).trans hledger₁, rfl⟩
  · exact hended (.success report)

end Engine

/-- The world in which an action is about to be attempted. -/
def World.acting (w : World) (ctx : ActionContext) (payload : Json) : World :=
  (Engine.exec (Engine.showAction ctx (Action.recordedType payload))
    (w.opened "automation.action")).2

@[simp] theorem World.ledger_acting (w : World) (ctx : ActionContext) (payload : Json) :
    (w.acting ctx payload).ledger = w.ledger :=
  (Engine.passes_showAction ctx (Action.recordedType payload)).ledger_eq _

namespace Engine

variable {env : Environment} {ctx : ActionContext} {payload : Json} {w : World}

/-- Carrying out a stored action comes down to one attempt. -/
theorem exec_perform_acting (env : Environment) (h : HandOver) (ctx : ActionContext)
    (payload : Json) (w : World) :
    exec (perform env h ctx payload) w =
      exec (outcome (attempt env h ctx payload) >>= concludeRecord ctx payload)
        (w.acting ctx payload) := by
  have hshow : exec (showAction ctx (Action.recordedType payload)) (w.opened "automation.action") =
      (.ok (), w.acting ctx payload) := (passes_showAction ctx _).exec_eq _
  have hperform : perform env h ctx payload =
      spanning "automation.action" (tryAction env h ctx payload (Action.recordedType payload)) >>=
        fun result => noteSuccess (Action.recordedType payload) result >>= fun _ =>
          pure (recordOf payload result) := by
    refine bind_congr fun result => ?_
    cases result <;> rfl
  rw [hperform, exec_bind, exec_spanning, tryAction_eq, exec_bind_ok hshow,
    exec_bind_ok (exec_outcome _ _), exec_bind_ok (exec_outcome _ _)]
  unfold concludeRecord
  rw [exec_bind_ok (exec_outcome _ _), exec_bind_ok (exec_closeSpan _ _)]
  rcases exec (concludeAction ctx (Action.recordedType payload) _) _ with ⟨f | result, w'⟩
  · rfl
  · rfl

/-- The attempt is made in a world with the same ledger, whoever takes cascades over. -/
theorem exec_perform (env : Environment) (ctx : ActionContext) (payload : Json) (w : World) :
    ∃ w₀ : World, w₀.ledger = w.ledger ∧ ∀ h,
      exec (perform env h ctx payload) w =
        exec (outcome (attempt env h ctx payload) >>= concludeRecord ctx payload) w₀ :=
  ⟨w.acting ctx payload, w.ledger_acting ctx payload,
    fun h => exec_perform_acting env h ctx payload w⟩

/-- The end of an attempt decides on its record, which changes nothing in the ledger. -/
theorem exec_perform_of_attempt (env : Environment) (h : HandOver) (ctx : ActionContext)
    (payload : Json) (w : World) : ∃ w₀ w', w₀.ledger = w.ledger ∧
      w'.ledger = (exec (attempt env h ctx payload) w₀).2.ledger ∧
      exec (perform env h ctx payload) w =
        (recorded payload (exec (attempt env h ctx payload) w₀).1, w') := by
  obtain ⟨w₀, hledger₀, hperform⟩ := exec_perform env ctx payload w
  obtain ⟨w', hledger, hconclude⟩ := exec_concludeRecord ctx payload
    (exec (attempt env h ctx payload) w₀).1 (exec (attempt env h ctx payload) w₀).2
  refine ⟨w₀, w', hledger₀, hledger, ?_⟩
  rw [hperform h, exec_bind_ok (exec_outcome _ _)]
  exact hconclude

/-- An ending that does not depend on who takes cascades over is recorded as such. -/
theorem exec_perform_of_ending {w₀ w₁ : World} {r : Except Fault Entries}
    (hperform : ∀ h, exec (perform env h ctx payload) w =
      exec (outcome (attempt env h ctx payload) >>= concludeRecord ctx payload) w₀)
    (hattempt : ∀ h, exec (attempt env h ctx payload) w₀ = (r, w₁)) :
    ∃ w', w'.ledger = w₁.ledger ∧
      ∀ h, exec (perform env h ctx payload) w = (recorded payload r, w') := by
  obtain ⟨w', hledger, hconclude⟩ := exec_concludeRecord ctx payload r w₁
  refine ⟨w', hledger, fun h => ?_⟩
  rw [hperform, exec_bind_ok (exec_outcome _ _), hattempt]
  exact hconclude

theorem perform_eq_ok {env : Environment} {h : HandOver} {w w' : World} {record : ActionRecord}
    (hexec : exec (perform env h ctx payload) w = (.ok record, w')) :
    ∃ result, record = recordOf payload result := by
  obtain ⟨w₀, w₁, -, -, hperform⟩ := exec_perform_of_attempt env h ctx payload w
  rw [hexec] at hperform
  have hrecord := congrArg Prod.fst hperform
  dsimp only at hrecord
  unfold recorded at hrecord
  split at hrecord
  · cases hrecord
    exact ⟨_, rfl⟩
  · cases hrecord
    exact ⟨_, rfl⟩
  · cases hrecord

theorem attempt_course (env : Environment) (ctx : ActionContext) (payload : Json) (w : World) :
    (∃ f, Action.ofJson payload = .error f ∧
      ∀ h, exec (attempt env h ctx payload) w = (.error (.action f), w)) ∨
    ∃ action, Action.ofJson payload = .ok action ∧
      Course env ctx action w fun h => exec (attempt env h ctx payload) w := by
  unfold attempt
  cases haction : Action.ofJson payload with
  | error f => exact .inl ⟨f, rfl, fun h => rfl⟩
  | ok action => exact .inr ⟨action, rfl, carryOut_course env ctx action w⟩

/-- Unless what is stored keeps an action from being tried, only the storage ends more than the
action. -/
theorem FaultCause.whole {action : Action} {f : Fault} (hblocks : ¬w.store.Blocks ctx.card action)
    (hmails : MailsOrFails env w.ambient.correlation) (h : FaultCause env ctx.card action w f) :
    (f.isStorage = true ∧ ∃ n, env.storageFails n = true) ∨ ∃ a, f = .action a := by
  cases h with
  | storage n hfails hf => exact .inl ⟨hf, n, hfails⟩
  | failure a => exact .inr ⟨a, rfl⟩
  | unreadable g h => exact absurd h hblocks
  | mail m w₁ hledger hsend =>
    have hambient : w₁.ambient.correlation = w.ambient.correlation := by
      rw [World.ambient_of_ledger hledger]
    rcases hmails m w₁ hambient with hok | ⟨reason, herror⟩
    · rw [hok] at hsend
      cases hsend
    · rw [herror] at hsend
      cases hsend
      exact .inr ⟨_, rfl⟩

end Engine
end BoardRules
