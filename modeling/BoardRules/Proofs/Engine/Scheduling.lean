import BoardRules.Proofs.Engine.Ledger

/-! Scheduling a cascade. It is refused and counted, or a request for it is handed over once; what
then becomes of it is up to whoever takes requests over. -/
namespace BoardRules

/-- Whether every request is answered, be it with a refusal. -/
def HandOver.Answers (h : HandOver) : Prop :=
  ∀ request w, ∃ taken, (Engine.exec (h request) w).1 = .ok taken

namespace Engine

variable {w : World}

/-- Beyond the greatest depth, nothing is handed over, and the refusal counts once. -/
theorem scheduleCascade_refused (env : Environment) (move : CardMove) {depth : Int}
    (hdepth : env.maxDepth < depth + 1) (w : World) :
    ∃ w', w'.ledger = { w.ledger with blocks := w.ledger.blocks + 1 } ∧
      ∀ h, exec (scheduleCascade env h move depth) w = (.ok false, w') := by
  obtain ⟨w₁, hlog, hledger⟩ := passes_log runLogger (by decide) .warning
    "automation_cascade_blocked" [("reason", .str "MAX_DEPTH"), ("card_id", .str move.card.text),
      ("stage_id", .str move.toStage.text), ("cascade_depth", .int (depth + 1)),
      ("max_depth", .int env.maxDepth)] w
  refine ⟨w₁.noted (.count "automation_cascade_blocks_total" [("reason", "MAX_DEPTH")]), ?_,
    fun h => ?_⟩
  · rw [World.ledger_noted, hledger]
    rfl
  · unfold scheduleCascade blockCascade
    dsimp only
    rw [if_pos hdepth, exec_bind_ok hlog, exec_bind_ok (exec_count _ _ _)]
    rfl

/-- Up to the greatest depth, one request is handed over, deeper by one. -/
theorem scheduleCascade_handed {env : Environment} (h : HandOver) (move : CardMove) {depth : Int}
    (hdepth : depth + 1 ≤ env.maxDepth) (w : World) :
    ∃ w', w'.ledger =
        (exec (h (requestAfter move (depth + 1) w.ambient.correlation)) w).2.ledger ∧
      exec (scheduleCascade env h move depth) w =
        ((exec (h (requestAfter move (depth + 1) w.ambient.correlation)) w).1, w') := by
  unfold scheduleCascade
  dsimp only
  rw [if_neg (by omega), exec_bind_ok (exec_get w)]
  rcases hexec : exec (h (requestAfter move (depth + 1) w.ambient.correlation)) w with ⟨f | b, w₁⟩
  · exact ⟨w₁, rfl, exec_bind_error hexec _⟩
  · rw [exec_bind_ok hexec]
    cases b with
    | false => exact ⟨w₁, rfl, rfl⟩
    | true => exact ⟨_, quiet_log runLogger (by decide) _ _ _ w₁, rfl⟩

theorem scheduleCascade_answers (env : Environment) {h : HandOver} (hanswers : h.Answers)
    (move : CardMove) (depth : Int) (w : World) :
    ∃ scheduled w', exec (scheduleCascade env h move depth) w = (.ok scheduled, w') := by
  by_cases hdepth : env.maxDepth < depth + 1
  · obtain ⟨w', -, hexec⟩ := scheduleCascade_refused env move hdepth w
    exact ⟨false, w', hexec h⟩
  · obtain ⟨w', -, hexec⟩ := scheduleCascade_handed h move (Int.not_lt.mp hdepth) w
    obtain ⟨taken, htaken⟩ := hanswers (requestAfter move (depth + 1) w.ambient.correlation) w
    rw [htaken] at hexec
    exact ⟨taken, w', hexec⟩

theorem answers_openPool : HandOver.Answers openPool := fun _ _ => ⟨true, rfl⟩

theorem answers_closedPool : HandOver.Answers closedPool := fun _ _ => ⟨false, rfl⟩

theorem answers_jobQueue : HandOver.Answers jobQueue := fun _ _ => ⟨true, rfl⟩

theorem answers_brokenQueue : HandOver.Answers brokenQueue := fun _ _ => ⟨false, rfl⟩

end Engine
end BoardRules
