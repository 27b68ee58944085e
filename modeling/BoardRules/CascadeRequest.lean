import BoardRules.Depth
import BoardRules.Json.Literal

/-!
Cascade requests: after a move, the automations of the stage that the card has entered are to be
run. A request travels to whoever runs it as an object.
-/
namespace BoardRules

/-- A request to run the automations of a stage that a card has entered. -/
structure CascadeRequest where
  cardId : String
  pipeId : String
  stageId : String
  depth : Int
  correlation : Json := .null
deriving DecidableEq

inductive PayloadFault where
  | missing (key : String)
  | notObject
  | depth (fault : IntegerFault)
deriving Repr, DecidableEq

namespace CascadeRequest

def toPayload (r : CascadeRequest) : Json :=
  .obj [("card_id", .str r.cardId), ("pipe_id", .str r.pipeId), ("stage_id", .str r.stageId),
    ("depth", .int r.depth), ("correlation_id", r.correlation)]

def textOf (es : Entries) (key : String) : Except PayloadFault String :=
  match es.get? key with
  | some v => .ok v.shown
  | none => .error (.missing key)

/-- Reads a request. Identifiers are taken as they are shown; a depth that is not there is zero. -/
def ofPayload : Json → Except PayloadFault CascadeRequest
  | .obj es => do
    let cardId ← textOf es "card_id"
    let pipeId ← textOf es "pipe_id"
    let stageId ← textOf es "stage_id"
    let depth ← (((Entries.getD es "depth").orElse (.int 0)).toInteger).mapError PayloadFault.depth
    return { cardId, pipeId, stageId, depth, correlation := Entries.getD es "correlation_id" }
  | _ => .error .notObject

theorem ofPayload_toPayload (r : CascadeRequest) : ofPayload r.toPayload = .ok r := by
  have h : (((Json.int r.depth).orElse (.int 0)).toInteger).mapError PayloadFault.depth
      = .ok r.depth := by
    by_cases hz : r.depth = 0
    · rw [hz]
      rfl
    · have hkept : (Json.int r.depth).orElse (.int 0) = .int r.depth := by
        simp [Json.orElse, Json.isTruthy, hz]
      rw [hkept]
      rfl
  simp [ofPayload, toPayload, textOf, Entries.get?, Entries.getD, Json.shown, bind, Except.bind,
    pure, Except.pure] at h ⊢
  rw [h]

end CascadeRequest
end BoardRules
