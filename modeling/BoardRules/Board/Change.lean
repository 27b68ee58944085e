import BoardRules.Board.Event
import BoardRules.Store.Query

/-!
What a user's request to the board comes to: the rows it concerns, or what it names and is not
there. Nothing is changed here.
-/
namespace BoardRules

inductive BoardFailure where
  | noCard
  | noStage
  | noForm
deriving Repr, DecidableEq

def BoardFailure.message : BoardFailure → String
  | .noCard => "card not found"
  | .noStage => "stage not found"
  | .noForm => "form not found"

namespace Store

def findCard (s : Store) (card : Uuid) : Except BoardFailure CardRow :=
  match s.card? card with
  | some row => .ok row
  | none => .error .noCard

def findStage (s : Store) (stage : Uuid) : Except BoardFailure StageRow :=
  match s.stage? stage with
  | some row => .ok row
  | none => .error .noStage

def findForm (s : Store) (form : Uuid) : Except BoardFailure FormRow :=
  match s.form? form with
  | some row => .ok row
  | none => .error .noForm

/-- The move that a user's request comes to: none if the card is in that stage already. -/
def userMove (s : Store) (card stage : Uuid) : Except BoardFailure (CardRow × Option CardMove) := do
  let row ← s.findCard card
  let target ← s.findStage stage
  if row.stage = some target.id then return (row, none)
  else return (row, some (moveOf row (s.stageOf row) target.id target.name target.pipe))

def pipeOf (s : Store) (card : CardRow) : Option Uuid := (s.stageOf card).map StageRow.pipe

def pipeOfForm (s : Store) (form : FormRow) : Option Uuid := (s.stage? form.stage).map StageRow.pipe

end Store
end BoardRules
