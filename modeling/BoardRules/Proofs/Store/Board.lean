import BoardRules.Board.Change

/-! The board: the part of what is stored that users work on. What a user asks for is found on the
board alone, and what is committed for it changes the board in the same way whatever else is
stored. -/
namespace BoardRules.Store

/-- What is stored apart from automations, templates and the audit log. -/
def board (s : Store) : Store := { s with automations := [], templates := [], logs := [] }

variable (s : Store)

@[simp] theorem findCard_board (card : Uuid) : s.board.findCard card = s.findCard card := rfl

@[simp] theorem findForm_board (form : Uuid) : s.board.findForm form = s.findForm form := rfl

@[simp] theorem userMove_board (card stage : Uuid) :
    s.board.userMove card stage = s.userMove card stage := rfl

@[simp] theorem pipeOf_board (card : CardRow) : s.board.pipeOf card = s.pipeOf card := rfl

@[simp] theorem pipeOfForm_board (form : FormRow) : s.board.pipeOfForm form = s.pipeOfForm form :=
  rfl

@[simp] theorem fieldRows_board (card : Uuid) : s.board.fieldRows card = s.fieldRows card := rfl

theorem board_applyMove (move : CardMove) (time : Moment) :
    (s.applyMove move time).board = s.board.applyMove move time := rfl

theorem board_setField (card : Uuid) (key type : String) (value : Json) (time : Moment) :
    (s.setField card key type value time).board = s.board.setField card key type value time := by
  have hfound : s.board.fieldRow? card key = s.fieldRow? card key := rfl
  unfold setField
  rw [hfound]
  cases s.fieldRow? card key <;> rfl

theorem board_addSubmission (row : SubmissionRow) :
    (s.addSubmission row).board = s.board.addSubmission row := rfl

end BoardRules.Store
