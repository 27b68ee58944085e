import BoardRules.Envelope
import BoardRules.Store.Change

/-!
Events of the board. An event tells of one change that a user has made and that is stored already.
-/
namespace BoardRules

inductive BoardEvent where
  | stageChanged (move : CardMove)
  /-- A field was set; the pipe is that of the card's stage. -/
  | fieldChanged (card : Uuid) (pipe : Option Uuid) (key : String) (value : Json)
  /-- A form was submitted; the pipe is that of the form's stage. -/
  | formSubmitted (card : Uuid) (pipe : Option Uuid) (form : Uuid) (submission : String)
deriving DecidableEq

namespace BoardEvent

def name : BoardEvent → String
  | .stageChanged _ => "card.stage_changed"
  | .fieldChanged .. => "card.field_changed"
  | .formSubmitted .. => "form.submitted"

def payload : BoardEvent → Entries
  | .stageChanged m =>
    [("card_id", .str m.card.text), ("pipe_id", .str m.pipe.text),
      ("stage_id", .str m.toStage.text),
      ("from_stage_id", Json.ofText? (m.fromStage.map Uuid.text))]
  | .fieldChanged card pipe key value =>
    [("card_id", .str card.text), ("pipe_id", Json.ofText? (pipe.map Uuid.text)),
      ("field_key", .str key), ("field_value", value)]
  | .formSubmitted card pipe form submission =>
    [("card_id", .str card.text), ("pipe_id", Json.ofText? (pipe.map Uuid.text)),
      ("form_id", .str form.text), ("submission_id", .str submission)]

def envelope (e : BoardEvent) : Entries :=
  [("event_type", .str e.name), ("version", .int 1), ("payload", .obj e.payload)]

end BoardEvent
end BoardRules
