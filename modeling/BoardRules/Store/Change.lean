import BoardRules.Store.Tables

/-!
What may be written to a store: a card's move, a value of a field, a submission, an entry of the
audit log. Each change is whole: it gives the store as it is afterwards.

Whoever moves a card, the move is the same. A value that is alike the stored one does not replace
it.
-/
namespace BoardRules

structure CardMove where
  card : Uuid
  fromStage : Option Uuid
  fromName : Option String
  toStage : Uuid
  toName : String
  pipe : Uuid
deriving DecidableEq

/-- A value after a write: one that is alike the stored value leaves it as it is. -/
def Json.written (stored new : Json) : Json := if stored.alike new then stored else new

namespace Store

def modifyFirst {α : Type} (p : α → Bool) (f : α → α) : List α → List α
  | [] => []
  | x :: xs => if p x then f x :: xs else x :: modifyFirst p f xs

def modifyCard (s : Store) (id : Uuid) (f : CardRow → CardRow) : Store :=
  { s with cards := modifyFirst (fun c => c.id == id) f s.cards }

def moveOf (card : CardRow) (current : Option StageRow) (toStage : Uuid) (toName : String)
    (pipe : Uuid) : CardMove :=
  { card := card.id, fromStage := current.map StageRow.id, fromName := current.map StageRow.name
    toStage, toName, pipe }

/-- Carries out a move: the card is in its new stage, and its history has one more row. -/
def applyMove (s : Store) (m : CardMove) (now : Moment) : Store :=
  let moved := s.modifyCard m.card fun c => { c with stage := some m.toStage, updatedAt := now }
  { moved with history := s.history ++
      [⟨m.card, now, m.fromStage, m.fromName, m.toStage, m.toName⟩] }

def fieldRow? (s : Store) (card : Uuid) (key : String) : Option FieldRow :=
  s.fields.find? fun f => f.card == card && f.key == key

def modifyField (s : Store) (card : Uuid) (key : String) (f : FieldRow → FieldRow) : Store :=
  { s with fields := modifyFirst (fun r => r.card == card && r.key == key) f s.fields }

def addField (s : Store) (card : Uuid) (key type : String) (value : Json) (now : Moment) : Store :=
  { s with fields := s.fields ++
      [⟨card, key, type, value, (s.fieldsOf card).length, now⟩] }

/-- Writes a value to a key of a card. The row counts as updated whatever its value was. -/
def writeField (s : Store) (card : Uuid) (key : String) (value : Json) (now : Moment) : Store :=
  match s.fieldRow? card key with
  | some _ => s.modifyField card key fun r =>
      { r with value := r.value.written value, updatedAt := now }
  | none => s.addField card key "text" value now

/-- Sets a field of a card on behalf of a user: the card counts as updated, the row only if its
value changes. A new field has the given type. -/
def setField (s : Store) (card : Uuid) (key type : String) (value : Json) (now : Moment) : Store :=
  let written :=
    match s.fieldRow? card key with
    | some _ => s.modifyField card key fun r =>
        if r.value.alike value then r else { r with value := value, updatedAt := now }
    | none => s.addField card key type value now
  written.modifyCard card fun c => { c with updatedAt := now }

def addSubmission (s : Store) (row : SubmissionRow) : Store :=
  { s with submissions := s.submissions ++ [row] }

def addLog (s : Store) (row : LogRow) : Store := { s with logs := s.logs ++ [row] }

def append (s t : Store) : Store where
  pipes := s.pipes ++ t.pipes
  stages := s.stages ++ t.stages
  forms := s.forms ++ t.forms
  templates := s.templates ++ t.templates
  cards := s.cards ++ t.cards
  fields := s.fields ++ t.fields
  submissions := s.submissions ++ t.submissions
  history := s.history ++ t.history
  automations := s.automations ++ t.automations
  logs := s.logs ++ t.logs

end Store
end BoardRules
