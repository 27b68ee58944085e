import BoardRules.Depth
import BoardRules.Schema.Affinity
import BoardRules.Store.Change

/-!
Rows given as values, and adding them to a store.

Rows are added all together or not at all. They are refused if a required value is null or the
identifier of a row is taken, by a stored row or by another one of those given. References are not
checked. Where a row leaves something out that has a default, the default stands.
-/
namespace BoardRules

inductive RowFault where
  | missing (key : String)
  | noIdentifier
  | noSwitch
  | integrity
  | cell (fault : Schema.CellFault)
deriving Repr, DecidableEq

def RowFault.kind : RowFault → String
  | .missing _ => "KeyError"
  | .noIdentifier => "ValueError"
  | .noSwitch => "StatementError"
  | .integrity => "IntegrityError"
  | .cell .outOfRange => "OverflowError"
  | .cell .noCell => "ProgrammingError"

/-- A number of seconds before the first step as a point of time, to the nearest microsecond. -/
def Json.toMoment : Json → Moment
  | .float (.finite negative m e) =>
    let n : Int := (if negative then -1 else 1) * m * 1000000 * Int.pow 2 e.toNat
    let d := Int.pow 2 (-e).toNat
    .seeded (Int.fdiv (2 * n + d) (2 * d))
  | v => .seeded (v.toInteger.toOption.getD 0 * 1000000)

namespace Entries

def given (es : Entries) (key : String) : Except RowFault Json :=
  match es.get? key with
  | some v => .ok v
  | none => .error (.missing key)

def present? (es : Entries) (key : String) : Option Json := (es.get? key).filter (!·.isNull)

def itemsAt (es : Entries) (key : String) : List Json :=
  match es.getD key with
  | .arr items => items
  | _ => []

def uuidAt? (es : Entries) (key : String) : Except RowFault (Option Uuid) :=
  match es.present? key with
  | none => .ok none
  | some v =>
    match Uuid.ofJson? v with
    | some u => .ok (some u)
    | none => .error .noIdentifier

def uuidAt (es : Entries) (key : String) : Except RowFault Uuid := do
  let _ ← es.given key
  match ← es.uuidAt? key with
  | some u => return u
  | none => throw .integrity

/-- What a column of text holds of a member; nothing of null. -/
def textAt? (es : Entries) (key : String) : Except RowFault (Option String) := do
  let v ← (Schema.givenCell (es.getD key)).mapError RowFault.cell
  return (Schema.ColumnType.text.stored v).text?

def textAt (es : Entries) (key : String) : Except RowFault String := do
  let _ ← es.given key
  match ← es.textAt? key with
  | some s => return s
  | none => throw .integrity

def switchAt (es : Entries) (key : String) : Except RowFault Bool :=
  match es.present? key with
  | none => .ok true
  | some v =>
    if v.alike (.bool true) then .ok true
    else if v.alike (.bool false) then .ok false
    else .error .noSwitch

def positionAt? (es : Entries) (key : String) : Option Int :=
  (es.present? key).map fun v => v.toInteger.toOption.getD 0

def positionAt (es : Entries) (key : String) (index : Int) : Int :=
  match es.get? key with
  | none => index
  | some _ => (es.positionAt? key).getD 0

def momentAt (es : Entries) (key : String) (index : Nat) : Moment :=
  ((es.present? key).getD (.int index)).toMoment

end Entries

namespace Store

variable {α : Type}

def readRows (es : Entries) (key : String) (read : Nat → Entries → Except RowFault α) :
    Except RowFault (List α) :=
  (es.itemsAt key).zipIdx.mapM fun (v, i) => read i v.entries

def readPipe (es : Entries) : Except RowFault PipeRow := do
  return { id := ← es.uuidAt "id", name := ← es.textAt "name" }

def readStage (es : Entries) : Except RowFault StageRow := do
  return {
    id := ← es.uuidAt "id", pipe := ← es.uuidAt "pipe", name := ← es.textAt "name"
    position := es.positionAt "position" 0 }

/-- Reads a form; the forms of a list are made one second after another. -/
def readForm (index : Nat) (es : Entries) : Except RowFault FormRow := do
  return {
    id := ← es.uuidAt "id", stage := ← es.uuidAt "stage", name := ← es.textAt "name"
    created := .seeded (index * 1000000) }

def readTemplate (es : Entries) : Except RowFault TemplateRow := do
  return {
    id := ← es.uuidAt "id", name := ← es.textAt "name", subject := ← es.textAt "subject"
    body := ← es.textAt "body", fromEmail := ← es.textAt? "from_email"
    fromName := ← es.textAt? "from_name", toEmail := ← es.textAt? "to_email"
    cc := ← es.textAt? "cc", bcc := ← es.textAt? "bcc" }

def readCard (es : Entries) : Except RowFault CardRow := do
  return {
    id := ← es.uuidAt "id", stage := ← es.uuidAt? "stage", title := ← es.textAt "title"
    description := ← es.textAt? "description", updatedAt := .seeded 0 }

def readField (card : Uuid) (index : Nat) (es : Entries) : Except RowFault FieldRow := do
  return {
    card, key := ← es.textAt "key", type := (← es.textAt? "type").getD "text"
    value := es.getD "value", position := es.positionAt "position" index
    updatedAt := .seeded 0 }

def readSubmission (card : Uuid) (index : Nat) (es : Entries) : Except RowFault SubmissionRow := do
  return {
    card, form := ← es.uuidAt "form", responses := ← es.given "responses"
    submittedAt := es.momentAt "submitted" index }

def readAutomation (index : Nat) (es : Entries) : Except RowFault AutomationRow := do
  return {
    id := ← es.uuidAt "id", pipe := ← es.uuidAt "pipe", name := ← es.textAt "name"
    enabled := ← es.switchAt "enabled", triggerType := ← es.textAt "trigger_type"
    triggerConfig := (es.get? "trigger_config").getD .empty, conditions := es.getD "conditions"
    actions := (es.get? "actions").getD (.arr []), position := es.positionAt? "position"
    created := es.momentAt "created" index }

def readWholeCard (es : Entries) :
    Except RowFault (CardRow × List FieldRow × List SubmissionRow) := do
  let card ← readCard es
  return (card, ← readRows es "fields" (readField card.id),
    ← readRows es "submissions" (readSubmission card.id))

def ofJson (given : Json) : Except RowFault Store := do
  let es := given.entries
  let pipes ← readRows es "pipes" fun _ => readPipe
  let stages ← readRows es "stages" fun _ => readStage
  let forms ← readRows es "forms" readForm
  let templates ← readRows es "templates" fun _ => readTemplate
  let cards ← readRows es "cards" fun _ => readWholeCard
  let automations ← readRows es "automations" readAutomation
  return {
    pipes, stages, forms, templates, automations
    cards := cards.map Prod.fst
    fields := cards.flatMap fun c => c.2.1
    submissions := cards.flatMap fun c => c.2.2 }

def areNew (taken : List Uuid) : List Uuid → Bool
  | [] => true
  | u :: us => !taken.contains u && areNew (u :: taken) us

/-- Whether the identifiers of rows differ from each other and from those in a store. -/
def admits (s rows : Store) : Bool :=
  areNew (s.pipes.map PipeRow.id) (rows.pipes.map PipeRow.id) &&
  areNew (s.stages.map StageRow.id) (rows.stages.map StageRow.id) &&
  areNew (s.forms.map FormRow.id) (rows.forms.map FormRow.id) &&
  areNew (s.templates.map TemplateRow.id) (rows.templates.map TemplateRow.id) &&
  areNew (s.cards.map CardRow.id) (rows.cards.map CardRow.id) &&
  areNew (s.automations.map AutomationRow.id) (rows.automations.map AutomationRow.id)

def add (s rows : Store) : Except RowFault Store :=
  if s.admits rows then .ok (s.append rows) else .error .integrity

theorem areNew_iff (taken new : List Uuid) :
    areNew taken new = true ↔ new.Nodup ∧ ∀ u ∈ new, u ∉ taken := by
  induction new generalizing taken with
  | nil => simp [areNew]
  | cons u us ih => grind [areNew]

end Store
end BoardRules
