import BoardRules.Card
import BoardRules.Store.Tables

/-!
What is read from a store: the automations of a pipe in the order in which they run, cards, stages
and templates, and the audit log of a card.

A stored value of an unexpected shape, or a reference to a row that is not there, makes a read fail;
it never makes one leave something out.
-/
namespace BoardRules

inductive ReadFault where
  | shape (fault : ShapeFault)
  /-- A row refers to one that is not there; it was to supply something wanted. -/
  | dangling (wanted : String)
deriving Repr, DecidableEq

structure AutomationView where
  id : Uuid
  pipe : Uuid
  name : String
  triggerType : String
  config : Mapping
  conditions : Option Entries
  actions : List Json
  position : Option Int
  created : Moment

/-- Automations run by position, those without one last; equal positions run by the time they were
made. -/
def AutomationRow.runsBefore (a b : AutomationRow) : Bool :=
  match a.position, b.position with
  | some p, some q => p < q || (p == q && a.created.atMost b.created)
  | some _, none => true
  | none, some _ => false
  | none, none => a.created.atMost b.created

def AutomationRow.conditionEntries (a : AutomationRow) : Option Entries :=
  match a.conditions with
  | .obj es => some es
  | _ => none

def AutomationRow.view (a : AutomationRow) : Except ReadFault AutomationView := do
  let config ← a.triggerConfig.toMapping.mapError ReadFault.shape
  let actions ← a.actions.toItems.mapError ReadFault.shape
  return {
    id := a.id, pipe := a.pipe, name := a.name, triggerType := a.triggerType
    conditions := a.conditionEntries
    position := a.position, created := a.created
    config, actions }

namespace Store

/-- The enabled automations of a pipe and a trigger type, in the order in which they run. -/
def automationRows (s : Store) (pipe : Uuid) (triggerType : String) : List AutomationRow :=
  let applies (a : AutomationRow) : Bool :=
    a.pipe == pipe && a.enabled && a.triggerType == triggerType
  (s.automations.filter applies).mergeSort AutomationRow.runsBefore

def formsOf (s : Store) (stage : Uuid) : List FormRow :=
  (s.forms.filter fun f => f.stage == stage).mergeSort fun a b => a.created.atMost b.created

def stageView (s : Store) (stage : StageRow) : Except ReadFault StageView :=
  match s.pipe? stage.pipe with
  | none => .error (.dangling "name")
  | some pipe =>
    .ok {
      id := stage.id, name := stage.name, pipeId := stage.pipe, pipeName := pipe.name
      forms := (s.formsOf stage.id).map fun f => ⟨f.id, f.name⟩ }

def submissionView (s : Store) (sub : SubmissionRow) : Except ReadFault SubmissionView :=
  match s.form? sub.form with
  | none => .error (.dangling "name")
  | some form => do
    let responses ← sub.responses.toMapping.mapError ReadFault.shape
    return ⟨sub.form, form.name, responses, sub.submittedAt⟩

def fieldRows (s : Store) (card : Uuid) : List FieldRow :=
  (s.fieldsOf card).mergeSort fun a b => a.position ≤ b.position

def fieldMap (s : Store) (card : Uuid) : Entries :=
  Entries.ofPairs ((s.fieldRows card).map fun f => (f.key, f.value))

def stageOf (s : Store) (card : CardRow) : Option StageRow := card.stage.bind s.stage?

def cardView (s : Store) (card : CardRow) : Except ReadFault CardView := do
  let stage ←
    match s.stageOf card with
    | none => pure none
    | some stage => some <$> s.stageView stage
  let submissions ← (s.submissions.filter fun sub => sub.card == card.id).mapM s.submissionView
  return {
    id := card.id, title := card.title, description := card.description
    fields := s.fieldMap card.id
    stage, submissions }

def logsOf (s : Store) (card : Uuid) : List LogRow :=
  (s.logs.filter fun l => l.card == card).mergeSort fun a b => b.executedAt.atMost a.executedAt

end Store
end BoardRules
