import Mathlib.Logic.Relation
import BoardRules.Proofs.Store.Change
import BoardRules.Store.Query

/-! How stores evolve: one transaction after the other, each whole, and each from a store in which
the rows that it concerns have been found. What every transaction preserves is preserved, whatever
users and automations do. -/
namespace BoardRules.Store

/-- The move of a card from where it is into a stage. -/
def moveInto (s : Store) (card : CardRow) (stage : StageRow) : CardMove :=
  moveOf card (s.stageOf card) stage.id stage.name stage.pipe

/-- What is committed at once. -/
inductive Transaction (s : Store) : Store → Prop where
  | moved (card : CardRow) (stage : StageRow) (time : Moment)
    (hcard : s.card? card.id = some card) (hstage : s.stage? stage.id = some stage) :
    Transaction s (s.applyMove (s.moveInto card stage) time)
  /-- An automation writes to a field of a card. -/
  | wrote (card : CardRow) (key : String) (value : Json) (time : Moment)
    (hcard : s.card? card.id = some card) : Transaction s (s.writeField card.id key value time)
  /-- A user sets a field of a card. -/
  | set (card : CardRow) (key type : String) (value : Json) (time : Moment)
    (hcard : s.card? card.id = some card) : Transaction s (s.setField card.id key type value time)
  | submitted (row : SubmissionRow) (hcard : (s.card? row.card).isSome)
    (hform : (s.form? row.form).isSome) (hresponses : row.responses.isObject) :
    Transaction s (s.addSubmission row)
  | entered (row : LogRow) : Transaction s (s.addLog row)

def Evolves : Store → Store → Prop := Relation.ReflTransGen Transaction

namespace Evolves

variable {s s' s₁ s₂ s₃ : Store}

theorem of_eq (h : s' = s) : Evolves s s' := by
  rw [h]
  exact .refl

theorem single (h : Transaction s s') : Evolves s s' := Relation.ReflTransGen.single h

theorem trans (h : Evolves s₁ s₂) (h' : Evolves s₂ s₃) : Evolves s₁ s₃ :=
  Relation.ReflTransGen.trans h h'

end Evolves
end BoardRules.Store
