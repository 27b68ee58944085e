import BoardRules.Proofs.Engine.Reading
import BoardRules.Proofs.Store.Change

/-! What changes of the store leave alone. A move of a card, a write to a field of it and an entry
of the audit log about it touch that card: its stage, its fields and when they were updated, rows
that are added for it, and nothing else. -/
namespace BoardRules

/-- A row of a card and what has become of it, if certain cards may be touched. -/
def CardRow.Follows (P : Uuid → Prop) (row row' : CardRow) : Prop :=
  (∃ stage updatedAt, row' = { row with stage, updatedAt }) ∧ (¬P row.id → row' = row)

def FieldRow.Follows (P : Uuid → Prop) (row row' : FieldRow) : Prop :=
  (∃ value updatedAt, row' = { row with value, updatedAt }) ∧ (¬P row.card → row' = row)

namespace CardRow.Follows

variable {P : Uuid → Prop} {a b c : CardRow}

theorem refl (P : Uuid → Prop) (row : CardRow) : row.Follows P row :=
  ⟨⟨row.stage, row.updatedAt, rfl⟩, fun _ => rfl⟩

theorem trans (h : a.Follows P b) (h' : b.Follows P c) : a.Follows P c := by
  obtain ⟨⟨stage, updatedAt, rfl⟩, hother⟩ := h
  obtain ⟨⟨stage', updatedAt', rfl⟩, hother'⟩ := h'
  exact ⟨⟨stage', updatedAt', rfl⟩, fun hne => (hother' hne).trans (hother hne)⟩

end CardRow.Follows

namespace FieldRow.Follows

variable {P : Uuid → Prop} {a b c : FieldRow}

theorem refl (P : Uuid → Prop) (row : FieldRow) : row.Follows P row :=
  ⟨⟨row.value, row.updatedAt, rfl⟩, fun _ => rfl⟩

theorem trans (h : a.Follows P b) (h' : b.Follows P c) : a.Follows P c := by
  obtain ⟨⟨value, updatedAt, rfl⟩, hother⟩ := h
  obtain ⟨⟨value', updatedAt', rfl⟩, hother'⟩ := h'
  exact ⟨⟨value', updatedAt', rfl⟩, fun hne => (hother' hne).trans (hother hne)⟩

theorem same_card (h : a.Follows P b) : b.card = a.card := by
  obtain ⟨⟨value, updatedAt, rfl⟩, -⟩ := h
  rfl

end FieldRow.Follows

section

variable {α β : Type} {r : α → β → Prop}

theorem forall₂_append_left :
    ∀ {l₁ l₂ : List α} {m : List β}, List.Forall₂ r (l₁ ++ l₂) m →
      ∃ m₁ m₂, m = m₁ ++ m₂ ∧ List.Forall₂ r l₁ m₁ ∧ List.Forall₂ r l₂ m₂
  | [], _, m, h => ⟨[], m, rfl, .nil, h⟩
  | _ :: _, _, _, .cons hab hrest => by
    obtain ⟨m₁, m₂, rfl, h₁, h₂⟩ := forall₂_append_left hrest
    exact ⟨_ :: m₁, m₂, rfl, .cons hab h₁, h₂⟩

/-- What all items have, and what goes with them has as well, all have that go with them. -/
theorem forall_of_forall₂ {p : α → Prop} {q : β → Prop} (hpq : ∀ a b, r a b → p a → q b)
    {l : List α} {m : List β} (h : List.Forall₂ r l m) (hall : ∀ a ∈ l, p a) : ∀ b ∈ m, q b := by
  induction h with
  | nil => simp
  | cons hab _ ih =>
    obtain ⟨ha, hrest⟩ := List.forall_mem_cons.mp hall
    exact List.forall_mem_cons.mpr ⟨hpq _ _ hab ha, ih hrest⟩

end

/-- From one list of rows to another, only rows with a property are added at the end. -/
def Extends {α : Type} (added : α → Prop) (l l' : List α) : Prop :=
  ∃ rows, l' = l ++ rows ∧ ∀ row ∈ rows, added row

namespace Extends

variable {α : Type} {added : α → Prop} {l l₁ l₂ l₃ : List α}

theorem refl (l : List α) : Extends added l l := ⟨[], (List.append_nil l).symm, by simp⟩

theorem trans (h : Extends added l₁ l₂) (h' : Extends added l₂ l₃) : Extends added l₁ l₃ := by
  obtain ⟨rows, rfl, hall⟩ := h
  obtain ⟨rows', rfl, hall'⟩ := h'
  exact ⟨rows ++ rows', List.append_assoc _ _ _, List.forall_mem_append.mpr ⟨hall, hall'⟩⟩

end Extends

namespace Store

/-- From one store to another, certain cards may be touched. What is stored of pipes, stages, forms,
templates, automations and submissions stays; so do the rows of other cards, and all rows of history
and of the audit log. -/
structure Touched (P : Uuid → Prop) (s s' : Store) : Prop where
  pipes : s'.pipes = s.pipes
  stages : s'.stages = s.stages
  forms : s'.forms = s.forms
  templates : s'.templates = s.templates
  automations : s'.automations = s.automations
  submissions : s'.submissions = s.submissions
  cards : List.Forall₂ (CardRow.Follows P) s.cards s'.cards
  fields : ∃ kept, List.Forall₂ (FieldRow.Follows P) s.fields kept ∧
    Extends (fun row => P row.card) kept s'.fields
  history : Extends (fun row => P row.card) s.history s'.history
  logs : Extends (fun row => P row.card) s.logs s'.logs

/-- A row that fits is changed, or none. -/
theorem forall₂_modifyFirst {α : Type} {p : α → Bool} {f : α → α} {r : α → α → Prop}
    (hsame : ∀ x, r x x) (hchanged : ∀ x, p x = true → r x (f x)) :
    ∀ l, List.Forall₂ r l (modifyFirst p f l)
  | [] => .nil
  | x :: xs => by
    unfold modifyFirst
    split
    · rename_i hx
      exact .cons (hchanged x hx) (List.forall₂_same.mpr fun y _ => hsame y)
    · exact .cons (hsame x) (forall₂_modifyFirst hsame hchanged xs)

namespace Touched

variable {P : Uuid → Prop} {s s' s₁ s₂ s₃ : Store}

theorem refl (P : Uuid → Prop) (s : Store) : Touched P s s where
  pipes := rfl
  stages := rfl
  forms := rfl
  templates := rfl
  automations := rfl
  submissions := rfl
  cards := List.forall₂_same.mpr fun row _ => .refl P row
  fields := ⟨s.fields, List.forall₂_same.mpr fun row _ => .refl P row, .refl _⟩
  history := .refl _
  logs := .refl _

/-- Fields that have been added follow as well. -/
theorem trans_fields {l₁ l₂ l₃ : List FieldRow}
    (h : ∃ kept, List.Forall₂ (FieldRow.Follows P) l₁ kept ∧
      Extends (fun row => P row.card) kept l₂)
    (h' : ∃ kept, List.Forall₂ (FieldRow.Follows P) l₂ kept ∧
      Extends (fun row => P row.card) kept l₃) :
    ∃ kept, List.Forall₂ (FieldRow.Follows P) l₁ kept ∧
      Extends (fun row => P row.card) kept l₃ := by
  obtain ⟨kept, hkept, rows, rfl, hrows⟩ := h
  obtain ⟨changed, hchanged, hadded⟩ := h'
  obtain ⟨kept', rows', rfl, hkept', hrows'⟩ := forall₂_append_left hchanged
  refine ⟨kept', forall₂_trans (fun _ _ _ => .trans) hkept hkept', Extends.trans ?_ hadded⟩
  refine ⟨rows', rfl, forall_of_forall₂ (fun row row' hfollows hrow => ?_) hrows' hrows⟩
  rw [hfollows.same_card]
  exact hrow

theorem trans (h : Touched P s₁ s₂) (h' : Touched P s₂ s₃) : Touched P s₁ s₃ where
  pipes := h'.pipes.trans h.pipes
  stages := h'.stages.trans h.stages
  forms := h'.forms.trans h.forms
  templates := h'.templates.trans h.templates
  automations := h'.automations.trans h.automations
  submissions := h'.submissions.trans h.submissions
  cards := forall₂_trans (fun _ _ _ => .trans) h.cards h'.cards
  fields := trans_fields h.fields h'.fields
  history := h.history.trans h'.history
  logs := h.logs.trans h'.logs

end Touched

variable {P : Uuid → Prop}

theorem touched_applyMove {move : CardMove} (hcard : P move.card) (time : Moment) (s : Store) :
    Touched P s (s.applyMove move time) where
  pipes := rfl
  stages := rfl
  forms := rfl
  templates := rfl
  automations := rfl
  submissions := rfl
  cards := by
    refine forall₂_modifyFirst (.refl P) (fun row hrow => ?_) s.cards
    refine ⟨⟨some move.toStage, time, rfl⟩, fun hne => absurd ?_ hne⟩
    rw [beq_iff_eq.mp hrow]
    exact hcard
  fields := (Touched.refl P s).fields
  history := ⟨[_], rfl, by simpa using hcard⟩
  logs := .refl _

theorem touched_writeField {card : Uuid} (hcard : P card) (key : String) (value : Json)
    (time : Moment) (s : Store) : Touched P s (s.writeField card key value time) := by
  obtain ⟨fields, hframe⟩ := writeField_frame s card key value time
  have hfields : ∃ kept, List.Forall₂ (FieldRow.Follows P) s.fields kept ∧
      Extends (fun row => P row.card) kept (s.writeField card key value time).fields := by
    unfold writeField
    split
    · refine ⟨_, forall₂_modifyFirst (.refl P) (fun row hrow => ?_) s.fields, .refl _⟩
      refine ⟨⟨row.value.written value, time, rfl⟩, fun hne => absurd ?_ hne⟩
      obtain ⟨hsame, -⟩ := Bool.and_eq_true_iff.mp hrow
      rw [beq_iff_eq.mp hsame]
      exact hcard
    · exact ⟨s.fields, List.forall₂_same.mpr fun row _ => .refl P row, [_], rfl,
        by simpa using hcard⟩
  rw [hframe] at hfields ⊢
  exact { Touched.refl P s with fields := hfields }

theorem touched_addLog {row : LogRow} (hrow : P row.card) (s : Store) :
    Touched P s (s.addLog row) :=
  { Touched.refl P s with logs := ⟨[row], rfl, by simpa using hrow⟩ }

end Store
end BoardRules
