import BoardRules.Proofs.Store.Touch
import BoardRules.Store.Query

/-! What a card's automations have to do with. Of the tables that runs change, they see and change
the rows of their card only; no times are looked at there. So a store falls into parts, one for each
card, and changes to different cards do not meet. -/
namespace BoardRules

def CardRow.undated (row : CardRow) : CardRow := { row with updatedAt := .seeded 0 }

def FieldRow.undated (row : FieldRow) : FieldRow := { row with updatedAt := .seeded 0 }

def HistoryRow.undated (row : HistoryRow) : HistoryRow := { row with movedAt := .seeded 0 }

def LogRow.undated (row : LogRow) : LogRow := { row with executedAt := .seeded 0 }

namespace Store

/-- The tables that runs only read, and of the other ones the rows of a card, without their
times. -/
def partOf (card : Option Uuid) (s : Store) : Store :=
  { s with
    cards := (s.cards.filter fun row => some row.id == card).map CardRow.undated
    fields := (s.fields.filter fun row => some row.card == card).map FieldRow.undated
    history := (s.history.filter fun row => some row.card == card).map HistoryRow.undated
    logs := (s.logs.filter fun row => some row.card == card).map LogRow.undated }

section

variable (s : Store) (id : Uuid)

theorem card?_partOf : (s.partOf (some id)).card? id = (s.card? id).map CardRow.undated := by
  unfold partOf card?
  rw [List.find?_map, List.find?_filter]
  congr 2
  funext row
  rw [Bool.eq_iff_iff]
  simp [CardRow.undated]

theorem fieldRow?_partOf (key : String) :
    (s.partOf (some id)).fieldRow? id key = (s.fieldRow? id key).map FieldRow.undated := by
  unfold partOf fieldRow?
  rw [List.find?_map, List.find?_filter]
  congr 2
  funext row
  rw [Bool.eq_iff_iff]
  simp [FieldRow.undated]

theorem fieldsOf_partOf :
    (s.partOf (some id)).fieldsOf id = (s.fieldsOf id).map FieldRow.undated := by
  unfold partOf fieldsOf
  rw [List.filter_map, List.filter_filter]
  congr 2
  funext row
  simp [FieldRow.undated]

theorem fieldMap_partOf : (s.partOf (some id)).fieldMap id = s.fieldMap id := by
  unfold fieldMap fieldRows
  have hsort := List.map_mergeSort (r := fun a b : FieldRow => decide (a.position ≤ b.position))
    (s := fun a b => decide (a.position ≤ b.position)) (f := FieldRow.undated)
    (l := s.fieldsOf id) fun _ _ _ _ => rfl
  rw [fieldsOf_partOf, ← hsort, List.map_map]
  rfl

theorem cardView_partOf (row : CardRow) :
    (s.partOf (some row.id)).cardView row.undated = s.cardView row := by
  have hfields : (s.partOf (some row.id)).fieldMap row.undated.id = s.fieldMap row.id :=
    fieldMap_partOf s row.id
  unfold cardView
  rw [hfields]
  rfl

end

/-- Changing the first row that fits is the same in the part as it is in the whole. -/
theorem map_filter_modifyFirst {α : Type} {p q : α → Bool} {f e g : α → α}
    (hpq : ∀ x, p x = true → q x = true) (hq : ∀ x, p x = true → q (f x) = true)
    (hp : ∀ x, p (g x) = p x) (hf : ∀ x, p x = true → g (f x) = e (g x)) :
    ∀ l, ((modifyFirst p f l).filter q).map g = modifyFirst p e ((l.filter q).map g)
  | [] => rfl
  | x :: xs => by
    rw [modifyFirst]
    cases hx : p x with
    | true =>
      have hfirst : p (g x) = true := (hp x).trans hx
      simp [hpq x hx, hq x hx, hf x hx, modifyFirst, hfirst]
    | false =>
      have hfirst : p (g x) = false := (hp x).trans hx
      have ih := map_filter_modifyFirst hpq hq hp hf xs
      cases hqx : q x <;> simp [hqx, modifyFirst, hfirst, ih]

theorem applyMove_partOf (s : Store) (move : CardMove) (time : Moment) :
    (s.applyMove move time).partOf (some move.card) =
      (s.partOf (some move.card)).applyMove move (.seeded 0) := by
  have hcards := map_filter_modifyFirst (p := fun c : CardRow => c.id == move.card)
    (q := fun row : CardRow => some row.id == some move.card) (g := CardRow.undated)
    (f := fun c => { c with stage := some move.toStage, updatedAt := time })
    (e := fun c => { c with stage := some move.toStage, updatedAt := .seeded 0 })
    (fun x hx => by simpa using hx) (fun x hx => by simpa using hx)
    (fun _ => rfl) (fun _ _ => rfl) s.cards
  unfold partOf applyMove modifyCard
  rw [hcards]
  simp [HistoryRow.undated]

theorem writeField_partOf (s : Store) (card : Uuid) (key : String) (value : Json)
    (time : Moment) : (s.writeField card key value time).partOf (some card) =
      (s.partOf (some card)).writeField card key value (.seeded 0) := by
  unfold writeField
  rw [fieldRow?_partOf]
  cases s.fieldRow? card key with
  | some row =>
    have hfields := map_filter_modifyFirst
      (p := fun r : FieldRow => r.card == card && r.key == key)
      (q := fun row : FieldRow => some row.card == some card) (g := FieldRow.undated)
      (f := fun r => { r with value := r.value.written value, updatedAt := time })
      (e := fun r => { r with value := r.value.written value, updatedAt := .seeded 0 })
      (fun x hx => by simp at hx ⊢; exact hx.1)
      (fun x hx => by simp at hx ⊢; exact hx.1)
      (fun _ => rfl) (fun _ _ => rfl) s.fields
    dsimp only [Option.map_some]
    unfold partOf modifyField
    dsimp only
    rw [hfields]
  | none =>
    dsimp only [Option.map_none]
    unfold addField
    rw [fieldsOf_partOf]
    simp [partOf, FieldRow.undated]

theorem addLog_partOf (s : Store) (row : LogRow) :
    (s.addLog row).partOf (some row.card) =
      (s.partOf (some row.card)).addLog row.undated := by
  simp [partOf, addLog]

section

variable {α : Type} {q : α → Bool}

/-- Rows of other cards are seen as they were. -/
theorem filter_eq_of_forall₂ {r : α → α → Prop}
    (hr : ∀ a b, r a b → q b = q a ∧ (q a = true → b = a)) {l m : List α}
    (h : List.Forall₂ r l m) : m.filter q = l.filter q := by
  induction h with
  | nil => rfl
  | @cons a b _ _ hab _ ih =>
    obtain ⟨hq, hsame⟩ := hr a b hab
    cases ha : q a with
    | true =>
      have hb := hq.trans ha
      simp [ha, hsame ha, ih]
    | false =>
      have hb := hq.trans ha
      simp [ha, hb, ih]

/-- So are rows of other cards if rows are added. -/
theorem filter_eq_of_extends {added : α → Prop} {l m : List α} (h : Extends added l m)
    (hadded : ∀ a, added a → q a = false) : m.filter q = l.filter q := by
  obtain ⟨rows, rfl, hrows⟩ := h
  have hnone : rows.filter q = [] :=
    List.filter_eq_nil_iff.mpr fun a ha => by simp [hadded a (hrows a ha)]
  rw [List.filter_append, hnone, List.append_nil]

end

/-- What touches certain cards leaves the part of any other one as it is. -/
theorem partOf_of_touched {P : Uuid → Prop} {card : Option Uuid} {s s' : Store}
    (h : Touched P s s') (hcard : ∀ id, card = some id → ¬P id) :
    s'.partOf card = s.partOf card := by
  have hnone : ∀ id, P id → (some id == card) = false := fun id hid =>
    beq_eq_false_iff_ne.mpr fun heq => hcard id heq.symm hid
  have hcards : s'.cards.filter (fun row => some row.id == card) =
      s.cards.filter fun row => some row.id == card := by
    refine filter_eq_of_forall₂ (fun a b hab => ?_) h.cards
    obtain ⟨⟨stage, updatedAt, hb⟩, hsame⟩ := hab
    exact ⟨by rw [hb], fun ha => hsame (hcard a.id (beq_iff_eq.mp ha).symm)⟩
  have hfields : s'.fields.filter (fun row => some row.card == card) =
      s.fields.filter fun row => some row.card == card := by
    obtain ⟨kept, hkept, hadded⟩ := h.fields
    refine (filter_eq_of_extends hadded fun row hrow => hnone row.card hrow).trans ?_
    refine filter_eq_of_forall₂ (fun a b hab => ⟨by rw [hab.same_card], fun ha => ?_⟩) hkept
    exact hab.2 (hcard a.card (beq_iff_eq.mp ha).symm)
  have hhistory := filter_eq_of_extends (q := fun row => some row.card == card) h.history
    fun row hrow => hnone row.card hrow
  have hlogs := filter_eq_of_extends (q := fun row => some row.card == card) h.logs
    fun row hrow => hnone row.card hrow
  unfold partOf
  rw [hcards, hfields, hhistory, hlogs, h.pipes, h.stages, h.forms, h.templates, h.automations,
    h.submissions]

/-- Whether two stores hold the same rows, apart from times and from the order of rows. -/
structure SameRows (s s' : Store) : Prop where
  pipes : s'.pipes = s.pipes
  stages : s'.stages = s.stages
  forms : s'.forms = s.forms
  templates : s'.templates = s.templates
  automations : s'.automations = s.automations
  submissions : s'.submissions = s.submissions
  cards : (s'.cards.map CardRow.undated).Perm (s.cards.map CardRow.undated)
  fields : (s'.fields.map FieldRow.undated).Perm (s.fields.map FieldRow.undated)
  history : (s'.history.map HistoryRow.undated).Perm (s.history.map HistoryRow.undated)
  logs : (s'.logs.map LogRow.undated).Perm (s.logs.map LogRow.undated)

/-- Rows that are the same card by card are the same. -/
theorem perm_of_filters {α : Type} [DecidableEq α] {k : α → Uuid} {g : α → α}
    (hkey : ∀ a, k (g a) = k a) {l m : List α}
    (h : ∀ id, (l.filter fun a => some (k a) == some id).map g =
      (m.filter fun a => some (k a) == some id).map g) : (l.map g).Perm (m.map g) := by
  have hmap : ∀ (rows : List α) (id : Uuid),
      (rows.map g).filter (fun a => some (k a) == some id) =
        (rows.filter fun a => some (k a) == some id).map g := by
    intro rows id
    rw [List.filter_map]
    congr 2
    funext a
    simp [hkey]
  refine List.perm_iff_count.mpr fun a => ?_
  have hself : (some (k a) == some (k a)) = true := beq_self_eq_true _
  rw [← List.count_filter (p := fun b => some (k b) == some (k a)) hself,
    ← List.count_filter (p := fun b => some (k b) == some (k a)) (l := m.map g) hself, hmap,
    hmap, h]

theorem sameRows_of_parts {s s' : Store}
    (h : ∀ id, s'.partOf (some id) = s.partOf (some id)) : SameRows s s' where
  pipes := (congrArg pipes (h .zero) :)
  stages := (congrArg stages (h .zero) :)
  forms := (congrArg forms (h .zero) :)
  templates := (congrArg templates (h .zero) :)
  automations := (congrArg automations (h .zero) :)
  submissions := (congrArg submissions (h .zero) :)
  cards := perm_of_filters (k := CardRow.id) (g := CardRow.undated) (fun _ => rfl) fun id =>
    (congrArg cards (h id) :)
  fields := perm_of_filters (k := FieldRow.card) (g := FieldRow.undated) (fun _ => rfl) fun id =>
    (congrArg fields (h id) :)
  history := perm_of_filters (k := HistoryRow.card) (g := HistoryRow.undated) (fun _ => rfl)
    fun id => (congrArg history (h id) :)
  logs := perm_of_filters (k := LogRow.card) (g := LogRow.undated) (fun _ => rfl) fun id =>
    (congrArg logs (h id) :)

/-- Two changes that touch different cards and leave these as the other one does not matter to them
come to the same rows in either order. -/
theorem sameRows_of_orders {P Q : Uuid → Prop} {s s₁ s₂ s₁₂ s₂₁ : Store}
    (hother : ∀ id, P id → ¬Q id) (hfirst : Touched P s s₁) (hsecond : Touched Q s s₂)
    (hlater₁ : Touched Q s₁ s₁₂) (hlater₂ : Touched P s₂ s₂₁)
    (hsame₁ : ∀ id, P id → s₂₁.partOf (some id) = s₁.partOf (some id))
    (hsame₂ : ∀ id, Q id → s₁₂.partOf (some id) = s₂.partOf (some id)) : SameRows s₁₂ s₂₁ := by
  have huntouched : ∀ {R : Uuid → Prop} {t t' : Store} {id : Uuid}, Touched R t t' → ¬R id →
      t'.partOf (some id) = t.partOf (some id) := fun h hid =>
    partOf_of_touched h fun _ heq => Option.some.inj heq ▸ hid
  refine sameRows_of_parts fun id => ?_
  by_cases hP : P id
  · rw [hsame₁ id hP, huntouched hlater₁ (hother id hP)]
  · rw [huntouched hlater₂ hP]
    by_cases hQ : Q id
    · exact (hsame₂ id hQ).symm
    · rw [huntouched hsecond hQ, huntouched hlater₁ hQ, huntouched hfirst hP]

end Store
end BoardRules
