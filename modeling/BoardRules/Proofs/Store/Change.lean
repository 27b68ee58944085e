import BoardRules.Store.Change

/-! What a change of the store does row by row. A move touches one card and adds one row of history;
a write touches or adds one field. -/
namespace BoardRules.Store

variable {s : Store}

/-- The first row that satisfies `p` is changed, and no other. -/
theorem modifyFirst_eq {α : Type} {p : α → Bool} {x : α} (f : α → α) :
    ∀ {l : List α}, l.find? p = some x →
      ∃ before after, l = before ++ x :: after ∧ modifyFirst p f l = before ++ f x :: after
  | [], h => by cases h
  | y :: ys, h => by
    rw [List.find?_cons] at h
    unfold modifyFirst
    cases hy : p y with
    | true =>
      rw [hy] at h
      cases h
      exact ⟨[], ys, rfl, rfl⟩
    | false =>
      rw [hy] at h
      obtain ⟨before, after, hsplit, hmodified⟩ := modifyFirst_eq f h
      refine ⟨y :: before, after, ?_, ?_⟩
      · rw [hsplit]; rfl
      · rw [if_neg Bool.false_ne_true, hmodified]; rfl

/-- A row that is changed keeps its key, so each row is found where it was. -/
theorem find?_modifyFirst {α κ : Type} [DecidableEq κ] {key : α → κ} {f : α → α}
    (hf : ∀ x, key (f x) = key x) (k k' : κ) :
    ∀ l : List α, (modifyFirst (fun x => key x == k) f l).find? (fun x => key x == k') =
      (l.find? fun x => key x == k').map fun x => if k' = k then f x else x
  | [] => rfl
  | x :: xs => by
    unfold modifyFirst
    by_cases hx : key x = k
    · by_cases hk : k' = k
      · simp [hx, hk, hf]
      · have hne : (k == k') = false := by simp [Ne.symm hk]
        simp [hx, hk, hf, hne]
    · rw [if_neg (by simpa using hx), List.find?_cons, List.find?_cons]
      cases hk' : key x == k' with
      | true =>
        have hne : k' ≠ k := by
          rw [← beq_iff_eq.mp hk']
          exact hx
        simp [hne]
      | false => exact find?_modifyFirst hf k k' xs

theorem card?_modifyCard (s : Store) {f : CardRow → CardRow} (hf : ∀ c, (f c).id = c.id)
    (id other : Uuid) : (s.modifyCard id f).card? other =
      (s.card? other).map fun c => if other = id then f c else c :=
  find?_modifyFirst hf id other s.cards

theorem mem_modifyFirst {α : Type} {p : α → Bool} {f : α → α} {y : α} :
    ∀ {l : List α}, y ∈ modifyFirst p f l → y ∈ l ∨ ∃ x ∈ l, y = f x
  | x :: xs, hy => by
    unfold modifyFirst at hy
    split at hy
    · rcases List.mem_cons.mp hy with rfl | hy
      · exact .inr ⟨x, List.mem_cons_self, rfl⟩
      · exact .inl (List.mem_cons_of_mem x hy)
    · rcases List.mem_cons.mp hy with rfl | hy
      · exact .inl List.mem_cons_self
      · rcases mem_modifyFirst hy with hy | ⟨z, hz, rfl⟩
        · exact .inl (List.mem_cons_of_mem x hy)
        · exact .inr ⟨z, List.mem_cons_of_mem x hz, rfl⟩

/-- One card is moved at a time: its stage and its last update are set, and its history has one more
row. -/
inductive CardMoved (s : Store) (move : CardMove) (time : Moment) : Store → Prop where
  | intro (before after : List CardRow) (row : CardRow) (hcards : s.cards = before ++ row :: after)
    (hid : row.id = move.card) : CardMoved s move time { s with
      cards := before ++ { row with stage := some move.toStage, updatedAt := time } :: after
      history := s.history ++
        [⟨move.card, time, move.fromStage, move.fromName, move.toStage, move.toName⟩] }

/-- One field of a card is written at a time. -/
inductive FieldWritten (s : Store) (card : Uuid) (key : String) (value : Json) (time : Moment) :
    Store → Prop where
  /-- There is such a field. A value alike the new one stays. -/
  | updated (before after : List FieldRow) (row : FieldRow)
    (hfields : s.fields = before ++ row :: after) (hcard : row.card = card) (hkey : row.key = key) :
    FieldWritten s card key value time { s with
      fields := before ++
        { row with value := row.value.written value, updatedAt := time } :: after }
  /-- There is no such field yet. -/
  | created (row : FieldRow) (hnew : ∀ r ∈ s.fields, ¬(r.card = card ∧ r.key = key))
    (hcard : row.card = card) (hkey : row.key = key) (hvalue : row.value = value)
    (htime : row.updatedAt = time) :
    FieldWritten s card key value time { s with fields := s.fields ++ [row] }

theorem cardMoved_applyMove {row : CardRow} {move : CardMove} (hid : move.card = row.id)
    (hrow : s.card? row.id = some row) (time : Moment) :
    CardMoved s move time (s.applyMove move time) := by
  rw [← hid] at hrow
  obtain ⟨before, after, hcards, hmodified⟩ :=
    modifyFirst_eq
      (fun c : CardRow => { c with stage := some move.toStage, updatedAt := time }) hrow
  unfold applyMove modifyCard
  rw [hmodified]
  exact .intro before after row hcards hid.symm

theorem fieldWritten_writeField (s : Store) (card : Uuid) (key : String) (value : Json)
    (time : Moment) : FieldWritten s card key value time (s.writeField card key value time) := by
  unfold writeField
  cases hrow : s.fieldRow? card key with
  | some row =>
    have hfits : row.card = card ∧ row.key = key := by
      simpa using List.find?_some hrow
    obtain ⟨before, after, hfields, hmodified⟩ := modifyFirst_eq
      (fun r : FieldRow => { r with value := r.value.written value, updatedAt := time }) hrow
    dsimp only
    unfold modifyField
    rw [hmodified]
    exact .updated before after row hfields hfits.1 hfits.2
  | none =>
    have hnew : ∀ r ∈ s.fields, ¬(r.card = card ∧ r.key = key) := by
      simpa [fieldRow?] using hrow
    exact .created _ hnew rfl rfl rfl rfl

/-- A write changes fields and nothing else. -/
theorem writeField_frame (s : Store) (card : Uuid) (key : String) (value : Json) (time : Moment) :
    ∃ fields, s.writeField card key value time = { s with fields } := by
  unfold writeField
  split <;> exact ⟨_, rfl⟩

/-- Setting a field changes fields, and when the card was updated. -/
theorem setField_frame (s : Store) (card : Uuid) (key type : String) (value : Json)
    (time : Moment) : ∃ fields, s.setField card key type value time =
      { s.modifyCard card (fun c => { c with updatedAt := time }) with fields } := by
  unfold setField
  split <;> exact ⟨_, rfl⟩

@[simp] theorem automations_writeField (s : Store) (card : Uuid) (key : String) (value : Json)
    (time : Moment) : (s.writeField card key value time).automations = s.automations := by
  unfold writeField
  split <;> rfl

@[simp] theorem logs_writeField (s : Store) (card : Uuid) (key : String) (value : Json)
    (time : Moment) : (s.writeField card key value time).logs = s.logs := by
  unfold writeField
  split <;> rfl

@[simp] theorem logs_setField (s : Store) (card : Uuid) (key type : String) (value : Json)
    (time : Moment) : (s.setField card key type value time).logs = s.logs := by
  unfold setField
  split <;> rfl

end BoardRules.Store
