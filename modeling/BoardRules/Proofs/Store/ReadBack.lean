import BoardRules.Proofs.Engine.Reading
import BoardRules.Proofs.Store.Fields

/-! What is read of a card after one of its fields has been written. The value is read back as it
was given, unless the field held a value alike it: then that value stays. Nothing else that is read
of any card changes. -/
namespace BoardRules

namespace Entries

variable {es : Entries} {key : String} {v : Json}

theorem get?_eq_some_iff (hkeys : (es.map Prod.fst).Nodup) :
    es.get? key = some v ↔ (key, v) ∈ es := by
  induction es with
  | nil => simp [get?]
  | cons e rest ih =>
    rw [List.map_cons, List.nodup_cons] at hkeys
    obtain ⟨k, u⟩ := e
    unfold get?
    by_cases hk : k = key
    · subst hk
      have hrest : (k, v) ∉ rest := fun hmem => hkeys.1 (List.mem_map.mpr ⟨(k, v), hmem, rfl⟩)
      simp [hrest, eq_comm]
    · rw [if_neg hk, ih hkeys.2]
      simp [Ne.symm hk]

end Entries

namespace Store

variable {s s' : Store} {card : Uuid} {key type : String} {value : Json}

/-- Where keys differ, the row that is found under a key is the only one there. -/
theorem KeysDiffer.fieldRow?_eq_some_iff (h : s.KeysDiffer) {r : FieldRow} :
    s.fieldRow? card key = some r ↔ r ∈ s.fieldsOf card ∧ r.key = key := by
  constructor
  · intro hfound
    have hfits : r.card = card ∧ r.key = key := by simpa using List.find?_some hfound
    exact ⟨List.mem_filter.mpr ⟨List.mem_of_find?_eq_some hfound, by simpa using hfits.1⟩, hfits.2⟩
  · rintro ⟨hr, rfl⟩
    have hcard : r ∈ s.fields ∧ r.card = card := by simpa [fieldsOf] using hr
    have hsome : (s.fieldRow? card r.key).isSome := by
      unfold fieldRow?
      rw [List.find?_isSome]
      exact ⟨r, hcard.1, by simp [hcard.2]⟩
    obtain ⟨r', hr'⟩ := Option.isSome_iff_exists.mp hsome
    have hfits : r'.card = card ∧ r'.key = r.key := by simpa using List.find?_some hr'
    have hmem : r' ∈ s.fieldsOf card :=
      List.mem_filter.mpr ⟨List.mem_of_find?_eq_some hr', by simpa using hfits.1⟩
    rw [hr', List.inj_on_of_nodup_map (h card) hmem hr hfits.2]

/-- The map of fields has the value of the row that is found under a key. -/
theorem KeysDiffer.get?_fieldMap (h : s.KeysDiffer) (card : Uuid) (key : String) :
    (s.fieldMap card).get? key = (s.fieldRow? card key).map FieldRow.value := by
  have hkeys : ((s.fieldMap card).map Prod.fst).Nodup := by
    rw [h.fieldMap_eq card, List.map_map]
    exact ((fieldRows_perm s card).map FieldRow.key).nodup_iff.mpr (h card)
  ext v
  rw [Entries.get?_eq_some_iff hkeys, h.fieldMap_eq card, Option.map_eq_some_iff]
  simp only [h.fieldRow?_eq_some_iff, List.mem_map, (fieldRows_perm s card).mem_iff, Prod.mk.injEq]
  exact ⟨fun ⟨r, hr, hkey, hv⟩ => ⟨r, ⟨hr, hkey⟩, hv⟩, fun ⟨r, ⟨hr, hkey⟩, hv⟩ => ⟨r, hr, hkey, hv⟩⟩

/-- The rows of other cards and keys are found as they were. -/
theorem fieldRow?_modifyField (s : Store) {f : FieldRow → FieldRow}
    (hf : ∀ r, (f r).slot = r.slot) (card other : Uuid) (key k : String) :
    (s.modifyField card key f).fieldRow? other k = (s.fieldRow? other k).map fun r =>
      if other = card ∧ k = key then f r else r := by
  have hplace : ∀ r, ((f r).card, (f r).key) = (r.card, r.key) := fun r =>
    congrArg (fun slot : FieldSlot => (slot.card, slot.key)) (hf r)
  have hpair : ∀ c l, (fun r : FieldRow => r.card == c && r.key == l) =
      fun r => (instBEqOfDecidableEq : BEq (Uuid × String)).beq (r.card, r.key) (c, l) := by
    intro c l
    funext r
    rw [Bool.eq_iff_iff]
    simp
  have hfind := @find?_modifyFirst _ _ _ (fun r : FieldRow => (r.card, r.key)) f hplace (card, key)
    (other, k) s.fields
  unfold fieldRow? modifyField
  rw [hpair, hpair]
  simpa only [Prod.mk.injEq] using hfind

theorem fieldRow?_addField (s : Store) {card : Uuid} {key : String}
    (hnone : s.fieldRow? card key = none) (type : String) (value : Json) (time : Moment)
    (other : Uuid) (k : String) :
    (s.addField card key type value time).fieldRow? other k =
      if other = card ∧ k = key then
        some ⟨card, key, type, value, (s.fieldsOf card).length, time⟩
      else s.fieldRow? other k := by
  unfold addField fieldRow? at *
  dsimp only
  rw [List.find?_append]
  split
  · rename_i hsame
    rw [hsame.1, hsame.2, hnone]
    simp
  · rename_i hother
    have hlast : [(⟨card, key, type, value, (s.fieldsOf card).length, time⟩ : FieldRow)].find?
        (fun f => f.card == other && f.key == k) = none := by
      simp only [List.find?_singleton, ite_eq_right_iff]
      intro heq
      simp at heq
      exact absurd ⟨heq.1.symm, heq.2.symm⟩ hother
    rw [hlast, Option.or_none]

theorem fieldsOf_modifyField (s : Store) {f : FieldRow → FieldRow}
    (hf : ∀ r, (f r).slot = r.slot) {card other : Uuid} (key : String) (hother : other ≠ card) :
    (s.modifyField card key f).fieldsOf other = s.fieldsOf other := by
  have hkept : ∀ l : List FieldRow,
      (modifyFirst (fun r => r.card == card && r.key == key) f l).filter
        (fun r => r.card == other) = l.filter fun r => r.card == other := by
    intro l
    induction l with
    | nil => rfl
    | cons r rest ih =>
      unfold modifyFirst
      split
      · rename_i hfits
        have hcard : r.card = card := by simp at hfits; exact hfits.1
        have hstays : (f r).card = r.card := congrArg FieldSlot.card (hf r)
        rw [List.filter_cons_of_neg (by simpa [hstays, hcard] using Ne.symm hother),
          List.filter_cons_of_neg (by simpa [hcard] using Ne.symm hother)]
      · rw [List.filter_cons, List.filter_cons, ih]
  exact hkept s.fields

/-- What a key of a card holds after a value has been written to it. -/
def keptValue (s : Store) (card : Uuid) (key : String) (value : Json) : Json :=
  match s.fieldRow? card key with
  | some r => r.value.written value
  | none => value

/-- What a write to a key of a card does to the rows of fields. -/
structure RowPut (s : Store) (card : Uuid) (key : String) (value : Json) (s' : Store) : Prop where
  value : (s'.fieldRow? card key).map FieldRow.value = some (s.keptValue card key value)
  others : ∀ c k, ¬(c = card ∧ k = key) → s'.fieldRow? c k = s.fieldRow? c k
  elsewhere : ∀ c, c ≠ card → s'.fieldsOf c = s.fieldsOf c

theorem rowPut_modifyField {r : FieldRow} (hrow : s.fieldRow? card key = some r)
    {f : FieldRow → FieldRow} (hf : ∀ r, (f r).slot = r.slot)
    (hvalue : (f r).value = r.value.written value) :
    RowPut s card key value (s.modifyField card key f) where
  value := by
    rw [fieldRow?_modifyField s hf, hrow, Option.map_some, if_pos ⟨rfl, rfl⟩, Option.map_some,
      hvalue, keptValue, hrow]
  others := by
    intro c k hother
    rw [fieldRow?_modifyField s hf]
    simp only [if_neg hother, Option.map_id']
  elsewhere := fun c hc => fieldsOf_modifyField s hf key hc

theorem rowPut_addField (hnone : s.fieldRow? card key = none) (type : String) (time : Moment) :
    RowPut s card key value (s.addField card key type value time) where
  value := by
    rw [fieldRow?_addField s hnone, if_pos ⟨rfl, rfl⟩, keptValue, hnone]
    rfl
  others := by
    intro c k hother
    rw [fieldRow?_addField s hnone, if_neg hother]
  elsewhere := by
    intro c hc
    unfold addField fieldsOf
    rw [List.filter_append, List.filter_cons_of_neg (by simpa using Ne.symm hc), List.filter_nil,
      List.append_nil]

theorem rowPut_writeField (s : Store) (card : Uuid) (key : String) (value : Json)
    (time : Moment) : RowPut s card key value (s.writeField card key value time) := by
  unfold writeField
  cases hrow : s.fieldRow? card key with
  | some r => exact rowPut_modifyField hrow (fun _ => rfl) rfl
  | none => exact rowPut_addField hrow "text" time

theorem rowPut_setField (s : Store) (card : Uuid) (key type : String) (value : Json)
    (time : Moment) : RowPut s card key value (s.setField card key type value time) := by
  have hwritten : RowPut s card key value
      (match s.fieldRow? card key with
        | some _ => s.modifyField card key fun r =>
            if r.value.alike value then r else { r with value := value, updatedAt := time }
        | none => s.addField card key type value time) := by
    cases hrow : s.fieldRow? card key with
    | some r =>
      refine rowPut_modifyField hrow (fun r => by split <;> rfl) ?_
      unfold Json.written
      split <;> rfl
    | none => exact rowPut_addField hrow type time
  exact ⟨hwritten.value, hwritten.others, hwritten.elsewhere⟩

/-- A value replaces the stored one, unless they are alike. -/
theorem keptValue_eq_iff : s.keptValue card key value = value ↔
    ∀ r, s.fieldRow? card key = some r → r.value.alike value = true → r.value = value := by
  unfold keptValue Json.written
  cases s.fieldRow? card key with
  | none => simp
  | some r => simp

theorem keptValue_alike : s.keptValue card key value = value ∨
    (s.keptValue card key value).alike value = true := by
  unfold keptValue Json.written
  cases s.fieldRow? card key with
  | none => exact .inl rfl
  | some r =>
    dsimp only
    split
    · rename_i halike
      exact .inr halike
    · exact .inl rfl

/-- A card is seen as before, with the fields that it has now. -/
theorem cardView_reframed (s : Store) (cards : List CardRow) (fields : List FieldRow)
    (row : CardRow) (time : Moment) :
    { s with cards, fields }.cardView { row with updatedAt := time } =
      (s.cardView row).map fun v =>
        { v with fields := { s with cards, fields }.fieldMap row.id } := by
  have hstage : { s with cards, fields }.stageOf { row with updatedAt := time } = s.stageOf row :=
    rfl
  have hview : { s with cards, fields }.stageView = s.stageView := rfl
  have hsubmissions : { s with cards, fields }.submissionView = s.submissionView := rfl
  unfold cardView
  rw [hstage, hview, hsubmissions]
  dsimp only
  generalize (s.submissions.filter fun sub => sub.card == row.id).mapM s.submissionView = answers
  cases s.stageOf row with
  | none => cases answers <;> rfl
  | some stage =>
    dsimp only
    cases s.stageView stage with
    | error f => rfl
    | ok v => cases answers <;> rfl

theorem fields_of_cardView {row : CardRow} {v : CardView} (h : s.cardView row = .ok v) :
    v.fields = s.fieldMap row.id := by
  unfold cardView at h
  dsimp only at h
  split at h
  all_goals
    obtain ⟨stage, -, h⟩ := bind_eq_ok.mp h
    obtain ⟨submissions, -, h⟩ := bind_eq_ok.mp h
    cases h
    rfl

/-- Where fields have changed, and when cards were updated, that is all that is seen of it. -/
theorem viewCard_reframed {cards : List CardRow} {fields : List FieldRow}
    (time : Uuid → CardRow → Moment)
    (hcards : ∀ id, { s with cards, fields }.card? id =
      (s.card? id).map fun c => { c with updatedAt := time id c }) (ref : RowRef) :
    { s with cards, fields }.viewCard ref = (s.viewCard ref).map (Option.map fun v =>
      { v with fields := { s with cards, fields }.fieldMap v.id }) := by
  unfold viewCard
  cases ref.id? with
  | none => rfl
  | some id =>
    rw [Option.bind_some, Option.bind_some, hcards]
    cases hrow : s.card? id with
    | none => rfl
    | some row =>
      dsimp only [Option.map_some]
      rw [cardView_reframed]
      cases hview : s.cardView row with
      | error f => rfl
      | ok v =>
        have hid : v.id = row.id := id_of_cardView hview
        rw [← hid]
        rfl

/-- What is read of a card after a value has been written to one of its keys: the fields have
changed under that key, and nothing else has changed of this card or of any other. -/
structure ReadBack (s : Store) (card : Uuid) (key : String) (value : Json) (s' : Store) :
    Prop where
  value : (s'.fieldMap card).get? key = some (s.keptValue card key value)
  others : ∀ k, k ≠ key → (s'.fieldMap card).get? k = (s.fieldMap card).get? k
  view : ∀ ref : RowRef, ref.id? = some card →
    s'.viewCard ref = (s.viewCard ref).map (Option.map fun v =>
      { v with fields := s'.fieldMap card })
  elsewhere : ∀ ref : RowRef, ref.id? ≠ some card → s'.viewCard ref = s.viewCard ref

theorem viewCard_id {ref : RowRef} {v : CardView} (h : s.viewCard ref = .ok (some v)) :
    ref.id? = some v.id ∧ v.fields = s.fieldMap v.id := by
  have hfound : s.cardFor ref = .ok v := by
    unfold cardFor
    rw [h]
    rfl
  obtain ⟨row, hid, -, hsame, hview⟩ := cardFor_eq_ok hfound
  rw [hsame]
  exact ⟨hid, fields_of_cardView hview⟩

/-- What a write does to rows is what a reader finds, as long as keys differ. -/
theorem RowPut.readBack (h : RowPut s card key value s') (hput : FieldPut s card key type s')
    (hkeys : s.KeysDiffer) (hviews : ∀ ref, s'.viewCard ref = (s.viewCard ref).map
      (Option.map fun v => { v with fields := s'.fieldMap v.id })) :
    ReadBack s card key value s' where
  value := by rw [(hput.keysDiffer hkeys).get?_fieldMap, h.value]
  others := by
    intro k hk
    rw [(hput.keysDiffer hkeys).get?_fieldMap, hkeys.get?_fieldMap,
      h.others card k fun hsame => hk hsame.2]
  view := by
    intro ref href
    rw [hviews]
    cases hview : s.viewCard ref with
    | error f => rfl
    | ok found =>
      cases found with
      | none => rfl
      | some v =>
        have hid : v.id = card := by
          have hown := (viewCard_id hview).1
          rw [href] at hown
          exact (Option.some.inj hown).symm
        rw [← hid]
        rfl
  elsewhere := by
    intro ref href
    rw [hviews]
    cases hview : s.viewCard ref with
    | error f => rfl
    | ok found =>
      cases found with
      | none => rfl
      | some v =>
        obtain ⟨hid, hfields⟩ := viewCard_id hview
        have hother : v.id ≠ card := by
          rintro rfl
          exact href hid
        have hmap : s'.fieldMap v.id = s.fieldMap v.id := by
          unfold fieldMap fieldRows
          rw [h.elsewhere v.id hother]
        change Except.ok (some { v with fields := s'.fieldMap v.id }) = _
        rw [hmap, ← hfields]

theorem readBack_writeField (hkeys : s.KeysDiffer) (card : Uuid) (key : String) (value : Json)
    (time : Moment) : ReadBack s card key value (s.writeField card key value time) := by
  refine (rowPut_writeField s card key value time).readBack
    (fieldPut_writeField s card key value time) hkeys ?_
  obtain ⟨fields, hframe⟩ := writeField_frame s card key value time
  rw [hframe]
  exact viewCard_reframed (fun _ c => c.updatedAt) fun id => Option.map_id'.symm

theorem readBack_setField (hkeys : s.KeysDiffer) (card : Uuid) (key type : String) (value : Json)
    (time : Moment) : ReadBack s card key value (s.setField card key type value time) := by
  refine (rowPut_setField s card key type value time).readBack
    (fieldPut_setField s card key type value time) hkeys ?_
  obtain ⟨fields, hframe⟩ := setField_frame s card key type value time
  have hcards : ∀ id, (s.modifyCard card fun c => { c with updatedAt := time }).card? id =
      (s.card? id).map fun c =>
        { c with updatedAt := if id = card then time else c.updatedAt } := by
    intro id
    rw [card?_modifyCard s (f := fun c : CardRow => { c with updatedAt := time }) (fun _ => rfl)]
    congr 1
    funext c
    split <;> rfl
  rw [hframe]
  exact viewCard_reframed (s := s) (fun id c => if id = card then time else c.updatedAt) hcards

end Store
end BoardRules
