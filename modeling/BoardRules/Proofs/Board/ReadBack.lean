import BoardRules.Proofs.Action.Write
import BoardRules.Proofs.Board.Course
import BoardRules.Proofs.Store.ReadBack
import BoardRules.Proofs.Store.Sound

/-! Reading back what was written to a field. Whoever writes, and whatever is told of the write: a
value that is alike the stored one is not stored, and then the stored one is read. Any other value
is read as it was written. -/
namespace BoardRules

open Engine

/-- A card that is named by an identifier is loaded as it is stored, if the storage can be read. -/
theorem Engine.exec_loadCard (env : Environment) {card : RowRef} {id : Uuid}
    (hid : card.id? = some id) (w : World) : exec (loadCard env card) w =
      (if env.storageFails w.accesses then .error .storageRead else w.store.viewCard card,
        w.accessed) := by
  unfold loadCard Store.viewCard
  rw [hid]
  dsimp only
  rw [exec_reading, Option.bind_some]
  cases w.store.card? id <;> rfl

/-- Writes to a field, where no card has two fields with one key. In order: an automation's write is
read back, with the value that the record of its action tells; so is a user's, once it is committed
and before it is published, with the value that the event tells; a card is loaded as it is seen in
the store; and what a key holds after a write is the value written, unless it held one that is alike
that value and other than it. -/
theorem field_readBack (env : Environment) (h : HandOver) (key : String) (value : Json) (w : World)
    (hkeys : w.store.KeysDiffer) :
    (∀ (card : RowRef) (w' : World), exec (updateField env card key value) w = (.ok (), w') →
      ∃ id, card.id? = some id ∧ w.store.ReadBack id key value w'.store) ∧
    (∀ (ctx : ActionContext) (payload : Json) (w' : World) (record : ActionRecord),
      Action.ofJson payload = .ok (.updateField key value) →
      exec (perform env h ctx payload) w = (.ok record, w') → record.error? = none →
        record.outcome = .success [("fieldKey", .str key), ("newValue", value)] ∧
          ∃ id, ctx.card.id? = some id ∧ w.store.ReadBack id key value w'.store) ∧
    (∀ (card : Uuid) (type : String) (w' : World) (sheet : CardSheet),
      exec (Board.setField env h card key type value) w = (.ok (.ok sheet), w') →
        ∃ (w₁ : World) (event : BoardEvent), w.store.ReadBack card key value w₁.store ∧
          w' = w₁.published env h event ∧ event.payload.get? "field_value" = some value) ∧
    (∀ (card : RowRef) (id : Uuid) (w₁ : World), card.id? = some id →
      exec (loadCard env card) w₁ =
        (if env.storageFails w₁.accesses then .error .storageRead else w₁.store.viewCard card,
          w₁.accessed)) ∧
    ∀ card : Uuid,
      (w.store.keptValue card key value = value ↔
        ∀ r, w.store.fieldRow? card key = some r → r.value.alike value = true → r.value = value) ∧
      (w.store.keptValue card key value = value ∨
        (w.store.keptValue card key value).alike value = true) := by
  refine ⟨?_, ?_, ?_, fun card id w₁ hid => exec_loadCard env hid w₁,
    fun card => ⟨Store.keptValue_eq_iff, Store.keptValue_alike⟩⟩
  · intro card w' hexec
    obtain ⟨id, time, hid, hstore⟩ := updateField_eq_ok hexec
    rw [hstore]
    exact ⟨id, hid, Store.readBack_writeField hkeys id key value time⟩
  · intro ctx payload w' record haction hexec hsuccess
    obtain ⟨rfl, id, time, hid, hstore⟩ := perform_updateField haction hexec hsuccess
    rw [hstore]
    exact ⟨rfl, id, hid, Store.readBack_writeField hkeys id key value time⟩
  · intro card type w' sheet hexec
    obtain ⟨w₁, pipe, time, hstore, hpublished⟩ := Board.setField_eq_ok hexec
    refine ⟨w₁, _, ?_, hpublished, rfl⟩
    rw [hstore]
    exact Store.readBack_setField hkeys card key type value time

theorem Store.flagged_numbered : Store.flagged.FieldsNumbered := by
  intro card
  by_cases hcard : card = ⟨3, by decide⟩
  · subst hcard
    exact ⟨by decide, by decide⟩
  · have hnone : Store.flagged.slotsOf card = [] := by
      simp [Store.slotsOf, Store.slots, Store.flagged, FieldRow.slot, Ne.symm hcard]
    rw [hnone]
    exact ⟨List.nodup_nil, .refl _⟩

/-- On the board with a flag of one: an automation that sets it to true is told to have done so, and
one is read back. -/
theorem field_readBack_flagged : ∃ record w', exec (perform Environment.sample openPool
      { card := .ofUuid ⟨3, by decide⟩, automation := ⟨4, by decide⟩ }
      (Store.sampleWrite "flag" (.bool true))) { store := Store.flagged } = (.ok record, w') ∧
    record.outcome = .success [("fieldKey", .str "flag"), ("newValue", .bool true)] ∧
    (w'.store.fieldMap ⟨3, by decide⟩).get? "flag" = some (.int 1) := by
  have hexec : ∃ record w', exec (perform Environment.sample openPool
      { card := .ofUuid ⟨3, by decide⟩, automation := ⟨4, by decide⟩ }
      (Store.sampleWrite "flag" (.bool true))) { store := Store.flagged } = (.ok record, w') ∧
      record.error? = none := ⟨_, _, rfl, by decide⟩
  obtain ⟨record, w', hperformed, hsuccess⟩ := hexec
  obtain ⟨hrecord, id, hid, hread⟩ := (field_readBack Environment.sample openPool "flag" (.bool true)
    { store := Store.flagged } Store.flagged_numbered.keysDiffer).2.1 _ _ w' record (by rfl)
      hperformed hsuccess
  cases hid
  refine ⟨record, w', hperformed, hrecord, hread.value.trans ?_⟩
  decide

end BoardRules
