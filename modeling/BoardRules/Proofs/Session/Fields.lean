import BoardRules.Proofs.Board.ReadBack
import BoardRules.Proofs.Session.History

/-! The fields of cards over everything that users and automations do. They stay numbered from zero
on under different keys, and none is lost, in what is stored or in what is read. -/
namespace BoardRules

open Engine

theorem Evolving.fields {w w' : World} (h : Evolving w w') (hnumbered : w.store.FieldsNumbered) :
    w'.store.FieldsNumbered ∧ w.store.slots <+: w'.store.slots :=
  Store.Evolves.fields h hnumbered

/-- Fields that are numbered are all there when their card is loaded, in the order of their
numbers. -/
theorem Engine.loadCard_fields {env : Environment} {card : RowRef} {w w' : World} {v : CardView}
    (hexec : exec (loadCard env card) w = (.ok (some v), w')) (hnumbered : w.store.FieldsNumbered) :
    card.id? = some v.id ∧
      v.fields = (w.store.fieldRows v.id).map (fun r => (r.key, r.value)) ∧
      (w.store.fieldRows v.id).Perm (w.store.fieldsOf v.id) ∧
      (w.store.fieldRows v.id).map FieldRow.position =
        (List.range (w.store.fieldsOf v.id).length).map Int.ofNat := by
  obtain ⟨-, hview⟩ := (Reads.loadCard card).eq_ok hexec
  obtain ⟨hid, hfields⟩ := Store.viewCard_id hview
  exact ⟨hid, hfields.trans (hnumbered.keysDiffer.fieldMap_eq v.id),
    Store.fieldRows_perm w.store v.id, hnumbered.fieldRows_positions v.id⟩

/-- The table of fields. In order: whatever is asked for, and through all of a session, the fields
of every card keep different keys and are numbered from zero on, and the fields that were there are
still there, each with its card, key, type and position; a write by an automation and one by a user
add no field if the card has that key, and one field with the next number if it has not; and a card
that is loaded has an entry for each of its fields. -/
theorem fields_numbered :
    (∀ w w', Proceeds w w' → w.store.FieldsNumbered →
      w'.store.FieldsNumbered ∧ w.store.slots <+: w'.store.slots) ∧
    (∀ (s : Session) (index : Nat) (steps : List (Ambient × Step)),
      (∀ p ∈ steps, ∀ rows, p.2 ≠ .add rows) → s.world.store.FieldsNumbered →
      (s.runFrom index steps).2.world.store.FieldsNumbered ∧
        s.world.store.slots <+: (s.runFrom index steps).2.world.store.slots) ∧
    (∀ (env : Environment) (card : RowRef) (key : String) (value : Json) (w w' : World),
      exec (updateField env card key value) w = (.ok (), w') →
        ∃ id, card.id? = some id ∧ w.store.FieldPut id key "text" w'.store) ∧
    (∀ (env : Environment) (h : HandOver) (ctx : ActionContext) (payload : Json) (key : String)
        (value : Json) (w w' : World) (record : ActionRecord),
      Action.ofJson payload = .ok (.updateField key value) →
      exec (perform env h ctx payload) w = (.ok record, w') → record.error? = none →
        ∃ id, ctx.card.id? = some id ∧ w.store.FieldPut id key "text" w'.store) ∧
    (∀ (env : Environment) (h : HandOver) (card : Uuid) (key type : String) (value : Json)
        (w w' : World) (sheet : CardSheet),
      exec (Board.setField env h card key type value) w = (.ok (.ok sheet), w') →
        ∃ (w₁ : World) (event : BoardEvent), w.store.FieldPut card key type w₁.store ∧
          w' = w₁.published env h event) ∧
    ∀ (env : Environment) (card : RowRef) (w w' : World) (v : CardView),
      w.store.FieldsNumbered → exec (loadCard env card) w = (.ok (some v), w') →
        card.id? = some v.id ∧
          v.fields = (w.store.fieldRows v.id).map (fun r => (r.key, r.value)) ∧
          (w.store.fieldRows v.id).Perm (w.store.fieldsOf v.id) ∧
          (w.store.fieldRows v.id).map FieldRow.position =
            (List.range (w.store.fieldsOf v.id).length).map Int.ofNat := by
  refine ⟨fun w w' hproceeds => (evolving_of_proceeds hproceeds).fields,
    fun s index steps hsteps => (s.evolving_runFrom index steps hsteps).fields, ?_, ?_, ?_,
    fun env card w w' v hnumbered hexec => loadCard_fields hexec hnumbered⟩
  · intro env card key value w w' hexec
    obtain ⟨id, time, hid, hstore⟩ := updateField_eq_ok hexec
    rw [hstore]
    exact ⟨id, hid, Store.fieldPut_writeField w.store id key value time⟩
  · intro env h ctx payload key value w w' record haction hexec hsuccess
    obtain ⟨-, id, time, hid, hstore⟩ := perform_updateField haction hexec hsuccess
    rw [hstore]
    exact ⟨id, hid, Store.fieldPut_writeField w.store id key value time⟩
  · intro env h card key type value w w' sheet hexec
    obtain ⟨w₁, pipe, time, hstore, hpublished⟩ := Board.setField_eq_ok hexec
    refine ⟨w₁, _, ?_, hpublished⟩
    rw [hstore]
    exact Store.fieldPut_setField w.store card key type value time

/-- On the board with a flag: a user sets a new field, and a run writes to the flag and to another
new field. -/
theorem fields_numbered_flagged : ∃ w', Proceeds { store := Store.flagged } w' ∧
    w'.store.slots.map (fun f => (f.key, f.type, f.position)) =
      [("flag", "number", 0), ("mail", "email", 1), ("seen", "text", 2)] ∧
    w'.store.FieldsNumbered ∧ Store.flagged.slots <+: w'.store.slots := by
  have hcascades : (inPlace Environment.sample openPool).Cascades Environment.sample :=
    cascades_inPlace cascades_openPool
  have hproceeds : Proceeds { store := Store.flagged } _ :=
    .trans (.set Environment.sample _ hcascades ⟨3, by decide⟩ "mail" "email" (.str "") _)
      (.ran Environment.sample _ hcascades "manual" (.ofUuid ⟨3, by decide⟩)
        (.ofUuid ⟨1, by decide⟩) .untold 0 _)
  exact ⟨_, hproceeds, by decide +kernel, fields_numbered.1 _ _ hproceeds Store.flagged_numbered⟩

end BoardRules
