import BoardRules.Proofs.Action.Record

/-! Writing to a field. A write that succeeds has found the card and has changed one field of it; an
action that writes to a field succeeds if the write does, and reports the value it was given. -/
namespace BoardRules.Engine

variable {env : Environment} {h : HandOver} {ctx : ActionContext} {w w' : World} {key : String}
  {value : Json}

theorem updateField_eq_ok {card : RowRef} {u : Unit}
    (hexec : exec (updateField env card key value) w = (.ok u, w')) :
    ∃ id time, card.id? = some id ∧ w'.store = w.store.writeField id key value time := by
  unfold updateField at hexec
  cases hid : card.id? with
  | none =>
    rw [hid] at hexec
    cases hexec
  | some id =>
    rw [hid] at hexec
    dsimp only at hexec
    rcases writing_cases env noCard (fieldChange id key value) w with
      ⟨w₁, hfailed, -⟩ | ⟨w₁, hmissing, -⟩ | ⟨v, store, w₁, hwritten, hchange, hledger⟩
    · cases hexec.symm.trans hfailed
    · cases hexec.symm.trans hmissing
    · obtain ⟨row, hrow, hstore⟩ := Option.bind_eq_some_iff.mp hchange
      cases hstore
      cases hexec.symm.trans hwritten
      obtain rfl := Store.id_of_card? hrow
      exact ⟨row.id, _, rfl, congrArg Ledger.store hledger⟩

/-- What an action that writes to a field reports of its success. -/
def writeReport (key : String) (value : Json) : Entries :=
  [("fieldKey", .str key), ("newValue", value)]

/-- An action that succeeds has been attempted with success. -/
theorem recorded_eq_ok {payload : Json} {r : Except Fault Entries} {record : ActionRecord}
    (h : recorded payload r = .ok record) (hsuccess : record.error? = none) :
    ∃ report, r = .ok report ∧ record = recordOf payload (.success report) := by
  unfold recorded at h
  split at h
  · cases h
    exact ⟨_, rfl, rfl⟩
  · cases h
    cases hsuccess
  · cases h

theorem perform_updateField {payload : Json} {record : ActionRecord}
    (haction : Action.ofJson payload = .ok (.updateField key value))
    (hexec : exec (perform env h ctx payload) w = (.ok record, w'))
    (hsuccess : record.error? = none) :
    record = recordOf payload (.success (writeReport key value)) ∧
      ∃ id time, ctx.card.id? = some id ∧ w'.store = w.store.writeField id key value time := by
  obtain ⟨w₀, w₁, hledger₀, hledger₁, hperform⟩ := exec_perform_of_attempt env h ctx payload w
  rw [hexec, Prod.mk.injEq] at hperform
  obtain ⟨hrecord, rfl⟩ := hperform
  obtain ⟨report, hreport, rfl⟩ := recorded_eq_ok hrecord.symm hsuccess
  have hattempt : attempt env h ctx payload =
      updateField env ctx.card key value >>= fun _ => pure (writeReport key value) := by
    unfold attempt
    rw [haction]
    rfl
  have hended : exec (attempt env h ctx payload) w₀ =
      (.ok report, (exec (attempt env h ctx payload) w₀).2) := Prod.ext hreport rfl
  rw [hattempt] at hended hledger₁
  obtain ⟨u, w₂, hwrite, hdone⟩ := exec_bind_eq_ok.mp hended
  cases hdone
  rw [exec_bind_ok hwrite] at hledger₁
  obtain ⟨id, time, hid, hstore⟩ := updateField_eq_ok hwrite
  rw [World.store_of_ledger hledger₀] at hstore
  exact ⟨rfl, id, time, hid, (World.store_of_ledger hledger₁).trans hstore⟩

end BoardRules.Engine
