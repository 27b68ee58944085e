import Mathlib.Data.List.Nodup
import Mathlib.Data.List.Sort
import BoardRules.Proofs.Store.Evolution

/-! The fields of a card. Their keys differ and their positions count them, and the map of fields
that is read of the card has an entry for each. A field keeps its card, key, type and position for
good: a write to a key of the card leaves the table of fields as long as it was, and a write to
another key adds a field at its end. -/
namespace BoardRules

namespace Entries

variable {es : Entries}

theorem put_of_notMem {key : String} (hkey : key ∉ es.map Prod.fst) (value : Json) :
    es.put key value = es ++ [(key, value)] := by
  induction es with
  | nil => rfl
  | cons e rest ih =>
    rw [List.map_cons, List.mem_cons, not_or] at hkey
    unfold put
    rw [if_neg (Ne.symm hkey.1), ih hkey.2]
    rfl

theorem foldl_put {pairs : List (String × Json)}
    (hkeys : (es.map Prod.fst ++ pairs.map Prod.fst).Nodup) :
    pairs.foldl (fun es p => es.put p.1 p.2) es = es ++ pairs := by
  induction pairs generalizing es with
  | nil => exact (List.append_nil es).symm
  | cons p rest ih =>
    have hnew : p.1 ∉ es.map Prod.fst := by
      intro hmem
      exact List.disjoint_of_nodup_append hkeys hmem (by simp)
    have hrest : ((es ++ [p]).map Prod.fst ++ rest.map Prod.fst).Nodup := by
      simpa using hkeys
    rw [List.foldl_cons, put_of_notMem hnew, ih hrest, List.append_assoc]
    rfl

/-- Members with different keys make up an object as they are. -/
theorem ofPairs_of_nodup {pairs : List (String × Json)} (hkeys : (pairs.map Prod.fst).Nodup) :
    ofPairs pairs = pairs := by
  have hnone : (([] : Entries).map Prod.fst ++ pairs.map Prod.fst).Nodup := by simpa using hkeys
  exact foldl_put hnone

end Entries

/-- What of a field stays as it is for good. -/
structure FieldSlot where
  card : Uuid
  key : String
  type : String
  position : Int
deriving DecidableEq

def FieldRow.slot (r : FieldRow) : FieldSlot := ⟨r.card, r.key, r.type, r.position⟩

/-- Slots of fields with different keys, at the positions from zero on. -/
structure Numbered (slots : List FieldSlot) : Prop where
  keys : (slots.map FieldSlot.key).Nodup
  positions : (slots.map FieldSlot.position).Perm ((List.range slots.length).map Int.ofNat)

theorem Numbered.snoc {slots : List FieldSlot} (h : Numbered slots) {slot : FieldSlot}
    (hkey : slot.key ∉ slots.map FieldSlot.key) (hposition : slot.position = slots.length) :
    Numbered (slots ++ [slot]) where
  keys := by
    rw [List.map_append]
    exact h.keys.append (List.nodup_singleton _) (by simpa using hkey)
  positions := by
    rw [List.map_append, List.length_append, List.length_singleton, List.range_succ,
      List.map_append]
    exact h.positions.append (.of_eq (by simp [hposition]))

namespace Store

variable {s s' : Store} {card : Uuid} {key type : String}

/-- The slots of all fields, in the order in which the fields were made. -/
def slots (s : Store) : List FieldSlot := s.fields.map FieldRow.slot

def slotsOf (s : Store) (card : Uuid) : List FieldSlot := s.slots.filter fun f => f.card == card

theorem slotsOf_eq (s : Store) (card : Uuid) :
    s.slotsOf card = (s.fieldsOf card).map FieldRow.slot := by
  unfold slotsOf slots fieldsOf
  rw [List.filter_map]
  rfl

theorem length_slotsOf (s : Store) (card : Uuid) :
    (s.slotsOf card).length = (s.fieldsOf card).length := by
  rw [slotsOf_eq, List.length_map]

theorem key_mem_slotsOf : key ∈ (s.slotsOf card).map FieldSlot.key ↔
    ∃ r ∈ s.fields, r.card = card ∧ r.key = key := by
  rw [slotsOf_eq]
  simp [fieldsOf, FieldRow.slot, and_assoc]

/-- Whether the fields of every card have different keys and are numbered from zero on. -/
def FieldsNumbered (s : Store) : Prop := ∀ card, Numbered (s.slotsOf card)

/-- What a write to a key of a card does to the table of fields. -/
structure FieldPut (s : Store) (card : Uuid) (key type : String) (s' : Store) : Prop where
  known : (∃ r ∈ s.fields, r.card = card ∧ r.key = key) → s'.slots = s.slots
  new : (∀ r ∈ s.fields, ¬(r.card = card ∧ r.key = key)) →
    s'.slots = s.slots ++ [⟨card, key, type, (s.fieldsOf card).length⟩]

theorem slots_modifyField (s : Store) (card : Uuid) (key : String) {f : FieldRow → FieldRow}
    (hf : ∀ r, (f r).slot = r.slot) : (s.modifyField card key f).slots = s.slots := by
  have hmap : ∀ (p : FieldRow → Bool) (l : List FieldRow),
      (modifyFirst p f l).map FieldRow.slot = l.map FieldRow.slot := by
    intro p l
    induction l with
    | nil => rfl
    | cons r rest ih =>
      unfold modifyFirst
      split
      · rw [List.map_cons, List.map_cons, hf]
      · rw [List.map_cons, List.map_cons, ih]
  exact hmap _ s.fields

theorem slots_addField (s : Store) (card : Uuid) (key type : String) (value : Json)
    (time : Moment) : (s.addField card key type value time).slots =
      s.slots ++ [⟨card, key, type, (s.fieldsOf card).length⟩] := by
  unfold slots addField
  rw [List.map_append]
  rfl

/-- Whether there is such a field decides which of the two ways a write goes. -/
theorem FieldPut.of_fieldRow? (hknown : (s.fieldRow? card key).isSome → s'.slots = s.slots)
    (hnew : s.fieldRow? card key = none →
      s'.slots = s.slots ++ [⟨card, key, type, (s.fieldsOf card).length⟩]) :
    FieldPut s card key type s' where
  known := by
    rintro ⟨r, hr, hfits⟩
    apply hknown
    unfold fieldRow?
    rw [List.find?_isSome]
    exact ⟨r, hr, by simpa using hfits⟩
  new := by
    intro hnone
    apply hnew
    unfold fieldRow?
    rw [List.find?_eq_none]
    exact fun r hr => by simpa using hnone r hr

theorem fieldPut_writeField (s : Store) (card : Uuid) (key : String) (value : Json)
    (time : Moment) : FieldPut s card key "text" (s.writeField card key value time) := by
  unfold writeField
  cases hrow : s.fieldRow? card key with
  | some row =>
    exact .of_fieldRow? (fun _ => slots_modifyField s card key fun _ => rfl)
      (fun hnone => by rw [hrow] at hnone; cases hnone)
  | none =>
    exact .of_fieldRow? (fun hsome => by rw [hrow] at hsome; cases hsome)
      fun _ => slots_addField s card key "text" value time

theorem fieldPut_setField (s : Store) (card : Uuid) (key type : String) (value : Json)
    (time : Moment) : FieldPut s card key type (s.setField card key type value time) := by
  unfold setField
  cases hrow : s.fieldRow? card key with
  | some row =>
    exact .of_fieldRow? (fun _ => slots_modifyField s card key fun r => by split <;> rfl)
      (fun hnone => by rw [hrow] at hnone; cases hnone)
  | none =>
    exact .of_fieldRow? (fun hsome => by rw [hrow] at hsome; cases hsome)
      fun _ => slots_addField s card key type value time

theorem FieldsNumbered.of_slots (h : s.FieldsNumbered) (hslots : s'.slots = s.slots) :
    s'.FieldsNumbered := by
  intro card
  unfold slotsOf
  rw [hslots]
  exact h card

/-- The slots of each card after a write: they are what they were, or the card that is written to
has one more. -/
theorem FieldPut.slotsOf_cases (hput : FieldPut s card key type s') (other : Uuid) :
    s'.slotsOf other = s.slotsOf other ∨
      other = card ∧ key ∉ (s.slotsOf card).map FieldSlot.key ∧
        s'.slotsOf card = s.slotsOf card ++ [⟨card, key, type, (s.slotsOf card).length⟩] := by
  by_cases hknown : ∃ r ∈ s.fields, r.card = card ∧ r.key = key
  · left
    unfold slotsOf
    rw [hput.known hknown]
  · have hslots := hput.new (by simpa using hknown)
    rw [← length_slotsOf] at hslots
    by_cases hcard : other = card
    · refine .inr ⟨hcard, fun hkey => hknown (key_mem_slotsOf.mp hkey), ?_⟩
      rw [slotsOf, hslots, List.filter_append, List.filter_cons_of_pos (by simp), List.filter_nil]
      rfl
    · left
      rw [slotsOf, hslots, List.filter_append,
        List.filter_cons_of_neg (by simpa using Ne.symm hcard), List.filter_nil, List.append_nil]
      rfl

/-- A write keeps the numbering: a new field comes last and takes the next number. -/
theorem FieldPut.numbered (hput : FieldPut s card key type s') (h : s.FieldsNumbered) :
    s'.FieldsNumbered := by
  intro other
  rcases hput.slotsOf_cases other with hsame | ⟨rfl, hkey, hslots⟩
  · rw [hsame]
    exact h other
  · rw [hslots]
    exact (h other).snoc hkey rfl

theorem FieldPut.prefixed (hput : FieldPut s card key type s') : s.slots <+: s'.slots := by
  by_cases hknown : ∃ r ∈ s.fields, r.card = card ∧ r.key = key
  · exact ⟨[], (List.append_nil _).trans (hput.known hknown).symm⟩
  · rw [hput.new (by simpa using hknown)]
    exact List.prefix_append _ _

/-- A transaction leaves the slots of fields as they are, unless it writes to a field. -/
theorem Transaction.fieldPut (h : Transaction s s') :
    s'.slots = s.slots ∨ ∃ card key type, FieldPut s card key type s' := by
  cases h with
  | moved | submitted | entered => exact .inl rfl
  | wrote card key value time => exact .inr ⟨_, _, _, fieldPut_writeField s card.id key value time⟩
  | set card key type value time =>
    exact .inr ⟨_, _, _, fieldPut_setField s card.id key type value time⟩

/-- However a store evolves, its fields stay numbered, and those that are there stay first. -/
theorem Evolves.fields (h : Evolves s s') (hnumbered : s.FieldsNumbered) :
    s'.FieldsNumbered ∧ s.slots <+: s'.slots := by
  induction h with
  | refl => exact ⟨hnumbered, List.prefix_rfl⟩
  | tail _ hlast ih =>
    obtain ⟨hbefore, hprefix⟩ := ih
    rcases hlast.fieldPut with hslots | ⟨card, key, type, hput⟩
    · exact ⟨hbefore.of_slots hslots, by rw [hslots]; exact hprefix⟩
    · exact ⟨hput.numbered hbefore, hprefix.trans hput.prefixed⟩

theorem fieldRows_perm (s : Store) (card : Uuid) : (s.fieldRows card).Perm (s.fieldsOf card) :=
  List.mergeSort_perm _ _

/-- The fields of a card are read in the order of their numbers. -/
theorem FieldsNumbered.fieldRows_positions (h : s.FieldsNumbered) (card : Uuid) :
    (s.fieldRows card).map FieldRow.position =
      (List.range (s.fieldsOf card).length).map Int.ofNat := by
  have hpositions := (h card).positions
  rw [length_slotsOf, slotsOf_eq, List.map_map] at hpositions
  have hperm := ((fieldRows_perm s card).map FieldRow.position).trans hpositions
  have hrows : ((s.fieldRows card).map FieldRow.position).Pairwise (· ≤ ·) := by
    rw [List.pairwise_map]
    refine (List.pairwise_mergeSort ?_ ?_ _).imp (by simp)
    · intro a b c hab hbc
      simp only [decide_eq_true_eq] at hab hbc ⊢
      exact hab.trans hbc
    · intro a b
      simpa using le_total a.position b.position
  have hrange : ((List.range (s.fieldsOf card).length).map Int.ofNat).Pairwise (· ≤ ·) := by
    rw [List.pairwise_map]
    exact List.pairwise_lt_range.imp fun hlt => Int.ofNat_le.mpr hlt.le
  exact hperm.eq_of_pairwise (fun a b _ _ => le_antisymm) hrows hrange

/-- Whether no card has two fields with the same key. -/
def KeysDiffer (s : Store) : Prop := ∀ card, ((s.fieldsOf card).map FieldRow.key).Nodup

theorem keysDiffer_iff : s.KeysDiffer ↔ ∀ card, ((s.slotsOf card).map FieldSlot.key).Nodup := by
  simp only [slotsOf_eq, List.map_map]
  rfl

theorem FieldsNumbered.keysDiffer (h : s.FieldsNumbered) : s.KeysDiffer :=
  keysDiffer_iff.mpr fun card => (h card).keys

theorem FieldPut.keysDiffer (hput : FieldPut s card key type s') (h : s.KeysDiffer) :
    s'.KeysDiffer := by
  rw [keysDiffer_iff] at h ⊢
  intro other
  rcases hput.slotsOf_cases other with hsame | ⟨rfl, hkey, hslots⟩
  · rw [hsame]
    exact h other
  · rw [hslots, List.map_append]
    exact (h other).append (List.nodup_singleton _) (by simpa using hkey)

/-- The map of fields has one entry for each field of the card. -/
theorem KeysDiffer.fieldMap_eq (h : s.KeysDiffer) (card : Uuid) :
    s.fieldMap card = (s.fieldRows card).map fun r => (r.key, r.value) := by
  unfold fieldMap
  apply Entries.ofPairs_of_nodup
  rw [List.map_map]
  exact ((fieldRows_perm s card).map FieldRow.key).nodup_iff.mpr (h card)

end Store
end BoardRules
