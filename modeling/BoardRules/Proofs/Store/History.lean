import BoardRules.Proofs.Store.Evolution

/-! The history of a card. Its rows form a chain: each leads from where the one before it has led
to, the first from where the card was, and the last to where the card is. -/
namespace BoardRules

/-- Where a card is: the stage it is in and what that is called, if it is in any. -/
structure Place where
  stage : Option Uuid
  name : Option String
deriving DecidableEq

namespace HistoryRow

def ofMove (move : CardMove) (time : Moment) : HistoryRow :=
  ⟨move.card, time, move.fromStage, move.fromName, move.toStage, move.toName⟩

def origin (r : HistoryRow) : Place := ⟨r.fromStage, r.fromName⟩

def destination (r : HistoryRow) : Place := ⟨some r.toStage, some r.toName⟩

end HistoryRow

/-- A chain of rows from one place to another. -/
inductive Leads : Place → List HistoryRow → Place → Prop where
  | nil (place : Place) : Leads place [] place
  | cons (row : HistoryRow) (rows : List HistoryRow) (place : Place)
    (hrest : Leads row.destination rows place) : Leads row.origin (row :: rows) place

theorem Leads.append {p₁ p₂ p₃ : Place} {rows rows' : List HistoryRow} (h : Leads p₁ rows p₂)
    (h' : Leads p₂ rows' p₃) : Leads p₁ (rows ++ rows') p₃ := by
  induction h with
  | nil => exact h'
  | cons row rows place _ ih => exact .cons row (rows ++ rows') p₃ (ih h')

namespace Store

variable {s s' s₁ s₂ s₃ : Store} {rows rows' : List HistoryRow}

/-- Whether every card is in no stage or in one that exists. -/
def StagesKnown (s : Store) : Prop :=
  ∀ card ∈ s.cards, ∀ stage ∈ card.stage, (s.stage? stage).isSome

def placeOf (s : Store) (card : CardRow) : Place :=
  ⟨card.stage, (s.stageOf card).map StageRow.name⟩

/-- From one store to another, certain rows are added to the history, in this order; and those of
each card lead from where it was to where it is. -/
structure Chained (s s' : Store) (rows : List HistoryRow) : Prop where
  history : s'.history = s.history ++ rows
  card : ∀ id card, s.card? id = some card → ∃ card', s'.card? id = some card' ∧
    Leads (s.placeOf card) (rows.filter fun r => r.card == id) (s'.placeOf card')
  absent : ∀ id, s.card? id = none → s'.card? id = none ∧ ∀ r ∈ rows, r.card ≠ id

theorem Chained.trans (h : Chained s₁ s₂ rows) (h' : Chained s₂ s₃ rows') :
    Chained s₁ s₃ (rows ++ rows') where
  history := by rw [h'.history, h.history, List.append_assoc]
  card := by
    intro id card hcard
    obtain ⟨card₂, hcard₂, hleads⟩ := h.card id card hcard
    obtain ⟨card₃, hcard₃, hleads'⟩ := h'.card id card₂ hcard₂
    refine ⟨card₃, hcard₃, ?_⟩
    rw [List.filter_append]
    exact hleads.append hleads'
  absent := by
    intro id hnone
    obtain ⟨hnone₂, hrows⟩ := h.absent id hnone
    obtain ⟨hnone₃, hrows'⟩ := h'.absent id hnone₂
    exact ⟨hnone₃, fun r hr => (List.mem_append.mp hr).elim (hrows r) (hrows' r)⟩

/-- Where no card changes its stage, there is nothing to be told. -/
theorem Chained.still (hhistory : s'.history = s.history) (hstages : s'.stages = s.stages)
    (hcards : ∀ id, (s'.card? id).map CardRow.stage = (s.card? id).map CardRow.stage) :
    Chained s s' [] where
  history := by rw [hhistory, List.append_nil]
  card := by
    intro id card hcard
    have hstage := hcards id
    rw [hcard, Option.map_some] at hstage
    obtain ⟨card', hcard', hsame⟩ := Option.map_eq_some_iff.mp hstage
    refine ⟨card', hcard', ?_⟩
    have hplace : s'.placeOf card' = s.placeOf card := by
      unfold placeOf stageOf stage?
      rw [hsame, hstages]
    rw [hplace]
    exact .nil _
  absent := by
    intro id hnone
    have hstage := hcards id
    rw [hnone, Option.map_none] at hstage
    exact ⟨Option.map_eq_none_iff.mp hstage, by simp⟩

theorem StagesKnown.of_cards (hknown : s.StagesKnown) (hstages : s'.stages = s.stages)
    (hcards : ∀ card ∈ s'.cards, (∃ card' ∈ s.cards, card.stage = card'.stage) ∨
      ∃ stage, card.stage = some stage ∧ (s.stage? stage).isSome) : s'.StagesKnown := by
  intro card hcard stage hstage
  have hsame : s'.stage? stage = s.stage? stage := by
    unfold stage?
    rw [hstages]
  rw [hsame]
  rcases hcards card hcard with ⟨card', hcard', heq⟩ | ⟨stage', heq, hsome⟩
  · rw [heq] at hstage
    exact hknown card' hcard' stage hstage
  · rw [heq] at hstage
    cases hstage
    exact hsome

/-- A card that is in a stage that exists is where that stage is. -/
theorem placeOf_eq (hknown : s.StagesKnown) {card : CardRow} (hcard : s.card? card.id = some card) :
    s.placeOf card = ⟨(s.stageOf card).map StageRow.id, (s.stageOf card).map StageRow.name⟩ := by
  unfold placeOf
  cases hstage : card.stage with
  | none => simp [stageOf, hstage]
  | some id =>
    obtain ⟨stage, hfound⟩ := Option.isSome_iff_exists.mp
      (hknown card (List.mem_of_find?_eq_some hcard) id hstage)
    have hid : stage.id = id := id_of_stage? hfound
    simp [stageOf, hstage, hfound, hid]

theorem chained_moved (hknown : s.StagesKnown) {card : CardRow} {stage : StageRow}
    (hcard : s.card? card.id = some card) (hstage : s.stage? stage.id = some stage)
    (time : Moment) {move : CardMove} (hmove : move = s.moveInto card stage) :
    Chained s (s.applyMove move time) [.ofMove move time] := by
  have hafter : ∀ id, (s.applyMove move time).card? id = (s.card? id).map fun c =>
      if id = move.card then { c with stage := some move.toStage, updatedAt := time } else c :=
    card?_modifyCard s (f := fun c : CardRow =>
      { c with stage := some move.toStage, updatedAt := time }) (fun _ => rfl) move.card
  have hid : move.card = card.id := by rw [hmove]; rfl
  have horigin : s.placeOf card = (HistoryRow.ofMove move time).origin := by
    rw [placeOf_eq hknown hcard, hmove]
    rfl
  have hdestination : s.placeOf { card with stage := some move.toStage, updatedAt := time } =
      (HistoryRow.ofMove move time).destination := by
    simp [placeOf, stageOf, HistoryRow.destination, HistoryRow.ofMove, hmove, moveInto, moveOf,
      hstage]
  refine ⟨rfl, fun id card' hcard' => ⟨_, (hafter id).trans (by rw [hcard', Option.map_some]), ?_⟩,
    fun id hnone => ⟨by rw [hafter, hnone, Option.map_none], ?_⟩⟩
  · by_cases heq : id = move.card
    · rw [heq, hid, hcard] at hcard'
      cases hcard'
      rw [if_pos heq, List.filter_cons_of_pos (by simp [HistoryRow.ofMove, heq]), List.filter_nil,
        horigin]
      exact .cons _ [] _ (hdestination ▸ .nil _)
    · rw [if_neg heq, List.filter_cons_of_neg (by simpa [HistoryRow.ofMove] using Ne.symm heq),
        List.filter_nil]
      exact .nil _
  · intro r hr heq
    rw [List.mem_singleton.mp hr] at heq
    have hmoved : move.card = id := heq
    rw [← hmoved, hid, hcard] at hnone
    cases hnone

/-- Each transaction continues the chains of all cards. -/
theorem Transaction.chained (h : Transaction s s') (hknown : s.StagesKnown) :
    s'.StagesKnown ∧ ∃ rows, Chained s s' rows := by
  cases h with
  | moved card stage time hcard hstage =>
    refine ⟨hknown.of_cards rfl fun c hc => ?_, _, chained_moved hknown hcard hstage time rfl⟩
    rcases mem_modifyFirst hc with hc | ⟨_, _, rfl⟩
    · exact .inl ⟨c, hc, rfl⟩
    · exact .inr ⟨stage.id, rfl, by rw [hstage]; rfl⟩
  | wrote card key value time =>
    obtain ⟨fields, hwritten⟩ := writeField_frame s card.id key value time
    rw [hwritten]
    exact ⟨hknown, [], .still rfl rfl fun _ => rfl⟩
  | set card key type value time =>
    obtain ⟨fields, hset⟩ := setField_frame s card.id key type value time
    rw [hset]
    refine ⟨hknown.of_cards rfl fun c hc => ?_, [], .still rfl rfl fun id => ?_⟩
    · rcases mem_modifyFirst hc with hc | ⟨c', hc', rfl⟩
      · exact .inl ⟨c, hc, rfl⟩
      · exact .inl ⟨c', hc', rfl⟩
    · have hafter := card?_modifyCard s (f := fun c : CardRow => { c with updatedAt := time })
        (fun _ => rfl) card.id id
      refine (congrArg (Option.map CardRow.stage) hafter).trans ?_
      rw [Option.map_map]
      exact congrArg (fun f => Option.map f (s.card? id)) (funext fun c => by
        dsimp only [Function.comp]
        split <;> rfl)
  | submitted row => exact ⟨hknown, [], .still rfl rfl fun _ => rfl⟩
  | entered row => exact ⟨hknown, [], .still rfl rfl fun _ => rfl⟩

/-- However a store evolves, the history of each card goes on as an unbroken chain. -/
theorem Evolves.chained (h : Evolves s s') (hknown : s.StagesKnown) :
    s'.StagesKnown ∧ ∃ rows, Chained s s' rows := by
  induction h with
  | refl => exact ⟨hknown, [], .still rfl rfl fun _ => rfl⟩
  | tail _ hlast ih =>
    obtain ⟨hknown', rows, hrows⟩ := ih
    obtain ⟨hknown'', rows', hrows'⟩ := hlast.chained hknown'
    exact ⟨hknown'', rows ++ rows', hrows.trans hrows'⟩

end Store
end BoardRules
