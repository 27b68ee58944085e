import Mathlib.Data.List.Forall2
import BoardRules.Engine.Perform
import BoardRules.Proofs.Engine.Ledger

/-! Programs that only read. Unless an access to the storage fails, such a program ends as what is
stored says, and either way it is quiet. -/
namespace BoardRules

variable {α β : Type}

theorem bind_eq_ok {ε : Type} {x : Except ε α} {f : α → Except ε β} {b : β} :
    x >>= f = .ok b ↔ ∃ a, x = .ok a ∧ f a = .ok b := by
  cases x <;> simp [bind, Except.bind]

theorem bind_eq_error {ε : Type} {x : Except ε α} {f : α → Except ε β} {e : ε} :
    x >>= f = .error e ↔ x = .error e ∨ ∃ a, x = .ok a ∧ f a = .error e := by
  cases x <;> simp [bind, Except.bind]

theorem toOption_eq_some {ε : Type} {x : Except ε α} {a : α} :
    x.toOption = some a ↔ x = .ok a := by
  cases x <;> simp [Except.toOption]

theorem mapM_eq_ok_iff {ε : Type} {f : α → Except ε β} :
    ∀ {l : List α} {bs : List β},
      l.mapM f = .ok bs ↔ List.Forall₂ (fun a b => f a = .ok b) l bs
  | [], bs => by
    rw [List.mapM_nil, List.forall₂_nil_left_iff]
    exact ⟨fun h => (Except.ok.inj h).symm, fun h => congrArg Except.ok h.symm⟩
  | a :: l, bs => by
    rw [List.mapM_cons, List.forall₂_cons_left_iff]
    constructor
    · intro h
      obtain ⟨b, hb, h⟩ := bind_eq_ok.mp h
      obtain ⟨bs', hbs, h⟩ := bind_eq_ok.mp h
      exact ⟨b, bs', hb, mapM_eq_ok_iff.mp hbs, (Except.ok.inj h).symm⟩
    · rintro ⟨b, bs', hb, hbs, rfl⟩
      rw [hb]
      exact bind_eq_ok.mpr ⟨b, rfl, bind_eq_ok.mpr ⟨bs', mapM_eq_ok_iff.mpr hbs, rfl⟩⟩

/-- What is there for every item is there for the list, and the other way round. -/
theorem exists_forall₂_iff {r : α → β → Prop} {l : List α} :
    (∃ bs, List.Forall₂ r l bs) ↔ ∀ a ∈ l, ∃ b, r a b := by
  induction l with
  | nil => exact iff_of_true ⟨[], .nil⟩ (by simp)
  | cons a l ih =>
    rw [List.forall_mem_cons, ← ih]
    constructor
    · rintro ⟨bs, h⟩
      cases h with
      | cons hb hbs => exact ⟨⟨_, hb⟩, _, hbs⟩
    · rintro ⟨⟨b, hb⟩, bs, hbs⟩
      exact ⟨b :: bs, .cons hb hbs⟩

/-- Lists that go with the same list, item by item, go with each other. -/
theorem forall₂_trans {γ : Type} {r : α → β → Prop} {s : β → γ → Prop} {t : α → γ → Prop}
    (h : ∀ a b c, r a b → s b c → t a c) {as : List α} {bs : List β} {cs : List γ}
    (hr : List.Forall₂ r as bs) (hs : List.Forall₂ s bs cs) : List.Forall₂ t as cs := by
  induction hr generalizing cs with
  | nil =>
    cases hs
    exact .nil
  | cons hab _ ih =>
    cases hs with
    | cons hbc hrest => exact .cons (h _ _ _ hab hbc) (ih hrest)

theorem mapM_eq_ok {ε : Type} {f : α → Except ε β} {l : List α}
    (h : ∀ a ∈ l, ∃ b, f a = .ok b) : ∃ bs, l.mapM f = .ok bs := by
  obtain ⟨bs, hbs⟩ := exists_forall₂_iff.mpr h
  exact ⟨bs, mapM_eq_ok_iff.mpr hbs⟩

theorem mapM_eq_error {ε : Type} {f : α → Except ε β} {e : ε} :
    ∀ {l : List α}, l.mapM f = .error e → ∃ a ∈ l, f a = .error e
  | [], h => by cases h
  | a :: l, h => by
    rw [List.mapM_cons] at h
    rcases bind_eq_error.mp h with ha | ⟨b, -, h⟩
    · exact ⟨a, List.mem_cons_self, ha⟩
    · rcases bind_eq_error.mp h with hl | ⟨bs, -, h⟩
      · obtain ⟨a', ha', hfault⟩ := mapM_eq_error hl
        exact ⟨a', List.mem_cons_of_mem a ha', hfault⟩
      · cases h

theorem mapError_eq_ok {ε ε' : Type} {g : ε → ε'} {x : Except ε α} {a : α}
    (h : x.mapError g = .ok a) : x = .ok a := by
  cases x with
  | error e => cases h
  | ok b => cases h; rfl

def found (what : Missing) : Option α → Except Fault α
  | some a => .ok a
  | none => .error (.action (.notFound what))

namespace Store

@[irreducible] def viewCard (s : Store) (card : RowRef) : Except Fault (Option CardView) :=
  match card.id?.bind s.card? with
  | none => .ok none
  | some row => (some <$> s.cardView row).mapError Fault.read

@[irreducible] def viewStage (s : Store) (stage : RowRef) : Except Fault (Option StageView) :=
  match stage.id?.bind s.stage? with
  | none => .ok none
  | some row => (some <$> s.stageView row).mapError Fault.read

def cardFor (s : Store) (card : RowRef) : Except Fault CardView :=
  s.viewCard card >>= found .card

def stageFor (s : Store) (stage : String) : Except Fault StageView :=
  s.viewStage (.ofText stage) >>= found .targetStage

@[irreducible] def namedTemplate? (s : Store) (template : String) : Option TemplateRow :=
  (Uuid.ofText? template).bind s.template?

theorem id_of_cardView {s : Store} {row : CardRow} {v : CardView} (h : s.cardView row = .ok v) :
    v.id = row.id := by
  unfold cardView at h
  dsimp only at h
  split at h
  all_goals
    obtain ⟨stage, -, h⟩ := bind_eq_ok.mp h
    obtain ⟨submissions, -, h⟩ := bind_eq_ok.mp h
    cases h
    rfl

/-- A card that an action finds has a row, which its identifier leads to. -/
theorem cardFor_eq_ok {s : Store} {card : RowRef} {v : CardView} (h : s.cardFor card = .ok v) :
    ∃ row, card.id? = some row.id ∧ s.card? row.id = some row ∧ v.id = row.id ∧
      s.cardView row = .ok v := by
  unfold cardFor at h
  obtain ⟨view, hview, hfound⟩ := bind_eq_ok.mp h
  cases view with
  | none => cases hfound
  | some view =>
    cases hfound
    unfold viewCard at hview
    split at hview
    · cases hview
    · rename_i row hrow
      obtain ⟨id, hid, hcard⟩ := Option.bind_eq_some_iff.mp hrow
      obtain rfl := Store.id_of_card? hcard
      cases hv : s.cardView row with
      | error f => rw [hv] at hview; cases hview
      | ok v' =>
        rw [hv] at hview
        cases hview
        exact ⟨row, hid, hcard, id_of_cardView hv, hv⟩

/-- Whether a stage is stored as it is seen. -/
def ShowsStage (s : Store) (v : StageView) : Prop :=
  ∃ row, s.stage? row.id = some row ∧ v.id = row.id ∧ v.name = row.name ∧ v.pipeId = row.pipe

theorem showsStage_of_viewStage {s : Store} {stage : RowRef} {v : StageView}
    (h : s.viewStage stage = .ok (some v)) : s.ShowsStage v := by
  unfold viewStage at h
  split at h
  · cases h
  · rename_i row hrow
    obtain ⟨id, -, hstage⟩ := Option.bind_eq_some_iff.mp hrow
    obtain rfl := Store.id_of_stage? hstage
    unfold stageView at h
    split at h
    · cases h
    · cases h
      exact ⟨row, hstage, rfl, rfl, rfl⟩

/-- A stage that an action finds is stored as it is seen. -/
theorem showsStage_of_stageFor {s : Store} {target : String} {v : StageView}
    (h : s.stageFor target = .ok v) : s.ShowsStage v := by
  unfold stageFor at h
  obtain ⟨view, hview, hfound⟩ := bind_eq_ok.mp h
  cases view with
  | none => cases hfound
  | some view =>
    cases hfound
    exact showsStage_of_viewStage hview

end Store

namespace Engine

/-- Unless an access fails, a program answers from what is stored. -/
def Reads (env : Environment) (body : Engine α) (answer : Store → Except Fault α) : Prop :=
  ∀ w, ∃ w', w'.ledger = w.ledger ∧
    (exec body w = (answer w.store, w') ∨
      (∃ n, env.storageFails n = true) ∧ exec body w = (.error .storageRead, w'))

namespace Reads

variable {env : Environment}

theorem quiet {body : Engine α} {answer : Store → Except Fault α} (h : Reads env body answer) :
    Quiet body := by
  intro w
  obtain ⟨w', hw', hexec | ⟨-, hexec⟩⟩ := h w
  · rw [hexec]; exact hw'
  · rw [hexec]; exact hw'

theorem eq_ok {body : Engine α} {answer : Store → Except Fault α} (h : Reads env body answer)
    {w w' : World} {a : α} (hexec : exec body w = (.ok a, w')) :
    w'.ledger = w.ledger ∧ answer w.store = .ok a := by
  obtain ⟨w₁, hledger, hanswer | ⟨-, hfault⟩⟩ := h w
  · rw [hexec] at hanswer
    injection hanswer with hanswer hworld
    rw [hworld]
    exact ⟨hledger, hanswer.symm⟩
  · rw [hexec] at hfault
    cases hfault

theorem pure (a : α) : Reads env (Pure.pure a) fun _ => .ok a :=
  fun w => ⟨w, rfl, .inl rfl⟩

theorem raise (f : Fault) : Reads env (Engine.raise f : Engine α) fun _ => .error f :=
  fun w => ⟨w, rfl, .inl rfl⟩

theorem reading (query : Store → Except ReadFault α) :
    Reads env (Engine.reading env query) fun s => (query s).mapError Fault.read := by
  intro w
  refine ⟨w.accessed, rfl, ?_⟩
  rw [exec_reading]
  split
  · rename_i hfails
    exact .inr ⟨⟨_, hfails⟩, rfl⟩
  · exact .inl rfl

theorem bind {x : Engine α} {f : α → Engine β} {p : Store → Except Fault α}
    {q : α → Store → Except Fault β} (hx : Reads env x p) (hf : ∀ a, Reads env (f a) (q a)) :
    Reads env (x >>= f) fun s => p s >>= fun a => q a s := by
  intro w
  obtain ⟨w₁, hw₁, hexec | ⟨hfails, hexec⟩⟩ := hx w
  · cases hp : p w.store with
    | error e =>
      rw [hp] at hexec
      refine ⟨w₁, hw₁, .inl ?_⟩
      change _ = (p w.store >>= fun a => q a w.store, w₁)
      rw [exec_bind_error hexec, hp]
      rfl
    | ok a =>
      rw [hp] at hexec
      obtain ⟨w₂, hw₂, hrest⟩ := hf a w₁
      rw [World.store_of_ledger hw₁] at hrest
      refine ⟨w₂, hw₂.trans hw₁, ?_⟩
      change _ = (p w.store >>= fun a => q a w.store, w₂) ∨ _
      rw [exec_bind_ok hexec, hp]
      exact hrest
  · exact ⟨w₁, hw₁, .inr ⟨hfails, exec_bind_error hexec f⟩⟩

theorem required (what : Missing) (a? : Option α) :
    Reads env (Engine.required what a?) fun _ => found what a? := by
  cases a? with
  | none => exact Reads.raise _
  | some a => exact Reads.pure a

theorem loadCard (card : RowRef) :
    Reads env (Engine.loadCard env card) fun s => s.viewCard card := by
  unfold Engine.loadCard Store.viewCard
  cases card.id? with
  | none => exact Reads.pure none
  | some id =>
    have hanswer : (fun s : Store => match (some id).bind s.card? with
        | none => .ok none
        | some row => (some <$> s.cardView row).mapError Fault.read) =
        fun s : Store => (match s.card? id with
          | none => .ok none
          | some row => some <$> s.cardView row : Except ReadFault _).mapError Fault.read := by
      funext s
      simp only [Option.bind_some]
      cases s.card? id <;> rfl
    rw [hanswer]
    exact reading _

theorem loadStage (stage : RowRef) :
    Reads env (Engine.loadStage env stage) fun s => s.viewStage stage := by
  unfold Engine.loadStage Store.viewStage
  cases stage.id? with
  | none => exact Reads.pure none
  | some id =>
    have hanswer : (fun s : Store => match (some id).bind s.stage? with
        | none => .ok none
        | some row => (some <$> s.stageView row).mapError Fault.read) =
        fun s : Store => (match s.stage? id with
          | none => .ok none
          | some row => some <$> s.stageView row : Except ReadFault _).mapError Fault.read := by
      funext s
      simp only [Option.bind_some]
      cases s.stage? id <;> rfl
    rw [hanswer]
    exact reading _

theorem requireCard (card : RowRef) :
    Reads env (Engine.requireCard env card) fun s => s.cardFor card :=
  (loadCard card).bind fun v => required .card v

theorem requireStage (stage : String) :
    Reads env (Engine.loadStage env (.ofText stage) >>= Engine.required .targetStage)
      fun s => s.stageFor stage :=
  (loadStage _).bind fun v => required .targetStage v

end Reads
end Engine
end BoardRules
