import Mathlib.Data.List.Nodup
import Mathlib.Logic.Relation
import BoardRules.CardOutline
import BoardRules.Proofs.FieldKey

/-! What a reference to a response reads. Of the submissions that the reference means it reads the
latest, whether or not that one gives what is asked for; so nothing that is done to other forms'
submissions or to older ones changes what is read. -/
namespace BoardRules

open BoardRules.Text

theorem Moment.before_of_before {a b c : Moment} (hab : a.before b = true)
    (hcb : c.before b = false) : a.before c = true := by
  cases a <;> cases b <;> cases c <;> simp [before] at * <;> omega

theorem Moment.not_before_of_before {a b : Moment} (h : a.before b = true) :
    b.before a = false := by
  cases a <;> cases b <;> simp [before] at * <;> omega

section

variable {α : Type} {time : α → Moment} {a b o : α} {l l' before after : List α}

/-- Whether an item is the latest of a list, and of those that are level the first. -/
def IsLatest (time : α → Moment) (a : α) (l : List α) : Prop :=
  ∃ before after, l = before ++ a :: after ∧
    (∀ b ∈ before, (time b).before (time a) = true) ∧
    ∀ b ∈ after, (time a).before (time b) = false

theorem IsLatest.not_before (h : IsLatest time a l) (hb : b ∈ l) :
    (time a).before (time b) = false := by
  obtain ⟨before, after, rfl, hbefore, hafter⟩ := h
  rcases List.mem_append.mp hb with hb | hb
  · exact Moment.not_before_of_before (hbefore b hb)
  · rcases List.mem_cons.mp hb with rfl | hb
    · exact Moment.before_irrefl _
    · exact hafter b hb

theorem latest?_eq_none_iff : latest? time l = none ↔ l = [] := by
  cases l with
  | nil => exact iff_of_true rfl rfl
  | cons b l =>
    refine iff_of_false ?_ (List.cons_ne_nil _ _)
    unfold latest?
    split
    · split <;> exact Option.some_ne_none _
    · exact Option.some_ne_none _

theorem isLatest_of_latest? (h : latest? time l = some a) : IsLatest time a l := by
  induction l generalizing a with
  | nil => cases h
  | cons b l ih =>
    unfold latest? at h
    split at h
    · rename_i c hc
      have hlatest := ih hc
      split at h
      · rename_i hbc
        cases h
        obtain ⟨before, after, rfl, hbefore, hafter⟩ := hlatest
        exact ⟨b :: before, after, rfl, List.forall_mem_cons.mpr ⟨hbc, hbefore⟩, hafter⟩
      · rename_i hbc
        cases h
        refine ⟨[], l, rfl, by simp, fun o ho => Bool.eq_false_iff.mpr fun hao => hbc ?_⟩
        exact Moment.before_of_before hao (hlatest.not_before ho)
    · rename_i hnone
      cases h
      rw [latest?_eq_none_iff.mp hnone]
      exact ⟨[], [], rfl, by simp, by simp⟩

theorem latest?_of_isLatest (h : IsLatest time a l) : latest? time l = some a := by
  obtain ⟨before, after, rfl, hbefore, hafter⟩ := h
  induction before with
  | nil =>
    rw [List.nil_append]
    unfold latest?
    cases hrest : latest? time after with
    | none => rfl
    | some c =>
      obtain ⟨start, rest, rfl, -, -⟩ := isLatest_of_latest? hrest
      dsimp only
      rw [if_neg (by rw [hafter c (by simp)]; exact Bool.false_ne_true)]
  | cons b before ih =>
    obtain ⟨hb, hbefore⟩ := List.forall_mem_cons.mp hbefore
    rw [List.cons_append]
    unfold latest?
    rw [ih hbefore]
    dsimp only
    rw [if_pos hb]

theorem latest?_eq_some_iff : latest? time l = some a ↔ IsLatest time a l :=
  ⟨isLatest_of_latest?, latest?_of_isLatest⟩

/-- An item that another one is later than may stand in a list or not. -/
theorem latest?_insert (ho : o ∈ before ++ after) (hlater : (time a).before (time o) = true) :
    latest? time (before ++ a :: after) = latest? time (before ++ after) := by
  cases hlatest : latest? time (before ++ after) with
  | none =>
    rw [latest?_eq_none_iff.mp hlatest] at ho
    cases ho
  | some m =>
    have hm := isLatest_of_latest? hlatest
    have ham : (time a).before (time m) = true :=
      Moment.before_of_before hlater (hm.not_before ho)
    obtain ⟨start, rest, hsplit, hstart, hrest⟩ := hm
    -- the new item stands before the latest one or after it
    refine latest?_of_isLatest ?_
    rcases List.append_eq_append_iff.mp hsplit with ⟨between, rfl, rfl⟩ | ⟨tail, rfl, htail⟩
    · obtain ⟨hbefore, hbetween⟩ := List.forall_mem_append.mp hstart
      exact ⟨before ++ a :: between, rest, by simp,
        List.forall_mem_append.mpr ⟨hbefore, List.forall_mem_cons.mpr ⟨ham, hbetween⟩⟩, hrest⟩
    · cases tail with
      | nil =>
        obtain rfl : after = m :: rest := htail.symm
        exact ⟨start ++ [a], rest, by simp,
          List.forall_mem_append.mpr ⟨hstart, List.forall_mem_singleton.mpr ham⟩, hrest⟩
      | cons m' tail =>
        obtain ⟨rfl, rfl⟩ := List.cons.inj htail
        obtain ⟨htail, hafter⟩ := List.forall_mem_append.mp hrest
        exact ⟨start, tail ++ a :: after, by simp, hstart, List.forall_mem_append.mpr
          ⟨htail, List.forall_mem_cons.mpr ⟨Moment.not_before_of_before ham, hafter⟩⟩⟩

theorem latest?_congr (h : latest? time l = latest? time l') (before : List α) :
    latest? time (before ++ l) = latest? time (before ++ l') := by
  induction before with
  | nil => exact h
  | cons b before ih =>
    rw [List.cons_append, List.cons_append]
    unfold latest?
    rw [ih]

/-- Items that are not level may change places. -/
theorem latest?_swap (hapart : time a ≠ time b) (l : List α) :
    latest? time (a :: b :: l) = latest? time (b :: a :: l) := by
  cases hlatest : latest? time (a :: b :: l) with
  | none => cases latest?_eq_none_iff.mp hlatest
  | some m =>
    obtain ⟨before, after, hsplit, hbefore, hafter⟩ := isLatest_of_latest? hlatest
    refine (latest?_of_isLatest ?_).symm
    cases before with
    | nil =>
      obtain ⟨rfl, rfl⟩ := List.cons.inj hsplit
      obtain ⟨hab, hl⟩ := List.forall_mem_cons.mp hafter
      have hba : (time b).before (time a) = true :=
        Bool.not_eq_false _ ▸ fun hba => hapart (Moment.eq_of_not_before hab hba)
      exact ⟨[b], l, rfl, by simpa using hba, hl⟩
    | cons c before =>
      obtain ⟨rfl, htail⟩ := List.cons.inj hsplit
      cases before with
      | nil =>
        obtain ⟨rfl, rfl⟩ := List.cons.inj htail
        have hba := Moment.not_before_of_before (hbefore a List.mem_cons_self)
        exact ⟨[], a :: l, rfl, by simp, List.forall_mem_cons.mpr ⟨hba, hafter⟩⟩
      | cons d before =>
        obtain ⟨rfl, rfl⟩ := List.cons.inj htail
        refine ⟨b :: a :: before, after, rfl, fun o ho => hbefore o ?_, hafter⟩
        simpa [or_left_comm] using ho

theorem latest?_perm (hperm : l.Perm l') (hdistinct : (l.map time).Nodup) :
    latest? time l = latest? time l' := by
  induction hperm with
  | nil => rfl
  | cons a _ ih => exact latest?_congr (ih hdistinct.of_cons) [a]
  | swap a b l =>
    have hapart : time b ≠ time a := fun h => by simp [h] at hdistinct
    exact latest?_swap hapart l
  | trans hfirst _ ihfirst ihrest =>
    exact (ihfirst hdistinct).trans (ihrest ((hfirst.map time).nodup_iff.mp hdistinct))

theorem latest?_map {β : Type} {time : β → Moment} (f : α → β) (l : List α) :
    latest? time (l.map f) = (latest? (time ∘ f) l).map f := by
  induction l with
  | nil => rfl
  | cons a l ih =>
    rw [List.map_cons]
    unfold latest?
    rw [ih]
    cases latest? (time ∘ f) l with
    | none => rfl
    | some b =>
      dsimp only [Option.map_some, Function.comp_apply]
      split <;> rfl

end

namespace SubmissionView

/-- Whether a submission is one of a form with this display name, but for case and for blanks around
it. -/
def IsNamed (name : String) (s : SubmissionView) : Prop :=
  lower (trim s.formName) = lower (trim name)

/-- Whether a reference by this name means a submission. -/
def IsMeant (name : String) (s : SubmissionView) : Prop :=
  s.IsNamed name ∨ s.formId.text = trim name

instance (name : String) : DecidablePred (IsNamed name) :=
  fun _ => inferInstanceAs (Decidable (_ = _))

instance (name : String) : DecidablePred (IsMeant name) :=
  fun _ => inferInstanceAs (Decidable (_ ∨ _))

theorem isOf_trim (s : SubmissionView) (name : String) :
    s.isOf (trim name) = decide (s.IsMeant name) := by
  unfold isOf
  rw [Bool.eq_iff_iff, decide_eq_true_iff, Bool.or_eq_true, beq_iff_eq, beq_iff_eq]
  rfl

/-- Whether a submission is not the one that a reference reads, given the others: the reference does
not mean it, or it means a later one. -/
def IsIdle (name : String) (s : SubmissionView) (others : List SubmissionView) : Prop :=
  ¬s.IsMeant name ∨ ∃ o ∈ others, o.IsMeant name ∧ s.submittedAt.before o.submittedAt = true

end SubmissionView

open SubmissionView

/-- What the latest of some submissions gives as a response; null if it does not give it, or if
there are none. -/
inductive LatestAnswer (response : String) (submissions : List SubmissionView) : Json → Prop where
  | absent (hnone : submissions = []) : LatestAnswer response submissions .null
  | given {s : SubmissionView} (hlatest : IsLatest submittedAt s submissions) :
    LatestAnswer response submissions (s.responses.named.getD response)

theorem latestAnswer_iff {response : String} {submissions : List SubmissionView} {v : Json} :
    LatestAnswer response submissions v ↔
      (latest? submittedAt submissions).elim .null (·.responses.named.getD response) = v := by
  constructor
  · intro hanswer
    cases hanswer with
    | absent hnone => rw [latest?_eq_none_iff.mpr hnone, Option.elim_none]
    | given hlatest => rw [latest?_eq_some_iff.mpr hlatest, Option.elim_some]
  · rintro rfl
    cases hlatest : latest? submittedAt submissions with
    | none => exact .absent (latest?_eq_none_iff.mp hlatest)
    | some s => exact .given (latest?_eq_some_iff.mp hlatest)

/-- A change of the submissions that a reference by this name has no part in. -/
inductive Reworked (name : String) : List SubmissionView → List SubmissionView → Prop where
  | added {before after : List SubmissionView} {s : SubmissionView}
    (hidle : s.IsIdle name (before ++ after)) :
    Reworked name (before ++ after) (before ++ s :: after)
  | removed {before after : List SubmissionView} {s : SubmissionView}
    (hidle : s.IsIdle name (before ++ after)) :
    Reworked name (before ++ s :: after) (before ++ after)
  | changed {before after : List SubmissionView} {s s' : SubmissionView}
    (hidle : s.IsIdle name (before ++ after)) (hidle' : s'.IsIdle name (before ++ after)) :
    Reworked name (before ++ s :: after) (before ++ s' :: after)
  | exchanged {before after : List SubmissionView} {s t : SubmissionView}
    (hapart : s.submittedAt ≠ t.submittedAt) :
    Reworked name (before ++ s :: t :: after) (before ++ t :: s :: after)
  | permuted {l l' : List SubmissionView} (hperm : l.Perm l')
    (hdistinct : (l.map submittedAt).Nodup) : Reworked name l l'

section

variable {name response key : String} {card : CardView}

theorem latest?_added {s : SubmissionView} {before after : List SubmissionView}
    (hidle : s.IsIdle name (before ++ after)) :
    latest? submittedAt ((before ++ s :: after).filter (·.IsMeant name)) =
      latest? submittedAt ((before ++ after).filter (·.IsMeant name)) := by
  rw [List.filter_append, List.filter_append, List.filter_cons]
  split
  · rename_i hmeant
    rcases hidle with hother | ⟨o, ho, hmeant', hlater⟩
    · exact absurd (of_decide_eq_true hmeant) hother
    · refine latest?_insert ?_ hlater
      rw [← List.filter_append]
      exact List.mem_filter.mpr ⟨ho, decide_eq_true hmeant'⟩
  · rfl

theorem Reworked.latest? {l l' : List SubmissionView} (h : Reworked name l l') :
    latest? submittedAt (l.filter (·.IsMeant name)) =
      BoardRules.latest? submittedAt (l'.filter (·.IsMeant name)) := by
  cases h with
  | added hidle => exact (latest?_added hidle).symm
  | removed hidle => exact latest?_added hidle
  | changed hidle hidle' => exact (latest?_added hidle).trans (latest?_added hidle').symm
  | @exchanged before after s t hapart =>
    rw [List.filter_append, List.filter_append]
    refine latest?_congr ?_ _
    by_cases hs : s.IsMeant name
    · by_cases ht : t.IsMeant name
      · simpa [hs, ht] using latest?_swap hapart _
      · simp [hs, ht]
    · simp [List.filter_cons, hs]
  | permuted hperm hdistinct =>
    exact latest?_perm (hperm.filter _) (hdistinct.sublist (List.filter_sublist.map _))

/-- A reference reads the latest of the submissions that it means. -/
theorem CardView.value_refers (hrefers : FieldKey.Refers name response key) (card : CardView) :
    card.value (.ofText key) =
      (BoardRules.latest? submittedAt (card.submissions.filter (·.IsMeant name))).elim .null
        (·.responses.named.getD response) := by
  rw [FieldKey.ofText_refers hrefers]
  unfold value CardView.response
  simp only [isOf_trim]
  split
  · rename_i hlatest
    rw [hlatest]
    rfl
  · rename_i hlatest
    rw [hlatest]
    rfl

theorem CardView.value_refers_iff (hrefers : FieldKey.Refers name response key) {v : Json} :
    card.value (.ofText key) = v ↔
      LatestAnswer response (card.submissions.filter (·.IsMeant name)) v := by
  rw [latestAnswer_iff, value_refers hrefers]

theorem latest?_reworked {l l' : List SubmissionView}
    (h : Relation.ReflTransGen (Reworked name) l l') :
    latest? submittedAt (l.filter (·.IsMeant name)) =
      latest? submittedAt (l'.filter (·.IsMeant name)) := by
  induction h with
  | refl => rfl
  | tail _ hstep ih => exact ih.trans hstep.latest?

/-- What starts with the mark is read off the submissions alone. -/
theorem CardView.value_marked {card' : CardView} (hmark : FieldKey.formMark <+: key.toList)
    (hsubmissions : card.submissions = card'.submissions) :
    card.value (.ofText key) = card'.value (.ofText key) := by
  cases hread : FieldKey.ofText key with
  | field field => exact absurd hread (FieldKey.ofText_ne_field hmark)
  | response form response =>
    unfold value CardView.response
    rw [hsubmissions]
  | malformed => rfl

theorem CardOutline.latestOf?_view (card : CardOutline) (form : String) :
    latest? submittedAt (card.view.submissions.filter (·.isOf form)) =
      (card.latestOf? form).map SubmissionOutline.view := by
  have hof : (fun s : SubmissionView => s.isOf form) ∘ SubmissionOutline.view =
      fun s => s.view.isOf form := funext fun _ => Function.comp_apply
  have htime : submittedAt ∘ SubmissionOutline.view = SubmissionOutline.submittedAt := rfl
  unfold latestOf? view
  rw [List.filter_map, latest?_map, hof, htime]

/-- Where nothing fails, an outline answers as the card would. -/
theorem CardOutline.value_view {card : CardOutline} {key : FieldKey} {v : Json}
    (h : card.value key = .ok v) : card.view.value key = v := by
  have hmember : ∀ {stored : Json} {k : String}, memberOf stored k = .ok v →
      stored.entries.getD k = v := by
    intro stored k hstored
    cases stored with
    | obj es => exact Except.ok.inj hstored
    | _ => cases hstored
  cases key with
  | field key => exact hmember h
  | response form key =>
    unfold CardView.value CardView.response
    dsimp only
    rw [latestOf?_view]
    unfold value at h
    dsimp only at h
    split at h
    · cases h
    · cases hlatest : card.latestOf? form with
      | none =>
        rw [hlatest] at h
        exact Except.ok.inj h
      | some s =>
        rw [hlatest] at h
        exact hmember h
  | malformed => exact Except.ok.inj h

/-- What keys read. A reference reads what the latest of the submissions that it means gives, and
nothing that is done to idle ones, or to the order of those that are not level, has a part in it. A
key without the mark reads a field; one with it reads the submissions alone. A card of which only
the outline is sure is read the same way. -/
theorem references_read_latest :
    (∀ name response key : String, FieldKey.Refers name response key →
      (∀ (card : CardView) (v : Json), card.value (.ofText key) = v ↔
        LatestAnswer response (card.submissions.filter (·.IsMeant name)) v) ∧
      ∀ card card' : CardView,
        Relation.ReflTransGen (Reworked name) card.submissions card'.submissions →
          card.value (.ofText key) = card'.value (.ofText key)) ∧
    (∀ (key : String) (card : CardView), ¬FieldKey.formMark <+: key.toList →
      card.value (.ofText key) = card.fields.getD key) ∧
    (∀ (key : String) (card card' : CardView), FieldKey.formMark <+: key.toList →
      card.submissions = card'.submissions →
        card.value (.ofText key) = card'.value (.ofText key)) ∧
    ∀ (key : String) (card : CardOutline) (v : Json), card.value (.ofText key) = .ok v →
      card.view.value (.ofText key) = v := by
  refine ⟨fun name response key hrefers => ⟨fun card v => ?_, fun card card' hreworked => ?_⟩,
    fun key card hunmarked => ?_, fun key card card' hmark => CardView.value_marked hmark,
    fun key card v => CardOutline.value_view⟩
  · rw [latestAnswer_iff, CardView.value_refers hrefers]
  · rw [CardView.value_refers hrefers, CardView.value_refers hrefers, latest?_reworked hreworked]
  · rw [FieldKey.ofText_of_unmarked hunmarked]
    rfl

end

/-- A card with two submissions of one form and a later one of another form. -/
def CardView.intake (client feedback : Uuid) : CardView where
  id := .zero
  title := "Ada"
  fields := [("form:client intake.company", .str "stray")]
  submissions := [
    ⟨client, "Client Intake", ⟨[("company", .str "Old Co"), ("budget", .int 5)], []⟩, .seeded 1⟩,
    ⟨client, " CLIENT intake", ⟨[("company", .str "Acme")], []⟩, .seeded 3⟩,
    ⟨feedback, "Feedback", ⟨[("company", .str "Other")], []⟩, .seeded 9⟩]

/-- On that card the later of the two is read, with or without the older one. -/
theorem references_read_latest_intake :
    ∃ card, card = CardView.intake ⟨1, by decide⟩ ⟨2, by decide⟩ ∧
      LatestAnswer "company" (card.submissions.filter (·.IsMeant "client intake")) (.str "Acme") ∧
      LatestAnswer "budget" (card.submissions.filter (·.IsMeant "client intake")) .null ∧
      { card with submissions := card.submissions.tail }.value
        (.ofText ("form:" ++ "client intake" ++ "." ++ "company")) = .str "Acme" := by
  have hcompany : FieldKey.Referable "client intake" "company" := by
    constructor <;> decide
  have hbudget : FieldKey.Referable "client intake" "budget" := by
    constructor <;> decide
  obtain ⟨hread, hreworked⟩ := references_read_latest.1 _ _ _ (.bare hcompany)
  have hacme : (CardView.intake ⟨1, by decide⟩ ⟨2, by decide⟩).value
      (.ofText ("form:" ++ "client intake" ++ "." ++ "company")) = .str "Acme" := by
    decide +kernel
  refine ⟨_, rfl, (hread _ _).mp hacme,
    ((references_read_latest.1 _ _ _ (.bare hbudget)).1 _ _).mp (by decide +kernel), ?_⟩
  have hidle : (CardView.intake ⟨1, by decide⟩ ⟨2, by decide⟩).submissions[0].IsIdle
      "client intake" ([] ++ (CardView.intake ⟨1, by decide⟩ ⟨2, by decide⟩).submissions.tail) :=
    .inr ⟨_, List.mem_cons_self, by decide +kernel, rfl⟩
  have hsame := hreworked (CardView.intake ⟨1, by decide⟩ ⟨2, by decide⟩)
    { CardView.intake ⟨1, by decide⟩ ⟨2, by decide⟩ with
      submissions := (CardView.intake ⟨1, by decide⟩ ⟨2, by decide⟩).submissions.tail }
    (.single (.removed hidle))
  exact hsame.symm.trans hacme

end BoardRules
