import BoardRules.Proofs.Response
import BoardRules.Proofs.Uuid

/-! Which responses can be referred to. A reference that is put together from a form's display name
and the key of a response reads that response if there is no full stop in the name, no line feed in
the key, and the name is not the text of another form's identifier. A form's identifier does in the
place of its name, whatever the name is. -/
namespace BoardRules

open BoardRules.Text SubmissionView

namespace Uuid

theorem text_inj {u v : Uuid} : u.text = v.text ↔ u = v := by
  refine ⟨fun h => ?_, congrArg text⟩
  have hread := ofText?_text u
  rw [h, ofText?_text v] at hread
  exact (Option.some.inj hread).symm

theorem mem_grouped {c : Char} {cs : List Char} (hc : c ∈ grouped cs) : c = '-' ∨ c ∈ cs := by
  unfold grouped at hc
  simp only [List.mem_append, List.mem_cons] at hc
  rcases hc with (((hc | rfl | hc) | rfl | hc) | rfl | hc) | rfl | hc
  · exact .inr (List.mem_of_mem_take hc)
  · exact .inl rfl
  · exact .inr (List.mem_of_mem_drop (List.mem_of_mem_take hc))
  · exact .inl rfl
  · exact .inr (List.mem_of_mem_drop (List.mem_of_mem_take hc))
  · exact .inl rfl
  · exact .inr (List.mem_of_mem_drop (List.mem_of_mem_take hc))
  · exact .inl rfl
  · exact .inr (List.mem_of_mem_drop hc)

/-- What stands in the text of an identifier is neither blank nor a full stop. -/
theorem of_mem_text {u : Uuid} {c : Char} (hc : c ∈ u.text.toList) :
    isBlank c = false ∧ c ≠ '.' := by
  unfold text at hc
  rw [String.toList_ofList] at hc
  rcases mem_grouped hc with rfl | hc
  · decide
  · rw [hexDigits_eq] at hc
    obtain ⟨d, hd, rfl⟩ := List.mem_map.mp hc
    have hdigit : ∀ d < 16, isBlank (hexDigit d) = false ∧ hexDigit d ≠ '.' := by
      decide
    exact hdigit d (nibbles_lt hd)

theorem trim_text (u : Uuid) : trim u.text = u.text := by
  have hchars : trimChars u.text.toList = u.text.toList :=
    stripChars_of_none fun c hc => (of_mem_text hc).1
  rw [trim, hchars, String.ofList_toList]

theorem text_ne_empty (u : Uuid) : u.text ≠ "" := by
  intro h
  have hread := ofText?_text u
  rw [h] at hread
  cases hread

end Uuid

section

variable {name response : String} {card : CardView}

theorem exists_isLatest {p : SubmissionView → Prop} [DecidablePred p] {l : List SubmissionView}
    (h : ∃ s ∈ l, p s) : ∃ s, IsLatest submittedAt s (l.filter p) := by
  obtain ⟨s, hs, hp⟩ := h
  cases hlatest : latest? submittedAt (l.filter p) with
  | none =>
    have hmem : s ∈ l.filter p := List.mem_filter.mpr ⟨hs, decide_eq_true hp⟩
    rw [latest?_eq_none_iff.mp hlatest] at hmem
    cases hmem
  | some s => exact ⟨s, isLatest_of_latest? hlatest⟩

/-- A reference answers with what the latest of the submissions that it means gives, if it means any
on the card. -/
theorem CardView.value_referable (href : FieldKey.Referable name response)
    {p : SubmissionView → Prop} [DecidablePred p]
    (hmeant : ∀ s ∈ card.submissions, s.IsMeant name ↔ p s) (hsome : ∃ s ∈ card.submissions, p s) :
    ∃ s, IsLatest submittedAt s (card.submissions.filter p) ∧
      card.value (.ofText ("form:" ++ name ++ "." ++ response)) =
        s.responses.named.getD response := by
  have hfilter : card.submissions.filter (·.IsMeant name) = card.submissions.filter p :=
    List.filter_congr fun s hs => decide_eq_decide.mpr (hmeant s hs)
  obtain ⟨s, hs⟩ := exists_isLatest hsome
  refine ⟨s, hs, ?_⟩
  rw [value_refers (.bare href), hfilter, latest?_of_isLatest hs, Option.elim_some]

/-- A reference to a form by its name or by its identifier, and to a response that it has, reads
that response in the latest submission of the form, among all forms of that name. The name must have
no full stop, and the response's key no line feed. Where the name is the text of an identifier, the
form that it identifies is meant too. -/
theorem responses_addressable (response : String) (hresponse : response ≠ "")
    (hline : '\n' ∉ response.toList) (card : CardView) :
    (∀ name : String, trim name ≠ "" → '.' ∉ name.toList →
      (∃ s ∈ card.submissions, s.IsNamed name) →
        (∃ s, IsLatest submittedAt s (card.submissions.filter (·.IsMeant name)) ∧
          card.value (.ofText ("form:" ++ name ++ "." ++ response)) =
            s.responses.named.getD response) ∧
        ((∀ s ∈ card.submissions, s.formId.text = trim name → s.IsNamed name) →
          ∃ s, IsLatest submittedAt s (card.submissions.filter (·.IsNamed name)) ∧
            card.value (.ofText ("form:" ++ name ++ "." ++ response)) =
              s.responses.named.getD response)) ∧
    ∀ id : Uuid, (∃ s ∈ card.submissions, s.formId = id) →
      (∀ s ∈ card.submissions, s.IsNamed id.text → s.formId = id) →
        ∃ s, IsLatest submittedAt s (card.submissions.filter (·.formId = id)) ∧
          card.value (.ofText ("form:" ++ id.text ++ "." ++ response)) =
            s.responses.named.getD response := by
  constructor
  · rintro name hname hstop ⟨s, hs, hnamed⟩
    have href : FieldKey.Referable name response :=
      ⟨fun h => hname (by rw [h]; rfl), hstop, hresponse, hline⟩
    refine ⟨CardView.value_referable href (fun _ _ => .rfl) ⟨s, hs, .inl hnamed⟩, fun hids => ?_⟩
    refine CardView.value_referable href (fun s hs => ?_) ⟨s, hs, hnamed⟩
    exact ⟨fun hmeant => hmeant.elim id (hids s hs), .inl⟩
  · intro id hsome hnames
    have href : FieldKey.Referable id.text response :=
      ⟨id.text_ne_empty, fun h => (Uuid.of_mem_text h).2 rfl, hresponse, hline⟩
    refine CardView.value_referable href (fun s hs => ?_) hsome
    unfold IsMeant
    rw [id.trim_text, Uuid.text_inj]
    exact ⟨fun hmeant => hmeant.elim (hnames s hs) fun h => h, .inr⟩

end

/-- The card with a form that is submitted twice: the form is referred to by its name, in another
case and with a blank around it, and by its identifier. -/
theorem responses_addressable_intake :
    ∃ card, card = CardView.intake ⟨1, by decide⟩ ⟨2, by decide⟩ ∧
      (∃ s, IsLatest submittedAt s (card.submissions.filter (·.IsNamed " client intake")) ∧
        card.value (.ofText ("form:" ++ " client intake" ++ "." ++ "company")) =
          s.responses.named.getD "company" ∧ s.responses.named.getD "company" = .str "Acme") ∧
      ∃ s, IsLatest submittedAt s (card.submissions.filter (·.formId = ⟨1, by decide⟩)) ∧
        card.value (.ofText ("form:" ++ Uuid.text ⟨1, by decide⟩ ++ "." ++ "company")) =
          s.responses.named.getD "company" := by
  obtain ⟨hnames, hids⟩ := responses_addressable "company" (by decide) (by decide)
    (CardView.intake ⟨1, by decide⟩ ⟨2, by decide⟩)
  obtain ⟨s, hs, hvalue⟩ := (hnames " client intake" (by decide +kernel) (by decide)
    (by decide +kernel)).2 (by decide +kernel)
  have hacme : (CardView.intake ⟨1, by decide⟩ ⟨2, by decide⟩).value
      (.ofText ("form:" ++ " client intake" ++ "." ++ "company")) = .str "Acme" := by
    decide +kernel
  exact ⟨_, rfl, ⟨s, hs, hvalue, hvalue.symm.trans hacme⟩,
    hids ⟨1, by decide⟩ (by decide +kernel) (by decide +kernel)⟩

/-- Whether a card has a submission of a form with a name, and yet a reference that is put together
from that name and the key of a response reads something else than the latest one gives. -/
def CardView.Misreads (card : CardView) (name response : String) (read : Json) : Prop :=
  trim name ≠ "" ∧ response ≠ "" ∧ (∃ s ∈ card.submissions, s.formName = name) ∧
    card.value (.ofText ("form:" ++ name ++ "." ++ response)) = read ∧
    ∃ s, IsLatest submittedAt s (card.submissions.filter (·.IsNamed name)) ∧
      s.responses.named.getD response ≠ read

theorem CardView.misreads_iff {card : CardView} {name response : String} {read : Json} :
    card.Misreads name response read ↔
      trim name ≠ "" ∧ response ≠ "" ∧ (∃ s ∈ card.submissions, s.formName = name) ∧
        card.value (.ofText ("form:" ++ name ++ "." ++ response)) = read ∧
        ∃ v ∈ (latest? submittedAt (card.submissions.filter (·.IsNamed name))).map
          (·.responses.named.getD response), v ≠ read := by
  unfold Misreads
  simp only [← latest?_eq_some_iff, Option.mem_def, Option.map_eq_some_iff]
  constructor
  · rintro ⟨hname, hresponse, hform, hread, s, hs, hne⟩
    exact ⟨hname, hresponse, hform, hread, _, ⟨s, hs, rfl⟩, hne⟩
  · rintro ⟨hname, hresponse, hform, hread, _, ⟨s, hs, rfl⟩, hne⟩
    exact ⟨hname, hresponse, hform, hread, s, hs, hne⟩

/-- A full stop in a form's name, a line feed at the end of a response's key, and a name that is the
text of another form's identifier: nothing is read then, or the value of another response, or that
of another form. -/
theorem responses_misread :
    CardView.Misreads { id := .zero, title := "Ada", submissions := [
        ⟨⟨1, by decide⟩, "Intake v1.2", ⟨[("email", .str "ada@example.org")], []⟩, .seeded 0⟩] }
      "Intake v1.2" "email" .null ∧
    CardView.Misreads { id := .zero, title := "Ada", submissions := [
        ⟨⟨1, by decide⟩, "Intake", ⟨[("notes", .int 1), ("notes\n", .int 2)], []⟩, .seeded 0⟩] }
      "Intake" "notes\n" (.int 1) ∧
    CardView.Misreads { id := .zero, title := "Ada", submissions := [
        ⟨⟨1, by decide⟩, "Intake", ⟨[("rank", .int 1)], []⟩, .seeded 1⟩,
        ⟨⟨2, by decide⟩, Uuid.text ⟨1, by decide⟩, ⟨[("rank", .int 2)], []⟩, .seeded 0⟩] }
      (Uuid.text ⟨1, by decide⟩) "rank" (.int 1) := by
  simp only [CardView.misreads_iff]
  decide +kernel

end BoardRules
