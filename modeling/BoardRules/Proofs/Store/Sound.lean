import Mathlib.Algebra.Group.Nat.Defs
import BoardRules.Proofs.Action.Course

/-! Stores from which every card and every stage can be read. References that a read follows lead to
rows, and what was answered in a form is an object. -/
namespace BoardRules

variable {s : Store}

namespace Store

theorem stage_mem {id : Uuid} {stage : StageRow} (h : s.stage? id = some stage) :
    stage ∈ s.stages := List.mem_of_find?_eq_some h

/-- A store whose references hold and whose form responses are objects. -/
structure Sound (s : Store) : Prop where
  pipe : ∀ stage ∈ s.stages, (s.pipe? stage.pipe).isSome
  form : ∀ sub ∈ s.submissions, (s.form? sub.form).isSome
  responses : ∀ sub ∈ s.submissions, sub.responses.isObject

namespace Sound

theorem stageView (h : s.Sound) {stage : StageRow} (hstage : stage ∈ s.stages) :
    ∃ v, s.stageView stage = .ok v := by
  obtain ⟨pipe, hpipe⟩ := Option.isSome_iff_exists.mp (h.pipe stage hstage)
  unfold Store.stageView
  rw [hpipe]
  exact ⟨_, rfl⟩

theorem submissionView (h : s.Sound) {sub : SubmissionRow} (hsub : sub ∈ s.submissions) :
    ∃ v, s.submissionView sub = .ok v := by
  obtain ⟨form, hform⟩ := Option.isSome_iff_exists.mp (h.form sub hsub)
  have hresponses := h.responses sub hsub
  unfold Store.submissionView
  rw [hform]
  cases hobject : sub.responses with
  | obj es => exact ⟨_, rfl⟩
  | _ =>
    rw [hobject] at hresponses
    cases hresponses

theorem cardView (h : s.Sound) (card : CardRow) : ∃ v, s.cardView card = .ok v := by
  obtain ⟨submissions, hsubmissions⟩ : ∃ vs,
      (s.submissions.filter fun sub => sub.card == card.id).mapM s.submissionView = .ok vs :=
    mapM_eq_ok fun sub hsub => h.submissionView (List.mem_filter.mp hsub).1
  unfold Store.cardView
  cases hstage : s.stageOf card with
  | none =>
    rw [hsubmissions]
    exact ⟨_, rfl⟩
  | some stage =>
    obtain ⟨id, -, hid⟩ := Option.bind_eq_some_iff.mp hstage
    obtain ⟨v, hv⟩ := h.stageView (stage_mem hid)
    dsimp only
    rw [hv, hsubmissions]
    exact ⟨_, rfl⟩

theorem legible (h : s.Sound) (card : RowRef) : ¬s.Illegible card := by
  rintro ⟨g, hg⟩
  unfold viewCard at hg
  split at hg
  · cases hg
  · rename_i row _
    obtain ⟨v, hv⟩ := h.cardView row
    rw [hv] at hg
    cases hg

/-- Nothing that is stored keeps an action from being tried. -/
theorem not_blocks (h : s.Sound) (card : RowRef) (action : Action) : ¬s.Blocks card action := by
  intro hblocks
  cases action with
  | sendFormLink => exact h.legible card hblocks
  | sendEmail => exact h.legible card hblocks.2
  | updateField => exact hblocks
  | moveCard target =>
    obtain hcard | ⟨-, g, hg⟩ := hblocks
    · exact h.legible card hcard
    · unfold viewStage at hg
      split at hg
      · cases hg
      · rename_i row hrow
        obtain ⟨id, -, hid⟩ := Option.bind_eq_some_iff.mp hrow
        obtain ⟨v, hv⟩ := h.stageView (stage_mem hid)
        rw [hv] at hg
        cases hg

end Sound

def sampleMove : Json :=
  .obj [("type", .str "move_card"),
    ("config", .obj [("targetStageId", .str "00000000-0000-0000-0000-000000000002")])]

/-- A small board: a card in the first of two stages, with a form filled out for it, and an
automation that moves every card entering the first stage to the second. -/
def sample : Store where
  pipes := [⟨⟨1, by decide⟩, "Hiring"⟩]
  stages := [⟨⟨1, by decide⟩, ⟨1, by decide⟩, "Inbox", 0⟩,
    ⟨⟨2, by decide⟩, ⟨1, by decide⟩, "Done", 1⟩]
  forms := [⟨⟨1, by decide⟩, ⟨1, by decide⟩, "Contact", .seeded 0⟩]
  cards := [⟨⟨3, by decide⟩, some ⟨1, by decide⟩, "Ada", none, .seeded 0⟩]
  submissions := [⟨⟨3, by decide⟩, ⟨1, by decide⟩, .obj [("mail", .str "ada@board.example")], none,
    .seeded 0⟩]
  automations := [{
    id := ⟨4, by decide⟩, pipe := ⟨1, by decide⟩, name := "Done at once"
    triggerType := "card_enters_stage", created := .seeded 0
    actions := .arr [sampleMove] }]

theorem sample_sound : sample.Sound where
  pipe := by decide
  form := by decide
  responses := by decide

/-- A board with an amount that is too large to be compared, and two automations: one compares it,
the other one has no conditions. -/
def oversized : Store where
  pipes := [⟨⟨1, by decide⟩, "Hiring"⟩]
  stages := [⟨⟨2, by decide⟩, ⟨1, by decide⟩, "Inbox", 0⟩]
  cards := [⟨⟨3, by decide⟩, some ⟨2, by decide⟩, "Ada", none, .seeded 0⟩]
  fields := [⟨⟨3, by decide⟩, "salary", "text", .int (10 ^ 309 : Nat), 0, .seeded 0⟩]
  automations := [
    { id := ⟨4, by decide⟩, pipe := ⟨1, by decide⟩, name := "Low salary", triggerType := "manual"
      created := .seeded 0
      conditions := .obj [("rules", .arr [.obj [("fieldKey", .str "salary"),
        ("operator", .str "less_than"), ("value", .int 5)]])] },
    { id := ⟨5, by decide⟩, pipe := ⟨1, by decide⟩, name := "Note", triggerType := "manual"
      created := .seeded 1 }]

/-- The small board with other automations: one for a card's entering the second stage, one for what
is written to a field, and one for a form. -/
def watched : Store :=
  { sample with automations := [
    { id := ⟨4, by decide⟩, pipe := ⟨1, by decide⟩, name := "Welcome"
      triggerType := "card_enters_stage", created := .seeded 0
      triggerConfig := .obj [("stageId", .str "00000000-0000-0000-0000-000000000002")] },
    { id := ⟨5, by decide⟩, pipe := ⟨1, by decide⟩, name := "Salary"
      triggerType := "card_field_value", created := .seeded 1
      triggerConfig := .obj [("fieldKey", .str "salary"), ("operator", .str "contains"),
        ("value", .int 5)] },
    { id := ⟨6, by decide⟩, pipe := ⟨1, by decide⟩, name := "Contact"
      triggerType := "form_submission", created := .seeded 2
      triggerConfig := .obj [("form_id", .str "00000000-0000-0000-0000-000000000001")] }] }

/-- An action that writes to a field. -/
def sampleWrite (key : String) (value : Json) : Json :=
  .obj [("type", .str "update_field"),
    ("config", .obj [("fieldKey", .str key), ("value", value)])]

/-- The small board with a field for the card, and an automation that writes to it and to another
one. -/
def flagged : Store :=
  { sample with
    fields := [⟨⟨3, by decide⟩, "flag", "number", .int 1, 0, .seeded 0⟩]
    automations := [{
      id := ⟨4, by decide⟩, pipe := ⟨1, by decide⟩, name := "Flag", triggerType := "manual"
      created := .seeded 0
      actions := .arr [sampleWrite "flag" (.bool true), sampleWrite "seen" (.str "yes")] }] }

/-- The small board with a form on its second stage, too, an address in a field of the card, and an
automation that moves a card to the second stage and then links the form of that stage. -/
def inviting : Store :=
  { sample with
    forms := sample.forms ++ [⟨⟨2, by decide⟩, ⟨2, by decide⟩, "Offer", .seeded 1⟩]
    fields := [⟨⟨3, by decide⟩, "mail", "text", .str " ada@board.example ", 0, .seeded 0⟩]
    automations := [{
      id := ⟨4, by decide⟩, pipe := ⟨1, by decide⟩, name := "Invite", triggerType := "manual"
      created := .seeded 0
      actions := .arr [sampleMove, .obj [("type", .str "send_form_link"),
        ("config", .obj [("formId", .str "00000000-0000-0000-0000-000000000002"),
          ("recipientField", .str "mail")])]] }] }

/-- The small board with a second card on it. -/
def shared : Store :=
  { sample with cards := sample.cards ++ [⟨⟨8, by decide⟩, some ⟨1, by decide⟩, "Bob", none,
    .seeded 0⟩] }

/-- The small board with a submission whose answers are no object. -/
def malformed : Store :=
  { sample with submissions := [⟨⟨3, by decide⟩, ⟨1, by decide⟩, .arr [.int 1], none, .seeded 0⟩] }

end Store

/-- Lists that stand in each other, so many of them. -/
def Json.nested : Nat → Json
  | 0 => .null
  | n + 1 => .arr [nested n]

/-- The small board without automations; a field of the card holds a value that is too deep to be
shown. -/
def Store.burdened : Store :=
  { sample with
    automations := []
    fields := [⟨⟨3, by decide⟩, "notes", "text", .nested 256, 0, .seeded 0⟩] }

/-- The small board with another automation: it writes a value that is too deep to be shown into a
field of every card that enters the second stage. -/
def Store.burdening : Store :=
  { sample with automations := [{
    id := ⟨4, by decide⟩, pipe := ⟨1, by decide⟩, name := "Burden"
    triggerType := "card_enters_stage", created := .seeded 0
    triggerConfig := .obj [("stageId", .str "00000000-0000-0000-0000-000000000002")]
    actions := .arr [sampleWrite "notes" (.nested 256)] }] }

/-- An environment in which mails are recorded only and no access to the storage fails. -/
def Environment.sample : Environment where
  baseUrl := "https://board.example"
  maxDepth := 3

end BoardRules
