import BoardRules.Proofs.Engine.Mailing
import BoardRules.Proofs.Engine.Reading

/-! What an action does before anything can be seen of it. A mail is made up by a program that only
reads, then handed over; a move is committed by a program that changes nothing but the store, then a
cascade is scheduled. -/
namespace BoardRules.Engine

variable {α : Type} {env : Environment}

/-- Whether the only faults of an answer are failures of an action. -/
def OnlyAction (answer : Except Fault α) : Prop :=
  ∀ f, answer = .error f → ∃ a, f = .action a

namespace OnlyAction

theorem ok (a : α) : OnlyAction (.ok a) := by
  intro f h
  cases h

theorem found (what : Missing) (a? : Option α) : OnlyAction (found what a?) := by
  intro f h
  cases a? with
  | none => cases h; exact ⟨_, rfl⟩
  | some a => cases h

theorem bind {β : Type} {x : Except Fault α} {f : α → Except Fault β} (hx : OnlyAction x)
    (hf : ∀ a, OnlyAction (f a)) : OnlyAction (x >>= f) := by
  intro e h
  cases x with
  | error e' => cases h; exact hx e rfl
  | ok a => exact hf a e h

theorem map {β : Type} {g : α → β} {x : Except Fault α} (hx : OnlyAction x) :
    OnlyAction (g <$> x) := by
  intro e h
  cases x with
  | error e' => cases h; exact hx e rfl
  | ok a => cases h

end OnlyAction

end BoardRules.Engine

namespace BoardRules

def Store.templateFor (s : Store) (template : Option String) : Except Fault (Option TemplateRow) :=
  match Engine.given? template with
  | some id => some <$> found .template (s.namedTemplate? id)
  | none => .ok none

def recipientOf (card : CardView) (field : Option String) (template : Option TemplateRow) :
    Except Fault String :=
  match Engine.fieldRecipient? card field with
  | some r => .ok r
  | none =>
    match Engine.templateRecipient? template with
    | some r => .ok r
    | none => .error (.action .noRecipient)

namespace Engine

variable {α : Type} {env : Environment}

theorem OnlyAction.templateFor (s : Store) (template : Option String) :
    OnlyAction (s.templateFor template) := by
  unfold Store.templateFor
  split
  · exact (OnlyAction.found _ _).map
  · exact OnlyAction.ok none

theorem OnlyAction.recipientOf (card : CardView) (field : Option String)
    (template : Option TemplateRow) : OnlyAction (recipientOf card field template) := by
  unfold BoardRules.recipientOf
  split
  · exact OnlyAction.ok _
  · split
    · exact OnlyAction.ok _
    · intro f h
      cases h
      exact ⟨_, rfl⟩

theorem Reads.loadTemplate (template : String) :
    Reads env (Engine.loadTemplate env (.ofText template))
      fun s => .ok (s.namedTemplate? template) := by
  unfold Engine.loadTemplate Store.namedTemplate? RowRef.ofText
  dsimp only
  cases Uuid.ofText? template with
  | none => exact Reads.pure none
  | some id => exact Reads.reading fun s => .ok (s.template? id)

theorem Reads.requireTemplate (template : String) :
    Reads env (Engine.requireTemplate env template) fun s =>
      found .template (s.namedTemplate? template) :=
  (Reads.loadTemplate template).bind fun t => Reads.required .template t

theorem Reads.recipient (card : CardView) (field : Option String)
    (template : Option TemplateRow) :
    Reads env (Engine.recipient card field template) fun _ => recipientOf card field template := by
  unfold Engine.recipient recipientOf
  cases fieldRecipient? card field with
  | some r => exact Reads.pure r
  | none =>
    cases templateRecipient? template with
    | some r => exact Reads.pure r
    | none => exact Reads.raise _

def optionalTemplate (env : Environment) (template : Option String) :
    Engine (Option TemplateRow) :=
  match given? template with
  | some id => some <$> requireTemplate env id
  | none => pure none

theorem Reads.map {β : Type} {g : α → β} {x : Engine α} {p : Store → Except Fault α}
    (hx : Reads env x p) : Reads env (g <$> x) fun s => g <$> p s := by
  have hmap : g <$> x = x >>= fun a => Pure.pure (g a) := (bind_pure_comp g x).symm
  rw [hmap]
  exact hx.bind fun a => Reads.pure (g a)

theorem Reads.optionalTemplate (template : Option String) :
    Reads env (Engine.optionalTemplate env template) fun s => s.templateFor template := by
  unfold Engine.optionalTemplate Store.templateFor
  split
  · exact (Reads.requireTemplate _).map
  · exact Reads.pure none

def formLinkDraft (card : CardView) (address : String) (form : FormView × String)
    (template : Option TemplateRow) : Message × Entries :=
  (messageTo card address (linkMail card form template).1 (linkMail card form template).2 template,
    [("recipientEmail", .str address), ("formLink", .str form.2),
      ("templateUsed", Json.ofText? (template.map TemplateRow.name))])

def templateDraft (env : Environment) (card : CardView) (address : String)
    (formId : Option String) (template : TemplateRow) : Message × Entries :=
  let context := renderContext card ((given? formId).bind (formOf? env card))
  let subject := context.render template.subject
  (messageTo card address subject (context.render template.body) (some template),
    [("recipientEmail", .str address), ("templateId", .str template.id.text),
      ("subject", .str subject)])

def formLinkMail (env : Environment) (card : RowRef) (formId : String)
    (recipientField templateId : Option String) : Engine (Message × Entries) := do
  let card ← requireCard env card
  let template ← optionalTemplate env templateId
  let address ← recipient card recipientField template
  let form ← required .form (formOf? env card formId)
  return formLinkDraft card address form template

def templateMail (env : Environment) (card : RowRef) (templateId : String)
    (recipientField formId : Option String) : Engine (Message × Entries) := do
  let template ← requireTemplate env templateId
  let card ← requireCard env card
  let address ← recipient card recipientField (some template)
  return templateDraft env card address formId template

def mailing (env : Environment) (compose : Engine (Message × Entries)) : Engine Entries := do
  let draft ← compose
  send env draft.1
  return draft.2

theorem sendFormLink_eq (env : Environment) (ctx : ActionContext) (formId : String)
    (recipientField templateId : Option String) :
    sendFormLink env ctx formId recipientField templateId =
      mailing env (formLinkMail env ctx.card formId recipientField templateId) := by
  unfold sendFormLink mailing formLinkMail optionalTemplate
  simp only [bind_assoc, pure_bind]
  cases given? templateId <;> rfl

theorem sendEmail_eq (env : Environment) (ctx : ActionContext) (templateId : String)
    {given : Option String} (h : given? given = some templateId)
    (recipientField formId : Option String) :
    sendEmail env ctx given recipientField formId =
      mailing env (templateMail env ctx.card templateId recipientField formId) := by
  unfold sendEmail mailing templateMail
  simp only [h, bind_assoc, pure_bind]
  rfl

def Store.formLinkFor (env : Environment) (formId : String)
    (recipientField templateId : Option String) (v : CardView) (s : Store) :
    Except Fault (Message × Entries) :=
  s.templateFor templateId >>= fun t =>
    recipientOf v recipientField t >>= fun address =>
      found .form (formOf? env v formId) >>= fun form => .ok (formLinkDraft v address form t)

def templateMailFor (env : Environment) (recipientField formId : Option String)
    (t : TemplateRow) (v : CardView) : Except Fault (Message × Entries) :=
  recipientOf v recipientField (some t) >>= fun address =>
    .ok (templateDraft env v address formId t)

theorem OnlyAction.formLinkFor (formId : String) (recipientField templateId : Option String)
    (v : CardView) (s : Store) :
    OnlyAction (Store.formLinkFor env formId recipientField templateId v s) :=
  OnlyAction.bind (OnlyAction.templateFor s _) fun _ =>
    OnlyAction.bind (OnlyAction.recipientOf _ _ _) fun _ =>
      OnlyAction.bind (OnlyAction.found _ _) fun _ => OnlyAction.ok _

theorem OnlyAction.templateMailFor (recipientField formId : Option String) (t : TemplateRow)
    (v : CardView) : OnlyAction (Engine.templateMailFor env recipientField formId t v) :=
  OnlyAction.bind (OnlyAction.recipientOf _ _ _) fun _ => OnlyAction.ok _

/-- After the card is found, a form link mail fails as an action only. -/
theorem Reads.formLinkMail (card : RowRef) (formId : String)
    (recipientField templateId : Option String) :
    Reads env (Engine.formLinkMail env card formId recipientField templateId)
      fun s => s.cardFor card >>= fun v =>
        Store.formLinkFor env formId recipientField templateId v s :=
  (Reads.requireCard card).bind fun v =>
    (Reads.optionalTemplate templateId).bind fun t =>
      (Reads.recipient v recipientField t).bind fun address =>
        (Reads.required .form _).bind fun form => Reads.pure (formLinkDraft v address form t)

/-- The card is looked up only if there is such a template; after it is found, a template mail fails
as an action only. -/
theorem Reads.templateMail (card : RowRef) (templateId : String)
    (recipientField formId : Option String) :
    Reads env (Engine.templateMail env card templateId recipientField formId)
      fun s => found .template (s.namedTemplate? templateId) >>= fun t =>
        s.cardFor card >>= fun v => templateMailFor env recipientField formId t v :=
  (Reads.requireTemplate templateId).bind fun t =>
    (Reads.requireCard card).bind fun v =>
      (Reads.recipient v recipientField (some t)).bind fun address =>
        Reads.pure (templateDraft env v address formId t)

end Engine
end BoardRules
