import Mathlib.Data.List.DropRight
import BoardRules.Proofs.Action.Plan
import BoardRules.Proofs.Condition.Operator

/-! The mails that actions send. There are two ways in which an action may send one; in either way
the mail is about the card, it goes to the address in the card's field or else in the template, and
a form that is linked in it is the one that the action names, on the stage in which the card is by
then. -/
namespace BoardRules

open BoardRules.Text

namespace Text

/-- Whether a text is what is left of another one once the blanks around it are taken off, and
something is left. -/
structure Trims (s r : String) : Prop where
  around : ∃ before after, s.toList = before ++ r.toList ++ after ∧
    (∀ c ∈ before, isBlank c = true) ∧ ∀ c ∈ after, isBlank c = true
  nonempty : r ≠ ""
  first : ∀ c, r.toList.head? = some c → isBlank c = false
  last : ∀ c, r.toList.getLast? = some c → isBlank c = false

/-- Whether there is something in a text that is not blank. -/
def Visible (s : String) : Prop := ∃ c ∈ s.toList, isBlank c = false

theorem trims_trim {s : String} (h : Visible s) : Trims s (trim s) := by
  have hchars : (trim s).toList = (s.toList.dropWhile isBlank).rdropWhile isBlank :=
    String.toList_ofList
  have hkept : (s.toList.dropWhile isBlank).rdropWhile isBlank ≠ [] := by
    obtain ⟨c, hc, hblank⟩ := h
    intro hnil
    have hall := trimChars_eq_nil_iff.mp hnil c hc
    rw [hblank] at hall
    cases hall
  refine ⟨⟨s.toList.takeWhile isBlank, (s.toList.dropWhile isBlank).rtakeWhile isBlank, ?_,
    fun c hc => List.mem_takeWhile_imp hc, fun c hc => List.mem_rtakeWhile_imp hc⟩, ?_, ?_, ?_⟩
  · rw [hchars, List.append_assoc, List.rdropWhile_append_rtakeWhile,
      List.takeWhile_append_dropWhile]
  · intro hempty
    rw [hempty] at hchars
    exact hkept hchars.symm
  · intro c hc
    rw [hchars] at hc
    have hfirst := List.head?_dropWhile_not isBlank s.toList
    rw [← List.rdropWhile_append_rtakeWhile (p := isBlank) (l := s.toList.dropWhile isBlank),
      List.head?_append, hc] at hfirst
    exact hfirst
  · intro c hc
    have hlast := List.rdropWhile_last_not isBlank _ hkept
    rw [hchars, List.getLast?_eq_some_getLast hkept] at hc
    cases hc
    simpa using hlast

theorem trim_ne_empty {s : String} (h : trim s ≠ "") : Visible s := by
  by_contra hblank
  refine h (congrArg String.ofList (trimChars_eq_nil_iff.mpr fun c hc => ?_))
  cases hc' : isBlank c with
  | true => rfl
  | false => exact absurd ⟨c, hc, hc'⟩ hblank

theorem Visible.append_right {s t : String} (h : Visible t) : Visible (s ++ t) := by
  obtain ⟨c, hc, hb⟩ := h
  exact ⟨c, by rw [String.toList_append]; exact List.mem_append_right _ hc, hb⟩

theorem Visible.append_left {s t : String} (h : Visible s) : Visible (s ++ t) := by
  obtain ⟨c, hc, hb⟩ := h
  exact ⟨c, by rw [String.toList_append]; exact List.mem_append_left _ hc, hb⟩

end Text

open Decimal Engine

theorem Decimal.Digits.visible_text (d : Digits) : Visible (d.text Layout.plain) := by
  unfold Digits.text
  dsimp only
  split
  · refine .append_left (.append_left (.append_right ⟨'e', ?_, ?_⟩)) <;> decide
  · split
    · refine .append_left (.append_left ⟨'.', ?_, ?_⟩) <;> decide
    · split
      · refine .append_right ⟨'.', ?_, ?_⟩ <;> decide
      · refine .append_left (.append_right ⟨'.', ?_, ?_⟩) <;> decide

theorem Decimal.Binary64.visible_text (x : Binary64) : Visible (x.text Layout.plain) := by
  cases x with
  | nan => exact ⟨'n', by decide, by decide⟩
  | infinity negative => exact .append_right ⟨'i', by decide, by decide⟩
  | finite negative m e =>
    unfold Binary64.text
    refine .append_right ?_
    split
    · exact ⟨'0', by decide, by decide⟩
    · exact Digits.visible_text _

/-- A value that is filled in is not shown as a blank, whatever its type. -/
theorem Json.Filled.visible_shown {v : Json} (h : v.Filled) : Visible v.shown := by
  cases v with
  | null => exact h.elim
  | bool b => cases b <;> exact ⟨_, List.mem_cons_self, by decide⟩
  | int n =>
    have hshown : (Json.int n).shown = intText n := String.ofList_toList
    rw [hshown]
    exact h
  | float x =>
    have hshown : (Json.float x).shown = x.text Layout.plain := String.ofList_toList
    rw [hshown]
    exact x.visible_text
  | str s => exact h
  | arr items => exact ⟨'[', by simp [Json.shown, Json.literal, Json.literalChars], by decide⟩
  | obj es => exact ⟨'\x7b', by simp [Json.shown, Json.literal, Json.literalChars], by decide⟩

/-- Whether an address is that of a form for a card: a base address without the slashes at its end,
then where forms are found, then the card and the form. -/
def LeadsTo (baseUrl : String) (card form : Uuid) (link : String) : Prop :=
  ∃ base slashes, baseUrl = base ++ slashes ∧ (∀ c ∈ slashes.toList, c = '/') ∧
    base.toList.getLast? ≠ some '/' ∧ link = base ++ "/form/" ++ card.text ++ "/" ++ form.text

theorem leadsTo_formLink (baseUrl : String) (card form : Uuid) :
    LeadsTo baseUrl card form (formLink baseUrl card.text form.text) := by
  refine ⟨String.ofList (baseUrl.toList.rdropWhile (· == '/')),
    String.ofList (baseUrl.toList.rtakeWhile (· == '/')), ?_, ?_, ?_, rfl⟩
  · rw [← String.ofList_append, List.rdropWhile_append_rtakeWhile, String.ofList_toList]
  · intro c hc
    rw [String.toList_ofList] at hc
    simpa using List.mem_rtakeWhile_imp hc
  · rw [String.toList_ofList]
    intro hlast
    have hne : baseUrl.toList.rdropWhile (· == '/') ≠ [] := by
      intro hnil
      rw [hnil] at hlast
      cases hlast
    have hnot := List.rdropWhile_last_not (· == '/') baseUrl.toList hne
    rw [List.getLast?_eq_some_getLast hne] at hlast
    rw [Option.some.inj hlast] at hnot
    exact hnot rfl

/-- What an action has to say about the mail that it sends. -/
structure MailSetup where
  recipientField : Option String
  template : Option String
  form : Option String

/-- What an action that sends a mail says about it. A name that is empty is none. -/
def Action.mail? : Action → Option MailSetup
  | .sendFormLink formId recipientField templateId =>
    some ⟨Engine.given? recipientField, Engine.given? templateId, some formId⟩
  | .sendEmail templateId recipientField formId =>
    some ⟨Engine.given? recipientField, Engine.given? templateId, Engine.given? formId⟩
  | .moveCard _ | .updateField .. => none

/-- Whether a card is stored and seen so, and a template if one is named. -/
structure Store.Supplies (s : Store) (id : Uuid) (setup : MailSetup) (row : CardRow)
    (view : CardView) (template : Option TemplateRow) : Prop where
  stored : s.card? id = some row
  seen : s.cardView row = .ok view
  chosen : template = setup.template.bind s.namedTemplate?
  present : setup.template.isSome → template.isSome

/-- Whether a mail about a card is to go to an address: it is in the field that is named for it, if
this is filled in, and else in the template. -/
inductive Recipient (setup : MailSetup) (view : CardView) (template : Option TemplateRow) :
    String → Prop where
  | field {key : String} {value : Json} {address : String}
    (hkey : setup.recipientField = some key) (hvalue : view.fields.get? key = some value)
    (hfilled : value.Filled) (haddress : Trims value.shown address) :
    Recipient setup view template address
  | template {t : TemplateRow} {given address : String}
    (hunfilled : ∀ key value, setup.recipientField = some key →
      view.fields.get? key = some value → ¬value.Filled)
    (ht : template = some t) (hgiven : t.toEmail = some given) (haddress : Trims given address) :
    Recipient setup view template address

/-- Whether a form is linked rightly: it is the one that is named, it belongs to the stage in which
the card is, and the address leads to it. -/
structure Linked (env : Environment) (s : Store) (setup : MailSetup) (row : CardRow)
    (form : FormView) (link : String) : Prop where
  named : setup.form = some form.id.text
  stored : ∃ f ∈ s.forms, row.stage = some f.stage ∧ f.id = form.id ∧ f.name = form.name
  address : LeadsTo env.baseUrl row.id form.id link

/-- How a mail is worded, given the form that is linked in it: by the template, or else by an
invitation to fill out the form. -/
inductive Worded (view : CardView) (form : Option (FormView × String)) (m : Message) :
    Option TemplateRow → Prop where
  | rendered (t : TemplateRow) (hsubject : m.subject = (renderContext view form).render t.subject)
    (hbody : m.body = (renderContext view form).render t.body) : Worded view form m (some t)
  | plain (f : FormView) (link : String) (hform : form = some (f, link))
    (hsubject : m.subject = "Action Required: Please fill out " ++ f.name)
    (hbody : m.body = defaultLinkBody f.name link) : Worded view form m none

/-- What a mail about a card has to be like, by what is stored when it is sent. -/
inductive Proper (env : Environment) (s : Store) (id : Uuid) (setup : MailSetup) (m : Message) :
    Prop where
  | drafted (row : CardRow) (view : CardView) (template : Option TemplateRow)
    (form : Option (FormView × String)) (hcard : m.card = id.text)
    (hsupplies : s.Supplies id setup row view template)
    (hrecipient : Recipient setup view template m.recipient)
    (hlinked : ∀ f link, form = some (f, link) → Linked env s setup row f link)
    (hworded : Worded view form m template) : Proper env s id setup m

namespace Engine

variable {env : Environment} {s : Store} {row : CardRow} {view : CardView}

theorem fieldRecipient?_eq_some {field : Option String} {address : String}
    (h : fieldRecipient? view field = some address) : ∃ key value, given? field = some key ∧
      view.fields.get? key = some value ∧ value.Filled ∧ address = trim value.shown := by
  obtain ⟨key, hkey, hvalue⟩ := Option.bind_eq_some_iff.mp h
  unfold Entries.getD at hvalue
  cases hget : view.fields.get? key with
  | none =>
    rw [hget] at hvalue
    cases hvalue
  | some value =>
    rw [hget] at hvalue
    obtain ⟨hfilled, haddress⟩ := Option.ite_none_right_eq_some.mp hvalue
    exact ⟨key, value, hkey, hget, Json.isFilled_iff.mp hfilled, (Option.some.inj haddress).symm⟩

theorem not_filled_of_fieldRecipient? {field : Option String}
    (h : fieldRecipient? view field = none) {key : String} {value : Json}
    (hkey : given? field = some key) (hvalue : view.fields.get? key = some value) :
    ¬value.Filled := by
  intro hfilled
  unfold fieldRecipient? Entries.getD at h
  rw [hkey, Option.bind_some, hvalue] at h
  dsimp only [Option.getD_some] at h
  rw [if_pos (Json.isFilled_iff.mpr hfilled)] at h
  cases h

theorem templateRecipient?_eq_some {template : Option TemplateRow} {address : String}
    (h : templateRecipient? template = some address) : ∃ t given, template = some t ∧
      t.toEmail = some given ∧ Trims given address := by
  obtain ⟨given, hgiven, htrim⟩ := Option.bind_eq_some_iff.mp h
  obtain ⟨t, ht, hto⟩ := Option.bind_eq_some_iff.mp hgiven
  obtain ⟨haddress, hnonempty⟩ := Option.filter_eq_some_iff.mp htrim
  obtain rfl := Option.some.inj haddress
  exact ⟨t, given, ht, hto, trims_trim (trim_ne_empty (by simpa using hnonempty))⟩

/-- The address that an action finds is the one to which the mail is to go. -/
theorem recipient_of_recipientOf {setup : MailSetup} {field : Option String}
    (hfield : setup.recipientField = given? field) {template : Option TemplateRow}
    {address : String} (h : recipientOf view field template = .ok address) :
    Recipient setup view template address := by
  unfold recipientOf at h
  cases hof : fieldRecipient? view field with
  | some r =>
    rw [hof] at h
    cases h
    obtain ⟨key, value, hkey, hvalue, hfilled, rfl⟩ := fieldRecipient?_eq_some hof
    exact .field (hfield.trans hkey) hvalue hfilled (trims_trim hfilled.visible_shown)
  | none =>
    rw [hof] at h
    cases hfrom : templateRecipient? template with
    | none =>
      rw [hfrom] at h
      cases h
    | some r =>
      rw [hfrom] at h
      cases h
      obtain ⟨t, given, ht, hgiven, haddress⟩ := templateRecipient?_eq_some hfrom
      refine .template (fun key value hkey => ?_) ht hgiven haddress
      exact not_filled_of_fieldRecipient? hof (hfield.symm.trans hkey)

end Engine

namespace Store

variable {s : Store} {row : CardRow} {view : CardView}

/-- The stage that a card is seen in is the one that it is stored in. -/
theorem stage_of_cardView (h : s.cardView row = .ok view) {stage : StageView}
    (hstage : view.stage = some stage) :
    ∃ stored, s.stageOf row = some stored ∧ s.stageView stored = .ok stage := by
  unfold cardView at h
  dsimp only at h
  cases hof : s.stageOf row with
  | none =>
    rw [hof] at h
    obtain ⟨seen, hseen, h⟩ := bind_eq_ok.mp h
    obtain ⟨submissions, -, h⟩ := bind_eq_ok.mp h
    cases hseen
    cases h
    cases hstage
  | some stored =>
    rw [hof] at h
    obtain ⟨seen, hseen, h⟩ := bind_eq_ok.mp h
    obtain ⟨submissions, -, h⟩ := bind_eq_ok.mp h
    cases h
    cases hview : s.stageView stored with
    | error e =>
      rw [hview] at hseen
      cases hseen
    | ok v =>
      rw [hview] at hseen
      cases hseen
      cases hstage
      exact ⟨stored, rfl, hview⟩

theorem mem_forms_of_stageView {stored : StageRow} {stage : StageView}
    (h : s.stageView stored = .ok stage) {form : FormView} (hform : form ∈ stage.forms) :
    ∃ f ∈ s.forms, f.stage = stored.id ∧ f.id = form.id ∧ f.name = form.name := by
  unfold stageView at h
  split at h
  · cases h
  · cases h
    obtain ⟨f, hf, rfl⟩ := List.mem_map.mp hform
    obtain ⟨hstored, hstage⟩ := List.mem_filter.mp (List.mem_mergeSort.mp hf)
    exact ⟨f, hstored, by simpa using hstage, rfl, rfl⟩

/-- Where a card and a template are found, they are so stored. -/
theorem supplies (setup : MailSetup) {card : RowRef} {template : Option TemplateRow}
    {named : Option String} (hcard : s.cardFor card = .ok view)
    (hnamed : setup.template = Engine.given? named)
    (htemplate : s.templateFor named = .ok template) :
    ∃ row, card.id? = some row.id ∧ view.id = row.id ∧
      s.Supplies row.id setup row view template := by
  obtain ⟨row, hid, hrow, hvid, hview⟩ := cardFor_eq_ok hcard
  refine ⟨row, hid, hvid, hrow, hview, ?_, ?_⟩
  all_goals
    unfold templateFor at htemplate
    rw [hnamed]
    cases hgiven : Engine.given? named with
    | none =>
      rw [hgiven] at htemplate
      cases htemplate
      simp
    | some name =>
      rw [hgiven] at htemplate
      cases ht : s.namedTemplate? name with
      | none =>
        simp only [ht] at htemplate
        cases htemplate
      | some t =>
        simp only [ht] at htemplate
        cases htemplate
        simp [ht]

theorem Supplies.cardFor {id : Uuid} {setup : MailSetup} {template : Option TemplateRow}
    {card : RowRef} (h : s.Supplies id setup row view template) (hid : card.id? = some id) :
    s.cardFor card = .ok view := by
  unfold Store.cardFor viewCard
  rw [hid, Option.bind_some, h.stored]
  dsimp only
  rw [h.seen]
  rfl

end Store

/-- The address of a mail is the one that what is stored supplies. -/
theorem Proper.recipient {env : Environment} {s : Store} {id : Uuid} {setup : MailSetup}
    {m : Message} {row : CardRow} {view : CardView} {template : Option TemplateRow}
    (h : Proper env s id setup m) (hsupplies : s.Supplies id setup row view template) :
    Recipient setup view template m.recipient := by
  cases h with
  | drafted row' view' template' form hcard hsupplies' hrecipient hlinked hworded =>
    obtain rfl := Option.some.inj (hsupplies'.stored.symm.trans hsupplies.stored)
    obtain rfl := Except.ok.inj (hsupplies'.seen.symm.trans hsupplies.seen)
    obtain rfl := hsupplies'.chosen.trans hsupplies.chosen.symm
    exact hrecipient

/-- A form that an action finds on the card's stage is linked rightly. -/
theorem linked_of_formOf? {env : Environment} {s : Store} {setup : MailSetup} {row : CardRow}
    {view : CardView} {formId : String} (hsetup : setup.form = some formId)
    (hview : s.cardView row = .ok view) {form : FormView} {link : String}
    (h : formOf? env view formId = some (form, link)) : Linked env s setup row form link := by
  obtain ⟨f, hf, hlink⟩ := Option.map_eq_some_iff.mp h
  obtain ⟨rfl, rfl⟩ := Prod.mk.inj hlink
  obtain ⟨stage, hstage, hfind⟩ := Option.bind_eq_some_iff.mp hf
  obtain ⟨stored, hof, hstageView⟩ := Store.stage_of_cardView hview hstage
  obtain ⟨id, hid, hstored⟩ := Option.bind_eq_some_iff.mp hof
  obtain ⟨g, hg, hgstage, hgid, hgname⟩ :=
    Store.mem_forms_of_stageView hstageView (List.mem_of_find?_eq_some hfind)
  have hnamed : f.id.text = formId := by simpa using List.find?_some hfind
  refine ⟨hsetup.trans (congrArg some hnamed.symm), ⟨g, hg, ?_, hgid, hgname⟩, ?_⟩
  · rw [hid, hgstage, Store.id_of_stage? hstored]
  · rw [Store.id_of_cardView hview]
    exact leadsTo_formLink _ _ _

namespace Engine

variable {env : Environment} {s : Store} {card : RowRef}

/-- A form link mail is as it has to be. -/
theorem proper_formLinkFor {formId : String} {recipientField templateId : Option String}
    {draft : Message × Entries} (h : (s.cardFor card >>= fun v =>
      Store.formLinkFor env formId recipientField templateId v s) = .ok draft) :
    ∃ id, card.id? = some id ∧
      Proper env s id ⟨given? recipientField, given? templateId, some formId⟩ draft.1 := by
  obtain ⟨view, hcard, h⟩ := bind_eq_ok.mp h
  obtain ⟨template, htemplate, h⟩ := bind_eq_ok.mp h
  obtain ⟨address, haddress, h⟩ := bind_eq_ok.mp h
  obtain ⟨⟨form, link⟩, hform, h⟩ := bind_eq_ok.mp h
  obtain ⟨row, hid, hvid, hsupplies⟩ := Store.supplies
    ⟨given? recipientField, given? templateId, some formId⟩ hcard rfl htemplate
  have hof : formOf? env view formId = some (form, link) := by
    cases hof : formOf? env view formId with
    | none =>
      rw [hof] at hform
      cases hform
    | some p =>
      rw [hof] at hform
      cases hform
      rfl
  cases h
  refine ⟨row.id, hid, .drafted row view template (some (form, link)) (congrArg Uuid.text hvid)
    hsupplies (recipient_of_recipientOf rfl haddress) (fun f l hsome => ?_) ?_⟩
  · cases hsome
    exact linked_of_formOf? rfl hsupplies.seen hof
  · cases template with
    | none => exact .plain form link rfl rfl rfl
    | some t => exact .rendered t rfl rfl

theorem proper_templateMailFor {given recipientField formId : Option String} {templateId : String}
    (hgiven : given? given = some templateId) {draft : Message × Entries}
    (h : (found .template (s.namedTemplate? templateId) >>= fun t =>
      s.cardFor card >>= fun v => templateMailFor env recipientField formId t v) = .ok draft) :
    ∃ id, card.id? = some id ∧
      Proper env s id ⟨given? recipientField, given? given, given? formId⟩ draft.1 := by
  obtain ⟨t, ht, h⟩ := bind_eq_ok.mp h
  obtain ⟨view, hcard, h⟩ := bind_eq_ok.mp h
  obtain ⟨address, haddress, h⟩ := bind_eq_ok.mp h
  have htemplate : s.templateFor given = .ok (some t) := by
    unfold Store.templateFor
    rw [hgiven]
    dsimp only
    rw [ht]
    rfl
  obtain ⟨row, hid, hvid, hsupplies⟩ := Store.supplies
    ⟨given? recipientField, given? given, given? formId⟩ hcard rfl htemplate
  cases h
  refine ⟨row.id, hid, .drafted row view (some t) ((given? formId).bind (formOf? env view))
    (congrArg Uuid.text hvid) hsupplies (recipient_of_recipientOf rfl haddress)
    (fun f l hsome => ?_) (.rendered t rfl rfl)⟩
  obtain ⟨name, hname, hof⟩ := Option.bind_eq_some_iff.mp hsome
  exact linked_of_formOf? hname hsupplies.seen hof

end Engine
end BoardRules
