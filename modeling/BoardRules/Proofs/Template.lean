import BoardRules.Proofs.FieldKey
import BoardRules.Template

/-! What a template renders to. A text is scanned once, so a template put together from plain texts
and tokens is rendered part by part: no plain text has a brace that could open a token, and a token
ends at its first closing brace. Values are looked up and never scanned. -/
namespace BoardRules

open BoardRules.Text

/-- What a token finds among the values of a context: its bucket may be missing, or hold no object
where the value is looked for. -/
inductive Finding where
  | missing
  | value (v : Json)
  | unreadable
deriving DecidableEq

/-- What is found under a key of the fields of a card. Fields that are absent or empty have no
value; others that are no object cannot be read. -/
def Finding.inFields (key : String) : Json → Finding
  | .obj fields => .value (Entries.getD fields key)
  | v => if v.isTruthy then .unreadable else .value .null

def TokenKey.chars : TokenKey → List Char
  | .plain name => name.toList
  | .field key => fieldMark ++ key.toList

namespace Token

def finding (values : Entries) (t : Token) : Finding :=
  match values.getD t.bucket.name with
  | .null => .missing
  | .obj es =>
    match t.key with
    | .plain name => .value (Entries.getD es name)
    | .field key => .inFields key (Entries.getD es "fields")
  | _ => .unreadable

/-- A token as it is written. -/
def chars (t : Token) : List Char :=
  '\x7b' :: '\x7b' :: (t.bucket.name.toList ++ '.' :: t.key.chars ++ ['\x7d', '\x7d'])

/-- A token that templates know; the key of a field is any text that does not end the token. -/
structure Known (t : Token) : Prop where
  supported : t.isSupported = true
  key : ∀ k, t.key = .field k → k ≠ "" ∧ '\x7d' ∉ k.toList

end Token

/-- A part that templates are put together from: a text without an opening brace, or a token. -/
inductive Fragment where
  | literal (cs : List Char) (hcs : '\x7b' ∉ cs)
  | token (t : Token) (ht : t.Known)

namespace Fragment

def chars : Fragment → List Char
  | .literal cs _ => cs
  | .token t _ => t.chars

def token? : Fragment → Option Token
  | .literal .. => none
  | .token t _ => some t

/-- What a part is rendered to, if its value can be looked up. -/
def fill? (values : Entries) : Fragment → Option (List Char)
  | .literal cs _ => some cs
  | .token t _ =>
    match t.finding values with
    | .missing => some t.chars
    | .value v => some v.displayChars
    | .unreadable => none

/-- The template put together from parts. -/
def text (fs : List Fragment) : String := String.ofList (fs.flatMap chars)

end Fragment

/-- The tokens that occur in a text. -/
def Piece.tokens (text : String) : List Token := (Piece.split text).filterMap Piece.token?

section Scanning

theorem Piece.splitFrom_append (x y : List Char) :
    Piece.splitFrom x.length (x ++ y) = Piece.splitFrom 0 y := by
  induction x with
  | nil => rfl
  | cons c x ih => exact ih

theorem Token.read?_of_ne {c : Char} (hc : c ≠ '\x7b') (cs : List Char) :
    Token.read? (c :: cs) = none := by
  rw [Token.read?]
  rintro r h
  exact hc (List.cons.inj h).1

theorem Piece.splitFrom_literal {cs : List Char} (hcs : '\x7b' ∉ cs) (rest : List Char) :
    Piece.splitFrom 0 (cs ++ rest) = cs.map .char ++ Piece.splitFrom 0 rest := by
  induction cs with
  | nil => rfl
  | cons c cs ih =>
    rw [List.mem_cons, not_or] at hcs
    rw [List.cons_append, Piece.splitFrom, Token.read?_of_ne (Ne.symm hcs.1)]
    exact congrArg (_ :: ·) (ih hcs.2)

variable {t : Token}

theorem Token.Known.plain_mem (ht : t.Known) {name : String} (hkey : t.key = .plain name) :
    name ∈ TokenKey.plainNames := by
  have hsupported := ht.supported
  obtain ⟨bucket, key⟩ := t
  obtain rfl := hkey
  cases bucket <;> simp only [Token.isSupported, Bool.or_eq_true, beq_iff_eq] at hsupported
  case card => rcases hsupported with rfl | rfl <;> decide
  case form => rcases hsupported with (rfl | rfl) | rfl <;> decide
  case stage => exact hsupported ▸ (by decide)
  case pipe => exact hsupported ▸ (by decide)

theorem TokenKey.ofChars?_chars (ht : t.Known) :
    TokenKey.ofChars? (t.key.chars) = some t.key := by
  unfold TokenKey.ofChars?
  cases hkey : t.key with
  | plain name =>
    have hname := List.contains_iff_mem.mpr (ht.plain_mem hkey)
    rw [TokenKey.chars, String.ofList_toList, if_pos hname]
  | field key =>
    have hother : ¬TokenKey.plainNames.contains
        (String.ofList (TokenKey.fieldMark ++ key.toList)) = true := by
      rw [List.contains_iff_mem]
      intro hmem
      -- no name begins as the mark does
      have hfirst : ∀ name ∈ TokenKey.plainNames, name.toList.head? ≠ some 'f' := by decide
      exact hfirst _ hmem (by rw [String.toList_ofList]; rfl)
    have hlength : 0 < key.toList.length := by
      rw [List.length_pos_iff, Ne, ← String.toList_empty, String.toList_inj]
      exact (ht.key key hkey).1
    have hmark : (TokenKey.fieldMark.isPrefixOf (TokenKey.fieldMark ++ key.toList) &&
        TokenKey.fieldMark.length < (TokenKey.fieldMark ++ key.toList).length) = true := by
      rw [Bool.and_eq_true, List.isPrefixOf_iff_prefix, decide_eq_true_eq, List.length_append]
      exact ⟨List.prefix_append _ _, by omega⟩
    rw [TokenKey.chars, if_neg hother, if_pos hmark, List.drop_left, String.ofList_toList]

theorem TokenKey.brace_not_mem_chars (ht : t.Known) : '\x7d' ∉ t.key.chars := by
  cases hkey : t.key with
  | plain name =>
    have hnames : ∀ name ∈ TokenKey.plainNames, '\x7d' ∉ name.toList := by decide
    exact hnames name (ht.plain_mem hkey)
  | field key =>
    rw [TokenKey.chars, List.mem_append, not_or]
    exact ⟨by decide, (ht.key key hkey).2⟩

/-- A known token is read as itself, whatever comes after it. -/
theorem Token.read?_chars (ht : t.Known) (rest : List Char) :
    Token.read? (t.chars ++ rest) = some (t, t.chars.length) := by
  obtain ⟨inner, hinner⟩ :
    ∃ inner, inner = t.bucket.name.toList ++ '.' :: t.key.chars := ⟨_, rfl⟩
  have hbucket : ∀ b : Bucket, '\x7d' ∉ b.name.toList ∧ '.' ∉ b.name.toList ∧
      Bucket.ofName? b.name.toList = some b := by
    intro b
    cases b <;> decide
  have hopen : ∀ c ∈ inner, decide (c ≠ '\x7d') = true := by
    rintro c hc
    rw [decide_eq_true_eq]
    rintro rfl
    rw [hinner, List.mem_append, List.mem_cons] at hc
    rcases hc with hc | hc | hc
    · exact (hbucket t.bucket).1 hc
    · revert hc
      decide
    · exact TokenKey.brace_not_mem_chars ht hc
  have hsplit : splitFirst (· == '.') inner =
      some (t.bucket.name.toList, t.key.chars) :=
    splitFirst_eq_some_iff.mpr ⟨'.', hinner, rfl, fun c hc => beq_eq_false_iff_ne.mpr
      fun h => (hbucket t.bucket).2.1 (h ▸ hc)⟩
  have hchars : t.chars = '\x7b' :: '\x7b' :: (inner ++ ['\x7d', '\x7d']) := by
    rw [hinner]
    rfl
  rw [hchars, List.cons_append, List.cons_append, List.append_assoc, Token.read?]
  dsimp only
  rw [List.takeWhile_append_of_pos hopen, List.dropWhile_append_of_pos hopen]
  change (splitFirst (· == '.') (inner ++ [])).bind _ = _
  rw [List.append_nil, hsplit, Option.bind_some]
  dsimp only
  rw [(hbucket t.bucket).2.2, TokenKey.ofChars?_chars ht]
  simp

theorem Piece.splitFrom_token (ht : t.Known) (rest : List Char) :
    Piece.splitFrom 0 (t.chars ++ rest) = .token t t.chars :: Piece.splitFrom 0 rest := by
  have hread := Token.read?_chars ht rest
  obtain ⟨c, cs, hchars⟩ : ∃ c cs, t.chars = c :: cs := ⟨_, _, rfl⟩
  rw [hchars] at hread ⊢
  rw [List.cons_append] at hread ⊢
  rw [Piece.splitFrom, hread]
  dsimp only
  rw [← List.cons_append, List.take_left, List.length_cons, Nat.add_sub_cancel,
    splitFrom_append]

end Scanning

namespace Fragment

/-- The pieces that a part is scanned into. -/
def pieces : Fragment → List Piece
  | .literal cs _ => cs.map .char
  | .token t _ => [.token t t.chars]

/-- A template is scanned into the pieces of its parts. -/
theorem split_text (fs : List Fragment) : Piece.split (text fs) = fs.flatMap pieces := by
  rw [Piece.split, text, String.toList_ofList]
  induction fs with
  | nil => rfl
  | cons f fs ih =>
    rw [List.flatMap_cons, List.flatMap_cons]
    cases f with
    | literal cs hcs => rw [chars, Piece.splitFrom_literal hcs, ih, pieces]
    | token t ht => rw [chars, Piece.splitFrom_token ht, ih, pieces, List.singleton_append]

theorem tokens_text (fs : List Fragment) : Piece.tokens (text fs) = fs.filterMap token? := by
  rw [Piece.tokens, split_text]
  induction fs with
  | nil => rfl
  | cons f fs ih =>
    rw [List.flatMap_cons, List.filterMap_append, ih]
    cases f with
    | literal cs hcs =>
      have hnone : (cs.map Piece.char).filterMap Piece.token? = [] := by
        rw [List.filterMap_map]
        exact List.filterMap_eq_nil_iff.mpr fun c _ => rfl
      rw [pieces, hnone]
      rfl
    | token t ht => rfl

end Fragment

section Rendering

variable {values : Entries} {t : Token}

theorem RenderContext.bucket?_ofEntries (values : Entries) (b : Bucket) :
    (RenderContext.ofEntries values).bucket? b =
      match values.getD b.name with
      | .obj es => some es
      | _ => none := by
  cases b <;> rfl

theorem Finding.inFields_eq (key : String) (fields : Json) :
    Finding.inFields key fields =
      if fields.isObject || !fields.isTruthy then .value (fields.entries.getD key)
      else .unreadable := by
  have hempty : Entries.getD [] key = .null := rfl
  cases fields with
  | obj fields => rfl
  | _ =>
    simp only [Finding.inFields, Json.isObject, Json.entries, Bool.false_or, hempty]
    split <;> simp_all

/-- What a piece is rendered to, if its value can be looked up. A token that templates do not know
stays as it is. -/
def Piece.fill? (values : Entries) : Piece → Option (List Char)
  | .char c => some [c]
  | .token t text =>
    if t.isSupported then
      match t.finding values with
      | .missing => some text
      | .value v => some v.displayChars
      | .unreadable => none
    else some text

/-- Whether what a piece names can be looked up. -/
def Piece.served (values : Entries) (p : Piece) : Bool :=
  match p.token? with
  | some t => !t.isSupported || t.fits (values.getD t.bucket.name)
  | none => true

theorem RenderContext.serves_eq (values : Entries) (text : String) :
    serves (.obj values) text = (Piece.split text).all (Piece.served values) := rfl

theorem Piece.fill?_eq (values : Entries) (p : Piece) :
    p.fill? values =
      if p.served values then some ((RenderContext.ofEntries values).renderPiece p) else none := by
  cases p with
  | char c => rfl
  | token t text =>
    cases hsupported : t.isSupported with
    | false =>
      simp only [Piece.fill?, Piece.served, Piece.token?, RenderContext.renderPiece,
        RenderContext.replacement?, hsupported, Bool.false_eq_true, if_false, Bool.not_false,
        Bool.true_or, if_true]
      rfl
    | true =>
      simp only [Piece.fill?, Piece.served, Piece.token?, RenderContext.renderPiece,
        RenderContext.replacement?, hsupported, if_true, Bool.not_true, Bool.false_or,
        RenderContext.bucket?_ofEntries]
      unfold Token.finding Token.fits
      cases values.getD t.bucket.name with
      | null => cases t.key <;> rfl
      | obj es =>
        unfold Token.value
        cases t.key with
        | plain name => rfl
        | field key =>
          dsimp only
          rw [Finding.inFields_eq, Option.map_some, Option.getD_some]
          change _ = if ((Entries.getD es "fields").isObject ||
            !(Entries.getD es "fields").isTruthy) = true then _ else _
          cases (Entries.getD es "fields").isObject || !(Entries.getD es "fields").isTruthy <;> rfl
      | _ => cases t.key <;> rfl

/-- The texts of all parts one after another, if each of them has one. -/
def joined? {α : Type} (f : α → Option (List Char)) (parts : List α) : Option (List Char) :=
  (parts.mapM f).map List.flatten

section Joined

variable {α β : Type} {f g : α → Option (List Char)}

theorem joined?_nil : joined? f [] = some [] := rfl

theorem joined?_cons (f : α → Option (List Char)) (a : α) (parts : List α) :
    joined? f (a :: parts) = (f a).bind fun x => (joined? f parts).map (x ++ ·) := by
  rw [joined?, joined?, List.mapM_cons]
  cases f a with
  | none => rfl
  | some x => cases parts.mapM f <;> rfl

theorem joined?_append (f : α → Option (List Char)) (x y : List α) :
    joined? f (x ++ y) = (joined? f x).bind fun a => (joined? f y).map (a ++ ·) := by
  induction x with
  | nil =>
    rw [List.nil_append, joined?_nil, Option.bind_some]
    cases joined? f y <;> rfl
  | cons a x ih =>
    rw [List.cons_append, joined?_cons, joined?_cons, ih]
    cases f a with
    | none => rfl
    | some b =>
      cases joined? f x with
      | none => rfl
      | some c =>
        cases joined? f y with
        | none => rfl
        | some d => exact congrArg some (List.append_assoc b c d).symm

theorem joined?_flatMap (f : α → Option (List Char)) (pieces : β → List α) (parts : List β) :
    joined? f (parts.flatMap pieces) = joined? (fun b => joined? f (pieces b)) parts := by
  induction parts with
  | nil => rfl
  | cons b parts ih => rw [List.flatMap_cons, joined?_append, joined?_cons, ih]

theorem joined?_congr {parts : List α} (h : ∀ a ∈ parts, f a = g a) :
    joined? f parts = joined? g parts := by
  induction parts with
  | nil => rfl
  | cons a parts ih =>
    rw [List.forall_mem_cons] at h
    rw [joined?_cons, joined?_cons, h.1, ih h.2]

theorem joined?_ite {served : α → Bool} {shown : α → List Char} {parts : List α}
    (h : ∀ a, f a = if served a then some (shown a) else none) :
    joined? f parts = if parts.all served then some (parts.flatMap shown) else none := by
  induction parts with
  | nil => rfl
  | cons a parts ih =>
    rw [joined?_cons, h, ih, List.all_cons, List.flatMap_cons]
    cases served a with
    | false => rfl
    | true => cases parts.all served <;> rfl

end Joined

/-- A text as it is rendered for the values of a context, if all that it names can be looked up. -/
def rendered? (values : Entries) (text : String) : Option String :=
  (RenderContext.forText? (.obj values) text).map fun c => c.render text

/-- Rendering goes piece by piece. -/
theorem rendered?_eq (values : Entries) (text : String) :
    rendered? values text =
      (joined? (Piece.fill? values) (Piece.split text)).map String.ofList := by
  rw [joined?_ite (Piece.fill?_eq values), rendered?, RenderContext.forText?,
    RenderContext.serves_eq]
  cases (Piece.split text).all (Piece.served values) <;> rfl

theorem joined?_pieces (values : Entries) (f : Fragment) :
    joined? (Piece.fill? values) f.pieces = f.fill? values := by
  cases f with
  | literal cs hcs =>
    rw [Fragment.pieces, Fragment.fill?]
    induction cs with
    | nil => rfl
    | cons c cs ih =>
      rw [List.mem_cons, not_or] at hcs
      rw [List.map_cons, joined?_cons, ih hcs.2]
      rfl
  | token t ht =>
    rw [Fragment.pieces, Fragment.fill?, joined?_cons, Piece.fill?, if_pos ht.supported]
    cases t.finding values with
    | missing => exact congrArg some (List.append_nil _)
    | value v => exact congrArg some (List.append_nil _)
    | unreadable => rfl

/-- A template is rendered part by part. -/
theorem rendered?_text (values : Entries) (fs : List Fragment) :
    rendered? values (Fragment.text fs) =
      (fs.mapM (Fragment.fill? values)).map fun parts => String.ofList parts.flatten := by
  have hparts : (fun f => joined? (Piece.fill? values) (Fragment.pieces f)) =
      Fragment.fill? values := funext (joined?_pieces values)
  rw [rendered?_eq, Fragment.split_text, joined?_flatMap, hparts, joined?, Option.map_map]
  rfl

theorem rendered?_congr {values others : Entries} {text : String}
    (h : ∀ t ∈ Piece.tokens text, t.isSupported = true → t.finding values = t.finding others) :
    rendered? values text = rendered? others text := by
  rw [rendered?_eq, rendered?_eq]
  congr 1
  refine joined?_congr fun p hp => ?_
  cases p with
  | char c => rfl
  | token t shown =>
    cases hsupported : t.isSupported with
    | false => rw [Piece.fill?, Piece.fill?, hsupported, if_neg Bool.false_ne_true]; rfl
    | true =>
      have ht : t ∈ Piece.tokens text := List.mem_filterMap.mpr ⟨_, hp, rfl⟩
      rw [Piece.fill?, Piece.fill?, h t ht hsupported]

end Rendering

/-- A context whose buckets are missing or hold objects, and whose fields are an object if any. -/
def Wellshaped (values : Entries) : Prop :=
  ∀ b : Bucket, values.getD b.name = .null ∨ ∃ es, values.getD b.name = .obj es ∧
    ((Entries.getD es "fields").isTruthy = true → (Entries.getD es "fields").isObject = true)

theorem Wellshaped.finding_ne {values : Entries} (h : Wellshaped values) (t : Token) :
    t.finding values ≠ .unreadable := by
  unfold Token.finding
  rcases h t.bucket with hbucket | ⟨es, hbucket, hfields⟩
  · rw [hbucket]
    exact nofun
  · rw [hbucket]
    cases t.key with
    | plain name => exact nofun
    | field key =>
      dsimp only
      rw [Finding.inFields_eq]
      split
      · exact nofun
      · next hno =>
        rw [Bool.or_eq_true, not_or, Bool.not_eq_true, Bool.not_eq_true', Bool.not_eq_false] at hno
        rw [hfields hno.2] at hno
        cases hno.1

theorem Wellshaped.fill? {values : Entries} (h : Wellshaped values) (f : Fragment) :
    ∃ part, f.fill? values = some part := by
  cases f with
  | literal cs hcs => exact ⟨cs, rfl⟩
  | token t ht =>
    rw [Fragment.fill?]
    cases hfinding : t.finding values with
    | missing => exact ⟨_, rfl⟩
    | value v => exact ⟨_, rfl⟩
    | unreadable => exact absurd hfinding (h.finding_ne t)

theorem Wellshaped.mapM_fill? {values : Entries} (h : Wellshaped values) (fs : List Fragment) :
    ∃ parts, fs.mapM (Fragment.fill? values) = some parts := by
  induction fs with
  | nil => exact ⟨[], rfl⟩
  | cons f fs ih =>
    obtain ⟨part, hpart⟩ := h.fill? f
    obtain ⟨parts, hparts⟩ := ih
    exact ⟨part :: parts, by rw [List.mapM_cons, hpart, hparts]; rfl⟩

/-- A template is rendered part by part, in order: a plain text stays as it is, a token gives way to
its value as it is shown, which is not looked at again, or stays if its bucket is missing. Only the
tokens that occur in a text decide what it is rendered to. -/
theorem rendering_compositional :
    (∀ (values : Entries) (fs : List Fragment), rendered? values (Fragment.text fs) =
      (fs.mapM (Fragment.fill? values)).map fun parts => String.ofList parts.flatten) ∧
    (∀ (values : Entries) (fs : List Fragment), Wellshaped values →
      ∃ parts, fs.mapM (Fragment.fill? values) = some parts) ∧
    (∀ fs, Piece.tokens (Fragment.text fs) = fs.filterMap Fragment.token?) ∧
    ∀ values others text, (∀ t ∈ Piece.tokens text, t.isSupported = true →
      t.finding values = t.finding others) → rendered? values text = rendered? others text :=
  ⟨rendered?_text, fun _ fs h => h.mapM_fill? fs, Fragment.tokens_text,
    fun _ _ _ h => rendered?_congr h⟩

/-- A card whose title looks like a token, and the form that the token would name. -/
def Entries.disguised : Entries :=
  [("card", .obj [("title", .str "\x7b\x7bform.link\x7d\x7d")]),
   ("form", .obj [("link", .str "/form/1")])]

theorem rendering_compositional_disguised :
    rendered? Entries.disguised (Fragment.text [.token ⟨.card, .plain "title"⟩ ⟨rfl, nofun⟩,
      .literal ": ".toList (by decide), .token ⟨.form, .plain "link"⟩ ⟨rfl, nofun⟩]) =
        some "\x7b\x7bform.link\x7d\x7d: /form/1" ∧
    (∃ parts, [Fragment.token ⟨.stage, .plain "name"⟩ ⟨rfl, nofun⟩].mapM
      (Fragment.fill? Entries.disguised) = some parts) ∧
    rendered? Entries.disguised (Fragment.text [.token ⟨.form, .plain "link"⟩ ⟨rfl, nofun⟩]) =
      rendered? [("form", .obj [("link", .str "/form/1")])]
        (Fragment.text [.token ⟨.form, .plain "link"⟩ ⟨rfl, nofun⟩]) := by
  refine ⟨(rendering_compositional.1 _ _).trans rfl, rendering_compositional.2.1 _ _ ?_,
    rendering_compositional.2.2.2 _ _ _ ?_⟩
  · intro b
    cases b with
    | card => exact .inr ⟨_, rfl, nofun⟩
    | form => exact .inr ⟨_, rfl, nofun⟩
    | stage => exact .inl rfl
    | pipe => exact .inl rfl
  · rw [rendering_compositional.2.2.1]
    exact List.forall_mem_singleton.mpr fun _ => rfl

end BoardRules
