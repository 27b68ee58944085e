import BoardRules.Proofs.Cascade.Trace
import BoardRules.Proofs.Engine.Sending
import BoardRules.Proofs.Run.Family

/-! Runs see nothing but their card. In two worlds that hold the same rows of a card, a run on the
card goes the same: it ends alike, the same goes out and is put aside, and the card is left alike.
This needs storage that does not fail and a mail service that answers each mail for itself. -/
namespace BoardRules

open Engine

/-- Whether two worlds are the same to what has to do with a card. All that is put aside is about
that card. -/
structure World.SameFor (card : Option Uuid) (w v : World) : Prop where
  store : v.store.partOf card = w.store.partOf card
  ambient : v.ambient = w.ambient
  queue : v.queue = w.queue
  names : ∀ request ∈ w.queue, request.card? = card

/-- From two worlds side by side to two other ones: the same has gone out, and no other card has
been touched. -/
structure Abreast (card : Option Uuid) (w v w' v' : World) : Prop where
  same : w'.SameFor card v'
  ambient : w'.ambient = w.ambient
  sent : ∃ effects, w'.sent = effects ++ w.sent ∧ v'.sent = effects ++ v.sent
  touched : w.store.Touched (fun id => card = some id) w'.store

/-- From one world to another, certain effects go out and certain requests are put aside; the store
and the ambient context stay. -/
structure PutsOut (effects : List Effect) (requests : List CascadeRequest) (w w' : World) :
    Prop where
  store : w'.store = w.store
  ambient : w'.ambient = w.ambient
  sent : w'.sent = effects ++ w.sent
  queue : w'.queue = w.queue ++ requests

theorem PutsOut.nothing {w w' : World} (hstore : w'.store = w.store)
    (hambient : w'.ambient = w.ambient) (hsent : w'.sent = w.sent) (hqueue : w'.queue = w.queue) :
    PutsOut [] [] w w' :=
  ⟨hstore, hambient, hsent, hqueue.trans (List.append_nil w.queue).symm⟩

theorem PutsOut.of_emits {effects : List Effect} {w w' : World} (h : Emits effects w w') :
    PutsOut effects [] w w' := by
  obtain ⟨mails, hbare⟩ := h
  exact ⟨(congrArg World.store hbare :), (congrArg World.ambient hbare :),
    (congrArg World.trace hbare :),
    (congrArg World.queue hbare).trans (List.append_nil w.queue).symm⟩

theorem PutsOut.of_bare {w w' : World} (h : w'.bare = w.bare) : PutsOut [] [] w w' :=
  .of_emits (.none_of_bare h)

namespace World.SameFor

variable {card : Option Uuid} {w v : World}

theorem refl (hnames : ∀ request ∈ w.queue, request.card? = card) : w.SameFor card w :=
  ⟨rfl, rfl, rfl, hnames⟩

theorem symm (h : w.SameFor card v) : v.SameFor card w :=
  ⟨h.store.symm, h.ambient.symm, h.queue.symm, by rw [h.queue]; exact h.names⟩

theorem within (h : w.SameFor card v) (a : Ambient) : (w.within a).SameFor card (v.within a) :=
  ⟨h.store, rfl, h.queue, h.names⟩

end World.SameFor

namespace Abreast

variable {card : Option Uuid} {w v w' v' w'' v'' : World}

theorem of_putsOut {effects : List Effect} {requests : List CascadeRequest} (h : w.SameFor card v)
    (hw : PutsOut effects requests w w') (hv : PutsOut effects requests v v')
    (hrequests : ∀ request ∈ requests, request.card? = card) : Abreast card w v w' v' where
  same := by
    refine ⟨?_, ?_, ?_, ?_⟩
    · rw [hw.store, hv.store, h.store]
    · rw [hw.ambient, hv.ambient, h.ambient]
    · rw [hw.queue, hv.queue, h.queue]
    · rw [hw.queue]
      exact List.forall_mem_append.mpr ⟨h.names, hrequests⟩
  ambient := hw.ambient
  sent := ⟨effects, hw.sent, hv.sent⟩
  touched := by
    rw [hw.store]
    exact .refl _ _

theorem of_bare (h : w.SameFor card v) (hw : w'.bare = w.bare) (hv : v'.bare = v.bare) :
    Abreast card w v w' v' :=
  of_putsOut h (.of_bare hw) (.of_bare hv) fun _ hnone => nomatch hnone

theorem refl (h : w.SameFor card v) : Abreast card w v w v := of_bare h rfl rfl

theorem trans (h : Abreast card w v w' v') (h' : Abreast card w' v' w'' v'') :
    Abreast card w v w'' v'' where
  same := h'.same
  ambient := h'.ambient.trans h.ambient
  sent := by
    obtain ⟨effects, hw, hv⟩ := h.sent
    obtain ⟨effects', hw', hv'⟩ := h'.sent
    exact ⟨effects' ++ effects, by rw [hw', hw, List.append_assoc],
      by rw [hv', hv, List.append_assoc]⟩
  touched := h.touched.trans h'.touched

end Abreast

namespace Engine

/-- Whether a program keeps to a card: in worlds that are the same to the card it goes the same. -/
def KeepsTo (card : Option Uuid) {α : Type} (body : Engine α) : Prop :=
  ∀ w v, w.SameFor card v → ∃ r w' v', exec body w = (r, w') ∧ exec body v = (r, v') ∧
    Abreast card w v w' v'

namespace KeepsTo

variable {α β : Type} {card : Option Uuid} {body : Engine α}

theorem of_bare {r : Except Fault α} (h : ∀ w, ∃ w', exec body w = (r, w') ∧ w'.bare = w.bare) :
    KeepsTo card body := by
  intro w v hsame
  obtain ⟨w', hw, hbare⟩ := h w
  obtain ⟨v', hv, hbare'⟩ := h v
  exact ⟨r, w', v', hw, hv, .of_bare hsame hbare hbare'⟩

theorem told {body : Engine Unit} (h : Tells body) : KeepsTo card body := of_bare h

theorem outcome (h : KeepsTo card body) : KeepsTo card (Engine.outcome body) := by
  intro w v hsame
  obtain ⟨r, w', v', hw, hv, habreast⟩ := h w v hsame
  refine ⟨.ok r, w', v', ?_, ?_, habreast⟩
  · rw [exec_outcome, hw]
  · rw [exec_outcome, hv]

theorem bind {x : Engine α} {f : α → Engine β} (hx : KeepsTo card x)
    (hf : ∀ a, Yields x a → KeepsTo card (f a)) : KeepsTo card (x >>= f) := by
  intro w v hsame
  obtain ⟨r, w₁, v₁, hw, hv, habreast⟩ := hx w v hsame
  cases r with
  | error e => exact ⟨.error e, w₁, v₁, exec_bind_error hw f, exec_bind_error hv f, habreast⟩
  | ok a =>
    obtain ⟨r, w₂, v₂, hw₂, hv₂, habreast₂⟩ := hf a ⟨w, w₁, hw⟩ w₁ v₁ habreast.same
    exact ⟨r, w₂, v₂, (exec_bind_ok hw f).trans hw₂, (exec_bind_ok hv f).trans hv₂,
      habreast.trans habreast₂⟩

theorem ofExcept (r : Except Fault α) : KeepsTo card (Engine.ofExcept r) :=
  of_bare fun w => ⟨w, exec_ofExcept r w, rfl⟩

theorem withAmbient (change : Ambient → Ambient) (h : KeepsTo card body) :
    KeepsTo card (Engine.withAmbient change body) := by
  intro w v hsame
  have hinside : (w.within (change w.ambient)).SameFor card (v.within (change v.ambient)) := by
    rw [hsame.ambient]
    exact hsame.within _
  obtain ⟨r, w', v', hw, hv, habreast⟩ := h _ _ hinside
  refine ⟨r, w'.within w.ambient, v'.within v.ambient, ?_, ?_, ?_⟩
  · rw [exec_withAmbient, hw]
  · rw [exec_withAmbient, hv]
  · rw [hsame.ambient]
    exact ⟨habreast.same.within w.ambient, rfl, habreast.sent, habreast.touched⟩

theorem detached (h : KeepsTo card body) : KeepsTo card (Engine.detached body) := by
  intro w v hsame
  have hinside : ({ w with spans := [], ambient := {} } : World).SameFor card
      { v with spans := [], ambient := {} } := ⟨hsame.store, rfl, hsame.queue, hsame.names⟩
  obtain ⟨r, w', v', hw, hv, habreast⟩ := h _ _ hinside
  refine ⟨r, { w' with spans := w.spans, ambient := w.ambient },
    { v' with spans := v.spans, ambient := v.ambient }, ?_, ?_, ?_⟩
  · rw [exec_detached, hw]
  · rw [exec_detached, hv]
  · exact ⟨⟨habreast.same.store, hsame.ambient, habreast.same.queue, habreast.same.names⟩, rfl,
      habreast.sent, habreast.touched⟩

/-- A program that goes so keeps to a card without looking to one side. -/
theorem abreast (h : KeepsTo card body) {w v : World} (hsame : w.SameFor card v) :
    (exec body v).1 = (exec body w).1 ∧ Abreast card w v (exec body w).2 (exec body v).2 := by
  obtain ⟨r, w', v', hw, hv, habreast⟩ := h w v hsame
  rw [hw, hv]
  exact ⟨rfl, habreast⟩

theorem familyLaw (card : Option Uuid) :
    FamilyLaw fun (α : Type) (x : Unit → Engine α) => KeepsTo card (x ()) where
  pure := fun a => ofExcept (.ok a)
  raise := fun f => ofExcept (.error f)
  told := told
  bind := fun hx hf => hx.bind fun a ha => hf a ⟨(), ha⟩
  asked := by
    intro α f hf w v hsame
    rw [exec_bind_ok (exec_get w), exec_bind_ok (exec_get v), hsame.ambient]
    exact hf w.ambient w v hsame
  withAmbient := fun change _ hx => hx.withAmbient change
  held := fun hx htell => hx.outcome.bind fun r _ => (told (htell r)).bind fun _ _ => ofExcept r
  caught := fun hx hok hfailure hother => hx.outcome.bind fun r _ =>
    ofCatching (fun e => ofExcept (.error e)) hok hfailure hother r

end KeepsTo
end Engine

/-- Whether no access to the storage fails and the mail service answers a mail whatever went
before. -/
structure Environment.Steady (env : Environment) : Prop where
  storage : ∀ n, env.storageFails n = false
  mail : ∀ service, env.mailer = some service → ∀ n n' m, service.reply n m = service.reply n' m

theorem Environment.Steady.dispatch_eq {env : Environment} (hsteady : env.Steady) (m : Message)
    (correlation : Json) (n n' : Nat) :
    env.dispatch m correlation n = env.dispatch m correlation n' := by
  unfold Environment.dispatch
  cases hmailer : env.mailer with
  | none => rfl
  | some service =>
    dsimp only
    split
    · rfl
    · rfl
    · unfold MailService.verdict
      rw [hsteady.mail service hmailer n n' m]

namespace Engine.KeepsTo

variable {α : Type} {env : Environment} (hsteady : env.Steady) {card : Option Uuid}

include hsteady

theorem reading (query : Store → Except ReadFault α)
    (hquery : ∀ s : Store, query (s.partOf card) = query s) :
    KeepsTo card (Engine.reading env query) := by
  intro w v hsame
  have hanswer : query v.store = query w.store := by
    rw [← hquery v.store, hsame.store, hquery]
  have hread : ∀ u : World, exec (Engine.reading env query) u =
      ((query u.store).mapError Fault.read, u.accessed) := by
    intro u
    rw [exec_reading, hsteady.storage]
    rfl
  refine ⟨_, w.accessed, v.accessed, hread w, ?_, ?_⟩
  · rw [hread, hanswer]
  · exact .of_putsOut hsame (.nothing rfl rfl rfl rfl) (.nothing rfl rfl rfl rfl)
      fun _ hnone => nomatch hnone

/-- A write keeps to a card if it changes the card's part as it would change the part alone. -/
theorem writing (missing : Fault) {change : Moment → Store → Option (α × Store)}
    (hpart : ∀ time s, (change time s).map (Prod.map id (Store.partOf card)) =
      change (.seeded 0) (s.partOf card))
    (htouched : ∀ time s a s', change time s = some (a, s') →
      s.Touched (fun id => card = some id) s') :
    KeepsTo card (Engine.writing env missing change) := by
  intro w v hsame
  have hparts := (hpart (.live v.step v.tick) v.store).trans
    ((congrArg (change (.seeded 0)) hsame.store).trans
      (hpart (.live w.step w.tick) w.store).symm)
  simp only [exec_writing, hsteady.storage, Bool.false_eq_true, ↓reduceIte]
  cases hw : change (.live w.step w.tick) w.store with
  | none =>
    rw [hw] at hparts
    rw [Option.map_eq_none_iff.mp hparts]
    exact ⟨_, _, _, rfl, rfl, .of_putsOut hsame (.nothing rfl rfl rfl rfl)
      (.nothing rfl rfl rfl rfl) fun _ hnone => nomatch hnone⟩
  | some p =>
    obtain ⟨a, s⟩ := p
    rw [hw] at hparts
    obtain ⟨⟨b, t⟩, hv, hboth⟩ := Option.map_eq_some_iff.mp hparts
    rw [hv]
    obtain ⟨rfl, hstore⟩ := Prod.mk.inj hboth
    exact ⟨_, _, _, rfl, rfl, ⟨hstore, hsame.ambient, hsame.queue, hsame.names⟩, rfl,
      ⟨[], rfl, rfl⟩, htouched _ _ _ _ hw⟩

theorem send (m : Message) : KeepsTo card (Engine.send env m) := by
  intro w v hsame
  obtain ⟨w', hw, hemits⟩ := exec_send env m w
  obtain ⟨v', hv, hemits'⟩ := exec_send env m v
  rw [hsame.ambient, hsteady.dispatch_eq m w.ambient.correlation v.mails w.mails] at hv hemits'
  exact ⟨_, w', v', hw, hv, .of_putsOut hsame (.of_emits hemits) (.of_emits hemits')
    fun _ hnone => nomatch hnone⟩

/-- A run on a card keeps to it if those do who take requests over that name the card. -/
theorem runningLaw {h : HandOver}
    (hover : ∀ request : CascadeRequest, request.card? = card → KeepsTo card (h request)) :
    RunningLaw (fun (α : Type) (x : Unit → Engine α) => KeepsTo card (x ())) env
      (fun _ => env.storageFails) (fun _ => h) card where
  toFamilyLaw := familyLaw card
  reading := fun query hquery => reading hsteady query hquery
  moved := by
    rintro id stage rfl
    refine writing hsteady noCard (fun time s => ?_) fun time s move s' hsome => ?_
    · unfold moveChange
      rw [Store.card?_partOf]
      cases hrow : s.card? id with
      | none => rfl
      | some row =>
        obtain rfl := Store.id_of_card? hrow
        have hmoved := Store.applyMove_partOf s (moveTo s row stage) time
        exact congrArg (fun part => some (moveTo s row stage, part)) hmoved
    · obtain ⟨row, hrow, hmoved⟩ := Option.bind_eq_some_iff.mp hsome
      cases hmoved
      obtain rfl := Store.id_of_card? hrow
      exact Store.touched_applyMove (P := fun i => some row.id = some i) rfl time s
  wrote := by
    rintro id key value rfl
    refine writing hsteady noCard (fun time s => ?_) fun time s _ s' hsome => ?_
    · unfold fieldChange
      rw [Store.card?_partOf]
      cases hrow : s.card? id with
      | none => rfl
      | some row =>
        obtain rfl := Store.id_of_card? hrow
        exact congrArg (fun part => some ((), part))
          (Store.writeField_partOf s row.id key value time)
    · obtain ⟨row, hrow, hwrote⟩ := Option.bind_eq_some_iff.mp hsome
      cases hwrote
      obtain rfl := Store.id_of_card? hrow
      exact Store.touched_writeField (P := fun i => some row.id = some i) rfl key value time s
  mailed := send hsteady
  handed := hover
  entered := by
    rintro e rfl
    refine writing hsteady .storageWrite (fun time s => ?_) fun time s _ s' hsome => ?_
    · change (entryChange e time s).map _ = entryChange e (.seeded 0) (s.partOf e.card.id?)
      unfold entryChange
      cases e.card.id? with
      | none => rfl
      | some id =>
        exact congrArg (fun part => some ((), part)) (Store.addLog_partOf s (e.row id time))
    · obtain ⟨id, hid, hentered⟩ := Option.bind_eq_some_iff.mp hsome
      cases hentered
      exact Store.touched_addLog hid s

end Engine.KeepsTo
end BoardRules
