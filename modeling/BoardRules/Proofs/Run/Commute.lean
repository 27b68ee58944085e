import BoardRules.Proofs.Cascade.Termination
import BoardRules.Proofs.Run.Local
import BoardRules.Proofs.Store.Sound

/-! Runs on different cards do not meet. Whichever of two runs goes first, with all that comes of
it, the other one goes the same after it as it does without it, and what is stored in the end is the
same. -/
namespace BoardRules

open Engine

/-- A run that is asked for in an ambient context. -/
structure AskedRun where
  ambient : Ambient
  triggerType : String
  card : RowRef
  pipe : RowRef
  occasion : Occasion
  depth : Int

def AskedRun.body (env : Environment) (h : HandOver) (asked : AskedRun) : Engine Report :=
  withAmbient (fun _ => asked.ambient)
    (run env h asked.triggerType asked.card asked.pipe asked.occasion asked.depth)

/-- Which of the requests that are put aside are run in turn, each time by its place, and whether it
is run as a job or by a worker of the pool. -/
abbrev Schedule := List (Nat × Bool)

namespace Engine

variable {env : Environment} {h : HandOver} {card : Option Uuid} {w v : World}

/-- Runs a request as a job or on a worker of the pool. Nobody waits for how it ends. -/
def workOne (env : Environment) (h : HandOver) (asJob : Bool) (request : CascadeRequest) :
    Engine Unit := do
  let _ ← outcome (detached
    (if asJob then discard (runJob env h request.toPayload) else runOnWorker env h request))

/-- Runs requests that are put aside along a schedule. There may be none at a place. -/
def workOff (env : Environment) (h : HandOver) : Schedule → World → World
  | [], w => w
  | (place, asJob) :: schedule, w =>
    match w.queue[place]? with
    | none => workOff env h schedule w
    | some request =>
      workOff env h schedule
        (exec (workOne env h asJob request) (w.pending (w.queue.eraseIdx place))).2

/-- A run, and after it its cascades along a schedule. -/
def runThrough (env : Environment) (h : HandOver) (schedule : Schedule) (asked : AskedRun)
    (w : World) : Except Fault Report × World :=
  ((exec (asked.body env h) w).1, workOff env h schedule (exec (asked.body env h) w).2)

theorem ledger_runOnWorker (request : CascadeRequest) (w : World) :
    (exec (runOnWorker env h request) w).2.ledger =
      (exec (runCascade env h request) w).2.ledger := by
  unfold runOnWorker
  rw [exec_bind_ok (exec_outcome _ _)]
  generalize exec (runCascade env h request) w = ended
  obtain ⟨f | report, w'⟩ := ended
  · exact quiet_logFault cascadeLogger (by decide) _ _ w'
  · rfl

theorem ledger_detached {α : Type} (body : Engine α) (w : World) :
    (exec (detached body) w).2.ledger =
      { (exec body { w with spans := [], ambient := {} }).2.ledger with ambient := w.ambient } := by
  rw [exec_detached]
  rfl

theorem ledger_workOne (env : Environment) (h : HandOver) (request : CascadeRequest) (w : World) :
    (exec (workOne env h false request) w).2.ledger =
      { (exec (runCascade env h request) { w with spans := [], ambient := {} }).2.ledger with
        ambient := w.ambient } := by
  have hworked : (exec (workOne env h false request) w).2 =
      (exec (detached (runOnWorker env h request)) w).2 := by
    unfold workOne
    rw [exec_bind_ok (exec_outcome _ _), exec_pure, if_neg Bool.false_ne_true]
  rw [hworked, ledger_detached, ledger_runOnWorker]

/-- What a worker does is one of the things that can come of what is put aside. -/
theorem takes_workOne (hcascades : h.Cascades env) {request : CascadeRequest}
    {rest : List CascadeRequest} (hqueue : w.queue = request :: rest) :
    Takes env w (exec (workOne env h false request) (w.pending rest)).2 := by
  have hledger := ledger_workOne env h request (w.pending rest)
  generalize (exec (workOne env h false request) (w.pending rest)).2 = w' at hledger ⊢
  cases hexec : exec (runCascade env h request)
      { w.pending rest with spans := [], ambient := {} } with
  | mk r v' =>
    rw [hexec] at hledger
    refine ⟨h, [], request, rest, { w.pending rest with spans := [], ambient := {} }, v', r,
      hcascades, hqueue, rfl, hexec, ?_⟩
    have hambient : w'.ambient = (w.pending rest).ambient := congrArg Ledger.ambient hledger
    rw [hledger, hambient]

/-- Every run can be followed to its end. -/
theorem exists_schedule (hcascades : h.Cascades env) (w : World) :
    ∃ schedule, (workOff env h schedule w).queue = [] := by
  induction acc_takes env w with
  | intro w _ ih =>
    cases hqueue : w.queue with
    | nil => exact ⟨[], hqueue⟩
    | cons request rest =>
      obtain ⟨schedule, hdone⟩ := ih _ (takes_workOne hcascades hqueue)
      refine ⟨(0, false) :: schedule, ?_⟩
      unfold workOff
      simpa [hqueue] using hdone

namespace KeepsTo

/-- Taking a request over and having no more to do with it keeps to the card. -/
theorem taker {request : CascadeRequest} {taken : Bool} (effects : List Effect)
    (requests : List CascadeRequest) (hanswer : ∀ w, (exec (h request) w).1 = .ok taken)
    (hout : ∀ w, PutsOut effects requests w (exec (h request) w).2)
    (hrequests : ∀ r ∈ requests, r = request) : KeepsTo request.card? (h request) := by
  intro w v hsame
  refine ⟨.ok taken, _, _, ?_, ?_, .of_putsOut hsame (hout w) (hout v) fun r hr => ?_⟩
  · rw [← hanswer w]
  · rw [← hanswer v]
  · rw [hrequests r hr]

theorem openPool (request : CascadeRequest) :
    KeepsTo request.card? (Engine.openPool request) :=
  taker [.cascade request true] [request] (fun _ => rfl)
    (fun _ => ⟨rfl, rfl, rfl, rfl⟩) fun _ hr => List.mem_singleton.mp hr

theorem closedPool (request : CascadeRequest) :
    KeepsTo request.card? (Engine.closedPool request) :=
  taker [.cascade request false] [] (fun _ => rfl)
    (fun _ => ⟨rfl, rfl, rfl, (List.append_nil _).symm⟩) fun _ hr => nomatch hr

theorem jobQueue (request : CascadeRequest) :
    KeepsTo request.card? (Engine.jobQueue request) :=
  taker [.job request] [request] (fun _ => rfl)
    (fun _ => ⟨rfl, rfl, rfl, rfl⟩) fun _ hr => List.mem_singleton.mp hr

theorem brokenQueue (request : CascadeRequest) :
    KeepsTo request.card? (Engine.brokenQueue request) :=
  taker [] [] (fun _ => rfl)
    (fun _ => .nothing rfl rfl rfl rfl) fun _ hr => nomatch hr

section

variable (hsteady : env.Steady)

include hsteady

theorem runCascade {request : CascadeRequest}
    (hover : ∀ r : CascadeRequest, r.card? = request.card? → KeepsTo request.card? (h r)) :
    KeepsTo request.card? (Engine.runCascade env h request) :=
  (runningLaw hsteady hover).runCascade

theorem usual (hh : h.Usual env) (request : CascadeRequest) :
    KeepsTo request.card? (h request) := by
  induction hh generalizing request with
  | mode m =>
    cases m with
    | pool => exact openPool request
    | closed => exact closedPool request
    | queue | worked => exact jobQueue request
    | broken => exact brokenQueue request
  | inPlace _ ih =>
    refine (runCascade hsteady fun r hr => ?_).outcome.bind fun _ _ => ofExcept (.ok true)
    rw [← hr]
    exact ih r

theorem workOne (hh : h.Usual env) (asJob : Bool) (request : CascadeRequest) :
    KeepsTo request.card? (Engine.workOne env h asJob request) := by
  have hran : KeepsTo request.card? (Engine.runCascade env h request) :=
    runCascade hsteady fun r hr => by
      rw [← hr]
      exact usual hsteady hh r
  refine (detached ?_).outcome.bind fun _ _ => ofExcept (.ok ())
  cases asJob with
  | true =>
    refine bind ?_ fun _ _ => ofExcept (.ok ())
    rw [runJob_toPayload]
    refine bind ?_ fun _ _ => hran
    unfold configured
    cases env.misconfigured with
    | nil => exact ofExcept (.ok ())
    | cons e es => exact ofExcept (.error _)
  | false =>
    refine hran.outcome.bind fun r _ => ?_
    cases r with
    | ok report => exact ofExcept (.ok ())
    | error f => exact told (Tells.logFault _ _ _)

theorem body (hh : h.Usual env) (asked : AskedRun) :
    KeepsTo asked.card.id? (asked.body env h) := by
  have hran : KeepsTo asked.card.id?
      (run env h asked.triggerType asked.card asked.pipe asked.occasion asked.depth) :=
    (runningLaw hsteady fun r hr => by
      rw [← hr]
      exact usual hsteady hh r).run _ _ _ _
  exact hran.withAmbient _

end
end KeepsTo

section

variable (hsteady : env.Steady) (hh : h.Usual env)

include hsteady hh

/-- So does all that comes of a run, along a schedule. -/
theorem abreast_workOff : ∀ {w v : World} (schedule : Schedule), w.SameFor card v →
    Abreast card w v (workOff env h schedule w) (workOff env h schedule v)
  | _, _, [], hsame => .refl hsame
  | w, v, (place, asJob) :: schedule, hsame => by
    unfold workOff
    rw [hsame.queue]
    cases hrequest : w.queue[place]? with
    | none => exact abreast_workOff schedule hsame
    | some request =>
      have hnamed : request.card? = card := hsame.names request (List.mem_of_getElem? hrequest)
      have hrest : (w.pending (w.queue.eraseIdx place)).SameFor card
          (v.pending (w.queue.eraseIdx place)) :=
        ⟨hsame.store, hsame.ambient, rfl,
          fun r hr => hsame.names r (List.mem_of_mem_eraseIdx hr)⟩
      have hone := KeepsTo.workOne hsteady hh asJob request
      rw [hnamed] at hone
      have hworked := (hone.abreast hrest).2
      have hthrough : Abreast card w v _ _ :=
        ⟨hworked.same, hworked.ambient, hworked.sent, hworked.touched⟩
      exact hthrough.trans (abreast_workOff schedule hworked.same)

theorem abreast_runThrough (schedule : Schedule) (asked : AskedRun)
    (hsame : w.SameFor asked.card.id? v) :
    (runThrough env h schedule asked v).1 = (runThrough env h schedule asked w).1 ∧
      Abreast asked.card.id? w v (runThrough env h schedule asked w).2
        (runThrough env h schedule asked v).2 := by
  obtain ⟨hresult, habreast⟩ := (KeepsTo.body hsteady hh asked).abreast hsame
  exact ⟨hresult, habreast.trans (abreast_workOff hsteady hh schedule habreast.same)⟩

/-- A run that is through has made no difference to any other card. -/
theorem sameFor_runThrough (schedule : Schedule) (asked : AskedRun) (c : Option Uuid)
    (hcard : ∀ id, asked.card.id? = some id → c ≠ some id) (hqueue : w.queue = [])
    (hdone : (runThrough env h schedule asked w).2.queue = []) :
    w.SameFor c (runThrough env h schedule asked w).2 := by
  have hnames : ∀ c', ∀ request ∈ w.queue, request.card? = c' := by simp [hqueue]
  obtain ⟨-, habreast⟩ := abreast_runThrough hsteady hh schedule asked (.refl (hnames _))
  exact ⟨Store.partOf_of_touched habreast.touched fun id hid hasked => hcard id hasked hid,
    habreast.ambient, hdone.trans hqueue.symm, hnames c⟩

/-- Runs on different cards commute. Two runs, each followed by its cascades along a schedule until
nothing is put aside: in either order, each comes to what it comes to without the other one; in the
end the stores hold the same rows, and the same mails and requests have gone out. -/
theorem runs_commute (first second : AskedRun) (schedule₁ schedule₂ : Schedule)
    (hcards : ∀ id, first.card.id? = some id → second.card.id? ≠ some id) (hqueue : w.queue = [])
    (hfirst : (runThrough env h schedule₁ first w).2.queue = [])
    (hsecond : (runThrough env h schedule₂ second w).2.queue = []) :
    ∃ r₁ r₂ w₁ w₂ w₁₂ w₂₁,
      runThrough env h schedule₁ first w = (r₁, w₁) ∧
      runThrough env h schedule₂ second w₁ = (r₂, w₁₂) ∧
      runThrough env h schedule₂ second w = (r₂, w₂) ∧
      runThrough env h schedule₁ first w₂ = (r₁, w₂₁) ∧
      w₁₂.queue = [] ∧ w₂₁.queue = [] ∧
      w₁₂.store.SameRows w₂₁.store ∧ w₁₂.sent.Perm w₂₁.sent := by
  have hother : ∀ id, second.card.id? = some id → first.card.id? ≠ some id :=
    fun id hid hsame => hcards id hsame hid
  have hsame₁ := sameFor_runThrough hsteady hh schedule₁ first second.card.id? hcards hqueue hfirst
  have hsame₂ := sameFor_runThrough hsteady hh schedule₂ second first.card.id? hother hqueue hsecond
  obtain ⟨hr₁, habreast₁⟩ := abreast_runThrough hsteady hh schedule₁ first hsame₂
  obtain ⟨hr₂, habreast₂⟩ := abreast_runThrough hsteady hh schedule₂ second hsame₁
  obtain ⟨-, hlater₁⟩ := abreast_runThrough hsteady hh schedule₂ second (.refl hsame₁.symm.names)
  obtain ⟨-, hlater₂⟩ := abreast_runThrough hsteady hh schedule₁ first (.refl hsame₂.symm.names)
  refine ⟨_, _, _, _, (runThrough env h schedule₂ second (runThrough env h schedule₁ first w).2).2,
    (runThrough env h schedule₁ first (runThrough env h schedule₂ second w).2).2, rfl,
    Prod.ext hr₂ rfl, rfl, Prod.ext hr₁ rfl, habreast₂.same.queue.trans hsecond,
    habreast₁.same.queue.trans hfirst, ?_, ?_⟩
  · refine Store.sameRows_of_orders (fun id hid hasked => hcards id hid hasked) habreast₁.touched
      habreast₂.touched hlater₁.touched hlater₂.touched (fun id hid => ?_) fun id hid => ?_
    · rw [← hid]
      exact habreast₁.same.store
    · rw [← hid]
      exact habreast₂.same.store
  · obtain ⟨effects₁, hout₁, hout₁'⟩ := habreast₁.sent
    obtain ⟨effects₂, hout₂, hout₂'⟩ := habreast₂.sent
    rw [hout₂', hout₁, hout₁', hout₂, ← List.append_assoc, ← List.append_assoc]
    exact List.perm_append_comm.append_right w.sent

end
end Engine

/-- A run that a card's entering the first stage of the small board sets off. -/
def AskedRun.sample (card : Uuid) : AskedRun where
  ambient := {}
  triggerType := "card_enters_stage"
  card := .ofUuid card
  pipe := .ofText "00000000-0000-0000-0000-000000000001"
  occasion := .untold
  depth := 0

namespace Engine

/-- On the small board with two cards, the cascades of one run on workers of the pool and those of
the other one as jobs. -/
theorem runs_commute_shared :
    ∃ r₁ r₂ w₁ w₂ w₁₂ w₂₁,
      runThrough Environment.sample openPool (.replicate 3 (0, false))
        (.sample ⟨3, by decide⟩) { store := Store.shared } = (r₁, w₁) ∧
      runThrough Environment.sample openPool (.replicate 3 (0, true))
        (.sample ⟨8, by decide⟩) w₁ = (r₂, w₁₂) ∧
      runThrough Environment.sample openPool (.replicate 3 (0, true))
        (.sample ⟨8, by decide⟩) { store := Store.shared } = (r₂, w₂) ∧
      runThrough Environment.sample openPool (.replicate 3 (0, false))
        (.sample ⟨3, by decide⟩) w₂ = (r₁, w₂₁) ∧
      w₁₂.queue = [] ∧ w₂₁.queue = [] ∧
      w₁₂.store.SameRows w₂₁.store ∧ w₁₂.sent.Perm w₂₁.sent :=
  runs_commute ⟨fun _ => rfl, by rintro service ⟨⟩⟩ (.mode .pool)
    (.sample ⟨3, by decide⟩) (.sample ⟨8, by decide⟩) _ _
    (fun id hid hother => absurd (hid.trans hother.symm) (by decide)) rfl (by decide +kernel)
    (by decide +kernel)

end Engine
end BoardRules
