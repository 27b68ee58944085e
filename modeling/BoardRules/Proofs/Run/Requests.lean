import BoardRules.Proofs.Run.Evolution
import BoardRules.Proofs.Run.Moves
import BoardRules.Proofs.Run.Trace

/-! The requests that a run leaves behind. While cascades are left for later there is one for each
move that succeeds, in the order of the moves, and no other one. It says which card has entered
which stage, and at which depth and under which correlation id the run that follows is to take
place. -/
namespace BoardRules

/-- Whether every request is accepted and put aside, and nothing else is done about it. -/
structure HandOver.PutsAside (h : HandOver) : Prop where
  accepts : ∀ request w, (Engine.exec (h request) w).1 = .ok true
  ledger : ∀ request w, (Engine.exec (h request) w).2.ledger = (w.handed request true).ledger

theorem HandOver.PutsAside.answers {h : HandOver} (haside : h.PutsAside) : h.Answers :=
  fun request w => ⟨true, haside.accepts request w⟩

theorem HandOver.PutsAside.spares {h : HandOver} (haside : h.PutsAside) : h.Spares :=
  fun request w => congrArg (fun l => l.store.history) (haside.ledger request w)

/-- Whether a request is the one for the stage that a card has entered by a move. -/
def Store.CallsFor (s : Store) (depth : Int) (correlation : Json) (row : HistoryRow)
    (request : CascadeRequest) : Prop :=
  ∃ stage, s.stage? row.toStage = some stage ∧
    request = ⟨row.card.text, stage.pipe.text, row.toStage.text, depth, correlation⟩

theorem Store.CallsFor.congr {s s' : Store} {depth : Int} {correlation : Json} {row : HistoryRow}
    {request : CascadeRequest} (h : s'.CallsFor depth correlation row request)
    (hstages : s'.stages = s.stages) : s.CallsFor depth correlation row request := by
  unfold CallsFor stage? at h ⊢
  rw [← hstages]
  exact h

/-- The moves that are made at a depth, and the requests that are put aside for them. -/
structure Follows (env : Environment) (depth : Int) (w w' : World) (rows : List HistoryRow)
    (requests : List CascadeRequest) : Prop where
  stages : w'.store.stages = w.store.stages
  history : w'.store.history = w.store.history ++ rows
  queue : w'.queue = w.queue ++ requests
  handed : depth + 1 ≤ env.maxDepth → List.Forall₂ (fun row request =>
    ∃ correlation, w.store.CallsFor (depth + 1) correlation row request) rows requests
  refused : env.maxDepth < depth + 1 → requests = []

namespace Follows

variable {env : Environment} {depth : Int} {w w' w₁ w₂ w₃ : World} {rows rows' : List HistoryRow}
  {requests requests' : List CascadeRequest}

theorem still (hstages : w'.store.stages = w.store.stages)
    (hhistory : w'.store.history = w.store.history) (hqueue : w'.queue = w.queue) :
    Follows env depth w w' [] [] where
  stages := hstages
  history := by rw [hhistory, List.append_nil]
  queue := by rw [hqueue, List.append_nil]
  handed := fun _ => .nil
  refused := fun _ => rfl

theorem trans (h : Follows env depth w₁ w₂ rows requests)
    (h' : Follows env depth w₂ w₃ rows' requests') :
    Follows env depth w₁ w₃ (rows ++ rows') (requests ++ requests') where
  stages := h'.stages.trans h.stages
  history := by rw [h'.history, h.history, List.append_assoc]
  queue := by rw [h'.queue, h.queue, List.append_assoc]
  handed := by
    intro hdepth
    refine List.rel_append (h.handed hdepth) ((h'.handed hdepth).imp ?_)
    rintro row request ⟨correlation, hcalls⟩
    exact ⟨correlation, hcalls.congr h.stages⟩
  refused := by
    intro hdepth
    rw [h.refused hdepth, h'.refused hdepth]
    rfl

end Follows

/-- Whatever is moved at a depth is followed by its requests. -/
def Following (env : Environment) (depth : Int) (w w' : World) : Prop :=
  ∃ rows requests, Follows env depth w w' rows requests

namespace Following

variable {env : Environment} {depth : Int} {w w' : World}

theorem still (hstages : w'.store.stages = w.store.stages)
    (hhistory : w'.store.history = w.store.history) (hqueue : w'.queue = w.queue) :
    Following env depth w w' :=
  ⟨[], [], .still hstages hhistory hqueue⟩

theorem law : Law (Following env depth) where
  quiet := fun h => still (congrArg (fun l => l.store.stages) h)
    (congrArg (fun l => l.store.history) h) (World.queue_of_ledger h)
  trans := fun ⟨rows, requests, h⟩ ⟨rows', requests', h'⟩ =>
    ⟨rows ++ rows', requests ++ requests', h.trans h'⟩
  within := fun _ ⟨rows, requests, h⟩ =>
    ⟨rows, requests, h.stages, h.history, h.queue, h.handed, h.refused⟩

theorem runLaw : RunLaw (Following env depth) where
  toLaw := law
  entered := fun _ h => still (congrArg (fun l => l.store.stages) h)
    (congrArg (fun l => l.store.history) h) (congrArg (fun l => l.queue) h)
  counted := fun h => still (congrArg (fun l => l.store.stages) h)
    (congrArg (fun l => l.store.history) h) (congrArg (fun l => l.queue) h)

end Following

/-- The ambient context stays as it is, and requests are put aside under its correlation id. -/
def PassesOn (w w' : World) : Prop :=
  w'.ambient = w.ambient ∧ ∃ requests, w'.queue = w.queue ++ requests ∧
    ∀ request ∈ requests, request.correlation = w.ambient.correlation

theorem PassesOn.law : TraceLaw PassesOn where
  unseen := fun _ hambient hqueue _ => ⟨hambient, [], by rw [hqueue, List.append_nil], by simp⟩
  trans := by
    rintro w₁ w₂ w₃ ⟨hambient, requests, hqueue, hall⟩ ⟨hambient', requests', hqueue', hall'⟩
    rw [hambient] at hall'
    refine ⟨hambient'.trans hambient, requests ++ requests', ?_, ?_⟩
    · rw [hqueue', hqueue, List.append_assoc]
    · exact List.forall_mem_append.mpr ⟨hall, hall'⟩
  told := fun w _ _ _ => ⟨rfl, [], (List.append_nil _).symm, by simp⟩
  inDepth := fun _ ⟨_, requests, hqueue, hall⟩ => ⟨rfl, requests, hqueue, hall⟩
  stored := fun _ hambient hqueue => ⟨hambient, [], by rw [hqueue, List.append_nil], by simp⟩
  counted := fun w _ _ => ⟨rfl, [], (List.append_nil _).symm, by simp⟩

theorem HandOver.PutsAside.passesOn {h : HandOver} (haside : h.PutsAside) : h.Keeps PassesOn := by
  intro request w hcorrelation
  have hledger := haside.ledger request w
  exact ⟨congrArg (fun l => l.ambient) hledger, [request], congrArg (fun l => l.queue) hledger,
    by simpa using hcorrelation⟩

namespace Engine

variable {env : Environment} {h : HandOver}

theorem putsAside_openPool : HandOver.PutsAside openPool := ⟨fun _ _ => rfl, fun _ _ => rfl⟩

theorem putsAside_jobQueue : HandOver.PutsAside jobQueue :=
  ⟨fun _ _ => rfl, fun request w =>
    quiet_log cascadeLogger (by decide) _ _ _ ((w.noted (.job request)).handed request true)⟩

theorem Commits.follows {ctx : ActionContext} {payload : Json} {target : String} {row : CardRow}
    {stage : StageView} {time : Moment} {w w₁ w' : World}
    (hcommits : Commits ctx payload target row stage time w w₁) {requests : List CascadeRequest}
    (hstore : w'.store = w₁.store) (hqueue : w'.queue = w₁.queue ++ requests)
    (hhanded : ctx.depth + 1 ≤ env.maxDepth → requests =
      [requestAfter (moveTo w.store row stage) (ctx.depth + 1) w.ambient.correlation])
    (hrefused : env.maxDepth < ctx.depth + 1 → requests = []) :
    Follows env ctx.depth w w' [.ofMove (moveTo w.store row stage) time] requests := by
  have hw₁ : w₁.store = w.store.applyMove (moveTo w.store row stage) time :=
    congrArg Ledger.store hcommits.ledger
  obtain ⟨stored, hstored, hid, -, hpipe⟩ := Store.showsStage_of_stageFor hcommits.found
  refine ⟨?_, ?_, ?_, fun hdepth => ?_, hrefused⟩
  · rw [hstore, hw₁]
    rfl
  · rw [hstore, hw₁]
    rfl
  · exact hqueue.trans (congrArg (fun l => l.queue ++ requests) hcommits.ledger)
  · rw [hhanded hdepth]
    refine .cons ⟨w.ambient.correlation, stored, ?_, ?_⟩ .nil
    · exact (congrArg w.store.stage? hid).trans hstored
    · unfold requestAfter
      rw [← hpipe]
      rfl

section

variable (haside : h.PutsAside)

include haside

theorem following_perform (ctx : ActionContext) (payload : Json) :
    Keeps (Following env ctx.depth) (perform env h ctx payload) := by
  intro w
  cases perform_followed env ctx payload w with
  | handed target row stage time w₁ hcommits hdepth hending =>
    obtain ⟨w', hledger, hperform⟩ := hending h true _ (Prod.ext (haside.accepts _ w₁) rfl)
    rw [haside.ledger] at hledger
    rw [hperform]
    exact ⟨_, _, hcommits.follows (congrArg Ledger.store hledger) (congrArg Ledger.queue hledger)
      (fun _ => rfl) fun hdeep => absurd hdeep (Int.not_lt.mpr hdepth)⟩
  | refused target row stage time w₁ w' hcommits hdepth hledger hending =>
    rw [hending h]
    exact ⟨_, [], hcommits.follows (congrArg Ledger.store hledger)
      ((congrArg Ledger.queue hledger).trans (List.append_nil _).symm)
      (fun hallowed => absurd hdepth (Int.not_lt.mpr hallowed)) fun _ => rfl⟩
  | other r w' fields accepted hledger hrecord hending =>
    rw [hending h]
    exact .still (congrArg (fun l => l.store.stages) hledger)
      (congrArg (fun l => l.store.history) hledger) (congrArg (fun l => l.queue) hledger)

/-- However a run ends, it has put one request aside for each move that it has made, and for
nothing else; if it reports, it tells of so many moves. -/
theorem run_requests {triggerType : String} {card pipe : RowRef} {occasion : Occasion} {depth : Int}
    {w w' : World} {r : Except Fault Report}
    (hexec : exec (run env h triggerType card pipe occasion depth) w = (r, w')) :
    ∃ rows requests, w'.store.history = w.store.history ++ rows ∧
      w'.queue = w.queue ++ requests ∧
      (depth + 1 ≤ env.maxDepth → List.Forall₂
        (w.store.CallsFor (depth + 1) w.ambient.correlation) rows requests) ∧
      (env.maxDepth < depth + 1 → requests = []) ∧
      ∀ report, r = .ok report → rows.length = report.moves := by
  have hfollowing : Following env depth w
      (exec (run env h triggerType card pipe occasion depth) w).2 :=
    Keeps.run Following.runLaw
      (fun ctx payload hdepth => hdepth ▸ following_perform haside ctx payload)
      triggerType card pipe occasion w
  have hpassed : PassesOn w (exec (run env h triggerType card pipe occasion depth) w).2 :=
    PassesOn.law.run haside.passesOn triggerType card pipe occasion depth w
  rw [hexec] at hfollowing hpassed
  obtain ⟨rows, requests, hfollows⟩ := hfollowing
  obtain ⟨-, requests', hqueue, hall⟩ := hpassed
  -- the actions tell which request belongs to which move, the ambient context tells its id
  obtain rfl : requests = requests' := List.append_cancel_left (hfollows.queue.symm.trans hqueue)
  refine ⟨rows, requests, hfollows.history, hqueue, fun hdepth => ?_, hfollows.refused, ?_⟩
  · have hhanded := (List.forall₂_and_left _ _).mpr ⟨hall, (hfollows.handed hdepth).flip⟩
    refine hhanded.flip.imp ?_
    rintro row request ⟨hcorrelation, correlation, stage, hstage, rfl⟩
    exact ⟨stage, hstage, by rw [← hcorrelation]⟩
  · rintro report rfl
    obtain ⟨rows', hhistory, hlength⟩ := run_adds haside.answers haside.spares hexec
    rw [← hlength, List.append_cancel_left (hfollows.history.symm.trans hhistory)]

end
end Engine
end BoardRules
