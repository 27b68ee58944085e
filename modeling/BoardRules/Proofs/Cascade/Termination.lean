import BoardRules.Proofs.Cascade.Bound

/-! Cascades come to an end. Requests that are put aside can be run one after the other in any
order; each run uses up the budget of its request, so there is a last one. -/
namespace BoardRules.Engine

variable {env : Environment}

/-- One of the requests put aside is run, in whatever ambient context. -/
def Takes (env : Environment) (w w' : World) : Prop :=
  ∃ (h : HandOver) (before : List CascadeRequest) (request : CascadeRequest)
    (after : List CascadeRequest) (v v' : World) (r : Except Fault Report), h.Cascades env ∧
    w.queue = before ++ request :: after ∧
    v.ledger = { (w.pending (before ++ after)).ledger with ambient := v.ambient } ∧
    exec (runCascade env h request) v = (r, v') ∧
    w'.ledger = { v'.ledger with ambient := w'.ambient }

/-- Running one request leaves smaller budgets to those that are put aside then. -/
theorem budgets_of_takes {B : Nat} {w w' : World} (hmoves : w.store.MovesAtMost B)
    (htakes : Takes env w w') :
    w'.store.automations = w.store.automations ∧
      budgets env B w'.queue < budgets env B w.queue := by
  obtain ⟨h, before, request, after, v, v', r, hcascades, hqueue, hv, hexec, hw'⟩ := htakes
  have hall : ∀ s : Store, s.automations = w.store.automations → s.MovesAtMost B :=
    fun s hs => hmoves.congr hs
  have hstart : v.store.automations = w.store.automations :=
    congrArg (fun l => l.store.automations) hv
  obtain ⟨hspent, hcount⟩ :=
    spends_runCascade (spends_of_cascades hall hcascades) hall request v hstart
  rw [hexec] at hspent hcount
  obtain ⟨hautomations, -, hpotential⟩ := hspent hstart
  have hstore : w'.store = v'.store := congrArg (fun l => l.store) hw'
  have hrest : w'.queue = v'.queue := congrArg (fun l => l.queue) hw'
  have hpending : v.queue = before ++ after := congrArg (fun l => l.queue) hv
  have hpaid := potential_pending env B hqueue
  refine ⟨by rw [hstore]; exact hautomations, ?_⟩
  unfold World.potential at hpotential hpaid
  have hkept : (w.pending (before ++ after)).queue = before ++ after := rfl
  have hruns : (w.pending (before ++ after)).ledger.runs = w.ledger.runs := rfl
  rw [hkept, hruns] at hpaid
  rw [hpending] at hpotential
  rw [hrest]
  dsimp only at hcount hpotential
  omega

/-- Whatever is run next and however it unfolds, running what is put aside comes to an end. -/
theorem acc_takes (env : Environment) (w : World) : Acc (fun w' w => Takes env w w') w := by
  have hmoves := w.store.movesAtMost_sum
  generalize (w.store.automations.map AutomationRow.moves).sum = B at hmoves
  -- no run changes the automations, so one bound serves for all that is ever put aside
  have hbounded : ∀ n v, v.store.MovesAtMost B → budgets env B v.queue < n →
      Acc (fun w' w => Takes env w w') v := by
    intro n
    induction n with
    | zero =>
      intro v _ hn
      exact absurd hn (Nat.not_lt_zero _)
    | succ n ih =>
      intro v hv hn
      refine Acc.intro v fun v' htakes => ?_
      obtain ⟨hautomations, hless⟩ := budgets_of_takes hv htakes
      exact ih v' (hv.congr hautomations) (by omega)
  exact hbounded _ w hmoves (Nat.lt_succ_self _)

/-- It ends only where nothing is put aside any more. -/
theorem takes_of_pending {w : World} (hqueue : w.queue ≠ []) : ∃ w', Takes env w w' := by
  cases hsplit : w.queue with
  | nil => exact absurd hsplit hqueue
  | cons request after =>
    cases hexec : exec (runCascade env openPool request) (w.pending ([] ++ after)) with
    | mk r v' =>
      exact ⟨v', openPool, [], request, after, w.pending ([] ++ after), v', r, cascades_openPool,
        hsplit, rfl, hexec, rfl⟩

/-- From a run at a depth, with nothing put aside before, to wherever its cascades have come: so
many runs and no more. -/
theorem runs_le {B : Nat} {h : HandOver} (triggerType : String) (card pipe : RowRef)
    (occasion : Occasion) (depth : Int) {w w' : World} (hmoves : w.store.MovesAtMost B)
    (hqueue : w.queue = []) (hcascades : h.Cascades env)
    (hunfolds : Unfolds env (exec (run env h triggerType card pipe occasion depth) w).2 w') :
    w'.ledger.runs ≤
      w.ledger.runs + ∑ i ∈ Finset.range ((env.maxDepth - depth).toNat + 1), B ^ i := by
  have hall : ∀ s : Store, s.automations = w.store.automations → s.MovesAtMost B :=
    fun s hs => hmoves.congr hs
  obtain ⟨hspent, -⟩ := spends_run (spends_of_cascades hall hcascades) hall triggerType card pipe
    occasion depth w rfl
  obtain ⟨-, -, hpotential⟩ := (hspent.trans (spends_of_unfolds hall hunfolds)) rfl
  have hnone : w.potential env B = w.ledger.runs := by
    unfold World.potential
    rw [hqueue]
    rfl
  rw [hnone] at hpotential
  exact (Nat.le_add_right _ _).trans hpotential

/-- Unless the storage fails, a move that is refused a cascade is committed all the same. -/
theorem perform_refused {ctx : ActionContext} {payload : Json} {target : String} {w : World}
    {v : CardView} {stage : StageView} (hdepth : env.maxDepth ≤ ctx.depth)
    (haction : Action.ofJson payload = .ok (.moveCard target))
    (hcard : w.store.cardFor ctx.card = .ok v) (hstage : w.store.stageFor target = .ok stage) :
    (∃ f w', f.isStorage = true ∧ (∃ n, env.storageFails n = true) ∧
      ∀ h, exec (perform env h ctx payload) w = (.error f, w')) ∨
    ∃ move tick store w', ctx.card.id? = some move.card ∧ move.toStage = stage.id ∧
      w.store.CardMoved move (.live w.step tick) store ∧
      w'.ledger = { w.ledger with store := store, blocks := w.ledger.blocks + 1 } ∧
      ∀ h, exec (perform env h ctx payload) w =
        (.ok (recordOf payload (.success (moveReport move false))), w') := by
  obtain ⟨w₀, hw₀, hperform⟩ := exec_perform env ctx payload w
  have hstore : w₀.store = w.store := World.store_of_ledger hw₀
  have hstep : w₀.step = w.step := World.step_of_ledger hw₀
  rw [← hstore] at hcard hstage
  have hattempt : ∀ h, attempt env h ctx payload = moveToStage env h ctx target := by
    intro h
    unfold attempt
    rw [haction]
    rfl
  rcases moveToStage_found hcard hstage with
    ⟨f, w₁, hstorage, hfails, _, hmove⟩ | ⟨row, tick, w₁, hid, hrow, hledger₁, hmove⟩
  · obtain ⟨w', -, hending⟩ := exec_perform_of_ending hperform fun h => by rw [hattempt, hmove]
    refine .inl ⟨f, w', hstorage, hfails, fun h => ?_⟩
    rw [hending]
    cases f with
    | action => cases hstorage
    | _ => rfl
  · rw [hstore] at hrow hmove hledger₁
    rw [hstep, hw₀] at hledger₁
    obtain ⟨w₂, hledger₂, hsched⟩ :=
      scheduleCascade_refused env (moveTo w.store row stage) (Int.lt_add_one_iff.mpr hdepth) w₁
    obtain ⟨w', hledger, hending⟩ := exec_perform_of_ending hperform fun h => by
      rw [hattempt, hmove, hsched]
    refine .inr ⟨moveTo w.store row stage, tick, _, w', hid, rfl,
      Store.cardMoved_applyMove rfl hrow _, ?_, hending⟩
    rw [hledger, hledger₂, hledger₁]

/-- Cascades terminate within the greatest depth. In order: the requests of a run are deeper by one
and still allowed, so at the greatest depth there are none; what is put aside can be run to its end
in any order; the runs have a bound; and a refused move is committed, a success, and counted. -/
theorem cascades_terminate (env : Environment) (depth : Int) :
    (∀ h h' triggerType card pipe occasion, AgreeBelow env depth h h' →
      run env h triggerType card pipe occasion depth =
        run env h' triggerType card pipe occasion depth) ∧
    (env.maxDepth ≤ depth → ∀ h h' triggerType card pipe occasion,
      run env h triggerType card pipe occasion depth =
        run env h' triggerType card pipe occasion depth) ∧
    (∀ w, Acc (fun w' w => Takes env w w') w ∧ (w.queue ≠ [] → ∃ w', Takes env w w')) ∧
    (∀ B (h : HandOver) triggerType card pipe occasion w w', w.store.MovesAtMost B →
      w.queue = [] → h.Cascades env →
      Unfolds env (exec (run env h triggerType card pipe occasion depth) w).2 w' →
      w'.ledger.runs ≤
        w.ledger.runs + ∑ i ∈ Finset.range ((env.maxDepth - depth).toNat + 1), B ^ i) ∧
    (∀ ctx payload target w v stage, ctx.depth = depth → env.maxDepth ≤ depth →
      Action.ofJson payload = .ok (.moveCard target) →
      w.store.cardFor ctx.card = .ok v → w.store.stageFor target = .ok stage →
      (∃ f w', f.isStorage = true ∧ (∃ n, env.storageFails n = true) ∧
        ∀ h, exec (perform env h ctx payload) w = (.error f, w')) ∨
      ∃ move tick store w', ctx.card.id? = some move.card ∧ move.toStage = stage.id ∧
        w.store.CardMoved move (.live w.step tick) store ∧
        w'.ledger = { w.ledger with store := store, blocks := w.ledger.blocks + 1 } ∧
        ∀ h, exec (perform env h ctx payload) w =
          (.ok (recordOf payload (.success (moveReport move false))), w')) := by
  refine ⟨?_, ?_, fun w => ⟨acc_takes env w, takes_of_pending⟩, ?_, ?_⟩
  · intro h h' triggerType card pipe occasion hagree
    exact run_congr hagree triggerType card pipe occasion
  · intro hdepth h h' triggerType card pipe occasion
    exact run_congr (agreeBelow_of_le hdepth) triggerType card pipe occasion
  · intro B h triggerType card pipe occasion w w' hmoves hqueue hcascades hunfolds
    exact runs_le triggerType card pipe occasion depth hmoves hqueue hcascades hunfolds
  · rintro ctx payload target w v stage rfl hdepth haction hcard hstage
    exact perform_refused hdepth haction hcard hstage

/-- On the small board, a run that may be followed by three more comes to four runs at most, and a
move at the greatest depth is refused a cascade. -/
theorem cascades_terminate_sample :
    (exec (run Environment.sample openPool "card_enters_stage" (.ofUuid ⟨3, by decide⟩)
        (.ofUuid ⟨1, by decide⟩) .untold 0) { store := Store.sample }).2.ledger.runs ≤
      ({ store := Store.sample } : World).ledger.runs +
        ∑ i ∈ Finset.range ((Environment.sample.maxDepth - 0).toNat + 1), 1 ^ i ∧
    ∃ move w', w'.ledger.blocks = 1 ∧
      exec (perform Environment.sample openPool
          { card := .ofUuid ⟨3, by decide⟩, automation := ⟨4, by decide⟩, depth := 3 }
          Store.sampleMove) { store := Store.sample } =
        (.ok (recordOf Store.sampleMove (.success (moveReport move false))), w') := by
  have hmoves : Store.sample.MovesAtMost 1 := Store.movesAtMost_sum Store.sample
  have hcard : ∃ v, Store.sample.cardFor (.ofUuid ⟨3, by decide⟩) = .ok v := by
    unfold Store.cardFor Store.viewCard
    exact ⟨_, rfl⟩
  have hid : Uuid.ofText? "00000000-0000-0000-0000-000000000002" = some ⟨2, by decide⟩ := by
    decide +kernel
  have hstage : ∃ v, Store.sample.stageFor "00000000-0000-0000-0000-000000000002" = .ok v := by
    unfold Store.stageFor Store.viewStage RowRef.ofText
    rw [hid]
    exact ⟨_, rfl⟩
  obtain ⟨v, hv⟩ := hcard
  obtain ⟨stage, hstage⟩ := hstage
  constructor
  · exact (cascades_terminate Environment.sample 0).2.2.2.1 1 openPool "card_enters_stage" _ _
      .untold { store := Store.sample } _ hmoves rfl cascades_openPool (.of_ledger rfl)
  · rcases (cascades_terminate Environment.sample 3).2.2.2.2
      { card := .ofUuid ⟨3, by decide⟩, automation := ⟨4, by decide⟩, depth := 3 }
      Store.sampleMove "00000000-0000-0000-0000-000000000002" { store := Store.sample } v stage
      rfl (Int.le_refl _) rfl hv hstage with
      ⟨_, _, _, ⟨n, hfails⟩, _⟩ | ⟨move, tick, store, w', _, _, _, hledger, hexec⟩
    · cases hfails
    · exact ⟨move, w', congrArg (fun l => l.blocks) hledger, hexec openPool⟩

end BoardRules.Engine
