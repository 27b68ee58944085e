import BoardRules.Proofs.Run.Journal

/-! The actions that are counted and those of which the audit log tells. While an automation is
executed its actions are counted already, but not told of yet; they are once it is entered. Only a
run that raises can leave actions counted of which nobody is told. -/
namespace BoardRules

open Engine

def Occurrence.acted? : Occurrence → Option (String × String)
  | acted type status => some (type, status)
  | _ => none

/-- The type and the status that are recorded of an action. -/
def ActionRecord.kind (r : ActionRecord) : String × String := (r.type, r.outcome.status)

/-- The type and the status that an entry about an action shows. -/
def kindIn? (entry : Json) : Option (String × String) := do
  let type ← (entry.entries.getD "type").text?
  let status ← (entry.entries.getD "status").text?
  return (type, status)

/-- The actions of which a row of the audit log tells. -/
def LogRow.kinds (row : LogRow) : List (String × String) := row.actions.filterMap kindIn?

theorem kindIn?_logEntry (r : ActionRecord) : kindIn? r.logEntry = some r.kind := by
  obtain ⟨type, config, outcome⟩ := r
  cases outcome <;> rfl

theorem Execution.kinds_logRow (e : Execution) (card automation : Uuid) (triggerType : String)
    (time : Moment) :
    (e.logRow card automation triggerType time).kinds = e.actions.map ActionRecord.kind := by
  unfold LogRow.kinds logRow
  rw [List.filterMap_map]
  have hkind : kindIn? ∘ ActionRecord.logEntry = some ∘ ActionRecord.kind :=
    funext kindIn?_logEntry
  rw [hkind, List.filterMap_eq_map]

theorem Execution.actions_ofRecords (met : Option Bool) (records : List ActionRecord) :
    (Execution.ofRecords met records).actions = records := by
  unfold Execution.ofRecords
  split <;> rfl

/-- Whether no run of which is told has raised. -/
def Calm (js : List Occurrence) : Prop := ∀ triggerType, Occurrence.ran triggerType true ∉ js

theorem calm_append {js js' : List Occurrence} : Calm (js ++ js') ↔ Calm js ∧ Calm js' := by
  simp only [Calm, List.mem_append, not_or, forall_and]

/-- Whether the actions that are counted are those of which the audit log tells and some others. -/
def Awaits (pending : List (String × String)) (js : List Occurrence) : Prop :=
  (js.filterMap Occurrence.acted?).Perm
    ((js.filterMap Occurrence.row?).flatMap LogRow.kinds ++ pending)

namespace Awaits

variable {js js' : List Occurrence} {pending pending' : List (String × String)}

theorem nil : Awaits [] [] := List.Perm.nil

theorem append (h : Awaits pending js) (h' : Awaits pending' js') :
    Awaits (pending ++ pending') (js ++ js') := by
  unfold Awaits at h h' ⊢
  rw [List.filterMap_append, List.filterMap_append, List.flatMap_append]
  refine (List.Perm.append h h').trans ?_
  rw [List.append_assoc, List.append_assoc]
  refine List.Perm.append_left _ ?_
  rw [← List.append_assoc, ← List.append_assoc]
  exact List.Perm.append_right _ List.perm_append_comm

/-- Entering an automation tells of its actions. -/
theorem entered {row : LogRow} (h : Awaits row.kinds js) : Awaits [] (js ++ [.entered row]) := by
  have hnone : [Occurrence.entered row].filterMap Occurrence.acted? = [] := rfl
  have hrow : ([Occurrence.entered row].filterMap Occurrence.row?).flatMap LogRow.kinds =
      row.kinds := List.append_nil _
  unfold Awaits
  rw [List.filterMap_append, List.filterMap_append, List.flatMap_append, hnone, hrow,
    List.append_nil, List.append_nil]
  exact h

end Awaits

/-- Whether no action is awaited in the end. Where a run has raised, some may be. -/
def Settled (js : List Occurrence) : Prop := Calm js → Awaits [] js

namespace Settled

theorem nil : Settled [] := fun _ => .nil

theorem append {js js' : List Occurrence} (h : Settled js) (h' : Settled js') :
    Settled (js ++ js') := fun hcalm =>
  (h (calm_append.mp hcalm).1).append (h' (calm_append.mp hcalm).2)

end Settled

namespace Journal

theorem settled_after {α : Type} {x : Engine α} {F : α → Journal}
    (hF : ∀ a w, Settled (F a w)) (w : World) : Settled (after x F w) := by
  rcases hexec : exec x w with ⟨f | a, w'⟩
  · rw [after_error hexec]
    exact .nil
  · rw [after_ok hexec]
    exact hF a w'

section

variable {env : Environment} {h : HandOver} {K : CascadeRequest → Journal}
  (hK : ∀ request w, Settled (K request w))

include hK

theorem settled_schedule (move : CardMove) (depth : Int) (w : World) :
    Settled (schedule env K move depth w) := by
  unfold schedule
  split
  · exact fun _ => .nil
  · exact hK _ _

theorem settled_attempt (ctx : ActionContext) (payload : Json) (w : World) :
    Settled (attempt env K ctx payload w) := by
  unfold attempt
  cases Action.ofJson payload with
  | error f => exact .nil
  | ok action =>
    cases action with
    | moveCard target =>
      exact settled_after (fun needs => settled_after fun move =>
        settled_schedule hK move ctx.depth) w
    | _ => exact .nil

theorem awaits_perform {ctx : ActionContext} {payload : Json} {w w' : World}
    {record : ActionRecord} (hexec : exec (Engine.perform env h ctx payload) w = (.ok record, w'))
    (hcalm : Calm (perform env h K ctx payload w)) :
    Awaits [record.kind] (perform env h K ctx payload w) := by
  unfold perform at hcalm ⊢
  rw [after_ok hexec] at hcalm ⊢
  exact (settled_attempt hK ctx payload _ (calm_append.mp hcalm).1).append (.refl _)

/-- Until they are entered, the actions that have been carried out are awaited. -/
theorem awaits_performAll {ctx : ActionContext} :
    ∀ {payloads : List Json} {w w' : World} {records : List ActionRecord},
      exec (Engine.performAll env h ctx payloads) w = (.ok records, w') →
      Calm (performAll env h K ctx payloads w) →
      Awaits (records.map ActionRecord.kind) (performAll env h K ctx payloads w)
  | [], w, w', records, hexec, _ => by
    cases hexec
    exact .nil
  | payload :: payloads, w, w', records, hexec, hcalm => by
    unfold Engine.performAll at hexec
    obtain ⟨record, w₁, hperform, hrest⟩ := exec_bind_eq_ok.mp hexec
    unfold performAll at hcalm ⊢
    rw [after_ok hperform] at hcalm ⊢
    obtain ⟨hfirst, hcalm⟩ := calm_append.mp hcalm
    have hperformed := awaits_perform hK hperform hfirst
    cases herror : record.error? with
    | some message =>
      rw [herror] at hrest
      cases hrest
      exact hperformed.append .nil
    | none =>
      rw [herror] at hrest hcalm
      obtain ⟨records', w₂, hall, hdone⟩ := exec_bind_eq_ok.mp hrest
      cases hdone
      exact hperformed.append (awaits_performAll hall hcalm)

theorem awaits_execution {a : AutomationView} {card : RowRef} {depth : Int} {w w' : World}
    {e : Execution} (hexec : exec (Engine.execution env h a card depth) w = (.ok e, w'))
    (hcalm : Calm (execution env h K a card depth w)) :
    Awaits (e.actions.map ActionRecord.kind) (execution env h K a card depth w) := by
  obtain ⟨met, w₁, hgate, ⟨rfl, rfl, rfl⟩ | ⟨hmet, records, hall, rfl⟩⟩ := execution_eq_ok hexec
  · unfold execution
    rw [after_ok hgate]
    exact .nil
  · unfold execution at hcalm ⊢
    rw [after_ok hgate] at hcalm ⊢
    rw [Execution.actions_ofRecords]
    rcases met with _ | _ | _
    · exact awaits_performAll hK hall hcalm
    · exact absurd rfl hmet
    · exact awaits_performAll hK hall hcalm

theorem awaits_execute {a : AutomationView} {card : RowRef} {triggerType : String} {depth : Int}
    {w w' : World} {e : Execution}
    (hexec : exec (Engine.execute env h a card triggerType depth) w = (.ok e, w'))
    (hcalm : Calm (execute env h K a card triggerType depth w)) :
    Awaits [] (execute env h K a card triggerType depth w) := by
  rw [exec_execute] at hexec
  have hended := congrArg Prod.fst hexec
  dsimp only at hended
  obtain ⟨e', w₁, hexecution, hrest⟩ := exec_bind_eq_ok.mp (Prod.ext hended rfl)
  obtain ⟨_, w₂, henter, -⟩ := exec_bind_eq_ok.mp hrest
  unfold execute at hcalm ⊢
  rw [after_ok hexecution] at hcalm ⊢
  have hawaits := awaits_execution hK hexecution (calm_append.mp hcalm).1
  unfold enter
  rw [after_ok henter]
  rcases enter_cases env a card triggerType e' w₁ with
    ⟨w₃, hfailed, -⟩ | ⟨id, time, w₃, hid, -, -⟩
  · cases hfailed.symm.trans henter
  · rw [hid]
    refine Awaits.entered ?_
    rw [Execution.kinds_logRow]
    exact hawaits

theorem awaits_executeMatching {card : RowRef} {triggerType : String} {depth : Int} :
    ∀ {examined : List (AutomationView × ReportDetail)} {w w' : World}
      {details : List ReportDetail},
      exec (Engine.executeMatching env h card triggerType depth examined) w = (.ok details, w') →
      Calm (executeMatching env h K card triggerType depth examined w) →
      Awaits [] (executeMatching env h K card triggerType depth examined w)
  | [], w, w', details, _, _ => .nil
  | p :: rest, w, w', details, hexec, hcalm => by
    rw [executeMatching_cons] at hexec
    obtain ⟨d, w₁, hturn, hexec⟩ := exec_bind_eq_ok.mp hexec
    obtain ⟨ds, w₂, hrest, -⟩ := exec_bind_eq_ok.mp hexec
    unfold executeMatching at hcalm ⊢
    rw [after_ok hturn] at hcalm ⊢
    obtain ⟨hfirst, hcalm⟩ := calm_append.mp hcalm
    have hturned : Awaits [] (if p.2.isMatch then execute env h K p.1 card triggerType depth w
        else []) := by
      unfold turn at hturn
      split
      · rename_i hmatch
        rw [if_pos hmatch] at hturn hfirst
        cases hexecute : exec (Engine.execute env h p.1 card triggerType depth) w with
        | mk r w' =>
          rw [exec_map, hexecute] at hturn
          cases r with
          | error f => cases hturn
          | ok e => exact awaits_execute hK hexecute hfirst
      · exact .nil
    exact hturned.append (awaits_executeMatching hrest hcalm)

theorem awaits_runCore {triggerType : String} {card pipe : RowRef} {occasion : Occasion}
    {depth : Int} {w w' : World} {report : Report}
    (hexec : exec (Engine.runCore env h triggerType card pipe occasion depth) w = (.ok report, w'))
    (hcalm : Calm (runCore env h K triggerType card pipe occasion depth w)) :
    Awaits [] (runCore env h K triggerType card pipe occasion depth w) := by
  unfold Engine.runCore at hexec
  obtain ⟨found, w₁, hopened, hexec⟩ := exec_bind_eq_ok.mp hexec
  unfold runCore at hcalm ⊢
  rw [after_ok hopened] at hcalm ⊢
  cases found with
  | none => exact .nil
  | some examined =>
    cases hmatching : exec (Engine.executeMatching env h card triggerType depth examined) w₁ with
    | mk r w₂ =>
      rw [exec_map, hmatching] at hexec
      cases r with
      | error f => cases hexec
      | ok details => exact awaits_executeMatching hK hmatching hcalm

/-- The run itself tells whether it has raised. -/
theorem settled_run (triggerType : String) (card pipe : RowRef) (occasion : Occasion) (depth : Int)
    (w : World) : Settled (run env h K triggerType card pipe occasion depth w) := by
  intro hcalm
  obtain ⟨r, w₁, w', hcore, -, hrun⟩ := run_cases env h triggerType card pipe occasion depth w
  unfold run at hcalm ⊢
  rw [hrun] at hcalm ⊢
  obtain ⟨hbody, hended⟩ := calm_append.mp hcalm
  cases r with
  | error f => exact absurd (List.mem_singleton.mpr rfl) (hended triggerType)
  | ok report => exact Awaits.append (awaits_runCore hK hcore hbody) (.refl _)

end

/-- A journal accounts for a program if it recounts the program and no action is awaited in the end
unless a run has raised. -/
structure Accounts {α : Type} (J : Journal) (body : Engine α) : Prop where
  recounts : J.Recounts body
  settled : ∀ w, Settled (J w)

namespace Accounts

variable {α β : Type} {J : Journal} {x : Engine α} {f : α → Engine β} {F : α → Journal}

/-- World by world. -/
theorem iff_ends : J.Accounts x ↔ ∀ w, Tally (J w) w (exec x w).2 ∧ Settled (J w) :=
  ⟨fun h w => ⟨h.recounts w, h.settled w⟩, fun h => ⟨fun w => (h w).1, fun w => (h w).2⟩⟩

theorem silent (h : Keeps Silent x) : nothing.Accounts x := ⟨.silent h, fun _ => .nil⟩

theorem bind (hx : J.Accounts x) (hf : ∀ a, (F a).Accounts (f a)) :
    Accounts (fun w => J w ++ after x F w) (x >>= f) where
  recounts := hx.recounts.bind fun a => (hf a).recounts
  settled := fun w => (hx.settled w).append (settled_after (fun a => (hf a).settled) w)

theorem after_silent (hx : Keeps Silent x) (hf : ∀ a, (F a).Accounts (f a)) :
    (after x F).Accounts (x >>= f) :=
  bind (silent hx) hf

theorem before_silent (hx : J.Accounts x) (hf : ∀ a, Keeps Silent (f a)) :
    J.Accounts (x >>= f) :=
  ⟨hx.recounts.before_silent hf, hx.settled⟩

theorem get_bind {f : World → Engine α} {F : World → Journal} (hf : ∀ v, (F v).Accounts (f v)) :
    Accounts (fun w => F w w) (get >>= f) where
  recounts := by
    intro w
    rw [exec_bind_ok (exec_get w)]
    exact (hf w).recounts w
  settled := fun w => (hf w).settled w

theorem map (g : α → β) (hx : J.Accounts x) : J.Accounts (g <$> x) :=
  ⟨hx.recounts.map g, hx.settled⟩

theorem outcome (hx : J.Accounts x) : J.Accounts (Engine.outcome x) :=
  ⟨hx.recounts.outcome, hx.settled⟩

theorem withAmbient (change : Ambient → Ambient) (hx : J.Accounts x) :
    Accounts (fun w => J (w.within (change w.ambient))) (Engine.withAmbient change x) :=
  ⟨hx.recounts.withAmbient change, fun _ => hx.settled _⟩

theorem detached (hx : J.Accounts x) :
    Accounts (fun w => J { w with spans := [], ambient := {} }) (Engine.detached x) :=
  ⟨hx.recounts.detached, fun _ => hx.settled _⟩

end Accounts

section

variable {env : Environment} {h : HandOver} {K : CascadeRequest → Journal}
  (hK : ∀ request, (K request).Accounts (h request))

include hK

theorem accounts_run (triggerType : String) (card pipe : RowRef) (occasion : Occasion)
    (depth : Int) : (run env h K triggerType card pipe occasion depth).Accounts
      (Engine.run env h triggerType card pipe occasion depth) where
  recounts :=
    recounts_run (fun request => (hK request).recounts) triggerType card pipe occasion depth
  settled := settled_run (fun request => (hK request).settled) triggerType card pipe occasion depth

theorem accounts_runOn (triggerType : String) (card pipe : RowRef) (told : Json)
    (depth : Option Int) : (runOn env h K triggerType card pipe told depth).Accounts
      (Engine.runOn env h triggerType card pipe told depth) := by
  have hread : Keeps Silent (occasionOf told) := by
    unfold occasionOf
    split
    · exact Silent.law.pure _
    · exact Silent.law.raise _
  exact .after_silent hread fun occasion => .get_bind fun v =>
    accounts_run hK triggerType card pipe occasion (depth.getD v.ambient.depthOrZero)

theorem accounts_runCascade (request : CascadeRequest) :
    (runCascade env h K request).Accounts (Engine.runCascade env h request) := by
  unfold Engine.runCascade withCorrelation
  exact (accounts_run hK _ _ _ _ _).withAmbient fun a =>
    { a with correlation := request.correlation }

end
end Journal
end BoardRules
