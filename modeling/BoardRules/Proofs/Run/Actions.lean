import BoardRules.Engine.Run
import BoardRules.Proofs.Action.Record
import BoardRules.Proofs.Engine.Scheduling

/-! The actions of an automation, carried out one after the other. What a law has to allow for so
that it holds of every action is named here once. -/
namespace BoardRules

/-- A law that allows for what actions do by themselves. An action that changes what is stored has
found the card there, and the stage to which it moves it. -/
structure ActionLaw (R : World → World → Prop) : Prop extends Law R where
  mailed : ∀ {w w'}, w'.ledger = { w.ledger with accepted := w.ledger.accepted + 1 } → R w w'
  wrote : ∀ {w w'} (row : CardRow) (key : String) (value : Json) (time : Moment),
    w.store.card? row.id = some row →
    w'.ledger = { w.ledger with store := w.store.writeField row.id key value time } → R w w'
  moved : ∀ {w w'} (target : String) (row : CardRow) (stage : StageView) (time : Moment),
    w.store.card? row.id = some row → w.store.stageFor target = .ok stage →
    w'.ledger = { w.ledger with
      store := w.store.applyMove (Engine.moveTo w.store row stage) time } → R w w'
  refused : ∀ {w w'}, w'.ledger = { w.ledger with blocks := w.ledger.blocks + 1 } → R w w'

namespace Engine

variable {env : Environment} {h : HandOver} {ctx : ActionContext} {R : World → World → Prop}

/-- A law cannot tell an action from nothing at all, unless the action is a move and hands one
request over; then it cannot tell it from that. -/
theorem perform_law (law : ActionLaw R) (payload : Json) (w : World) :
    R w (exec (perform env h ctx payload) w).2 ∨
      ∃ target move w₁, Action.ofJson payload = .ok (.moveCard target) ∧
        ctx.depth + 1 ≤ env.maxDepth ∧ R w w₁ ∧
        R (exec (h (requestAfter move (ctx.depth + 1) w₁.ambient.correlation)) w₁).2
          (exec (perform env h ctx payload) w).2 := by
  obtain ⟨w₀, w', hw₀, hw', hperform⟩ := exec_perform_of_attempt env h ctx payload w
  rw [hperform]
  have hstart : R w w₀ := law.quiet hw₀
  have hend : R (exec (attempt env h ctx payload) w₀).2 w' := law.quiet hw'
  rcases attempt_course env ctx payload w₀ with ⟨f, -, hattempt⟩ | ⟨action, haction, hcourse⟩
  · rw [hattempt] at hend
    exact .inl (law.trans hstart hend)
  · cases hcourse with
    | failed f w₁ _ hledger hattempt =>
      rw [hattempt] at hend
      exact .inl (law.trans hstart (law.trans (law.quiet hledger) hend))
    | mailed report w₁ hledger hattempt =>
      rw [hattempt] at hend
      exact .inl (law.trans hstart (law.trans (law.mailed hledger) hend))
    | wrote row key value tick w₁ _ _ hrow hledger hattempt =>
      rw [hattempt] at hend
      exact .inl (law.trans hstart (law.trans (law.wrote row key value _ hrow hledger) hend))
    | moved target row stage tick w₁ htarget _ hrow hstage hledger hattempt =>
      rw [hattempt] at hend
      have hmoved : R w w₁ :=
        law.trans hstart (law.moved target row stage _ hrow hstage hledger)
      by_cases hdepth : env.maxDepth < ctx.depth + 1
      · obtain ⟨w₂, hblocks, hsched⟩ :=
          scheduleCascade_refused env (moveTo w₀.store row stage) hdepth w₁
        rw [hsched] at hend
        exact .inl (law.trans hmoved (law.trans (law.refused hblocks) hend))
      · obtain ⟨w₂, hhanded, hsched⟩ :=
          scheduleCascade_handed h (moveTo w₀.store row stage) (Int.not_lt.mp hdepth) w₁
        rw [hsched] at hend
        rw [htarget] at haction
        exact .inr ⟨target, _, w₁, haction, Int.not_lt.mp hdepth, hmoved,
          law.trans (law.quiet hhanded) hend⟩

/-- A law that whoever takes requests over keeps to is kept to by every action. -/
theorem Keeps.perform (law : ActionLaw R) (hover : ∀ request, Keeps R (h request))
    (ctx : ActionContext) (payload : Json) : Keeps R (Engine.perform env h ctx payload) := by
  intro w
  rcases perform_law (h := h) law payload w with hdone | ⟨_, _, w₁, _, _, hbefore, hafter⟩
  · exact hdone
  · exact law.trans (law.trans hbefore (hover _ w₁)) hafter

/-- Actions carried out one after the other, from one world to another, with their records. -/
inductive Performed (env : Environment) (h : HandOver) (ctx : ActionContext) :
    World → List Json → List ActionRecord → World → Prop where
  | nil (w : World) : Performed env h ctx w [] [] w
  | cons {w w₁ w₂ : World} {payload : Json} {record : ActionRecord} {payloads : List Json}
    {records : List ActionRecord} (hexec : exec (perform env h ctx payload) w = (.ok record, w₁))
    (hrest : Performed env h ctx w₁ payloads records w₂) :
    Performed env h ctx w (payload :: payloads) (record :: records) w₂

namespace Performed

variable {w w' : World} {payloads : List Json} {records : List ActionRecord}

theorem records_eq (hperformed : Performed env h ctx w payloads records w') :
    List.Forall₂ (fun payload record => ∃ result, record = recordOf payload result)
      payloads records := by
  induction hperformed with
  | nil => exact .nil
  | cons hexec _ ih => exact .cons (perform_eq_ok hexec) ih

theorem snoc {w₁ : World} {payload : Json} {record : ActionRecord}
    (hperformed : Performed env h ctx w payloads records w₁)
    (hexec : exec (perform env h ctx payload) w₁ = (.ok record, w')) :
    Performed env h ctx w (payloads ++ [payload]) (records ++ [record]) w' := by
  induction hperformed with
  | nil => exact .cons hexec (.nil w')
  | cons hfirst _ ih => exact .cons hfirst (ih hexec)

end Performed

/-- The actions come to an end if all of them succeed, or one fails after others that have
succeeded; those after it are not attempted. -/
theorem performAll_eq_ok :
    ∀ {payloads : List Json} {w w' : World} {records : List ActionRecord},
      exec (performAll env h ctx payloads) w = (.ok records, w') →
      (Performed env h ctx w payloads records w' ∧ ∀ r ∈ records, r.error? = none) ∨
      ∃ done payload rest succeeded failed message w₁, payloads = done ++ payload :: rest ∧
        records = succeeded ++ [failed] ∧ Performed env h ctx w done succeeded w₁ ∧
        (∀ r ∈ succeeded, r.error? = none) ∧
        exec (perform env h ctx payload) w₁ = (.ok failed, w') ∧ failed.error? = some message
  | [], w, w', records, hexec => by
    cases hexec
    exact .inl ⟨.nil w, by simp⟩
  | payload :: payloads, w, w', records, hexec => by
    unfold performAll at hexec
    obtain ⟨record, w₁, hperform, hrest⟩ := exec_bind_eq_ok.mp hexec
    cases herror : record.error? with
    | some message =>
      rw [herror] at hrest
      cases hrest
      exact .inr ⟨[], payload, payloads, [], record, message, w, rfl, rfl, .nil w, by simp,
        hperform, herror⟩
    | none =>
      rw [herror] at hrest
      obtain ⟨records', w₂, hall, hdone⟩ := exec_bind_eq_ok.mp hrest
      cases hdone
      rcases performAll_eq_ok hall with ⟨hperformed, hsucceeded⟩ |
        ⟨done, last, rest, succeeded, failed, message, w₃, hsplit, hrecords, hperformed,
          hsucceeded, hlast, hfailed⟩
      · refine .inl ⟨.cons hperform hperformed, ?_⟩
        exact List.forall_mem_cons.mpr ⟨herror, hsucceeded⟩
      · refine .inr ⟨payload :: done, last, rest, record :: succeeded, failed, message, w₃, ?_, ?_,
          .cons hperform hperformed, List.forall_mem_cons.mpr ⟨herror, hsucceeded⟩, hlast, hfailed⟩
        · rw [hsplit]; rfl
        · rw [hrecords]; rfl

theorem Keeps.performAll (law : Law R)
    (hperform : ∀ payload, Keeps R (Engine.perform env h ctx payload)) :
    ∀ payloads, Keeps R (Engine.performAll env h ctx payloads)
  | [] => Keeps.pure law []
  | payload :: payloads => by
    unfold Engine.performAll
    refine Keeps.bind law (hperform payload) fun record => ?_
    cases record.error? with
    | some message => exact Keeps.pure law _
    | none =>
      exact Keeps.bind law (Keeps.performAll law hperform payloads) fun _ => Keeps.pure law _

end Engine
end BoardRules
