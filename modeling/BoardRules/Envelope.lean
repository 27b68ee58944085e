import BoardRules.Ambient
import BoardRules.Depth

/-!
Event envelopes. Before an event is published its envelope is completed from the ambient context:
with the correlation id, unless it has one, and with the cascade depth in its `meta`.

An event of the board sets off automations: its name tells the trigger, its payload the card, the
pipe and what is known about the happening.
-/
namespace BoardRules

namespace Envelope

/-- The `meta` of an envelope with the cascade depth in it. -/
def completedMeta (a : Ambient) (noted : Json) : Entries :=
  let es := noted.entries
  match es.get? "cascade_depth" with
  | some _ => es
  | none => es.put "cascade_depth" (.int a.depthOrZero)

def complete (a : Ambient) (e : Entries) : Entries :=
  let e := if (e.getD "correlation_id").isNull then e.put "correlation_id" a.correlation else e
  e.put "meta" (.obj (completedMeta a (e.getD "meta")))

def eventName? (e : Entries) : Option String :=
  (e.getD "event_type").text?.filter (!·.isEmpty)

end Envelope

def triggerOfEvent? : String → Option String
  | "card.stage_changed" => some "card_enters_stage"
  | "card.field_changed" => some "card_field_value"
  | "form.submitted" => some "form_submission"
  | _ => none

def contextOfEvent (event : String) (payload : Entries) : Json :=
  match event with
  | "card.stage_changed" => .obj [("stageId", payload.getD "stage_id")]
  | "card.field_changed" =>
    .obj [("fieldKey", payload.getD "field_key"), ("fieldValue", payload.getD "field_value")]
  | _ => .obj [("formId", payload.getD "form_id")]

structure EventRun where
  trigger : String
  card : Json
  pipe : Json
  context : Json
  correlation : Json
  noted : Json

/-- The run that an event asks for: it has to be one of the board's, and to name a card and a
pipe. -/
def EventRun.of? (event : String) (payload : Json) : Option EventRun :=
  match payload with
  | .obj e => do
    let trigger ← triggerOfEvent? event
    let body := (Entries.getD e "payload").entries
    let card := body.getD "card_id"
    let pipe := body.getD "pipe_id"
    if card.isTruthy && pipe.isTruthy then
      let correlation := match Entries.getD e "correlation_id" with
        | .str s => Json.str s
        | _ => Json.null
      some ⟨trigger, card, pipe, contextOfEvent event body, correlation, Entries.getD e "meta"⟩
    else none
  | _ => none

end BoardRules
