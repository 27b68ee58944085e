import BoardRules.Text.Lowercase

/-!
Setting up tracing. There is one provider of traces, made when it is first needed; later set-ups add
exporters to it. The exporters that the environment asks for are attached once.
-/
namespace BoardRules

inductive Exporter where
  | otlp
  | console
  | memory
deriving Repr, DecidableEq

/-- A provider of traces: what it says about the service, and its exporters in order. -/
structure TraceProvider where
  service : String
  version : String
  exporters : List Exporter := []
deriving Repr, DecidableEq

structure Tracing where
  provider : Option TraceProvider := none
  configured : Bool := false
deriving Repr, DecidableEq

namespace Tracing

def valueOf? (env : List (String × String)) (name : String) : Option String :=
  (env.find? fun e => e.1 == name).map Prod.snd

def providerFor (t : Tracing) (env : List (String × String)) (service : String) : TraceProvider :=
  t.provider.getD
    { service := if service.isEmpty then "unknown_service" else service
      version := (valueOf? env "APP_VERSION").getD "0.1.0" }

def requestedExporters (env : List (String × String)) : List Exporter :=
  (match valueOf? env "OTEL_EXPORTER_OTLP_ENDPOINT" with
    | some url => if url.isEmpty then [] else [.otlp]
    | none => []) ++
  (if Text.lower ((valueOf? env "OTEL_CONSOLE_EXPORTER").getD "false") = "true" then [.console]
    else [])

inductive Setup where
  | environment (service : String) (enabled : Bool)
  | memory (service : String)
deriving Repr, DecidableEq

/-- Sets tracing up; whether there is a provider to show. -/
def setUp (t : Tracing) (env : List (String × String)) : Setup → Tracing × Option TraceProvider
  | .environment _ false => (t, none)
  | .environment service true =>
    let p := t.providerFor env service
    let p :=
      if t.configured then p
      else { p with exporters := p.exporters ++ requestedExporters env }
    ({ provider := some p, configured := true }, some p)
  | .memory service =>
    let p := t.providerFor env service
    let p := { p with exporters := p.exporters ++ [.memory] }
    ({ t with provider := some p }, some p)

def setUps (t : Tracing) (env : List (String × String)) : List Setup → List (Option TraceProvider)
  | [] => []
  | s :: ss =>
    let (t, p) := t.setUp env s
    p :: t.setUps env ss

/-- The correlation id that a request's span is given: that of the last header of this exact name,
if it is not empty. -/
def requestCorrelation? (headers : List (String × String)) : Option String :=
  match headers.reverse.find? fun h => h.1 == "x-correlation-id" with
  | some (_, value) => if value.isEmpty then none else some value
  | none => none

end Tracing
end BoardRules
