import BoardRules.CascadePool
import BoardRules.Engine.Scheduling

/-!
What the pool of workers logs: a request that is refused because the pool takes no more, and a
runner that raises. All else passes without a line.
-/
namespace BoardRules.CascadePool

open Engine (cascadeLogger refusalFields failureFields poolClosed)

/-- The log line that an incident leaves, if it leaves one; `reason` says why a runner raises. -/
def Incident.line? (correlation : Json) (reason : String) : Incident CascadeRequest → Option LogLine
  | .refused r => some
      { level := .error, logger := cascadeLogger, message := "automation_cascade_enqueue_failed"
        correlation, fields := refusalFields r poolClosed, traced := true }
  | .raised _ r => some
      { level := .error, logger := cascadeLogger, message := "automation_cascade_failed"
        correlation, fields := failureFields r reason, traced := true }
  | .started .. | .accepted _ => none

end BoardRules.CascadePool
