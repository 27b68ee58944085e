import BoardRules.Json.Basic

/-!
The ambient context: the correlation id that ties together all that follows from one request, and
the depth of the cascade that is running. A change is undone through what it replaced.
-/
namespace BoardRules

/-- The ambient context. An unset correlation id is null, an unset depth is none. -/
structure Ambient where
  correlation : Json := .null
  depth : Option Int := none
deriving DecidableEq

namespace Ambient

def depthOrZero (a : Ambient) : Int := a.depth.getD 0

def correlationShown (a : Ambient) : Json := a.correlation.orElse (.str "")

inductive Replaced where
  | correlation (old : Json)
  | depth (old : Option Int)
deriving DecidableEq

def restore (a : Ambient) : Replaced → Ambient
  | .correlation old => { a with correlation := old }
  | .depth old => { a with depth := old }

/-- A change of the context, or the undoing of the last one that still stands. -/
inductive Step where
  | setCorrelation (value : Json)
  | setDepth (value : Option Int)
  | undo

/-- The contexts after each of a list of steps, with the changes that still stand. -/
def trail (a : Ambient) (standing : List Replaced) : List Step → List Ambient
  | [] => []
  | .setCorrelation v :: steps =>
    let b := { a with correlation := v }
    b :: trail b (.correlation a.correlation :: standing) steps
  | .setDepth v :: steps =>
    let b := { a with depth := v }
    b :: trail b (.depth a.depth :: standing) steps
  | .undo :: steps =>
    match standing with
    | [] => a :: trail a [] steps
    | r :: rs => a.restore r :: trail (a.restore r) rs steps

end Ambient
end BoardRules
