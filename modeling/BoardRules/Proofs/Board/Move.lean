import BoardRules.Proofs.Action.Follow
import BoardRules.Proofs.Board.Automation
import BoardRules.Proofs.Cascade.Trace
import BoardRules.Proofs.Store.Sound

/-! Who moves a card makes no difference to the move. What a user's request commits and what an
automation's action commits is one change of the store, and the same run follows, deeper or not. The
engine looks at more than the board does: an action is carried out only if card and stage can be
read as a whole. -/
namespace BoardRules

open Engine

namespace Store

variable {s : Store} {row : CardRow} {target : StageRow}

end Store

namespace Engine

variable {env : Environment} {w : World} {move : CardMove}

end Engine

section

variable {env : Environment} {w : World} {row : CardRow} {target : StageRow}
  (hcard : w.store.card? row.id = some row) (htarget : w.store.stage? target.id = some target)

include hcard htarget

namespace Engine

variable {ctx : ActionContext} {payload : Json} {text : String}
  (hid : ctx.card.id? = some row.id) (haction : Action.ofJson payload = .ok (.moveCard text))
  (htext : Uuid.ofText? text = some target.id) (hstorage : ∀ n, env.storageFails n = false)

include hid haction htext hstorage

end Engine
end

end BoardRules
