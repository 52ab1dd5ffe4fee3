import Mathlib
import Nftmart.Model.Dispatch

/-!
# A bid that survives its bidder's receipt of the token

Whether an order is a bid or an offer is never stored. `submit_order` reserves the price of an
account that does not own the token; `take_order` and `delete_order` decide from the token's
owner at the time they run. Between the two, `transfer` may give the token to the bidder:
`do_transfer` checks only the sender's orders, so the bid stays. From then on it reads as an
offer to sell by the token's new owner:

* any account can take it, and the token leaves its owner, who never offered it;
* `delete_order` sees an order of the token's owner and releases only its deposit, so the
  price the bid reserved stays reserved, with no order left to release it.

`staleBid bidder` (`Nftmart.Model.Dispatch`) runs this from `genesis` with the runtime's
constants: account `1` creates class `0` and receives its token `(0, 0)`, `bidder` bids
`5 * 10^12` on it with a deposit of `10^12`, `1` gives the token to `bidder`, and account `3`
takes the bid. The theorems read the run's states; the bidder is account `2`, or the account
`1000` of class `0` itself.
-/

namespace Nftmart

/-- The bid of `2` is filed while `1` owns the token, is still there once `2` owns it, and
`take_order` by `3` then moves the token from `2` to `3`. -/
theorem staleBid_sold :
    ((runActions bidConfig bidGenesis ((staleBid 2).take 4)).nft.tokens (0, 0)).map
      (·.owner) = some 1 ∧
    ((runActions bidConfig bidGenesis ((staleBid 2).take 6)).nft.tokens (0, 0)).map
      (·.owner) = some 2 ∧
    ((runActions bidConfig bidGenesis ((staleBid 2).take 6)).pallet.orders ((0, 0), 2)).isSome ∧
    ((runActions bidConfig bidGenesis (staleBid 2)).nft.tokens (0, 0)).map (·.owner) = some 3 := by
  decide

/-- From a genesis with no orders and nothing reserved, `2` ends with no order on the token
and `5 * 10^12` reserved: the price its bid reserved. -/
theorem staleBid_escrow_stuck :
    OrderGenesis bidGenesis ∧ (bidGenesis.balances.account 2).reserved = 0 ∧
    (runActions bidConfig bidGenesis (staleBid 2)).pallet.orders ((0, 0), 2) = none ∧
    ((runActions bidConfig bidGenesis (staleBid 2)).balances.account 2).reserved =
      ⟨5 * 10 ^ 12, by decide⟩ := by
  refine ⟨fun _ => rfl, rfl, ?_, ?_⟩ <;> decide

/-- The order `3` takes holds a deposit of `10^12` and a price escrow of `5 * 10^12`; the call
removes it and releases the deposit only. -/
theorem staleBid_take_keeps_escrow :
    (runActions bidConfig bidGenesis ((staleBid 2).take 6)).pallet.orders ((0, 0), 2) =
      some { currencyId := 0, price := ⟨5 * 10 ^ 12, by decide⟩, deposit := ⟨10 ^ 12, by decide⟩,
             deadline := 100, categoryId := 0 } ∧
    ((runActions bidConfig bidGenesis ((staleBid 2).take 6)).balances.account 2).reserved =
      ⟨6 * 10 ^ 12, by decide⟩ ∧
    (runActions bidConfig bidGenesis (staleBid 2)).pallet.orders ((0, 0), 2) = none ∧
    ((runActions bidConfig bidGenesis (staleBid 2)).balances.account 2).reserved =
      ⟨5 * 10 ^ 12, by decide⟩ := by
  decide

/-- When the bidder is the account `1000` of class `0`, that account ends with no order, the
class deposit `2 * 10^12`, the proxy deposit `261 * 10^12` and the deposit `10^12` of the class's
one token, and `269 * 10^12` reserved: the bid's price on top. -/
theorem classAccount_bid_stuck :
    ((runActions bidConfig bidGenesis (staleBid 1000)).nft.classes 0).map (·.data.deposit) =
      some ⟨2 * 10 ^ 12, by decide⟩ ∧
    Proxy.deposit bidConfig 1 = ⟨261 * 10 ^ 12, by decide⟩ ∧
    ((runActions bidConfig bidGenesis (staleBid 1000)).nft.tokens (0, 0)).map
      (·.data.deposit) = some ⟨10 ^ 12, by decide⟩ ∧
    (runActions bidConfig bidGenesis (staleBid 1000)).pallet.orders ((0, 0), 1000) = none ∧
    ((runActions bidConfig bidGenesis (staleBid 1000)).balances.account 1000).reserved =
      ⟨269 * 10 ^ 12, by decide⟩ := by
  decide

end Nftmart
