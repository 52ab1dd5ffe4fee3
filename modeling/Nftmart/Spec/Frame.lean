import Mathlib
import Nftmart.Lib.Effect
import Nftmart.Model.Runtime

/-!
# What the currency and proxy code cannot touch

The NFT pallet calls three pallets that hold money: `pallet_balances`, `orml_tokens` (both
through `orml_currencies`) and `pallet_proxy`. None of them can write the NFT store, the
pallet's own storage, the block number or the whitelist. `MoneyFrame s s'` says exactly that of
two states, and the lemmas below prove it of every run of every currency and proxy operation
the pallet calls, successful or not, with the rules of `Effect.Keeps`.

The invariants of the NFT store and of the orders (`Nftmart.Invariant.*`) read only the parts a
`MoneyFrame` keeps fixed, so these lemmas are all they need to know about money.

## Main results

* `liftBalances_keeps`, `liftTokens_keeps` — a lifted back-end call changes only its own store.
* `MultiCurrency.transfer_keeps`, `MultiCurrency.reserve_keeps`,
  `MultiCurrency.unreserve_keeps`, `Proxy.addProxyDelegate_keeps` — the same for the calls the
  pallet makes.
-/

namespace Nftmart

open Effect

variable {AccountId : Type}

/-- `s'` differs from `s` at most in the storage of the currency and proxy pallets. -/
structure MoneyFrame (s s' : State AccountId) : Prop where
  blockNumber : s'.blockNumber = s.blockNumber
  accountWhitelist : s'.accountWhitelist = s.accountWhitelist
  nft : s'.nft = s.nft
  pallet : s'.pallet = s.pallet

namespace MoneyFrame

theorem rfl' (s : State AccountId) : MoneyFrame s s := ⟨rfl, rfl, rfl, rfl⟩

theorem trans {s₁ s₂ s₃ : State AccountId} (h₁ : MoneyFrame s₁ s₂) (h₂ : MoneyFrame s₂ s₃) :
    MoneyFrame s₁ s₃ :=
  ⟨h₂.blockNumber.trans h₁.blockNumber, h₂.accountWhitelist.trans h₁.accountWhitelist,
    h₂.nft.trans h₁.nft, h₂.pallet.trans h₁.pallet⟩

instance : Std.Refl (@MoneyFrame AccountId) := ⟨rfl'⟩

instance : IsTrans (State AccountId) MoneyFrame := ⟨fun _ _ _ => trans⟩

end MoneyFrame

theorem liftBalances_keeps {α : Type} (m : Balances.BalancesM AccountId α) :
    Keeps MoneyFrame (liftBalances m) :=
  Keeps.zoom (fun _ _ => ⟨rfl, rfl, rfl, rfl⟩) m

theorem liftTokens_keeps {α : Type} (m : Tokens.TokensM AccountId α) :
    Keeps MoneyFrame (liftTokens m) :=
  Keeps.zoom (fun _ _ => ⟨rfl, rfl, rfl, rfl⟩) m

variable [DecidableEq AccountId] (cfg : Config AccountId)

namespace MultiCurrency

theorem transfer_keeps (currencyId : CurrencyId) (src dst : AccountId) (amount : Balance) :
    Keeps MoneyFrame (transfer cfg currencyId src dst amount) := by
  unfold transfer
  -- the early `return` for a zero amount or a transfer to oneself, then the two back-ends
  refine Keeps.ite (Keeps.pure _) (Keeps.ite ?_ ?_)
  · exact liftBalances_keeps _
  · exact liftTokens_keeps _

theorem reserve_keeps (currencyId : CurrencyId) (who : AccountId) (value : Balance) :
    Keeps MoneyFrame (reserve cfg currencyId who value) :=
  Keeps.ite (liftBalances_keeps _) (liftTokens_keeps _)

theorem unreserve_keeps (currencyId : CurrencyId) (who : AccountId) (value : Balance) :
    Keeps MoneyFrame (unreserve cfg currencyId who value) :=
  Keeps.ite (liftBalances_keeps _) (liftTokens_keeps _)

end MultiCurrency

namespace Proxy

theorem addProxyDelegate_keeps (delegator delegatee : AccountId) (proxyType : ProxyType)
    (delay : BlockNumber) :
    Keeps MoneyFrame (addProxyDelegate cfg delegator delegatee proxyType delay) := by
  unfold addProxyDelegate
  refine Keeps.bind (Keeps.ensure _ _) fun _ => Keeps.bind Keeps.get fun st => ?_
  -- the pair `(proxies, deposit)` read from `Proxies`
  obtain ⟨proxies, oldDeposit⟩ := st.proxies delegator
  refine Keeps.bind (Keeps.ensure _ _) fun _ => Keeps.bind (Keeps.ensure _ _) fun _ => ?_
  dsimp only
  -- the deposit is topped up, or the surplus released with its error dropped; then `Proxies`
  -- is written
  refine Keeps.ite (Keeps.bind (liftBalances_keeps _) fun _ => ?_)
    (Keeps.ite (Keeps.bind (Keeps.attempt (liftBalances_keeps _)) fun _ => ?_) ?_) <;>
  exact Keeps.modify fun _ => ⟨rfl, rfl, rfl, rfl⟩

end Proxy

end Nftmart
