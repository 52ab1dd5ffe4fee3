import Mathlib
import Nftmart.Lib.Effect
import Nftmart.Model.Currencies
import Nftmart.Model.OrmlNft
import Nftmart.Model.Types

/-!
# The runtime state and the pallets the NFT pallet calls

The storage of every pallet the NFT pallet reads or writes, side by side in one record, and
the parts of those pallets it calls:

* `frame_system`: the current block number; origins (`ensure_signed`, `ensure_root`).
* `orml_currencies`: `MultiCurrency` dispatches the native currency id to `pallet_balances`
  (through `BasicCurrencyAdapter`, whose `transfer` allows the sender to die) and every other id
  to `orml_tokens`.
* `pallet_proxy`: `add_proxy_delegate` and `deposit`, which `create_class` uses to make the
  creator a proxy of the class account.
* `nftmart_config`: the account whitelist and its two root calls.

Each pallet's functions run on its own part of the state and are lifted with `Effect.zoom`, so
that what a call cannot touch is visible in its type.
-/

namespace Nftmart

open Effect

/-- `pallet_proxy::ProxyType` of the runtime; its default is `Any`. -/
inductive ProxyType
  | any
  | nonTransfer
  | governance
  | staking
  deriving DecidableEq, Repr

instance : Inhabited ProxyType := ⟨.any⟩

/-- `pallet_proxy::ProxyDefinition`. -/
structure ProxyDefinition (AccountId : Type) where
  delegate : AccountId
  proxyType : ProxyType
  delay : BlockNumber
  deriving DecidableEq, Repr

/-- The storage of the runtime, one field for each pallet the NFT pallet reaches. -/
structure State (AccountId : Type) where
  /-- `frame_system::Number`. -/
  blockNumber : BlockNumber
  /-- `pallet_balances`' records, in `frame_system::Account`. -/
  balances : Balances.Store AccountId
  /-- `orml_tokens::Accounts`. -/
  tokens : Tokens.Store AccountId
  /-- `pallet_proxy::Proxies`: the proxies of an account and the deposit they hold. -/
  proxies : AccountId → List (ProxyDefinition AccountId) × Balance
  /-- `nftmart_config::AccountWhitelist`; `true` when the key is present. -/
  accountWhitelist : AccountId → Bool
  /-- The storage of `orml_nft`. -/
  nft : OrmlNft.Store AccountId ClassData TokenData
  /-- The storage of `nftmart_nft`. -/
  pallet : PalletStore AccountId

/-- Code running against the runtime state. -/
abbrev RuntimeM (AccountId : Type) := EStateM DispatchError (State AccountId)

variable {AccountId : Type} [DecidableEq AccountId]

/-- The origin of a call. -/
inductive Origin (AccountId : Type)
  | signed (who : AccountId)
  | root
  | none
  deriving DecidableEq, Repr

/-- `ensure_signed`. -/
def ensureSigned : Origin AccountId → RuntimeM AccountId AccountId
  | .signed who => pure who
  | _ => throw .badOrigin

/-- `ensure_root`. -/
def ensureRoot : Origin AccountId → RuntimeM AccountId Unit
  | .root => pure ()
  | _ => throw .badOrigin

/-! ## Lifting the pallets' own code -/

/-- Run `pallet_balances` code on the runtime state. -/
def liftBalances {α : Type} (m : Balances.BalancesM AccountId α) : RuntimeM AccountId α :=
  zoom (·.balances) (fun t s => { s with balances := t }) m

/-- Run `orml_tokens` code on the runtime state. -/
def liftTokens {α : Type} (m : Tokens.TokensM AccountId α) : RuntimeM AccountId α :=
  zoom (·.tokens) (fun t s => { s with tokens := t }) m

/-- Run `orml_nft` code on the runtime state. -/
def liftNft {α : Type} (m : OrmlNft.NftM AccountId ClassData TokenData α) :
    RuntimeM AccountId α :=
  zoom (·.nft) (fun t s => { s with nft := t }) m

/-- Apply a change to the storage of `nftmart_nft`. -/
def modifyPallet (f : PalletStore AccountId → PalletStore AccountId) : RuntimeM AccountId Unit :=
  modify fun s => { s with pallet := f s.pallet }

variable (cfg : Config AccountId)

/-! ## `orml_currencies` -/

namespace MultiCurrency

/-- `MultiCurrency::transfer`: a no-op for a zero amount or a transfer to oneself; the native
currency goes through `BasicCurrencyAdapter::transfer`, with `AllowDeath`. -/
def transfer (currencyId : CurrencyId) (src dst : AccountId) (amount : Balance) :
    RuntimeM AccountId Unit := do
  if amount = 0 ∨ src = dst then return ()
  if currencyId = cfg.nativeCurrencyId then
    liftBalances (Balances.transfer cfg.existentialDeposit src dst amount .allowDeath)
  else
    liftTokens (Tokens.transfer currencyId src dst amount)

/-- `MultiReservableCurrency::reserve`. -/
def reserve (currencyId : CurrencyId) (who : AccountId) (value : Balance) :
    RuntimeM AccountId Unit :=
  if currencyId = cfg.nativeCurrencyId then
    liftBalances (Balances.reserve cfg.existentialDeposit who value)
  else
    liftTokens (Tokens.reserve currencyId who value)

/-- `MultiReservableCurrency::unreserve`. -/
def unreserve (currencyId : CurrencyId) (who : AccountId) (value : Balance) :
    RuntimeM AccountId Balance :=
  if currencyId = cfg.nativeCurrencyId then
    liftBalances (Balances.unreserve cfg.existentialDeposit who value)
  else
    liftTokens (Tokens.unreserve currencyId who value)

end MultiCurrency

/-! ## `pallet_proxy` -/

namespace Proxy

/-- `deposit(num_proxies)`: nothing for no proxy, else the base plus a factor per proxy. -/
def deposit (numProxies : UWord 32) : Balance :=
  if numProxies = 0 then 0
  else cfg.proxyDepositBase + cfg.proxyDepositFactor * UWord.cast numProxies

/-- `add_proxy_delegate`: register `delegatee` as a proxy of `delegator` and bring the
delegator's proxy deposit to `deposit` of the new count. The source inserts the definition at
its sorted position; only membership and the count are ever read, so the model puts it in
front. -/
def addProxyDelegate (delegator delegatee : AccountId) (proxyType : ProxyType)
    (delay : BlockNumber) : RuntimeM AccountId Unit := do
  ensure (decide (delegator ≠ delegatee)) (.proxy .noSelfProxy)
  -- `Proxies::try_mutate`
  let (proxies, oldDeposit) := (← get).proxies delegator
  ensure (decide (proxies.length < cfg.maxProxies)) (.proxy .tooMany)
  let proxyDef : ProxyDefinition AccountId := { delegate := delegatee, proxyType, delay }
  ensure (decide (proxyDef ∉ proxies)) (.proxy .duplicate)
  let proxies := proxyDef :: proxies
  let newDeposit := deposit cfg (UWord.ofNat proxies.length)
  if oldDeposit < newDeposit then
    liftBalances (Balances.reserve cfg.existentialDeposit delegator (newDeposit - oldDeposit))
  else if newDeposit < oldDeposit then
    attempt (liftBalances (Balances.unreserve cfg.existentialDeposit delegator
      (oldDeposit - newDeposit)))
  modify fun s => { s with proxies := Function.update s.proxies delegator (proxies, newDeposit) }

end Proxy

/-! ## `nftmart_config` -/

namespace Whitelist

/-- `add_whitelist`, a root call. -/
def addWhitelist (origin : Origin AccountId) (who : AccountId) : RuntimeM AccountId Unit :=
  transactional do
    ensureRoot origin
    modify fun s => { s with accountWhitelist := Function.update s.accountWhitelist who true }

/-- `remove_whitelist`, a root call. -/
def removeWhitelist (origin : Origin AccountId) (who : AccountId) : RuntimeM AccountId Unit :=
  transactional do
    ensureRoot origin
    modify fun s => { s with accountWhitelist := Function.update s.accountWhitelist who false }

end Whitelist

end Nftmart
