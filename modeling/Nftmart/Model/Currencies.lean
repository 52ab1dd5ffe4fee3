import Mathlib
import Nftmart.Lib.Effect
import Nftmart.Model.Primitives

/-!
# The currency back-ends: `pallet_balances` and `orml_tokens`

The NFT pallet moves money through two traits. `T::Currency` is `pallet_balances`, the native
currency; `T::MultiCurrency` is `orml_currencies`, which sends the native currency id to
`pallet_balances` (through `BasicCurrencyAdapter`) and every other id to `orml_tokens`. This
module models the three operations the pallet calls on each back-end, `reserve`, `unreserve`
and `transfer`, on the back-end's own storage.

`pallet_balances` keeps its records in `frame_system::Account`. After every change an account
whose total falls below the existential deposit is removed and what it held is dropped as
dust (`post_mutation`). `orml_tokens` removes an account whose total is zero; with the
runtime's `OnDust = ()`, dust below its existential deposit has no effect on storage.

What is left out: events, `TotalIssuance` (only dust removal changes it), and
`frame_system`'s provider counts, whose failure path (`ConsumerRemaining`) needs an account
that holds a positive total below the existential deposit, which `pallet_balances` never
leaves behind.
-/

namespace Nftmart

open Effect

/-! ## `pallet_balances` -/

namespace Balances

/-- The storage `pallet_balances` works on: the balance record of every account
(`frame_system::Account`, a value query) and its consumer count, which only
`is_provider_required` reads. -/
structure Store (AccountId : Type) where
  account : AccountId → AccountData
  consumers : AccountId → Nat

/-- Code running against `pallet_balances`' storage. -/
abbrev BalancesM (AccountId : Type) := EStateM DispatchError (Store AccountId)

variable {AccountId : Type} [DecidableEq AccountId]

/-- `post_mutation`: an account whose total is below the existential deposit is removed,
and its remaining balance is dust. -/
def postMutation (ed : Balance) (new : AccountData) : AccountData :=
  if new.total < ed then default else new

/-- Store the new record of `who` through `post_mutation`. -/
def writeAccount (ed : Balance) (who : AccountId) (new : AccountData) : BalancesM AccountId Unit :=
  modify fun s => { s with account := Function.update s.account who (postMutation ed new) }

/-- `try_mutate_account`: run `f` on the record of `who` and, when it succeeds, store the
record it returns. -/
def tryMutateAccount {α : Type} (ed : Balance) (who : AccountId)
    (f : AccountData → Except DispatchError (AccountData × α)) : BalancesM AccountId α := do
  let (account, result) ← Effect.ofExcept (f ((← get).account who))
  writeAccount ed who account
  pure result

/-- `ensure_can_withdraw` for the `TRANSFER` and `RESERVE` reasons: the new free balance of an
account must not fall below its stored `misc_frozen`. -/
def ensureCanWithdraw (stored : AccountData) (amount newBalance : Balance) :
    Except DispatchError Unit :=
  if amount = 0 then pure ()
  else if stored.frozen ≤ newBalance then pure ()
  else throw (.balances .liquidityRestrictions)

/-- `ReservableCurrency::reserve`: move `value` from the free to the reserved balance. -/
def reserve (ed : Balance) (who : AccountId) (value : Balance) : BalancesM AccountId Unit :=
  if value = 0 then pure () else
  tryMutateAccount ed who fun account => do
    let some free := account.free.checkedSub value | throw (.balances .insufficientBalance)
    let some reserved := account.reserved.checkedAdd value | throw (.balances .overflow)
    ensureCanWithdraw account value free
    pure ({ account with free, reserved }, ())

/-- `ReservableCurrency::unreserve`: move up to `value` from the reserved to the free
balance, and return the part of `value` that could not be moved. -/
def unreserve (ed : Balance) (who : AccountId) (value : Balance) : BalancesM AccountId Balance := do
  if value = 0 then return 0
  if ((← get).account who).total = 0 then return value
  let actual ← tryMutateAccount ed who fun account =>
    let actual := min account.reserved value
    pure ({ account with reserved := account.reserved - actual,
                         free := account.free.saturatingAdd actual }, actual)
  return value - actual

/-- The two nested closures of `Currency::transfer`, on the records of the sender and the
receiver: debit and credit, then the existence and lock checks. -/
def transferAccounts (ed : Balance) (providerRequired : Bool) (req : ExistenceRequirement)
    (value : Balance) (fromAccount toAccount : AccountData) :
    Except DispatchError (AccountData × AccountData) := do
  let some fromFree := fromAccount.free.checkedSub value
    | throw (.balances .insufficientBalance)
  let some toFree := toAccount.free.checkedAdd value | throw (.balances .overflow)
  let toAccount' := { toAccount with free := toFree }
  unless ed ≤ toAccount'.total do throw (.balances .existentialDeposit)
  -- `ensure_can_withdraw` reads the stored sender record; its lock is what `fromAccount` has
  ensureCanWithdraw fromAccount value fromFree
  let fromAccount' := { fromAccount with free := fromFree }
  let allowDeath := req == .allowDeath && !providerRequired
  unless allowDeath || ed ≤ fromAccount'.total do throw (.balances .keepAlive)
  pure (fromAccount', toAccount')

/-- `Currency::transfer`: the sender's record is written first (the inner mutation), then the
receiver's. A no-op for a zero value or a transfer to oneself. -/
def transfer (ed : Balance) (transactor dest : AccountId) (value : Balance)
    (req : ExistenceRequirement) : BalancesM AccountId Unit := do
  if value = 0 ∨ transactor = dest then return ()
  let s ← get
  let (fromAccount, toAccount) ← Effect.ofExcept <|
    transferAccounts ed (s.consumers transactor != 0) req value
      (s.account transactor) (s.account dest)
  writeAccount ed transactor fromAccount
  writeAccount ed dest toAccount

end Balances

/-! ## `orml_tokens` -/

namespace Tokens

/-- `orml_tokens::Accounts`: the balance record of every account in every currency. -/
structure Store (AccountId : Type) where
  accounts : AccountId × CurrencyId → AccountData

/-- Code running against `orml_tokens`' storage. -/
abbrev TokensM (AccountId : Type) := EStateM DispatchError (Store AccountId)

variable {AccountId : Type} [DecidableEq AccountId]

/-- `mutate_account`: apply `f` to the record of `who` in `currencyId`; a record whose total is
zero is removed. -/
def mutateAccount (who : AccountId) (currencyId : CurrencyId)
    (f : AccountData → AccountData) : TokensM AccountId Unit :=
  modify fun s =>
    let new := f (s.accounts (who, currencyId))
    { s with accounts := Function.update s.accounts (who, currencyId)
                           (if new.total = 0 then default else new) }

/-- `set_free_balance`. -/
def setFreeBalance (currencyId : CurrencyId) (who : AccountId) (amount : Balance) :
    TokensM AccountId Unit :=
  mutateAccount who currencyId fun account => { account with free := amount }

/-- `set_reserved_balance`. -/
def setReservedBalance (currencyId : CurrencyId) (who : AccountId) (amount : Balance) :
    TokensM AccountId Unit :=
  mutateAccount who currencyId fun account => { account with reserved := amount }

/-- `ensure_can_withdraw`: `amount` can leave the free balance without going below zero or
below the frozen amount. -/
def ensureCanWithdraw (currencyId : CurrencyId) (who : AccountId) (amount : Balance) :
    TokensM AccountId Unit := do
  if amount = 0 then return ()
  let account := (← get).accounts (who, currencyId)
  let some newBalance := account.free.checkedSub amount | throw (.tokens .balanceTooLow)
  ensure (decide (account.frozen ≤ newBalance)) (.tokens .liquidityRestrictions)

/-- `MultiReservableCurrency::reserve`. -/
def reserve (currencyId : CurrencyId) (who : AccountId) (value : Balance) :
    TokensM AccountId Unit := do
  if value = 0 then return ()
  ensureCanWithdraw currencyId who value
  let account := (← get).accounts (who, currencyId)
  setFreeBalance currencyId who (account.free - value)
  setReservedBalance currencyId who (account.reserved + value)

/-- `MultiReservableCurrency::unreserve`: returns the part of `value` that could not be
moved. -/
def unreserve (currencyId : CurrencyId) (who : AccountId) (value : Balance) :
    TokensM AccountId Balance := do
  if value = 0 then return value
  let account := (← get).accounts (who, currencyId)
  let actual := min account.reserved value
  setReservedBalance currencyId who (account.reserved - actual)
  setFreeBalance currencyId who (account.free + actual)
  return value - actual

/-- `MultiCurrency::transfer`: a no-op for a zero amount or a transfer to oneself. -/
def transfer (currencyId : CurrencyId) (src dst : AccountId) (amount : Balance) :
    TokensM AccountId Unit := do
  if amount = 0 ∨ src = dst then return ()
  ensureCanWithdraw currencyId src amount
  let fromBalance := ((← get).accounts (src, currencyId)).free
  let some toBalance := ((← get).accounts (dst, currencyId)).free.checkedAdd amount
    | throw (.tokens .balanceOverflow)
  setFreeBalance currencyId src (fromBalance - amount)
  setFreeBalance currencyId dst toBalance

end Tokens

end Nftmart
