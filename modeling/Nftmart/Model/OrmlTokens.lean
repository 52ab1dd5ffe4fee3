import Mathlib
import Nftmart.Lib.Effect
import Nftmart.Lib.Machine
import Nftmart.Model.Currencies

/-!
# `orml_tokens`: the whole ledger

`Nftmart.Model.Currencies` models the three functions the NFT pallet calls on `orml_tokens`
(`reserve`, `unreserve`, `transfer`), on the pallet's `Accounts` map alone. The pallet keeps two
more storage items, `TotalIssuance` and `Locks`, and offers the rest of the runtime the whole of
`MultiCurrency`, `MultiCurrencyExtended`, `MultiLockableCurrency` and `MultiReservableCurrency`
(`pallets/orml-tokens/src/lib.rs`). This module models that storage (`Ledger`), the rest of those
functions on it, with the three functions of `Nftmart.Model.Currencies` run on its `Accounts`
part (`onAccounts`), and the genesis build.

Functions that only mint or burn are the ones that touch `TotalIssuance`: `deposit`, `withdraw`,
`slash`, `slash_reserved`, and `update_balance` through the first two. Their arithmetic is
unchecked where the source says it "cannot underflow" or "cannot overflow"; `Nftmart.Invariant.
Issuance` proves that it indeed never wraps.

The locks functions rebuild an account's list of locks and store the largest lock amount as the
account's `frozen` amount (`update_locks`). `mutate_account` removes a record whose total is
zero, and with it that frozen amount, while `Locks` keeps its entry.

Left out: events, the provider and consumer counts of `frame_system` that `try_mutate_account`
and `update_locks` adjust, `OnDust` (the runtime's is `()`), `merge_account`, the
`CurrencyAdapter` and the imbalance types, and the dispatchables `transfer` and `transfer_all`,
which the runtime does not expose (`construct_runtime!` lists no `Call` for `Tokens`).
-/

namespace Nftmart.Tokens

open Effect

/-- `LockIdentifier = [u8; 8]`. -/
abbrev LockIdentifier : Type := Vector UInt8 8

/-- `BalanceLock`: `free` may not drop below `amount` while the lock is in place. -/
structure BalanceLock where
  id : LockIdentifier
  amount : Balance
  deriving DecidableEq, Repr

/-- `BalanceStatus`: where `repatriate_reserved` puts what it moves. -/
inductive BalanceStatus
  | free
  | reserved
  deriving DecidableEq, Repr

/-- `Amount = i128`: a signed amount, in `[-2^127, 2^127)`. -/
structure Amount where
  val : ℤ
  le_val : -2 ^ 127 ≤ val
  val_lt : val < 2 ^ 127
  deriving DecidableEq

/-- `TryInto<Balance>` of an `i128`: the value, when it is not negative. -/
def balanceOfInt (z : ℤ) : Option Balance :=
  if h : 0 ≤ z ∧ z < 2 ^ 128 then some ⟨z.toNat, by omega⟩ else none

/-- The storage of `orml_tokens`: `Accounts`, and `TotalIssuance` and `Locks`, both value
queries. -/
structure Ledger (AccountId : Type) extends Store AccountId where
  /-- `TotalIssuance`. -/
  totalIssuance : CurrencyId → Balance
  /-- `Locks`; an empty list is an absent entry. -/
  locks : AccountId × CurrencyId → List BalanceLock

/-- Empty storage, as the genesis build starts from. -/
def Ledger.empty (AccountId : Type) : Ledger AccountId where
  accounts := fun _ => default
  totalIssuance := fun _ => 0
  locks := fun _ => []

/-- The errors of `orml_tokens`: those its `ensure_can_withdraw` and `transfer` raise, which the
rest of the model knows as dispatch errors, and the two that only the functions of this module
raise. -/
inductive LedgerError
  | dispatch (e : DispatchError)
  | totalIssuanceOverflow
  | amountIntoBalanceFailed
  deriving DecidableEq, Repr

/-- Code running against the whole storage of `orml_tokens`. -/
abbrev LedgerM (AccountId : Type) := EStateM LedgerError (Ledger AccountId)

variable {AccountId : Type} [DecidableEq AccountId]

/-- Run code written against `Accounts` on the whole storage. -/
def onAccounts {α : Type} (m : TokensM AccountId α) : LedgerM AccountId α :=
  EStateM.adaptExcept LedgerError.dispatch
    (zoom (·.toStore) (fun t l => { l with toStore := t }) m)

/-- Write `TotalIssuance[currency_id]`. -/
def setTotalIssuance (currencyId : CurrencyId) (issuance : Balance) : LedgerM AccountId Unit :=
  modify fun l => { l with totalIssuance := Function.update l.totalIssuance currencyId issuance }

/-! ## Minting and burning -/

/-- `MultiCurrency::deposit`: mint `amount` into the free balance of `who`. The closure of
`TotalIssuance::try_mutate` checks the new issuance, then writes the balance with an unchecked
`+`; the issuance is written when the closure returns. -/
def deposit (currencyId : CurrencyId) (who : AccountId) (amount : Balance) :
    LedgerM AccountId Unit := do
  if amount = 0 then return ()
  let some issuance := ((← get).totalIssuance currencyId).checkedAdd amount
    | throw .totalIssuanceOverflow
  let free := ((← get).accounts (who, currencyId)).free
  onAccounts (setFreeBalance currencyId who (free + amount))
  setTotalIssuance currencyId issuance

/-- `MultiCurrency::withdraw`: burn `amount` of the free balance of `who`, which must be able
to pay it; the two subtractions are unchecked. -/
def withdraw (currencyId : CurrencyId) (who : AccountId) (amount : Balance) :
    LedgerM AccountId Unit := do
  if amount = 0 then return ()
  onAccounts (ensureCanWithdraw currencyId who amount)
  setTotalIssuance currencyId ((← get).totalIssuance currencyId - amount)
  let free := ((← get).accounts (who, currencyId)).free
  onAccounts (setFreeBalance currencyId who (free - amount))

/-- `MultiCurrency::can_slash`. -/
def canSlash (l : Ledger AccountId) (currencyId : CurrencyId) (who : AccountId)
    (value : Balance) : Bool :=
  value = 0 || decide (value ≤ (l.accounts (who, currencyId)).free)

/-- `MultiCurrency::slash`: burn up to `amount`, from the free balance first and then from the
reserved one, and return what could not be burnt. -/
def slash (currencyId : CurrencyId) (who : AccountId) (amount : Balance) :
    LedgerM AccountId Balance := do
  if amount = 0 then return amount
  let account := (← get).accounts (who, currencyId)
  let freeSlashedAmount := min account.free amount
  let mut remainingSlash := amount - freeSlashedAmount
  if freeSlashedAmount ≠ 0 then
    onAccounts (setFreeBalance currencyId who (account.free - freeSlashedAmount))
  if remainingSlash ≠ 0 then
    let reservedSlashedAmount := min account.reserved remainingSlash
    remainingSlash := remainingSlash - reservedSlashedAmount
    onAccounts (setReservedBalance currencyId who (account.reserved - reservedSlashedAmount))
  setTotalIssuance currencyId ((← get).totalIssuance currencyId - (amount - remainingSlash))
  return remainingSlash

/-- `MultiReservableCurrency::slash_reserved`: burn up to `value` of the reserved balance, and
return what could not be burnt. -/
def slashReserved (currencyId : CurrencyId) (who : AccountId) (value : Balance) :
    LedgerM AccountId Balance := do
  if value = 0 then return value
  let reservedBalance := ((← get).accounts (who, currencyId)).reserved
  let actual := min reservedBalance value
  onAccounts (setReservedBalance currencyId who (reservedBalance - actual))
  setTotalIssuance currencyId ((← get).totalIssuance currencyId - actual)
  return value - actual

/-- `MultiCurrencyExtended::update_balance`: deposit a positive amount, withdraw a negative one.
`i128::MIN` is taken as `i128::MAX`, since its absolute value does not fit. -/
def updateBalance (currencyId : CurrencyId) (who : AccountId) (byAmount : Amount) :
    LedgerM AccountId Unit := do
  if byAmount.val = 0 then return ()
  let byAmountAbs : ℤ := if byAmount.val = -2 ^ 127 then 2 ^ 127 - 1 else |byAmount.val|
  let some byBalance := balanceOfInt byAmountAbs | throw .amountIntoBalanceFailed
  if 0 < byAmount.val then deposit currencyId who byBalance
  else withdraw currencyId who byBalance

/-! ## Moving reserved balances -/

/-- `MultiReservableCurrency::repatriate_reserved`: move up to `value` of the reserved balance
of `slashed` to `beneficiary`, as free or reserved balance according to `status`, and return
what could not be moved. The beneficiary's balance is added to unchecked. -/
def repatriateReserved (currencyId : CurrencyId) (slashed beneficiary : AccountId)
    (value : Balance) (status : BalanceStatus) : LedgerM AccountId Balance := do
  if value = 0 then return value
  if slashed = beneficiary then
    match status with
    | .free => return ← onAccounts (unreserve currencyId slashed value)
    | .reserved =>
      return value.saturatingSub ((← get).accounts (slashed, currencyId)).reserved
  let fromAccount := (← get).accounts (slashed, currencyId)
  let toAccount := (← get).accounts (beneficiary, currencyId)
  let actual := min fromAccount.reserved value
  match status with
  | .free => onAccounts (setFreeBalance currencyId beneficiary (toAccount.free + actual))
  | .reserved =>
    onAccounts (setReservedBalance currencyId beneficiary (toAccount.reserved + actual))
  onAccounts (setReservedBalance currencyId slashed (fromAccount.reserved - actual))
  return value - actual

/-! ## Locks -/

/-- `update_locks`: the account's frozen amount becomes the largest amount of `locks`, and
`Locks` holds `locks`. -/
def updateLocks (currencyId : CurrencyId) (who : AccountId) (locks : List BalanceLock) :
    LedgerM AccountId Unit := do
  onAccounts (mutateAccount who currencyId fun account =>
    { account with frozen := locks.foldl (fun frozen lock => max frozen lock.amount) 0 })
  modify fun l => { l with locks := Function.update l.locks (who, currencyId) locks }

/-- The `filter_map` of `set_lock` and `extend_lock` over the account's locks, with the new lock
in an `Option` it `take`s from: the first lock with the id `lockId` is replaced by `merge` of it
and the new lock, the later ones with that id are dropped, and what is left of the new lock is
returned with the list. -/
def mergeLocks (merge : BalanceLock → BalanceLock → BalanceLock) (lockId : LockIdentifier) :
    Option BalanceLock → List BalanceLock → List BalanceLock × Option BalanceLock
  | newLock, [] => ([], newLock)
  | newLock, lock :: locks =>
    if lock.id = lockId then
      let (rest, left) := mergeLocks merge lockId none locks
      ((newLock.map (merge lock)).toList ++ rest, left)
    else
      let (rest, left) := mergeLocks merge lockId newLock locks
      (lock :: rest, left)

/-- The body `set_lock` and `extend_lock` share: a no-op for a zero amount; otherwise the lock
is merged into the account's locks, or pushed at the end when there was none with its id. -/
def putLock (merge : BalanceLock → BalanceLock → BalanceLock) (lockId : LockIdentifier)
    (currencyId : CurrencyId) (who : AccountId) (amount : Balance) : LedgerM AccountId Unit := do
  if amount = 0 then return ()
  let (locks, left) :=
    mergeLocks merge lockId (some { id := lockId, amount }) ((← get).locks (who, currencyId))
  updateLocks currencyId who (locks ++ left.toList)

/-- `MultiLockableCurrency::set_lock`: the lock with this id becomes the new one. -/
def setLock (lockId : LockIdentifier) (currencyId : CurrencyId) (who : AccountId)
    (amount : Balance) : LedgerM AccountId Unit :=
  putLock (fun _ newLock => newLock) lockId currencyId who amount

/-- `MultiLockableCurrency::extend_lock`: the lock with this id keeps the larger amount. -/
def extendLock (lockId : LockIdentifier) (currencyId : CurrencyId) (who : AccountId)
    (amount : Balance) : LedgerM AccountId Unit :=
  putLock (fun lock newLock => { id := lock.id, amount := max lock.amount newLock.amount })
    lockId currencyId who amount

/-- `MultiLockableCurrency::remove_lock`: `retain` the locks with another id. -/
def removeLock (lockId : LockIdentifier) (currencyId : CurrencyId) (who : AccountId) :
    LedgerM AccountId Unit := do
  let locks := ((← get).locks (who, currencyId)).filter fun lock => lock.id ≠ lockId
  updateLocks currencyId who locks

/-! ## Genesis -/

/-- The effect of `mutate_account` on the storage, which cannot fail. -/
def Ledger.setFree (l : Ledger AccountId) (currencyId : CurrencyId) (who : AccountId)
    (amount : Balance) : Ledger AccountId :=
  { l with toStore := stateOf ((setFreeBalance currencyId who amount).run l.toStore) }

/-- One endowed account of the genesis build: its balance must reach the currency's existential
deposit, becomes its free balance, and is added to the issuance, which must not overflow. -/
def endow (existentialDeposits : CurrencyId → Balance) (l : Ledger AccountId) :
    AccountId × CurrencyId × Balance → Option (Ledger AccountId)
  | (who, currencyId, initialBalance) => do
    guard (existentialDeposits currencyId ≤ initialBalance)
    let issuance ← (l.totalIssuance currencyId).checkedAdd initialBalance
    pure { l.setFree currencyId who initialBalance with
      totalIssuance := Function.update l.totalIssuance currencyId issuance }

/-- `GenesisConfig::build`: no account is endowed twice in one currency, then each is endowed in
turn. `none` when an `assert!` or an `expect` panics. -/
def GenesisConfig.build (existentialDeposits : CurrencyId → Balance)
    (endowedAccounts : List (AccountId × CurrencyId × Balance)) : Option (Ledger AccountId) := do
  guard ((endowedAccounts.map fun (who, currencyId, _) => (who, currencyId)).dedup.length =
    endowedAccounts.length)
  endowedAccounts.foldlM (endow existentialDeposits) (Ledger.empty AccountId)

/-! ## The ledger as a state machine -/

/-- A call into `orml_tokens`, with its arguments: the functions the rest of the runtime can call,
in any order. -/
inductive Op (AccountId : Type)
  | transfer (currencyId : CurrencyId) (src dst : AccountId) (amount : Balance)
  | deposit (currencyId : CurrencyId) (who : AccountId) (amount : Balance)
  | withdraw (currencyId : CurrencyId) (who : AccountId) (amount : Balance)
  | slash (currencyId : CurrencyId) (who : AccountId) (amount : Balance)
  | slashReserved (currencyId : CurrencyId) (who : AccountId) (value : Balance)
  | reserve (currencyId : CurrencyId) (who : AccountId) (value : Balance)
  | unreserve (currencyId : CurrencyId) (who : AccountId) (value : Balance)
  | repatriateReserved (currencyId : CurrencyId) (slashed beneficiary : AccountId)
      (value : Balance) (status : BalanceStatus)
  | updateBalance (currencyId : CurrencyId) (who : AccountId) (byAmount : Amount)
  | setLock (lockId : LockIdentifier) (currencyId : CurrencyId) (who : AccountId) (amount : Balance)
  | extendLock (lockId : LockIdentifier) (currencyId : CurrencyId) (who : AccountId)
      (amount : Balance)
  | removeLock (lockId : LockIdentifier) (currencyId : CurrencyId) (who : AccountId)

/-- Run a call; what it returns is dropped. -/
def Op.run : Op AccountId → LedgerM AccountId Unit
  | .transfer currencyId src dst amount => onAccounts (Tokens.transfer currencyId src dst amount)
  | .deposit currencyId who amount => Tokens.deposit currencyId who amount
  | .withdraw currencyId who amount => Tokens.withdraw currencyId who amount
  | .slash currencyId who amount => do let _ ← Tokens.slash currencyId who amount
  | .slashReserved currencyId who value => do let _ ← Tokens.slashReserved currencyId who value
  | .reserve currencyId who value => onAccounts (Tokens.reserve currencyId who value)
  | .unreserve currencyId who value =>
      do let _ ← onAccounts (Tokens.unreserve currencyId who value)
  | .repatriateReserved currencyId slashed beneficiary value status =>
      do let _ ← Tokens.repatriateReserved currencyId slashed beneficiary value status
  | .updateBalance currencyId who byAmount => Tokens.updateBalance currencyId who byAmount
  | .setLock lockId currencyId who amount => Tokens.setLock lockId currencyId who amount
  | .extendLock lockId currencyId who amount => Tokens.extendLock lockId currencyId who amount
  | .removeLock lockId currencyId who => Tokens.removeLock lockId currencyId who

/-- One step of the ledger: the state a call leaves, whether it succeeded or not. -/
def Ledger.step (l : Ledger AccountId) (op : Op AccountId) : Ledger AccountId :=
  stateOf (op.run.run l)

/-- The ledgers the chain can reach: one the genesis build produced, then any calls. -/
def Ledger.Reachable (existentialDeposits : CurrencyId → Balance) : Ledger AccountId → Prop :=
  Machine.Reachable
    (fun l => ∃ endowedAccounts, GenesisConfig.build existentialDeposits endowedAccounts = some l)
    Ledger.step

end Nftmart.Tokens
