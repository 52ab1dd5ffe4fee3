import Mathlib
import Nftmart.Lib.Effect
import Nftmart.Lib.Machine
import Nftmart.Spec.Money
import Nftmart.Spec.Currencies
import Nftmart.Spec.Ledger
import Nftmart.Invariant.Issuance
import Nftmart.Invariant.Locks
import Nftmart.Invariant.Money

/-!
# `orml_tokens`: the calls as their callers see them

`Invariant.Issuance` and `Invariant.Locks` say what every call keeps; this module says what the
calls do for the code that makes them. A call that fails has written nothing, so a caller may
propagate its error with `?` and leave storage as it found it. `set_lock` and `extend_lock`
touch only the lock with their id. A lock holds the free balance back only on an account that
holds something: `mutate_account` removes a record whose total is zero, frozen amount included,
so a lock set on an empty account is stored in `Locks` but freezes nothing, and what is deposited
afterwards can be withdrawn in full. In a ledger whose issuance is right, a transfer fails only on
the sender's withdrawal check, never on the receiver's `checked_add`, and withdrawing a deposit
restores the ledger exactly.

## Main results

* `run_error_eq` — a failed call leaves the ledger unchanged.
* `setLock_locks`, `extendLock_locks` — the locks with other ids are kept, and one lock has the
  id, with the new amount or the larger of the two.
* `setLock_enforced` — on an account that holds something, a lock holds back its amount.
* `setLock_of_empty` — on an account that holds nothing, it holds back nothing.
* `transfer_succeeds` — the receiver's overflow check never fires.
* `withdraw_deposit` — withdrawing what was just deposited restores the ledger.
* `runActions_issued` — the marketplace, which moves token balances but never mints or burns
  them, keeps `TotalIssuance` right.
-/

namespace Nftmart.Tokens

open Effect

variable {AccountId : Type} [DecidableEq AccountId]

/-! ## Failed calls -/

/-- Every call checks before it writes: one that fails leaves the ledger as it found it. -/
theorem run_error_eq (op : Op AccountId) {l l' : Ledger AccountId} {e : LedgerError}
    (h : op.run.run l = .error e l') : l' = l := by
  cases op with
  | transfer currencyId src dst amount =>
    obtain ⟨e₀, t, ht, -, rfl⟩ := run_onAccounts_eq_error.1 h
    rw [transfer_error ht]
  | deposit currencyId who amount => exact (deposit_error h).1
  | withdraw currencyId who amount => exact (withdraw_error h).1
  | slash currencyId who amount =>
    exact absurd h (((slash_noFail amount).bind fun _ => .pure ()).ne_error _ _ _)
  | slashReserved currencyId who value =>
    exact absurd h (((slashReserved_noFail value).bind fun _ => .pure ()).ne_error _ _ _)
  | reserve currencyId who value =>
    obtain ⟨e₀, t, ht, -, rfl⟩ := run_onAccounts_eq_error.1 h
    rw [reserve_error ht]
  | unreserve currencyId who value =>
    exact absurd h (((noFail_onAccounts (unreserve_noFail currencyId who value)).bind
      fun _ => .pure ()).ne_error _ _ _)
  | repatriateReserved currencyId slashed beneficiary value status =>
    exact absurd h (((repatriateReserved_noFail slashed beneficiary value status).bind
      fun _ => .pure ()).ne_error _ _ _)
  | updateBalance currencyId who byAmount => exact (updateBalance_error h).1
  | setLock lockId currencyId who amount =>
    exact absurd h ((putLock_noFail _ lockId amount).ne_error _ _ _)
  | extendLock lockId currencyId who amount =>
    exact absurd h ((putLock_noFail _ lockId amount).ne_error _ _ _)
  | removeLock lockId currencyId who =>
    change (removeLock lockId currencyId who).run l = _ at h
    rw [removeLock_run, run_updateLocks] at h
    cases h

/-- Withdrawing more than the free balance fails, and the ledger is kept. -/
theorem run_error_eq_overdraw :
    stateOf ((Op.withdraw 1 (0 : Fin 2) (UWord.ofNat 500)).run.run genesisLedger) =
      genesisLedger :=
  run_error_eq (.withdraw 1 0 (UWord.ofNat 500)) rfl

/-! ## Locks -/

section Locks

variable {l l' : Ledger AccountId} {lockId : LockIdentifier} {currencyId : CurrencyId}
  {who : AccountId} {amount : Balance}

/-- After `set_lock` or `extend_lock` with a nonzero amount, the locks with other ids are the old
ones, and exactly one lock has the id: the first old one merged with the new one, or the new one
when there was none. -/
theorem putLock_locks {merge : BalanceLock → BalanceLock → BalanceLock} (hamount : amount ≠ 0)
    {u : Unit} (h : (putLock merge lockId currencyId who amount).run l = .ok u l')
    (hmerge : ∀ lock, lock.id = lockId → (merge lock { id := lockId, amount }).id = lockId) :
    (l'.locks (who, currencyId)).filter (fun lock => lock.id ≠ lockId) =
        (l.locks (who, currencyId)).filter (fun lock => lock.id ≠ lockId) ∧
      (l'.locks (who, currencyId)).filter (fun lock => lock.id = lockId) =
        [(((l.locks (who, currencyId)).find? fun lock => lock.id = lockId).map
          fun lock => merge lock { id := lockId, amount }).getD { id := lockId, amount }] := by
  rcases putLock_ok h with ⟨hzero, -⟩ | ⟨-, hupdate⟩
  · exact absurd hzero hamount
  rw [run_updateLocks] at hupdate
  obtain ⟨-, rfl⟩ := EStateM.Result.ok.inj hupdate
  simp only [Function.update_self]
  exact @mergeLocks_filter merge lockId { id := lockId, amount } rfl hmerge _

/-- The record `set_lock` or `extend_lock` leaves: the old one freezing the largest of the new
locks, or none at all when it held nothing. -/
theorem putLock_record {merge : BalanceLock → BalanceLock → BalanceLock} (hamount : amount ≠ 0)
    {u : Unit} (h : (putLock merge lockId currencyId who amount).run l = .ok u l') :
    l'.accounts (who, currencyId) =
      if (l.accounts (who, currencyId)).total = 0 then default
      else { l.accounts (who, currencyId) with frozen := lockedAmount (l'.locks (who, currencyId)) } := by
  rcases putLock_ok h with ⟨hzero, -⟩ | ⟨-, hupdate⟩
  · exact absurd hzero hamount
  rw [run_updateLocks] at hupdate
  obtain ⟨-, rfl⟩ := EStateM.Result.ok.inj hupdate
  simp only [mutate_accounts, Function.update_self]
  -- the frozen amount is not part of the total
  rfl

/-- The lock `set_lock` adds is among the account's locks. -/
theorem mem_setLock {u : Unit} (hamount : amount ≠ 0)
    (h : (setLock lockId currencyId who amount).run l = .ok u l') :
    { id := lockId, amount } ∈ l'.locks (who, currencyId) := by
  have hone := (putLock_locks hamount h (by exact fun _ _ => rfl)).2
  have hmem : { id := lockId, amount } ∈
      (l'.locks (who, currencyId)).filter (fun lock => lock.id = lockId) := by
    rw [hone]
    cases (l.locks (who, currencyId)).find? fun lock => lock.id = lockId <;> simp
  exact List.mem_of_mem_filter hmem

/-- `set_lock` replaces the lock with its id by the new one and keeps the others. -/
theorem setLock_locks (hamount : amount ≠ 0) {u : Unit}
    (h : (setLock lockId currencyId who amount).run l = .ok u l') :
    (l'.locks (who, currencyId)).filter (fun lock => lock.id ≠ lockId) =
        (l.locks (who, currencyId)).filter (fun lock => lock.id ≠ lockId) ∧
      (l'.locks (who, currencyId)).filter (fun lock => lock.id = lockId) =
        [{ id := lockId, amount }] := by
  obtain ⟨hother, hone⟩ := putLock_locks hamount h (by exact fun _ _ => rfl)
  refine ⟨hother, hone.trans ?_⟩
  cases (l.locks (who, currencyId)).find? fun lock => lock.id = lockId <;> rfl

/-- `b"democrac"`, the id `pallet_democracy` locks with. -/
def democracyId : LockIdentifier := #v[100, 101, 109, 111, 99, 114, 97, 99]

/-- The first account's locks in currency `1`: a staking lock listed twice, around a democracy
lock. -/
def lockedLedger : Ledger (Fin 2) :=
  { genesisLedger with
    locks := Function.update genesisLedger.locks (0, 1)
      [{ id := stakingId, amount := UWord.ofNat 10 }, { id := democracyId, amount := UWord.ofNat 20 },
        { id := stakingId, amount := UWord.ofNat 5 }] }

/-- A staking lock of 30 set on those locks. -/
def restakedLedger : Ledger (Fin 2) :=
  stateOf ((setLock stakingId 1 0 (UWord.ofNat 30)).run lockedLedger)

/-- Of the three locks, only the democracy lock has another id; it stays, and both staking locks
give way to the new one. -/
theorem setLock_locks_lockedLedger :
    (lockedLedger.locks (0, 1)).filter (fun lock => lock.id ≠ stakingId) =
        [{ id := democracyId, amount := UWord.ofNat 20 }] ∧
      (restakedLedger.locks (0, 1)).filter (fun lock => lock.id ≠ stakingId) =
        (lockedLedger.locks (0, 1)).filter (fun lock => lock.id ≠ stakingId) ∧
      (restakedLedger.locks (0, 1)).filter (fun lock => lock.id = stakingId) =
        [{ id := stakingId, amount := UWord.ofNat 30 }] :=
  have hlock : (setLock stakingId 1 (0 : Fin 2) (UWord.ofNat 30)).run lockedLedger =
      .ok () restakedLedger :=
    rfl
  ⟨by decide, setLock_locks (by decide) hlock⟩

/-- `extend_lock` keeps the larger of the old amount of the lock with its id, zero when there was
none, and the new amount, and keeps the other locks. -/
theorem extendLock_locks (hamount : amount ≠ 0) {u : Unit}
    (h : (extendLock lockId currencyId who amount).run l = .ok u l') :
    (l'.locks (who, currencyId)).filter (fun lock => lock.id ≠ lockId) =
        (l.locks (who, currencyId)).filter (fun lock => lock.id ≠ lockId) ∧
      (l'.locks (who, currencyId)).filter (fun lock => lock.id = lockId) =
        [{ id := lockId, amount := (max ((((l.locks (who, currencyId)).find?
          fun lock => lock.id = lockId).map fun lock => lock.amount).getD 0) amount) }] := by
  obtain ⟨hother, hone⟩ := putLock_locks hamount h (by exact fun _ hid => hid)
  refine ⟨hother, hone.trans ?_⟩
  cases hfind : (l.locks (who, currencyId)).find? fun lock => lock.id = lockId with
  | none => simp
  | some lock =>
    have hid : lock.id = lockId := by simpa using List.find?_some hfind
    simp [hid]

/-- A staking lock of 30 on the first account, which holds 100 of currency `1`. -/
def stakedLedger : Ledger (Fin 2) :=
  stateOf ((setLock stakingId 1 0 (UWord.ofNat 30)).run genesisLedger)

/-- The staking lock extended to 50. -/
def extendedLedger : Ledger (Fin 2) :=
  stateOf ((extendLock stakingId 1 0 (UWord.ofNat 50)).run stakedLedger)

theorem extendLock_locks_stakingLock :
    (extendedLedger.locks (0, 1)).filter (fun lock => lock.id ≠ stakingId) =
        (stakedLedger.locks (0, 1)).filter (fun lock => lock.id ≠ stakingId) ∧
      (extendedLedger.locks (0, 1)).filter (fun lock => lock.id = stakingId) =
        [⟨stakingId, max ((((stakedLedger.locks (0, 1)).find?
          fun lock => lock.id = stakingId).map fun lock => lock.amount).getD 0)
          (UWord.ofNat 50)⟩] :=
  extendLock_locks (by decide) rfl

/-- On an account that holds something, a lock holds its amount back: a withdrawal after
`set_lock` that succeeds leaves at least the lock's amount free. -/
theorem setLock_enforced {l₁ l₂ : Ledger AccountId} {value : Balance}
    (hheld : (l.accounts (who, currencyId)).total ≠ 0) (hamount : amount ≠ 0)
    (hvalue : value ≠ 0) (hlock : (setLock lockId currencyId who amount).run l = .ok () l₁)
    (hwithdraw : (withdraw currencyId who value).run l₁ = .ok () l₂) :
    amount ≤ (l₂.accounts (who, currencyId)).free := by
  have hrecord := putLock_record hamount hlock
  rw [if_neg hheld] at hrecord
  -- `set_lock` froze at least the lock's amount
  have hfrozen : amount ≤ (l₁.accounts (who, currencyId)).frozen := by
    rw [hrecord]
    exact le_lockedAmount (mem_setLock hamount hlock)
  rcases withdraw_ok hwithdraw with ⟨hzero, -⟩ | ⟨-, -, hcovered, rfl⟩
  · exact absurd hzero hvalue
  rw [mutate_free]
  exact hfrozen.trans hcovered

/-- A withdrawal of 50 under the staking lock. -/
def withdrawnLedger : Ledger (Fin 2) :=
  stateOf ((withdraw 1 0 (UWord.ofNat 50)).run stakedLedger)

theorem setLock_enforced_stakingLock :
    UWord.ofNat 30 ≤ (withdrawnLedger.accounts (0, 1)).free :=
  have hlock : (setLock stakingId 1 (0 : Fin 2) (UWord.ofNat 30)).run genesisLedger =
      .ok () stakedLedger :=
    rfl
  have hwithdraw : (withdraw 1 (0 : Fin 2) (UWord.ofNat 50)).run stakedLedger =
      .ok () withdrawnLedger :=
    rfl
  setLock_enforced (by decide) (by decide) (by decide) hlock hwithdraw

/-- On an account that holds nothing, a lock is stored but freezes nothing: `update_locks`
writes the frozen amount through `mutate_account`, which drops a record whose total is zero, so
what is deposited after `set_lock` can be withdrawn in full while the lock is still listed. -/
theorem setLock_of_empty {l₁ l₂ : Ledger AccountId} {value : Balance}
    (hempty : (l.accounts (who, currencyId)).total = 0) (hamount : amount ≠ 0)
    (hlock : (setLock lockId currencyId who amount).run l = .ok () l₁)
    (hdeposit : (deposit currencyId who value).run l₁ = .ok () l₂) :
    { id := lockId, amount } ∈ l₂.locks (who, currencyId) ∧
      ∃ l₃, (withdraw currencyId who value).run l₂ = .ok () l₃ := by
  have hrecord := putLock_record hamount hlock
  rw [if_pos hempty] at hrecord
  have hmem := mem_setLock hamount hlock
  rcases deposit_ok hdeposit with ⟨rfl, rfl⟩ | ⟨hvalue, issuance, -, rfl⟩
  · exact ⟨hmem, _, by rw [withdraw, if_pos rfl]; rfl⟩
  -- the deposit wrote a fresh record, which freezes nothing
  refine ⟨hmem, _, run_withdraw hvalue ?_ ?_⟩
  · simp [mutate_accounts, hrecord]
  · simp only [mutate_accounts, hrecord, Function.update_self]
    split <;> exact Fin.zero_le _

/-- A staking lock of 30 on the first account in currency `2`, of which it holds none. -/
def emptyLockedLedger : Ledger (Fin 2) :=
  stateOf ((setLock stakingId 2 0 (UWord.ofNat 30)).run genesisLedger)

/-- A deposit of 40 under that lock. -/
def refilledLedger : Ledger (Fin 2) :=
  stateOf ((deposit 2 0 (UWord.ofNat 40)).run emptyLockedLedger)

theorem setLock_of_empty_stakingLock :
    { id := stakingId, amount := UWord.ofNat 30 } ∈ refilledLedger.locks (0, 2) ∧
      ∃ l₃, (withdraw 2 (0 : Fin 2) (UWord.ofNat 40)).run refilledLedger = .ok () l₃ :=
  have hlock : (setLock stakingId 2 (0 : Fin 2) (UWord.ofNat 30)).run genesisLedger =
      .ok () emptyLockedLedger :=
    rfl
  have hdeposit : (deposit 2 (0 : Fin 2) (UWord.ofNat 40)).run emptyLockedLedger =
      .ok () refilledLedger :=
    rfl
  setLock_of_empty (by decide) (by decide) hlock hdeposit

end Locks

/-! ## Calls in a ledger whose issuance is right -/

section Issued

variable [Fintype AccountId] {l : Ledger AccountId} {currencyId : CurrencyId}

/-- The receiver's `checked_add` in `transfer` never fails: both free balances are part of one
issuance, which fits in a `u128`. A transfer between two accounts succeeds as soon as the sender
passes its withdrawal check. -/
theorem transfer_succeeds {src dst : AccountId} {amount : Balance} (hl : Issued l)
    (hne : src ≠ dst) (hle : amount.val ≤ (l.accounts (src, currencyId)).free.val)
    (hfrozen : (l.accounts (src, currencyId)).frozen ≤
      (l.accounts (src, currencyId)).free - amount) :
    ∃ l', (Op.transfer currencyId src dst amount).run.run l = .ok () l' := by
  have hcheck : (ensureCanWithdraw currencyId src amount).run l.toStore = .ok () l.toStore :=
    run_ensureCanWithdraw_eq_ok.2 ⟨rfl, .inr ⟨hle, hfrozen⟩⟩
  have hbound : (l.accounts (dst, currencyId)).free.val + amount.val < 2 ^ 128 := by
    have hboth := holding_add_holding_le_supply l hne currencyId
    have hissuance := (l.totalIssuance currencyId).isLt
    rw [hl currencyId] at hboth
    simp only [AccountData.holding] at hboth
    omega
  obtain ⟨toBalance, hto⟩ : ∃ toBalance,
      (l.accounts (dst, currencyId)).free.checkedAdd amount = some toBalance :=
    ⟨⟨_, hbound⟩, UWord.checkedAdd_eq_some.2 ⟨hbound, rfl⟩⟩
  obtain ⟨t, ht⟩ : ∃ t, (transfer currencyId src dst amount).run l.toStore = .ok () t := by
    unfold transfer
    by_cases hmove : amount = 0 ∨ src = dst
    · rw [if_pos hmove]
      exact ⟨_, rfl⟩
    rw [if_neg hmove, EStateM.run_bind, hcheck]
    simp only [EStateM.run_bind, EStateM.run_get, hto]
    exact ⟨_, rfl⟩
  exact ⟨_, run_onAccounts_eq_ok.2 ⟨t, ht, rfl⟩⟩

theorem transfer_succeeds_genesisLedger :
    ∃ l', (Op.transfer 1 (0 : Fin 2) 1 (UWord.ofNat 60)).run.run genesisLedger = .ok () l' :=
  transfer_succeeds (build_issued build_genesisLedger) (by decide) (by decide) (by decide)

/-- Withdrawing what was just deposited restores the ledger exactly, in a ledger whose issuance is
right and whose empty records are removed, when the account's frozen amount was covered: the
deposit cannot have wrapped the free balance, and the withdrawal check passes on the balance the
deposit left. -/
theorem withdraw_deposit {l₁ : Ledger AccountId} {who : AccountId} {amount : Balance}
    (hl : Issued l) (hwf : LocksWf l)
    (hfrozen : (l.accounts (who, currencyId)).frozen ≤ (l.accounts (who, currencyId)).free)
    (hdeposit : (deposit currencyId who amount).run l = .ok () l₁) :
    (withdraw currencyId who amount).run l₁ = .ok () l := by
  rcases deposit_ok hdeposit with ⟨rfl, rfl⟩ | ⟨hamount, issuance, hissuance, hl₁⟩
  · rw [withdraw, if_pos rfl]
    rfl
  obtain ⟨hfits, hval⟩ := UWord.checkedAdd_eq_some.1 hissuance
  have hamount' : amount.val ≠ 0 := fun h => hamount (Fin.ext h)
  -- the deposit did not wrap: the free balance is part of the issuance
  have hbound : (l.accounts (who, currencyId)).free.val + amount.val < 2 ^ 128 := by
    have hheld := hl.holding_le who currencyId
    simp only [AccountData.holding] at hheld
    omega
  have hfree := UWord.val_add_of_lt hbound
  have hback : (l.accounts (who, currencyId)).free + amount - amount =
      (l.accounts (who, currencyId)).free := by
    apply Fin.ext
    rw [UWord.val_sub_of_le (by omega), hfree]
    omega
  -- the record the deposit left holds something, so `mutate_account` kept it
  have hrecord : l₁.accounts (who, currencyId) =
      { l.accounts (who, currencyId) with free := (l.accounts (who, currencyId)).free + amount } := by
    rw [hl₁]
    simp only [mutate_accounts, Function.update_self]
    refine if_neg fun hzero => hamount' ?_
    have hfree₀ := ((AccountData.total_eq_zero_iff _).1 hzero).1
    change ((l.accounts (who, currencyId)).free + amount).val = 0 at hfree₀
    omega
  rw [run_withdraw hamount (by rw [hrecord, hfree]; omega) (by rw [hrecord]; simpa [hback])]
  -- the record and the issuance are written back as they were
  congr 1
  ext key
  · by_cases hkey : key = (who, currencyId)
    · subst hkey
      simp only [mutate_accounts, Function.update_self, hrecord, hback]
      split
      · rename_i hzero
        exact (hwf.tidy _ hzero).symm
      · rfl
    · rw [mutate_accounts_of_ne _ _ _ _ hkey]
      change l₁.accounts key = _
      rw [hl₁]
      dsimp only
      exact mutate_accounts_of_ne _ _ _ _ hkey
  · have hti : l₁.totalIssuance = Function.update l.totalIssuance currencyId issuance := by
      rw [hl₁]
    simp only [mutate_totalIssuance, hti]
    by_cases hkey : key = currencyId
    · subst hkey
      simp only [Function.update_self]
      rw [UWord.val_sub_of_le (by omega), hval]
      omega
    · simp only [Function.update_of_ne hkey]
  · rw [mutate_locks, hl₁]
    rfl

/-- A deposit of 7 of currency `1` to the first account. -/
def depositedLedger : Ledger (Fin 2) :=
  stateOf ((deposit 1 0 (UWord.ofNat 7)).run genesisLedger)

theorem withdraw_deposit_genesisLedger :
    (withdraw 1 (0 : Fin 2) (UWord.ofNat 7)).run depositedLedger = .ok () genesisLedger :=
  withdraw_deposit (build_issued build_genesisLedger) (build_locksWf build_genesisLedger)
    (by decide) rfl

/-- The marketplace keeps `TotalIssuance` right: it moves the balances of `orml_tokens` only with
`reserve`, `unreserve` and `transfer`, which keep what the accounts hold of every currency, and
it never writes the issuance. Whatever calls it runs on the records of a ledger whose issuance is
right, the ledger with the records they leave is still right. -/
theorem runActions_issued (cfg : Config AccountId) {s : State AccountId}
    (hl : Issued l) (hs : s.tokens = l.toStore) (actions : List (Action AccountId)) :
    Issued { l with toStore := (runActions cfg s actions).tokens } := by
  have hkept : Tokens.SupplyKept s.tokens (runActions cfg s actions).tokens :=
    ((moneyRel_moneyKept cfg).runActions s actions).tokens
  rw [hs] at hkept
  exact hl.of_store hkept

/-- The two accounts' `orml_tokens` records are those of `genesisLedger`. -/
def ledgerGenesis : State (Fin 2) :=
  { moneyGenesis with tokens := genesisLedger.toStore }

/-- The trade moves 20 of currency `1` from the class account to the seller. -/
theorem runActions_issued_genesisLedger :
    ((runActions tradeConfig ledgerGenesis tradeRun).tokens.accounts (0, 1)).free.val = 120 ∧
      ((runActions tradeConfig ledgerGenesis tradeRun).tokens.accounts (1, 1)).free.val = 30 ∧
      Issued
        { genesisLedger with toStore := (runActions tradeConfig ledgerGenesis tradeRun).tokens } :=
  ⟨by decide, by decide, runActions_issued _ (build_issued build_genesisLedger) rfl _⟩

end Issued

end Nftmart.Tokens
