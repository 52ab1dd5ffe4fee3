import Mathlib
import Nftmart.Lib.Effect
import Nftmart.Lib.Machine
import Nftmart.Spec.Money
import Nftmart.Spec.Ledger
import Nftmart.Invariant.Issuance

/-!
# Locks: each frozen amount is the largest lock, or nothing

`update_locks` stores an account's locks in `Locks` and the largest of their amounts as the
frozen amount of the account's record, which `ensure_can_withdraw` keeps the free balance above.
Every other function leaves `frozen` alone, but `mutate_account` removes a record whose free and
reserved balances are both zero, frozen amount included, while `Locks` keeps its entry. What
holds in every reachable ledger is therefore weaker than "the frozen amount is the largest lock":
each record's frozen amount is the largest of its locks, or zero, and a record that holds
nothing is the default record (`LocksWf`).

The functions that leave the locks alone are described by one frame relation, `LocksKept`: the
locks stay, and each record stays or is stored again with its frozen amount kept or cleared, as
the default record when it holds nothing. It is built up along each function, one rule per
write, and it keeps `LocksWf`.

## Main results

* `run_preserves` — a property the other calls keep through `LocksKept`, and the three lock
  functions keep, is kept by every call.
* `run_locksWf` — every call keeps `LocksWf`, whether it succeeds or fails.
* `build_locksWf`, `reachable_locksWf` — `LocksWf` holds in every reachable ledger.
* `reachable_lockIdsUnique` — no account ever holds two locks with one id.
-/

namespace Nftmart.Tokens

open Effect

variable {AccountId : Type}

/-! ## What a write that leaves `frozen` alone may do -/

/-- A record is kept, or stored again with its frozen amount kept or cleared, as the default
record when it holds nothing. -/
def RecordKept (account account' : AccountData) : Prop :=
  account' = account ∨ (account'.frozen = account.frozen ∨ account'.frozen = 0) ∧
    (account'.total = 0 → account' = default)

theorem RecordKept.trans {account₁ account₂ account₃ : AccountData}
    (h₁ : RecordKept account₁ account₂) (h₂ : RecordKept account₂ account₃) :
    RecordKept account₁ account₃ := by
  rcases h₂ with rfl | ⟨hfrozen₂, htidy₂⟩
  · exact h₁
  rcases h₁ with rfl | ⟨hfrozen₁, -⟩
  · exact .inr ⟨hfrozen₂, htidy₂⟩
  -- a frozen amount cleared once stays cleared or is kept at zero
  refine .inr ⟨?_, htidy₂⟩
  rcases hfrozen₂ with h | h
  · rcases hfrozen₁ with h' | h'
    · exact .inl (h.trans h')
    · exact .inr (h.trans h')
  · exact .inr h

/-- `mutate_account` with a closure that leaves `frozen` alone keeps the record it writes. -/
theorem recordKept_reset {f : AccountData → AccountData}
    (hf : ∀ account, (f account).frozen = account.frozen) (account : AccountData) :
    RecordKept account (if (f account).total = 0 then default else f account) := by
  right
  split
  · exact ⟨.inr rfl, fun _ => rfl⟩
  · rename_i htotal
    exact ⟨.inl (hf account), fun h => absurd h htotal⟩

/-- Every record of `t` is kept in `t'`. -/
def RecordsKept (t t' : Store AccountId) : Prop :=
  ∀ key, RecordKept (t.accounts key) (t'.accounts key)

instance : Std.Refl (@RecordsKept AccountId) := ⟨fun _ _ => .inl rfl⟩

instance : IsTrans (Store AccountId) RecordsKept :=
  ⟨fun _ _ _ h₁ h₂ key => (h₁ key).trans (h₂ key)⟩

/-- The locks stay, and every record is kept. -/
def LocksKept (l l' : Ledger AccountId) : Prop :=
  l'.locks = l.locks ∧ RecordsKept l.toStore l'.toStore

instance : Std.Refl (@LocksKept AccountId) := ⟨fun _ => ⟨rfl, refl_of RecordsKept _⟩⟩

instance : IsTrans (Ledger AccountId) LocksKept :=
  ⟨fun _ _ _ h₁ h₂ => ⟨h₂.1.trans h₁.1, trans_of RecordsKept h₁.2 h₂.2⟩⟩

/-! ## The invariant -/

/-- Each record's frozen amount is the largest of its locks, or zero, and a record that holds
nothing is the default one. -/
structure LocksWf (l : Ledger AccountId) : Prop where
  frozen : ∀ key, (l.accounts key).frozen = 0 ∨
    (l.accounts key).frozen = lockedAmount (l.locks key)
  tidy : ∀ key, (l.accounts key).total = 0 → l.accounts key = default

theorem LocksWf.of_locksKept {l l' : Ledger AccountId} (hl : LocksWf l) (h : LocksKept l l') :
    LocksWf l' := by
  obtain ⟨hlocks, hrecords⟩ := h
  refine ⟨fun key => ?_, fun key => ?_⟩
  · rw [hlocks]
    rcases hrecords key with hsame | ⟨hfrozen | hfrozen, -⟩
    · rw [hsame]
      exact hl.frozen key
    · rw [hfrozen]
      exact hl.frozen key
    · exact .inl hfrozen
  · rcases hrecords key with hsame | ⟨-, htidy⟩
    · rw [hsame]
      exact hl.tidy key
    · exact htidy

/-- A function that keeps the locks and every record keeps each property `LocksKept` keeps. -/
theorem preserves_of_locksKept {P : Ledger AccountId → Prop}
    (hP : ∀ l l', LocksKept l l' → P l → P l') {α : Type} {m : LedgerM AccountId α}
    (hm : Keeps LocksKept m) : Keeps (Preserves P) m :=
  fun l hl => hP l _ (hm l) hl

variable [DecidableEq AccountId]

/-! ## The writes on `Accounts` -/

theorem mutateAccount_recordsKept {who : AccountId} {currencyId : CurrencyId}
    {f : AccountData → AccountData} (hf : ∀ account, (f account).frozen = account.frozen) :
    Keeps RecordsKept (mutateAccount who currencyId f) := by
  refine Keeps.modify fun t key => ?_
  by_cases hkey : key = (who, currencyId)
  · subst hkey
    simpa using recordKept_reset hf (t.accounts (who, currencyId))
  · exact .inl (Function.update_of_ne hkey _ _)

theorem setFreeBalance_recordsKept (currencyId : CurrencyId) (who : AccountId) (amount : Balance) :
    Keeps RecordsKept (setFreeBalance currencyId who amount) :=
  mutateAccount_recordsKept fun _ => rfl

theorem setReservedBalance_recordsKept (currencyId : CurrencyId) (who : AccountId)
    (amount : Balance) : Keeps RecordsKept (setReservedBalance currencyId who amount) :=
  mutateAccount_recordsKept fun _ => rfl

section Accounts

variable (currencyId : CurrencyId)

theorem reserve_recordsKept (who : AccountId) (value : Balance) :
    Keeps RecordsKept (reserve currencyId who value) := by
  intro t
  cases h : (reserve currencyId who value).run t with
  | error e t' =>
    rw [stateOf_error, reserve_error h]
    exact refl_of RecordsKept _
  | ok u t' =>
    rw [stateOf_ok]
    rcases reserve_ok h with rfl | ⟨-, t₁, h₁, h₂⟩
    · exact refl_of RecordsKept _
    · exact trans_of RecordsKept ((setFreeBalance_recordsKept _ _ _).of_ok h₁)
        ((setReservedBalance_recordsKept _ _ _).of_ok h₂)

theorem unreserve_recordsKept (who : AccountId) (value : Balance) :
    Keeps RecordsKept (unreserve currencyId who value) := by
  intro t
  obtain ⟨r, t', h⟩ := unreserve_noFail currencyId who value t
  rw [h, stateOf_ok]
  rcases unreserve_ok h with rfl | ⟨t₁, h₁, h₂⟩
  · exact refl_of RecordsKept _
  · exact trans_of RecordsKept ((setReservedBalance_recordsKept _ _ _).of_ok h₁)
      ((setFreeBalance_recordsKept _ _ _).of_ok h₂)

theorem transfer_recordsKept (src dst : AccountId) (amount : Balance) :
    Keeps RecordsKept (transfer currencyId src dst amount) := by
  intro t
  cases h : (transfer currencyId src dst amount).run t with
  | error e t' =>
    rw [stateOf_error, transfer_error h]
    exact refl_of RecordsKept _
  | ok u t' =>
    rw [stateOf_ok]
    rcases transfer_ok h with rfl | ⟨-, -, toBalance, t₁, -, h₁, h₂⟩
    · exact refl_of RecordsKept _
    · exact trans_of RecordsKept ((setFreeBalance_recordsKept _ _ _).of_ok h₁)
        ((setFreeBalance_recordsKept _ _ _).of_ok h₂)

end Accounts

/-! ## The ledger functions that leave the locks alone -/

omit [DecidableEq AccountId] in
theorem onAccounts_locksKept {α : Type} {m : TokensM AccountId α} (hm : Keeps RecordsKept m) :
    Keeps LocksKept (onAccounts m) :=
  keeps_onAccounts hm fun _ _ ht => ⟨rfl, ht⟩

theorem mutate_locksKept (l : Ledger AccountId) (who : AccountId) (currencyId : CurrencyId)
    {f : AccountData → AccountData} (hf : ∀ account, (f account).frozen = account.frozen) :
    LocksKept l (l.mutate who currencyId f) :=
  ⟨rfl, (mutateAccount_recordsKept hf).of_ok rfl⟩

omit [DecidableEq AccountId] in
theorem setTotalIssuance_locksKept (l : Ledger AccountId) (issuance : CurrencyId → Balance) :
    LocksKept l { l with totalIssuance := issuance } :=
  ⟨rfl, refl_of RecordsKept _⟩

section Functions

variable (currencyId : CurrencyId) (who : AccountId)

theorem deposit_locksKept (amount : Balance) :
    Keeps LocksKept (deposit currencyId who amount) := by
  intro l
  cases h : (deposit currencyId who amount).run l with
  | error e l' =>
    rw [stateOf_error, (deposit_error h).1]
    exact refl_of LocksKept _
  | ok u l' =>
    rw [stateOf_ok]
    rcases deposit_ok h with ⟨-, rfl⟩ | ⟨-, issuance, -, rfl⟩
    · exact refl_of LocksKept _
    · exact trans_of LocksKept (mutate_locksKept l who currencyId (by exact fun _ => rfl))
        (setTotalIssuance_locksKept _ _)

theorem withdraw_locksKept (amount : Balance) :
    Keeps LocksKept (withdraw currencyId who amount) := by
  intro l
  cases h : (withdraw currencyId who amount).run l with
  | error e l' =>
    rw [stateOf_error, (withdraw_error h).1]
    exact refl_of LocksKept _
  | ok u l' =>
    rw [stateOf_ok]
    rcases withdraw_ok h with ⟨-, rfl⟩ | ⟨-, -, -, rfl⟩
    · exact refl_of LocksKept _
    · exact trans_of LocksKept (setTotalIssuance_locksKept _ _)
        (mutate_locksKept _ who currencyId (by exact fun _ => rfl))

/-- The writes `slash` and `slash_reserved` are made of, each keeping the locks and the records. -/
theorem setFreeBalance_locksKept (amount : Balance) :
    Keeps LocksKept (onAccounts (setFreeBalance currencyId who amount)) :=
  onAccounts_locksKept (setFreeBalance_recordsKept currencyId who amount)

theorem setReservedBalance_locksKept (amount : Balance) :
    Keeps LocksKept (onAccounts (setReservedBalance currencyId who amount)) :=
  onAccounts_locksKept (setReservedBalance_recordsKept currencyId who amount)

omit [DecidableEq AccountId] in
/-- The end of `slash` and `slash_reserved`: the issuance written, the rest returned. -/
theorem burnt_locksKept (issuance : Ledger AccountId → Balance) (rest : Balance) :
    Keeps LocksKept (do
      let l ← get
      setTotalIssuance currencyId (issuance l)
      pure rest : LedgerM AccountId Balance) :=
  Keeps.bind Keeps.get fun _ => Keeps.bind (Keeps.modify fun l =>
    setTotalIssuance_locksKept l _) fun _ => Keeps.pure rest

theorem slash_locksKept (amount : Balance) : Keeps LocksKept (slash currencyId who amount) := by
  unfold slash
  refine Keeps.ite (Keeps.pure _) (Keeps.bind Keeps.get fun _ => ?_)
  dsimp only
  -- whether the free balance is written, then whether the reserved one is
  split <;> split
  · exact (setFreeBalance_locksKept _ _ _).bind fun _ =>
      (setReservedBalance_locksKept _ _ _).bind fun _ => burnt_locksKept _ _ _
  · exact (setFreeBalance_locksKept _ _ _).bind fun _ => burnt_locksKept _ _ _
  · exact (setReservedBalance_locksKept _ _ _).bind fun _ => burnt_locksKept _ _ _
  · exact burnt_locksKept _ _ _

theorem slashReserved_locksKept (value : Balance) :
    Keeps LocksKept (slashReserved currencyId who value) := by
  unfold slashReserved
  exact Keeps.ite (Keeps.pure _) (Keeps.bind Keeps.get fun _ =>
    (setReservedBalance_locksKept _ _ _).bind fun _ => burnt_locksKept _ _ _)

theorem repatriateReserved_locksKept (beneficiary : AccountId) (value : Balance)
    (status : BalanceStatus) :
    Keeps LocksKept (repatriateReserved currencyId who beneficiary value status) := by
  intro l
  obtain ⟨r, l', h⟩ := repatriateReserved_noFail who beneficiary value status l
  rw [h, stateOf_ok]
  rcases repatriateReserved_ok h with ⟨rfl, -⟩ | ⟨-, ⟨-, hunreserve⟩ | ⟨-, rfl⟩⟩ |
      ⟨-, -, ⟨-, rfl⟩ | ⟨-, rfl⟩⟩
  · exact refl_of LocksKept _
  · exact (onAccounts_locksKept (unreserve_recordsKept currencyId who value)).of_ok hunreserve
  · exact refl_of LocksKept _
  all_goals
    exact trans_of LocksKept (mutate_locksKept l beneficiary currencyId (by exact fun _ => rfl))
      (mutate_locksKept _ who currencyId (by exact fun _ => rfl))

theorem updateBalance_locksKept (byAmount : Amount) :
    Keeps LocksKept (updateBalance currencyId who byAmount) := by
  intro l
  cases h : (updateBalance currencyId who byAmount).run l with
  | error e l' =>
    rw [stateOf_error, (updateBalance_error h).1]
    exact refl_of LocksKept _
  | ok u l' =>
    rw [stateOf_ok]
    rcases updateBalance_ok h with ⟨-, rfl⟩ | ⟨byBalance, -, ⟨-, hdeposit⟩ | ⟨-, hwithdraw⟩⟩
    · exact refl_of LocksKept _
    · exact (deposit_locksKept currencyId who byBalance).of_ok hdeposit
    · exact (withdraw_locksKept currencyId who byBalance).of_ok hwithdraw

/-! ## The locks functions -/

/-- `update_locks` freezes the largest of the locks it stores, unless the record holds nothing,
which `mutate_account` then removes. -/
theorem updateLocks_locksWf (locks : List BalanceLock) :
    Keeps (Preserves LocksWf) (updateLocks currencyId who locks) := by
  intro l hl
  rw [run_updateLocks, stateOf_ok]
  refine ⟨fun key => ?_, fun key => ?_⟩
  all_goals
    by_cases hkey : key = (who, currencyId)
    swap
    · simp only [mutate_accounts_of_ne l who currencyId _ hkey,
        Function.update_of_ne hkey]
      first
        | exact hl.frozen key
        | exact hl.tidy key
    subst hkey
    simp only [mutate_accounts, Function.update_self]
    split
  · exact .inl rfl
  · exact .inr rfl
  · exact fun _ => rfl
  · exact fun h => absurd h ‹_›

theorem putLock_locksWf (merge : BalanceLock → BalanceLock → BalanceLock)
    (lockId : LockIdentifier) (amount : Balance) :
    Keeps (Preserves LocksWf) (putLock merge lockId currencyId who amount) := by
  intro l hl
  obtain ⟨u, l', h⟩ := putLock_noFail merge lockId amount l
  rw [h, stateOf_ok]
  rcases putLock_ok h with ⟨-, rfl⟩ | ⟨-, hupdate⟩
  · exact hl
  · exact (updateLocks_locksWf currencyId who _).of_ok hupdate hl

theorem removeLock_locksWf (lockId : LockIdentifier) :
    Keeps (Preserves LocksWf) (removeLock lockId currencyId who) := by
  intro l
  rw [removeLock_run]
  exact updateLocks_locksWf currencyId who _ l

end Functions

/-! ## Every call, and every run -/

section Run

variable {P : Ledger AccountId → Prop}

/-- A property that `LocksKept` keeps, and that `set_lock`, `extend_lock` and `remove_lock`
keep, is kept by every call, whether it succeeds or fails: the other calls leave the locks and
every frozen amount alone. -/
theorem run_preserves (hP : ∀ l l', LocksKept l l' → P l → P l')
    (hset : ∀ lockId currencyId (who : AccountId) amount,
      Keeps (Preserves P) (setLock lockId currencyId who amount))
    (hextend : ∀ lockId currencyId (who : AccountId) amount,
      Keeps (Preserves P) (extendLock lockId currencyId who amount))
    (hremove : ∀ lockId currencyId (who : AccountId),
      Keeps (Preserves P) (removeLock lockId currencyId who)) :
    ∀ op : Op AccountId, Keeps (Preserves P) op.run
  | .transfer currencyId src dst amount =>
    preserves_of_locksKept hP
      (onAccounts_locksKept (transfer_recordsKept currencyId src dst amount))
  | .deposit currencyId who amount =>
    preserves_of_locksKept hP (deposit_locksKept currencyId who amount)
  | .withdraw currencyId who amount =>
    preserves_of_locksKept hP (withdraw_locksKept currencyId who amount)
  | .slash currencyId who amount =>
    preserves_of_locksKept hP ((slash_locksKept currencyId who amount).bind fun _ => .pure ())
  | .slashReserved currencyId who value =>
    preserves_of_locksKept hP
      ((slashReserved_locksKept currencyId who value).bind fun _ => .pure ())
  | .reserve currencyId who value =>
    preserves_of_locksKept hP (onAccounts_locksKept (reserve_recordsKept currencyId who value))
  | .unreserve currencyId who value =>
    preserves_of_locksKept hP
      ((onAccounts_locksKept (unreserve_recordsKept currencyId who value)).bind fun _ => .pure ())
  | .repatriateReserved currencyId slashed beneficiary value status =>
    preserves_of_locksKept hP
      ((repatriateReserved_locksKept currencyId slashed beneficiary value status).bind
        fun _ => .pure ())
  | .updateBalance currencyId who byAmount =>
    preserves_of_locksKept hP (updateBalance_locksKept currencyId who byAmount)
  | .setLock lockId currencyId who amount => hset lockId currencyId who amount
  | .extendLock lockId currencyId who amount => hextend lockId currencyId who amount
  | .removeLock lockId currencyId who => hremove lockId currencyId who

/-- The genesis build keeps a property that `LocksKept` keeps: it writes free balances and the
issuance. -/
theorem build_preserves (hP : ∀ l l', LocksKept l l' → P l → P l')
    (hempty : P (Ledger.empty AccountId)) {existentialDeposits : CurrencyId → Balance}
    {endowedAccounts : List (AccountId × CurrencyId × Balance)} {l : Ledger AccountId}
    (h : GenesisConfig.build existentialDeposits endowedAccounts = some l) : P l := by
  obtain ⟨-, hfold⟩ := build_ok h
  refine Machine.foldlM_preserves (fun l₁ endowment l₂ hl₁ hendow => ?_) endowedAccounts _ l
    hempty hfold
  obtain ⟨who, currencyId, initialBalance⟩ := endowment
  obtain ⟨-, issuance, -, rfl⟩ := endow_ok hendow
  exact hP _ _ (trans_of LocksKept (mutate_locksKept l₁ who currencyId (by exact fun _ => rfl))
    (setTotalIssuance_locksKept _ _)) hl₁

end Run

/-- Every call keeps each frozen amount the largest lock or zero, whether it succeeds or
fails. -/
theorem run_locksWf : ∀ op : Op AccountId, Keeps (Preserves LocksWf) op.run :=
  run_preserves (fun _ _ h hl => hl.of_locksKept h)
    (fun lockId currencyId who amount => putLock_locksWf currencyId who _ lockId amount)
    (fun lockId currencyId who amount => putLock_locksWf currencyId who _ lockId amount)
    (fun lockId currencyId who => removeLock_locksWf currencyId who lockId)

omit [DecidableEq AccountId] in
theorem empty_locksWf : LocksWf (Ledger.empty AccountId) :=
  ⟨fun _ => .inl rfl, fun _ _ => rfl⟩

/-- The genesis build writes free balances and the issuance, which keeps the locks and the
records. -/
theorem build_locksWf {existentialDeposits : CurrencyId → Balance}
    {endowedAccounts : List (AccountId × CurrencyId × Balance)} {l : Ledger AccountId}
    (h : GenesisConfig.build existentialDeposits endowedAccounts = some l) : LocksWf l :=
  build_preserves (fun _ _ h hl => hl.of_locksKept h) empty_locksWf h

/-- In every ledger the chain can reach, each record's frozen amount is the largest of its locks,
or zero, and a record that holds nothing is the default one. -/
theorem reachable_locksWf {existentialDeposits : CurrencyId → Balance} {l : Ledger AccountId}
    (h : l.Reachable existentialDeposits) : LocksWf l := by
  unfold Ledger.Reachable at h
  exact Machine.Reachable.induction (I := LocksWf) (fun _ ⟨_, hbuild⟩ => build_locksWf hbuild)
    (fun _ op hl => run_locksWf op _ hl) h

/-- `b"staking "`, the id `pallet_staking` locks with. -/
def stakingId : LockIdentifier := #v[115, 116, 97, 107, 105, 110, 103, 32]

/-- The first account locks 30 of the 100 it holds in currency `1`, then all of it is slashed. -/
def slashedLedger : Ledger (Fin 2) :=
  Machine.run Ledger.step genesisLedger
    [.setLock stakingId 1 0 (UWord.ofNat 30), .slash 1 0 (UWord.ofNat 100)]

/-- The slash removes the record, frozen amount included, while the lock stays listed. -/
theorem reachable_locksWf_slashed :
    LocksWf slashedLedger ∧ (slashedLedger.accounts (0, 1)).frozen = 0 ∧
      { id := stakingId, amount := UWord.ofNat 30 } ∈ slashedLedger.locks (0, 1) :=
  ⟨reachable_locksWf (Machine.reachable_of_init ⟨genesisEndowments, build_genesisLedger⟩ _),
    by decide, by decide⟩

/-! ## One lock per id

`set_lock` and `extend_lock` replace the first lock with their id and drop the later ones, and
`remove_lock` drops them all, so no account ever holds two locks with one id. -/

/-- No two locks of an account in a currency share an id. -/
def LockIdsUnique (l : Ledger AccountId) : Prop :=
  ∀ key, ((l.locks key).map fun lock => lock.id).Nodup

omit [DecidableEq AccountId] in
/-- A list whose locks with another id are those of `locks`, with exactly one lock of the id
besides, has distinct ids when `locks` has. -/
theorem nodup_ids_of_filter {locks locks' : List BalanceLock} {lockId : LockIdentifier}
    {lock : BalanceLock}
    (hother : locks'.filter (fun lock => lock.id ≠ lockId) =
      locks.filter (fun lock => lock.id ≠ lockId))
    (hone : locks'.filter (fun lock => lock.id = lockId) = [lock])
    (hnodup : (locks.map fun lock => lock.id).Nodup) : (locks'.map fun lock => lock.id).Nodup := by
  -- up to order, `locks'` is its locks with another id, then the one with the id
  have hperm : List.Perm (locks'.filter (fun lock => lock.id ≠ lockId) ++
      locks'.filter (fun lock => lock.id = lockId)) locks' := by
    simpa using List.filter_append_perm (fun lock : BalanceLock => decide (lock.id ≠ lockId)) locks'
  have hid : lock.id = lockId := by
    have hmem : lock ∈ locks'.filter (fun lock => lock.id = lockId) := by
      rw [hone]
      exact List.mem_singleton_self _
    simpa using (List.mem_filter.1 hmem).2
  rw [hother, hone] at hperm
  refine (hperm.map _).nodup_iff.1 ?_
  rw [List.map_append, List.nodup_append]
  refine ⟨hnodup.sublist (List.filter_sublist.map _), List.nodup_singleton _, ?_⟩
  -- the other ids differ from the lock's
  simp only [List.mem_map, List.mem_filter, List.mem_singleton]
  rintro _ ⟨other, ⟨-, hother⟩, rfl⟩ _ ⟨_, rfl, rfl⟩
  simpa [hid] using hother

omit [DecidableEq AccountId] in
theorem lockIdsUnique_of_locksKept (l l' : Ledger AccountId) (h : LocksKept l l')
    (hl : LockIdsUnique l) : LockIdsUnique l' := by
  rw [LockIdsUnique, h.1]
  exact hl

section Functions

variable (currencyId : CurrencyId) (who : AccountId)

/-- `set_lock` and `extend_lock` keep the ids distinct: their merge keeps the id. -/
theorem putLock_lockIdsUnique {merge : BalanceLock → BalanceLock → BalanceLock}
    (hmerge : ∀ lock newLock, lock.id = newLock.id → (merge lock newLock).id = newLock.id)
    (lockId : LockIdentifier) (amount : Balance) :
    Keeps (Preserves LockIdsUnique) (putLock merge lockId currencyId who amount) := by
  intro l hl
  obtain ⟨u, l', h⟩ := putLock_noFail merge lockId amount l
  rw [h, stateOf_ok]
  rcases putLock_ok h with ⟨-, rfl⟩ | ⟨-, hupdate⟩
  · exact hl
  rw [run_updateLocks] at hupdate
  obtain ⟨-, rfl⟩ := EStateM.Result.ok.inj hupdate
  intro key
  by_cases hkey : key = (who, currencyId)
  · subst hkey
    simp only [Function.update_self]
    obtain ⟨hother, hone⟩ := @mergeLocks_filter merge lockId { id := lockId, amount } rfl
      (fun lock hid => hmerge lock _ hid) (l.locks (who, currencyId))
    exact nodup_ids_of_filter hother hone (hl _)
  · simp only [Function.update_of_ne hkey]
    exact hl key

theorem removeLock_lockIdsUnique (lockId : LockIdentifier) :
    Keeps (Preserves LockIdsUnique) (removeLock lockId currencyId who) := by
  intro l hl
  rw [removeLock_run, run_updateLocks, stateOf_ok]
  intro key
  by_cases hkey : key = (who, currencyId)
  · subst hkey
    simp only [Function.update_self]
    exact (hl _).sublist (List.filter_sublist.map _)
  · simp only [Function.update_of_ne hkey]
    exact hl key

end Functions

/-- Every call keeps the ids of each account's locks distinct, whether it succeeds or fails. -/
theorem run_lockIdsUnique : ∀ op : Op AccountId, Keeps (Preserves LockIdsUnique) op.run :=
  run_preserves lockIdsUnique_of_locksKept
    (fun lockId currencyId who amount =>
      putLock_lockIdsUnique currencyId who (by exact fun _ _ _ => rfl) lockId amount)
    (fun lockId currencyId who amount =>
      putLock_lockIdsUnique currencyId who (by exact fun _ _ hid => hid) lockId amount)
    (fun lockId currencyId who => removeLock_lockIdsUnique currencyId who lockId)

/-- In every ledger the chain can reach, no account holds two locks with one id. -/
theorem reachable_lockIdsUnique {existentialDeposits : CurrencyId → Balance}
    {l : Ledger AccountId} (h : l.Reachable existentialDeposits) : LockIdsUnique l := by
  unfold Ledger.Reachable at h
  exact Machine.Reachable.induction (I := LockIdsUnique)
    (fun _ ⟨_, hbuild⟩ => build_preserves lockIdsUnique_of_locksKept (fun _ => List.nodup_nil)
      hbuild)
    (fun _ op hl => run_lockIdsUnique op _ hl) h

/-- A lock set, then extended, on the first account. -/
theorem reachable_lockIdsUnique_extended :
    LockIdsUnique (Machine.run Ledger.step genesisLedger
      [.setLock stakingId 1 0 (UWord.ofNat 30), .extendLock stakingId 1 0 (UWord.ofNat 50)]) :=
  reachable_lockIdsUnique (Machine.reachable_of_init ⟨genesisEndowments, build_genesisLedger⟩ _)

end Nftmart.Tokens
