import Mathlib
import Nftmart.Lib.Effect
import Nftmart.Lib.Machine
import Nftmart.Spec.Money
import Nftmart.Spec.Ledger

/-!
# `TotalIssuance` is what the accounts hold

`orml_tokens` keeps the issuance of each currency in `TotalIssuance` and maintains it by hand:
each function that mints or burns adjusts it next to the balance it writes, with unchecked
arithmetic where the source says that it "cannot underflow" or "cannot overflow". This module
proves that bookkeeping right. In every ledger the chain can reach, the issuance of each currency
is what all accounts hold of it, free and reserved (`Issued`), and on the way there no unchecked
operation wraps: each proof below bounds the operands from the invariant before it does the
arithmetic.

## Main results

* `step_issued` — every call keeps the issuance right, whether it succeeds or fails.
* `build_issued` — so does the genesis build.
* `reachable_issued` — the issuance is right in every reachable ledger.
-/

namespace Nftmart.Tokens

open Effect

variable {AccountId : Type} [Fintype AccountId]

/-- `TotalIssuance` of every currency is what the accounts hold of it. -/
def Issued (l : Ledger AccountId) : Prop :=
  ∀ currencyId, l.supply currencyId = (l.totalIssuance currencyId).val

namespace Issued

variable {l : Ledger AccountId}

theorem holding_le (hl : Issued l) (who : AccountId) (currencyId : CurrencyId) :
    (l.accounts (who, currencyId)).holding ≤ (l.totalIssuance currencyId).val :=
  hl currencyId ▸ holding_le_supply l.toStore who currencyId

theorem supply_lt (hl : Issued l) (currencyId : CurrencyId) : l.supply currencyId < 2 ^ 128 :=
  hl currencyId ▸ (l.totalIssuance currencyId).isLt

/-- Rewriting the records, keeping the supply of every currency, keeps the issuance right. -/
theorem of_store (hl : Issued l) {t : Store AccountId} (ht : Tokens.SupplyKept l.toStore t) :
    Issued { l with toStore := t } :=
  fun currencyId => (ht currencyId (hl.supply_lt currencyId)).trans (hl currencyId)

variable [DecidableEq AccountId] {l' : Ledger AccountId} {who : AccountId}
  {currencyId : CurrencyId}

/-- A call that writes one record keeps the issuance right when the record's holding and the
issuance of its currency move by the same amount. -/
theorem of_writesOne (hl : Issued l) (h : WritesOne l l' who currencyId)
    (hmove : (l'.accounts (who, currencyId)).holding + (l.totalIssuance currencyId).val =
      (l.accounts (who, currencyId)).holding + (l'.totalIssuance currencyId).val) :
    Issued l' := by
  intro c
  by_cases hc : c = currencyId
  · subst hc
    have hsupply := supply_writesOne h
    have hc := hl c
    omega
  · rw [supply_writesOne_of_ne h hc, h.totalIssuance_of_ne c hc]
    exact hl c

/-- Two writes of one currency, to two accounts, keep the issuance right when what the second
account loses the first gains. -/
theorem of_move (hl : Issued l) {beneficiary : AccountId} (hne : who ≠ beneficiary)
    (credit debit : AccountData → AccountData) (moved : ℕ)
    (hcredit : (credit (l.accounts (beneficiary, currencyId))).holding =
      (l.accounts (beneficiary, currencyId)).holding + moved)
    (hdebit : (debit (l.accounts (who, currencyId))).holding + moved =
      (l.accounts (who, currencyId)).holding) :
    Issued ((l.mutate beneficiary currencyId credit).mutate who currencyId debit) := by
  have hkey : (who, currencyId) ≠ (beneficiary, currencyId) := fun he => hne (Prod.mk.inj he).1
  intro c
  by_cases hc : c = currencyId
  · subst hc
    have h₁ := supply_mutate l beneficiary c credit
    have h₂ := supply_mutate (l.mutate beneficiary c credit) who c debit
    rw [mutate_accounts_of_ne l beneficiary c credit hkey] at h₂
    have hc := hl c
    simp only [mutate_totalIssuance]
    omega
  · simp only [mutate_totalIssuance]
    rw [supply_writesOne_of_ne (WritesOne.mutate _ _) hc,
      supply_writesOne_of_ne (WritesOne.mutate _ _) hc]
    exact hl c

end Issued

variable [DecidableEq AccountId]

/-! ## The calls, one by one -/

omit [DecidableEq AccountId] in
/-- Code on `Accounts` that keeps every supply keeps the issuance right. -/
theorem onAccounts_issued {α : Type} {m : TokensM AccountId α}
    (hm : Keeps Tokens.SupplyKept m) : Keeps (Preserves Issued) (onAccounts m) :=
  keeps_onAccounts hm fun _ _ ht hl => hl.of_store ht

/-- `deposit` mints into the free balance what it adds to the issuance; the unchecked `+` on the
free balance cannot wrap, since the checked new issuance bounds it. -/
theorem deposit_issued (currencyId : CurrencyId) (who : AccountId) (amount : Balance) :
    Keeps (Preserves Issued) (deposit currencyId who amount) := by
  intro l hl
  cases h : (deposit currencyId who amount).run l with
  | error e l' => rwa [stateOf_error, (deposit_error h).1]
  | ok u l' =>
    rw [stateOf_ok]
    rcases deposit_ok h with ⟨-, rfl⟩ | ⟨-, issuance, hissuance, rfl⟩
    · exact hl
    obtain ⟨hfits, hval⟩ := UWord.checkedAdd_eq_some.1 hissuance
    have hheld := hl.holding_le who currencyId
    simp only [AccountData.holding] at hheld
    have hfree : ((l.accounts (who, currencyId)).free + amount).val =
        (l.accounts (who, currencyId)).free.val + amount.val :=
      UWord.val_add_of_lt (by omega)
    refine hl.of_writesOne ((WritesOne.mutate _ _).trans (WritesOne.setTotalIssuance _ _)) ?_
    simp only [AccountData.holding, Function.update_self, mutate_free, mutate_reserved, hfree,
      hval]
    omega

/-- `withdraw` burns from the free balance what it takes off the issuance; both unchecked
subtractions stay in range, since the withdrawal check bounds `amount` by the free balance. -/
theorem withdraw_issued (currencyId : CurrencyId) (who : AccountId) (amount : Balance) :
    Keeps (Preserves Issued) (withdraw currencyId who amount) := by
  intro l hl
  cases h : (withdraw currencyId who amount).run l with
  | error e l' => rwa [stateOf_error, (withdraw_error h).1]
  | ok u l' =>
    rw [stateOf_ok]
    rcases withdraw_ok h with ⟨-, rfl⟩ | ⟨-, hle, -, rfl⟩
    · exact hl
    have hheld := hl.holding_le who currencyId
    simp only [AccountData.holding] at hheld
    have hfree := UWord.val_sub_of_le hle
    have hissuance : (l.totalIssuance currencyId - amount).val =
        (l.totalIssuance currencyId).val - amount.val :=
      UWord.val_sub_of_le (by omega)
    refine hl.of_writesOne ((WritesOne.setTotalIssuance _ _).trans (WritesOne.mutate _ _)) ?_
    simp only [AccountData.holding, mutate_free, mutate_reserved, mutate_totalIssuance,
      Function.update_self, hfree, hissuance]
    omega

/-- `slash` burns what it takes from the account, which is `amount` less what it returns; the
unchecked subtractions on the balances and on the issuance stay in range. -/
theorem slash_issued (currencyId : CurrencyId) (who : AccountId) (amount : Balance) :
    Keeps (Preserves Issued) (slash currencyId who amount) := by
  intro l hl
  obtain ⟨r, l', h⟩ := slash_noFail amount l
  rw [h, stateOf_ok]
  obtain ⟨hwrites, hfree, hreserved, hr, hissuance⟩ := slash_ok h
  have hheld := hl.holding_le who currencyId
  -- the amounts taken, as numbers: `min` with the balance, and no subtraction wraps
  have hfs : (min (l.accounts (who, currencyId)).free amount).val =
      min (l.accounts (who, currencyId)).free.val amount.val := Fin.coe_min _ _
  have hrest := UWord.val_sub_of_le (a := amount)
    (b := min (l.accounts (who, currencyId)).free amount) (by omega)
  have hrs : (min (l.accounts (who, currencyId)).reserved
      (amount - min (l.accounts (who, currencyId)).free amount)).val =
      min (l.accounts (who, currencyId)).reserved.val
        (amount - min (l.accounts (who, currencyId)).free amount).val := Fin.coe_min _ _
  have hfree' := UWord.val_sub_of_le (a := (l.accounts (who, currencyId)).free)
    (b := min (l.accounts (who, currencyId)).free amount) (by omega)
  have hreserved' := UWord.val_sub_of_le (a := (l.accounts (who, currencyId)).reserved)
    (b := min (l.accounts (who, currencyId)).reserved
      (amount - min (l.accounts (who, currencyId)).free amount)) (by omega)
  have hrval : r.val = amount.val - (min (l.accounts (who, currencyId)).free amount).val -
      (min (l.accounts (who, currencyId)).reserved
        (amount - min (l.accounts (who, currencyId)).free amount)).val := by
    rw [hr, UWord.val_sub_of_le (by omega), hrest]
  have hburnt := UWord.val_sub_of_le (a := amount) (b := r) (by omega)
  simp only [AccountData.holding] at hheld
  have hissuance' := UWord.val_sub_of_le (a := l.totalIssuance currencyId) (b := amount - r)
    (by omega)
  refine hl.of_writesOne hwrites ?_
  simp only [AccountData.holding, hfree, hreserved, hissuance, hfree', hreserved', hissuance',
    hburnt, hrval]
  omega

/-- `slash_reserved` burns what it takes from the reserved balance. -/
theorem slashReserved_issued (currencyId : CurrencyId) (who : AccountId) (value : Balance) :
    Keeps (Preserves Issued) (slashReserved currencyId who value) := by
  intro l hl
  obtain ⟨r, l', h⟩ := slashReserved_noFail value l
  rw [h, stateOf_ok]
  obtain ⟨hwrites, hfree, hreserved, -, hissuance⟩ := slashReserved_ok h
  have hheld := hl.holding_le who currencyId
  have hactual : (min (l.accounts (who, currencyId)).reserved value).val ≤
      (l.accounts (who, currencyId)).reserved.val := Fin.le_def.1 (min_le_left _ _)
  simp only [AccountData.holding] at hheld
  have hreserved' := UWord.val_sub_of_le hactual
  have hissuance' := UWord.val_sub_of_le (a := l.totalIssuance currencyId)
    (b := min (l.accounts (who, currencyId)).reserved value) (by omega)
  refine hl.of_writesOne hwrites ?_
  simp only [AccountData.holding, hfree, hreserved, hissuance, hreserved', hissuance']
  omega

/-- `repatriate_reserved` between two accounts moves what it takes from one reserved balance
into the other account, whose balance cannot wrap: the two accounts together hold no more than
the issuance. -/
theorem repatriateReserved_issued (currencyId : CurrencyId) (slashed beneficiary : AccountId)
    (value : Balance) (status : BalanceStatus) :
    Keeps (Preserves Issued) (repatriateReserved currencyId slashed beneficiary value status) := by
  intro l hl
  obtain ⟨r, l', h⟩ := repatriateReserved_noFail slashed beneficiary value status l
  rw [h, stateOf_ok]
  rcases repatriateReserved_ok h with ⟨rfl, -⟩ | ⟨-, ⟨-, hunreserve⟩ | ⟨-, rfl⟩⟩ |
      ⟨hne, -, hmove⟩
  · exact hl
  · exact (onAccounts_issued (unreserve_supply currencyId slashed value)).of_ok hunreserve hl
  · exact hl
  -- the beneficiary is credited first, then the slashed account debited; the credit cannot
  -- wrap, since the two accounts together hold no more than the issuance
  have hpair := holding_add_holding_le_supply l hne currencyId
  have hissued := hl currencyId
  have hactual : (min (l.accounts (slashed, currencyId)).reserved value).val ≤
      (l.accounts (slashed, currencyId)).reserved.val := Fin.le_def.1 (min_le_left _ _)
  have hdebit := UWord.val_sub_of_le hactual
  simp only [AccountData.holding] at hpair
  rcases hmove with ⟨-, rfl⟩ | ⟨-, rfl⟩
  · have hcredit := UWord.val_add_of_lt (a := (l.accounts (beneficiary, currencyId)).free)
      (b := min (l.accounts (slashed, currencyId)).reserved value) (by omega)
    exact hl.of_move hne _ _ (min (l.accounts (slashed, currencyId)).reserved value).val
      (by simp only [AccountData.holding, hcredit]; omega)
      (by simp only [AccountData.holding, hdebit]; omega)
  · have hcredit := UWord.val_add_of_lt (a := (l.accounts (beneficiary, currencyId)).reserved)
      (b := min (l.accounts (slashed, currencyId)).reserved value) (by omega)
    exact hl.of_move hne _ _ (min (l.accounts (slashed, currencyId)).reserved value).val
      (by simp only [AccountData.holding, hcredit]; omega)
      (by simp only [AccountData.holding, hdebit]; omega)

/-- `update_balance` is a `deposit` or a `withdraw`, or changes nothing. -/
theorem updateBalance_issued (currencyId : CurrencyId) (who : AccountId) (byAmount : Amount) :
    Keeps (Preserves Issued) (updateBalance currencyId who byAmount) := by
  intro l hl
  cases h : (updateBalance currencyId who byAmount).run l with
  | error e l' => rwa [stateOf_error, (updateBalance_error h).1]
  | ok u l' =>
    rw [stateOf_ok]
    rcases updateBalance_ok h with ⟨-, rfl⟩ | ⟨byBalance, -, ⟨-, hdeposit⟩ | ⟨-, hwithdraw⟩⟩
    · exact hl
    · exact (deposit_issued currencyId who byBalance).of_ok hdeposit hl
    · exact (withdraw_issued currencyId who byBalance).of_ok hwithdraw hl

/-- `update_locks` writes the frozen amount alone, which is no part of what an account holds. -/
theorem updateLocks_issued (currencyId : CurrencyId) (who : AccountId)
    (locks : List BalanceLock) : Keeps (Preserves Issued) (updateLocks currencyId who locks) := by
  intro l hl
  rw [run_updateLocks, stateOf_ok]
  have hfrozen : Issued (l.mutate who currencyId fun account =>
      { account with frozen := lockedAmount locks }) :=
    hl.of_writesOne (WritesOne.mutate _ _) (by simp [AccountData.holding])
  exact hfrozen

theorem putLock_issued (merge : BalanceLock → BalanceLock → BalanceLock) (lockId : LockIdentifier)
    (currencyId : CurrencyId) (who : AccountId) (amount : Balance) :
    Keeps (Preserves Issued) (putLock merge lockId currencyId who amount) := by
  intro l hl
  obtain ⟨u, l', h⟩ := putLock_noFail merge lockId amount l
  rw [h, stateOf_ok]
  rcases putLock_ok h with ⟨-, rfl⟩ | ⟨-, hupdate⟩
  · exact hl
  · exact (updateLocks_issued currencyId who _).of_ok hupdate hl

theorem removeLock_issued (lockId : LockIdentifier) (currencyId : CurrencyId) (who : AccountId) :
    Keeps (Preserves Issued) (removeLock lockId currencyId who) := by
  intro l
  rw [removeLock_run]
  exact updateLocks_issued currencyId who _ l

/-! ## Every call, and every run -/

/-- Every call keeps the issuance right, whether it succeeds or fails. -/
theorem run_issued : ∀ op : Op AccountId, Keeps (Preserves Issued) op.run
  | .transfer currencyId src dst amount => onAccounts_issued (transfer_supply currencyId src dst amount)
  | .deposit currencyId who amount => deposit_issued currencyId who amount
  | .withdraw currencyId who amount => withdraw_issued currencyId who amount
  | .slash currencyId who amount => (slash_issued currencyId who amount).bind fun _ => .pure ()
  | .slashReserved currencyId who value =>
    (slashReserved_issued currencyId who value).bind fun _ => .pure ()
  | .reserve currencyId who value => onAccounts_issued (reserve_supply currencyId who value)
  | .unreserve currencyId who value =>
    (onAccounts_issued (unreserve_supply currencyId who value)).bind fun _ => .pure ()
  | .repatriateReserved currencyId slashed beneficiary value status =>
    (repatriateReserved_issued currencyId slashed beneficiary value status).bind fun _ =>
      .pure ()
  | .updateBalance currencyId who byAmount => updateBalance_issued currencyId who byAmount
  | .setLock lockId currencyId who amount => putLock_issued _ lockId currencyId who amount
  | .extendLock lockId currencyId who amount => putLock_issued _ lockId currencyId who amount
  | .removeLock lockId currencyId who => removeLock_issued lockId currencyId who

theorem step_issued {l : Ledger AccountId} (hl : Issued l) (op : Op AccountId) :
    Issued (l.step op) :=
  run_issued op l hl

/-! ## Genesis -/

omit [DecidableEq AccountId] in
theorem empty_issued : Issued (Ledger.empty AccountId) := by
  intro currencyId
  simp [Ledger.empty, Store.supply, Supply.supply]

/-- An endowment writes the free balance of a record that held nothing, and adds it to the
issuance. -/
theorem endow_issued {existentialDeposits : CurrencyId → Balance} {l l' : Ledger AccountId}
    {who : AccountId} {currencyId : CurrencyId} {initialBalance : Balance} (hl : Issued l)
    (hempty : l.accounts (who, currencyId) = default)
    (h : endow existentialDeposits l (who, currencyId, initialBalance) = some l') : Issued l' := by
  obtain ⟨-, issuance, hissuance, rfl⟩ := endow_ok h
  obtain ⟨-, hval⟩ := UWord.checkedAdd_eq_some.1 hissuance
  refine hl.of_writesOne ((WritesOne.mutate _ _).trans (WritesOne.setTotalIssuance _ _)) ?_
  simp [AccountData.holding, hempty, hval]
  omega

/-- The endowments, one after another, keep the issuance right as long as each goes to a record
that holds nothing; no record is endowed twice, so each does. -/
theorem foldlM_endow_issued (existentialDeposits : CurrencyId → Balance) :
    ∀ (endowedAccounts : List (AccountId × CurrencyId × Balance)) (l l' : Ledger AccountId),
      (endowedAccounts.map fun (who, currencyId, _) => (who, currencyId)).Nodup →
      (∀ who currencyId initialBalance, (who, currencyId, initialBalance) ∈ endowedAccounts →
        l.accounts (who, currencyId) = default) →
      Issued l → endowedAccounts.foldlM (endow existentialDeposits) l = some l' → Issued l'
  | [], l, l', _, _, hl, h => by
    obtain rfl := Option.some.inj h
    exact hl
  | (who, currencyId, initialBalance) :: rest, l, l', hnodup, hempty, hl, h => by
    rw [List.foldlM_cons] at h
    obtain ⟨l₁, hendow, hrest⟩ := Option.bind_eq_some_iff.1 h
    rw [List.map_cons, List.nodup_cons] at hnodup
    have hwrites : WritesOne l l₁ who currencyId := by
      obtain ⟨-, issuance, -, rfl⟩ := endow_ok hendow
      exact (WritesOne.mutate _ _).trans (WritesOne.setTotalIssuance _ _)
    refine foldlM_endow_issued existentialDeposits rest l₁ l' hnodup.2 (fun who' c' b' hmem => ?_)
      (endow_issued hl (hempty who currencyId initialBalance List.mem_cons_self) hendow) hrest
    -- the records the rest endows are other records, which the first endowment left empty
    have hkey : (who', c') ≠ (who, currencyId) := by
      intro he
      have hmem' : (who', c') ∈ rest.map fun (who, currencyId, _) => (who, currencyId) :=
        List.mem_map.2 ⟨(who', c', b'), hmem, rfl⟩
      rw [he] at hmem'
      exact hnodup.1 hmem'
    rw [hwrites.accounts_of_ne _ hkey]
    exact hempty who' c' b' (List.mem_cons_of_mem _ hmem)

theorem build_issued {existentialDeposits : CurrencyId → Balance}
    {endowedAccounts : List (AccountId × CurrencyId × Balance)} {l : Ledger AccountId}
    (h : GenesisConfig.build existentialDeposits endowedAccounts = some l) : Issued l := by
  obtain ⟨hnodup, hfold⟩ := build_ok h
  exact foldlM_endow_issued existentialDeposits endowedAccounts _ l hnodup
    (fun _ _ _ _ => rfl) empty_issued hfold

/-- In every ledger the chain can reach, `TotalIssuance` of each currency is what the accounts
hold of it. -/
theorem reachable_issued {existentialDeposits : CurrencyId → Balance} {l : Ledger AccountId}
    (h : l.Reachable existentialDeposits) : Issued l := by
  unfold Ledger.Reachable at h
  exact Machine.Reachable.induction (I := Issued) (fun _ ⟨_, hbuild⟩ => build_issued hbuild)
    (fun _ op hl => step_issued hl op) h

/-- Two accounts endowed with one currency at genesis. -/
def genesisEndowments : List (Fin 2 × CurrencyId × Balance) :=
  [(0, 1, UWord.ofNat 100), (1, 1, UWord.ofNat 50)]

def genesisLedger : Ledger (Fin 2) :=
  (GenesisConfig.build (fun _ => UWord.ofNat 1) genesisEndowments).getD (Ledger.empty _)

theorem build_genesisLedger :
    GenesisConfig.build (fun _ => UWord.ofNat 1) genesisEndowments = some genesisLedger :=
  rfl

theorem reachable_issued_genesisLedger :
    (Machine.run Ledger.step genesisLedger
        [.slash 1 0 (UWord.ofNat 120), .deposit 1 1 (UWord.ofNat 7)]).Reachable
      (fun _ => UWord.ofNat 1) ∧
    Issued (Machine.run Ledger.step genesisLedger
        [.slash 1 0 (UWord.ofNat 120), .deposit 1 1 (UWord.ofNat 7)]) :=
  have hreach : (Machine.run Ledger.step genesisLedger
      [.slash 1 0 (UWord.ofNat 120), .deposit 1 1 (UWord.ofNat 7)]).Reachable
        (fun _ => UWord.ofNat 1) :=
    Machine.reachable_of_init ⟨genesisEndowments, build_genesisLedger⟩ _
  ⟨hreach, reachable_issued hreach⟩

end Nftmart.Tokens
