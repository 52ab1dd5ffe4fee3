import Mathlib
import Nftmart.Lib.Effect
import Nftmart.Lib.Supply
import Nftmart.Model.OrmlTokens
import Nftmart.Spec.Money

/-!
# `orml_tokens`: what each function of the ledger does

One lemma per function of `Nftmart.Model.OrmlTokens`, saying everything a run of it can do: the
guards it passed, the records it wrote and with what, and what it did to `TotalIssuance`. The
invariants of `Nftmart.Invariant.Issuance` are read off these lemmas, never off the code.

A write to the accounts is a `mutate_account`, which `Ledger.mutate` names. The functions that
write records one after another are described by what they leave: the frame (`WritesOne`, every
other record and the locks as they were) and the balances of the record they wrote. The supply
of a currency after such a function is then read off that record alone (`supply_writesOne`).

## Main results

* `run_onAccounts_eq_ok`, `run_onAccounts_eq_error` — code on `Accounts`, run on the ledger.
* `deposit_ok`, `withdraw_ok`, `slash_ok`, `slashReserved_ok`, `repatriateReserved_ok`,
  `updateBalance_ok`, `run_updateLocks` — the successful runs.
* `deposit_error`, `withdraw_error`, `updateBalance_error` — a failed call writes nothing.
-/

namespace Nftmart.Tokens

open Effect

variable {AccountId : Type} {α : Type}

/-! ## Code on `Accounts` -/

section Accounts

variable {m : TokensM AccountId α} {l l' : Ledger AccountId}

theorem run_onAccounts_eq_ok {a : α} :
    (onAccounts m).run l = .ok a l' ↔
      ∃ t, m.run l.toStore = .ok a t ∧ l' = { l with toStore := t } := by
  unfold onAccounts
  simp only [EStateM.run, EStateM.adaptExcept, zoom]
  cases m l.toStore <;> simp [eq_comm]

theorem run_onAccounts_eq_error {e : LedgerError} :
    (onAccounts m).run l = .error e l' ↔
      ∃ e₀ t, m.run l.toStore = .error e₀ t ∧ e = .dispatch e₀ ∧
        l' = { l with toStore := t } := by
  unfold onAccounts
  simp only [EStateM.run, EStateM.adaptExcept, zoom]
  cases m l.toStore <;> simp [eq_comm]

/-- A frame of code on `Accounts` is one of the ledger once the records are written back. -/
theorem keeps_onAccounts {r' : Store AccountId → Store AccountId → Prop}
    {r : Ledger AccountId → Ledger AccountId → Prop} (hm : Keeps r' m)
    (hset : ∀ l t, r' l.toStore t → r l { l with toStore := t }) : Keeps r (onAccounts m) := by
  intro l
  cases h : (onAccounts m).run l with
  | ok a l' =>
    obtain ⟨t, ht, rfl⟩ := run_onAccounts_eq_ok.1 h
    exact hset l t (hm.of_ok ht)
  | error e l' =>
    obtain ⟨e₀, t, ht, -, rfl⟩ := run_onAccounts_eq_error.1 h
    exact hset l t (hm.of_error ht)

theorem noFail_onAccounts (hm : NoFail m) : NoFail (onAccounts m) := by
  intro l
  obtain ⟨a, t, ht⟩ := hm l.toStore
  exact ⟨a, _, run_onAccounts_eq_ok.2 ⟨t, ht, rfl⟩⟩

end Accounts

/-! ## Writes to one record -/

/-- `l'` differs from `l` at most in the record of `who` in `currencyId` and in the issuance of
`currencyId`. -/
structure WritesOne (l l' : Ledger AccountId) (who : AccountId) (currencyId : CurrencyId) :
    Prop where
  accounts_of_ne : ∀ key, key ≠ (who, currencyId) → l'.accounts key = l.accounts key
  totalIssuance_of_ne : ∀ c, c ≠ currencyId → l'.totalIssuance c = l.totalIssuance c
  locks : l'.locks = l.locks

namespace WritesOne

variable {l l₁ l₂ : Ledger AccountId} {who : AccountId} {currencyId : CurrencyId}

theorem rfl' : WritesOne l l who currencyId :=
  ⟨fun _ _ => rfl, fun _ _ => rfl, rfl⟩

theorem trans (h₁ : WritesOne l l₁ who currencyId) (h₂ : WritesOne l₁ l₂ who currencyId) :
    WritesOne l l₂ who currencyId :=
  ⟨fun key hkey => (h₂.accounts_of_ne key hkey).trans (h₁.accounts_of_ne key hkey),
    fun c hc => (h₂.totalIssuance_of_ne c hc).trans (h₁.totalIssuance_of_ne c hc),
    h₂.locks.trans h₁.locks⟩

theorem setTotalIssuance (l : Ledger AccountId) (issuance : Balance) :
    WritesOne l { l with totalIssuance := Function.update l.totalIssuance currencyId issuance }
      who currencyId :=
  ⟨fun _ _ => rfl, fun _ hc => Function.update_of_ne hc _ _, rfl⟩

end WritesOne

variable [DecidableEq AccountId]

attribute [ext] Ledger

/-! ## `mutate_account` on the ledger -/

/-- The ledger after `mutate_account who currency_id f`. -/
def Ledger.mutate (l : Ledger AccountId) (who : AccountId) (currencyId : CurrencyId)
    (f : AccountData → AccountData) : Ledger AccountId :=
  { l with toStore := stateOf ((mutateAccount who currencyId f).run l.toStore) }

section Mutate

variable (l : Ledger AccountId) (who : AccountId) (currencyId : CurrencyId)
  (f : AccountData → AccountData)

@[simp] theorem run_onAccounts_mutateAccount :
    (onAccounts (mutateAccount who currencyId f)).run l = .ok () (l.mutate who currencyId f) :=
  rfl

@[simp] theorem run_onAccounts_setFreeBalance (amount : Balance) :
    (onAccounts (setFreeBalance currencyId who amount)).run l =
      .ok () (l.mutate who currencyId fun account => { account with free := amount }) :=
  rfl

@[simp] theorem run_onAccounts_setReservedBalance (amount : Balance) :
    (onAccounts (setReservedBalance currencyId who amount)).run l =
      .ok () (l.mutate who currencyId fun account => { account with reserved := amount }) :=
  rfl

@[simp] theorem mutate_totalIssuance :
    (l.mutate who currencyId f).totalIssuance = l.totalIssuance :=
  rfl

@[simp] theorem mutate_locks : (l.mutate who currencyId f).locks = l.locks :=
  rfl

theorem mutate_accounts :
    (l.mutate who currencyId f).accounts = Function.update l.accounts (who, currencyId)
      (if (f (l.accounts (who, currencyId))).total = 0 then default
        else f (l.accounts (who, currencyId))) :=
  rfl

@[simp] theorem mutate_free :
    ((l.mutate who currencyId f).accounts (who, currencyId)).free =
      (f (l.accounts (who, currencyId))).free := by
  simp [mutate_accounts]

@[simp] theorem mutate_reserved :
    ((l.mutate who currencyId f).accounts (who, currencyId)).reserved =
      (f (l.accounts (who, currencyId))).reserved := by
  simp [mutate_accounts]

theorem mutate_accounts_of_ne {key : AccountId × CurrencyId} (hkey : key ≠ (who, currencyId)) :
    (l.mutate who currencyId f).accounts key = l.accounts key := by
  simp [mutate_accounts, Function.update_of_ne hkey]

end Mutate

theorem WritesOne.mutate {who : AccountId} {currencyId : CurrencyId} (l : Ledger AccountId)
    (f : AccountData → AccountData) : WritesOne l (l.mutate who currencyId f) who currencyId :=
  ⟨fun _ hkey => mutate_accounts_of_ne l who currencyId f hkey, fun _ _ => rfl, rfl⟩

section Supply

variable [Fintype AccountId] {l l' : Ledger AccountId} {who : AccountId} {currencyId : CurrencyId}

/-- A write to one record changes the supply of its currency by what the record holds. -/
theorem supply_writesOne (h : WritesOne l l' who currencyId) :
    l'.supply currencyId + (l.accounts (who, currencyId)).holding =
      l.supply currencyId + (l'.accounts (who, currencyId)).holding :=
  Supply.supply_add_of_eq_off AccountData.holding fun j hj =>
    h.accounts_of_ne (j, currencyId) fun he => hj (Prod.mk.inj he).1

/-- `mutate_account` changes the supply of its currency by what `f` adds to the record. -/
theorem supply_mutate (l : Ledger AccountId) (who : AccountId) (currencyId : CurrencyId)
    (f : AccountData → AccountData) :
    (l.mutate who currencyId f).supply currencyId + (l.accounts (who, currencyId)).holding =
      l.supply currencyId + (f (l.accounts (who, currencyId))).holding := by
  have h := supply_writesOne
    (WritesOne.mutate l f : WritesOne l (l.mutate who currencyId f) who currencyId)
  simp only [AccountData.holding, mutate_free, mutate_reserved] at h ⊢
  exact h

/-- Two accounts hold no more of a currency than its supply. -/
theorem holding_add_holding_le_supply (l : Ledger AccountId) {who who' : AccountId}
    (hne : who ≠ who') (currencyId : CurrencyId) :
    (l.accounts (who, currencyId)).holding + (l.accounts (who', currencyId)).holding ≤
      l.supply currencyId :=
  Supply.add_le_supply AccountData.holding (Supply.column l.accounts currencyId) hne

omit [DecidableEq AccountId] in
theorem supply_writesOne_of_ne (h : WritesOne l l' who currencyId) {c : CurrencyId}
    (hc : c ≠ currencyId) : l'.supply c = l.supply c := by
  unfold Store.supply
  congr 1
  funext j
  exact h.accounts_of_ne (j, c) fun he => hc (Prod.mk.inj he).2

end Supply

/-! ## Minting and burning -/

section Functions

variable {l l' : Ledger AccountId} {who : AccountId} {currencyId : CurrencyId}

omit [DecidableEq AccountId] in
/-- `ensure_can_withdraw` passes exactly when the free balance covers `amount` and what is left
covers the frozen amount. -/
theorem run_ensureCanWithdraw_eq_ok {t t' : Store AccountId} {amount : Balance} {u : Unit} :
    (ensureCanWithdraw currencyId who amount).run t = .ok u t' ↔
      t' = t ∧ (amount = 0 ∨ amount.val ≤ (t.accounts (who, currencyId)).free.val ∧
        (t.accounts (who, currencyId)).frozen ≤ (t.accounts (who, currencyId)).free - amount) := by
  unfold ensureCanWithdraw
  split
  · rename_i hamount
    simp [hamount, eq_comm]
  rename_i hamount
  simp only [run_bind_eq_ok, run_get_eq_ok, hamount, false_or]
  constructor
  · rintro ⟨_, _, ⟨rfl, rfl⟩, h⟩
    split at h
    · rename_i newBalance hsub
      obtain ⟨hle, hval⟩ := UWord.checkedSub_eq_some.1 hsub
      obtain ⟨hcheck, rfl⟩ := run_ensure_eq_ok.1 h
      have hnew : newBalance = (t.accounts (who, currencyId)).free - amount :=
        Fin.ext (by rw [hval, UWord.val_sub_of_le hle])
      exact ⟨rfl, hle, hnew ▸ of_decide_eq_true hcheck⟩
    · simp at h
  · rintro ⟨ht, hle, hfrozen⟩
    subst t'
    refine ⟨_, _, ⟨rfl, rfl⟩, ?_⟩
    have hsub : (t.accounts (who, currencyId)).free.checkedSub amount =
        some ((t.accounts (who, currencyId)).free - amount) :=
      UWord.checkedSub_eq_some.2 ⟨hle, UWord.val_sub_of_le hle⟩
    simp only [hsub]
    exact run_ensure_eq_ok.2 ⟨decide_eq_true hfrozen, rfl⟩

/-- A successful `deposit` checked the new issuance and wrote it, with the free balance plus
`amount`. -/
theorem deposit_ok {amount : Balance} {u : Unit}
    (h : (deposit currencyId who amount).run l = .ok u l') :
    amount = 0 ∧ l' = l ∨ amount ≠ 0 ∧ ∃ issuance,
      (l.totalIssuance currencyId).checkedAdd amount = some issuance ∧
      l' = { l.mutate who currencyId (fun account =>
          { account with free := (l.accounts (who, currencyId)).free + amount }) with
        totalIssuance := Function.update l.totalIssuance currencyId issuance } := by
  unfold deposit at h
  split at h
  · exact .inl ⟨‹_›, (run_pure_eq_ok.1 h).2.symm⟩
  rename_i hamount
  simp only [run_bind_eq_ok, run_get_eq_ok] at h
  obtain ⟨_, _, ⟨rfl, rfl⟩, h⟩ := h
  -- the `checked_add` of the issuance
  split at h
  · rename_i issuance hissuance
    simp only [run_bind_eq_ok, run_get_eq_ok, run_onAccounts_setFreeBalance] at h
    obtain ⟨_, _, ⟨rfl, rfl⟩, _, _, ⟨rfl, rfl⟩, h⟩ := h
    exact .inr ⟨hamount, issuance, hissuance, (run_modify_eq_ok.1 h)⟩
  · simp at h

theorem deposit_error {amount : Balance} {e : LedgerError}
    (h : (deposit currencyId who amount).run l = .error e l') :
    l' = l ∧ e = .totalIssuanceOverflow := by
  unfold deposit at h
  split at h
  · simp at h
  simp only [run_bind_eq_error, run_get_eq_ok] at h
  rcases h with hget | ⟨_, _, ⟨rfl, rfl⟩, h⟩
  · simp at hget
  -- only the issuance check can fail, before any write
  split at h
  · simp [setTotalIssuance] at h
  · obtain ⟨rfl, rfl⟩ := EStateM.Result.error.inj h
    exact ⟨rfl, rfl⟩

/-- A successful `withdraw` passed the withdrawal check, took `amount` off the issuance and then
off the free balance. -/
theorem withdraw_ok {amount : Balance} {u : Unit}
    (h : (withdraw currencyId who amount).run l = .ok u l') :
    amount = 0 ∧ l' = l ∨ amount ≠ 0 ∧ amount.val ≤ (l.accounts (who, currencyId)).free.val ∧
      (l.accounts (who, currencyId)).frozen ≤ (l.accounts (who, currencyId)).free - amount ∧
      l' = Ledger.mutate { l with totalIssuance := (Function.update l.totalIssuance currencyId
          (l.totalIssuance currencyId - amount)) } who currencyId (fun account =>
        { account with free := (l.accounts (who, currencyId)).free - amount }) := by
  unfold withdraw at h
  split at h
  · exact .inl ⟨‹_›, (run_pure_eq_ok.1 h).2.symm⟩
  rename_i hamount
  simp only [run_bind_eq_ok, run_get_eq_ok] at h
  obtain ⟨_, _, hcheck, _, _, ⟨rfl, rfl⟩, _, _, hissuance, _, _, ⟨rfl, rfl⟩, h⟩ := h
  obtain ⟨t, hensure, rfl⟩ := run_onAccounts_eq_ok.1 hcheck
  obtain ⟨rfl, hle⟩ := run_ensureCanWithdraw_eq_ok.1 hensure
  obtain ⟨hle, hfrozen⟩ := hle.resolve_left hamount
  obtain rfl := run_modify_eq_ok.1 hissuance
  obtain ⟨-, rfl⟩ := (EStateM.Result.ok.inj (h.symm.trans (run_onAccounts_setFreeBalance _ _ _ _)))
  exact .inr ⟨hamount, hle, hfrozen, rfl⟩

/-- A withdrawal the free balance covers, leaving the frozen amount covered, succeeds. -/
theorem run_withdraw {amount : Balance} (hamount : amount ≠ 0)
    (hle : amount.val ≤ (l.accounts (who, currencyId)).free.val)
    (hfrozen : (l.accounts (who, currencyId)).frozen ≤ (l.accounts (who, currencyId)).free - amount) :
    (withdraw currencyId who amount).run l =
      .ok () (Ledger.mutate { l with totalIssuance := (Function.update l.totalIssuance currencyId
          (l.totalIssuance currencyId - amount)) } who currencyId (fun account =>
        { account with free := (l.accounts (who, currencyId)).free - amount })) := by
  have hcheck : (ensureCanWithdraw currencyId who amount).run l.toStore = .ok () l.toStore :=
    run_ensureCanWithdraw_eq_ok.2 ⟨rfl, .inr ⟨hle, hfrozen⟩⟩
  unfold withdraw
  simp only [hamount, if_false]
  rw [EStateM.run_bind, run_onAccounts_eq_ok.2 ⟨_, hcheck, rfl⟩]
  rfl

theorem withdraw_error {amount : Balance} {e : LedgerError}
    (h : (withdraw currencyId who amount).run l = .error e l') :
    l' = l ∧ ∃ e₀, e = .dispatch e₀ := by
  unfold withdraw at h
  split at h
  · simp at h
  simp only [run_bind_eq_error, run_get_eq_ok] at h
  -- only the withdrawal check can fail, and it writes nothing
  rcases h with hcheck | ⟨_, _, hcheck, h⟩
  · obtain ⟨e₀, t, hensure, rfl, rfl⟩ := run_onAccounts_eq_error.1 hcheck
    exact ⟨congrArg (fun t => { l with toStore := t }) (ensureCanWithdraw_error hensure), e₀, rfl⟩
  · simp [setTotalIssuance] at h

/-- `slash` takes what it can of `amount` from the free balance, then what it can of the rest
from the reserved balance, burns what it took and returns what it could not take. -/
theorem slash_ok {amount r : Balance} (h : (slash currencyId who amount).run l = .ok r l') :
    let account := l.accounts (who, currencyId)
    let freeSlashedAmount := min account.free amount
    let reservedSlashedAmount := min account.reserved (amount - freeSlashedAmount)
    WritesOne l l' who currencyId ∧
      (l'.accounts (who, currencyId)).free = account.free - freeSlashedAmount ∧
      (l'.accounts (who, currencyId)).reserved = account.reserved - reservedSlashedAmount ∧
      r = amount - freeSlashedAmount - reservedSlashedAmount ∧
      l'.totalIssuance currencyId = l.totalIssuance currencyId - (amount - r) := by
  dsimp only
  unfold slash at h
  split at h
  · rename_i hamount
    obtain ⟨rfl, rfl⟩ := run_pure_eq_ok.1 h
    subst hamount
    simp [WritesOne.rfl']
  simp only [run_bind_eq_ok, run_get_eq_ok] at h
  obtain ⟨_, _, ⟨rfl, rfl⟩, h⟩ := h
  -- whether anything is taken from the free balance, then whether anything is left to take
  -- from the reserved one: four paths, each ending in the write of the issuance
  split at h <;> split at h <;>
    simp only [run_bind_eq_ok, run_get_eq_ok, run_onAccounts_setFreeBalance,
      run_onAccounts_setReservedBalance, EStateM.Result.ok.injEq] at h
  · obtain ⟨_, _, ⟨-, rfl⟩, _, _, ⟨-, rfl⟩, _, _, ⟨rfl, rfl⟩, _, _, hissuance, hpure⟩ := h
    obtain ⟨rfl, rfl⟩ := run_pure_eq_ok.1 hpure
    obtain rfl := run_modify_eq_ok.1 hissuance
    exact ⟨((WritesOne.mutate _ _).trans (WritesOne.mutate _ _)).trans
      (WritesOne.setTotalIssuance _ _), by simp, by simp, rfl, by simp⟩
  · rename_i hreserved
    obtain ⟨_, _, ⟨-, rfl⟩, _, _, ⟨rfl, rfl⟩, _, _, hissuance, hpure⟩ := h
    obtain ⟨rfl, rfl⟩ := run_pure_eq_ok.1 hpure
    obtain rfl := run_modify_eq_ok.1 hissuance
    exact ⟨(WritesOne.mutate _ _).trans (WritesOne.setTotalIssuance _ _), by simp,
      by simp [not_not.1 hreserved], by simp [not_not.1 hreserved], by simp⟩
  · rename_i hfree _
    obtain ⟨_, _, ⟨-, rfl⟩, _, _, ⟨rfl, rfl⟩, _, _, hissuance, hpure⟩ := h
    obtain ⟨rfl, rfl⟩ := run_pure_eq_ok.1 hpure
    obtain rfl := run_modify_eq_ok.1 hissuance
    exact ⟨(WritesOne.mutate _ _).trans (WritesOne.setTotalIssuance _ _),
      by simp [not_not.1 hfree], by simp, rfl, by simp⟩
  · rename_i hfree hreserved
    obtain ⟨_, _, ⟨rfl, rfl⟩, _, _, hissuance, hpure⟩ := h
    obtain ⟨rfl, rfl⟩ := run_pure_eq_ok.1 hpure
    obtain rfl := run_modify_eq_ok.1 hissuance
    exact ⟨WritesOne.setTotalIssuance _ _, by simp [not_not.1 hfree],
      by simp [not_not.1 hreserved], by simp [not_not.1 hreserved], by simp⟩

/-- `slash_reserved` burns what it can of `value` from the reserved balance and returns the
rest. -/
theorem slashReserved_ok {value r : Balance}
    (h : (slashReserved currencyId who value).run l = .ok r l') :
    let account := l.accounts (who, currencyId)
    let actual := min account.reserved value
    WritesOne l l' who currencyId ∧ (l'.accounts (who, currencyId)).free = account.free ∧
      (l'.accounts (who, currencyId)).reserved = account.reserved - actual ∧
      r = value - actual ∧
      l'.totalIssuance currencyId = l.totalIssuance currencyId - actual := by
  dsimp only
  unfold slashReserved at h
  split at h
  · rename_i hvalue
    obtain ⟨rfl, rfl⟩ := run_pure_eq_ok.1 h
    subst hvalue
    simp [WritesOne.rfl']
  simp only [run_bind_eq_ok, run_get_eq_ok, run_onAccounts_setReservedBalance,
    EStateM.Result.ok.injEq] at h
  obtain ⟨_, _, ⟨rfl, rfl⟩, _, _, ⟨-, rfl⟩, _, _, ⟨rfl, rfl⟩, _, _, hissuance, hpure⟩ := h
  obtain ⟨rfl, rfl⟩ := run_pure_eq_ok.1 hpure
  obtain rfl := run_modify_eq_ok.1 hissuance
  exact ⟨(WritesOne.mutate _ _).trans (WritesOne.setTotalIssuance _ _), by simp, by simp, rfl,
    by simp⟩

omit [DecidableEq AccountId] in
/-- The absolute value `update_balance` converts, `i128::MAX` for `i128::MIN`, is a balance. -/
theorem balanceOfInt_saturatingAbs (byAmount : Amount) :
    ∃ byBalance : Balance,
      balanceOfInt (if byAmount.val = -2 ^ 127 then 2 ^ 127 - 1 else |byAmount.val|) =
        some byBalance ∧
      (byBalance.val : ℤ) = (if byAmount.val = -2 ^ 127 then 2 ^ 127 - 1 else |byAmount.val|) := by
  have hle := byAmount.le_val
  have hlt := byAmount.val_lt
  have hrange : 0 ≤ (if byAmount.val = -2 ^ 127 then 2 ^ 127 - 1 else |byAmount.val|) ∧
      (if byAmount.val = -2 ^ 127 then 2 ^ 127 - 1 else |byAmount.val|) < 2 ^ 128 := by
    split
    · omega
    · constructor <;> rcases abs_cases byAmount.val with habs | habs <;> omega
  exact ⟨_, dif_pos hrange, Int.toNat_of_nonneg hrange.1⟩

/-- `update_balance` deposits or withdraws the absolute value of `by_amount`, `i128::MAX` for
`i128::MIN`. -/
theorem updateBalance_ok {byAmount : Amount} {u : Unit}
    (h : (updateBalance currencyId who byAmount).run l = .ok u l') :
    byAmount.val = 0 ∧ l' = l ∨ ∃ byBalance : Balance,
      (byBalance.val : ℤ) = (if byAmount.val = -2 ^ 127 then 2 ^ 127 - 1 else |byAmount.val|) ∧
      (0 < byAmount.val ∧ (deposit currencyId who byBalance).run l = .ok u l' ∨
        byAmount.val < 0 ∧ (withdraw currencyId who byBalance).run l = .ok u l') := by
  unfold updateBalance at h
  split at h
  · exact .inl ⟨‹_›, (run_pure_eq_ok.1 h).2.symm⟩
  rename_i hzero
  obtain ⟨byBalance, hconvert, hval⟩ := balanceOfInt_saturatingAbs byAmount
  dsimp only at h
  simp only [hconvert] at h
  refine .inr ⟨byBalance, hval, ?_⟩
  split at h
  · exact .inl ⟨‹_›, h⟩
  · exact .inr ⟨by omega, h⟩

/-- A failed `update_balance` writes nothing, and it never fails to convert the amount. -/
theorem updateBalance_error {byAmount : Amount} {e : LedgerError}
    (h : (updateBalance currencyId who byAmount).run l = .error e l') :
    l' = l ∧ e ≠ .amountIntoBalanceFailed := by
  unfold updateBalance at h
  split at h
  · simp at h
  obtain ⟨byBalance, hconvert, -⟩ := balanceOfInt_saturatingAbs byAmount
  dsimp only at h
  simp only [hconvert] at h
  split at h
  · obtain ⟨rfl, rfl⟩ := deposit_error h
    exact ⟨rfl, nofun⟩
  · obtain ⟨rfl, e₀, rfl⟩ := withdraw_error h
    exact ⟨rfl, nofun⟩

/-! ## Moving reserved balances -/

/-- `repatriate_reserved` between two accounts moves what it can of `value` out of the reserved
balance of `slashed` into the balance of `beneficiary` that `status` names, and returns the rest;
within one account it is `unreserve`, or nothing. -/
theorem repatriateReserved_ok {slashed beneficiary : AccountId} {value r : Balance}
    {status : BalanceStatus}
    (h : (repatriateReserved currencyId slashed beneficiary value status).run l = .ok r l') :
    let fromAccount := l.accounts (slashed, currencyId)
    let toAccount := l.accounts (beneficiary, currencyId)
    let actual := min fromAccount.reserved value
    l' = l ∧ r = value ∨
      slashed = beneficiary ∧
        (status = .free ∧ (onAccounts (unreserve currencyId slashed value)).run l = .ok r l' ∨
          status = .reserved ∧ l' = l) ∨
      slashed ≠ beneficiary ∧ r = value - actual ∧
        (status = .free ∧ l' = (l.mutate beneficiary currencyId fun account =>
            { account with free := toAccount.free + actual }).mutate slashed currencyId
              (fun account => { account with reserved := fromAccount.reserved - actual }) ∨
          status = .reserved ∧ l' = (l.mutate beneficiary currencyId fun account =>
            { account with reserved := toAccount.reserved + actual }).mutate slashed currencyId
              (fun account => { account with reserved := fromAccount.reserved - actual })) := by
  dsimp only
  unfold repatriateReserved at h
  split at h
  · obtain ⟨rfl, rfl⟩ := run_pure_eq_ok.1 h
    exact .inl ⟨rfl, rfl⟩
  split at h
  · rename_i hsame
    refine .inr (.inl ⟨hsame, ?_⟩)
    cases status with
    | free =>
      exact .inl ⟨rfl, h⟩
    | reserved =>
      simp only [run_bind_eq_ok, run_get_eq_ok, run_pure_eq_ok] at h
      obtain ⟨_, _, ⟨rfl, rfl⟩, -, rfl⟩ := h
      exact .inr ⟨rfl, rfl⟩
  rename_i hne
  refine .inr (.inr ⟨hne, ?_⟩)
  simp only [run_bind_eq_ok, run_get_eq_ok] at h
  obtain ⟨_, _, ⟨rfl, rfl⟩, _, _, ⟨rfl, rfl⟩, h⟩ := h
  cases status with
  | free =>
    simp only [run_bind_eq_ok, run_onAccounts_setFreeBalance, run_onAccounts_setReservedBalance,
      EStateM.Result.ok.injEq, run_pure_eq_ok] at h
    obtain ⟨_, _, ⟨-, rfl⟩, _, _, ⟨-, rfl⟩, rfl, rfl⟩ := h
    exact ⟨rfl, .inl ⟨rfl, rfl⟩⟩
  | reserved =>
    simp only [run_bind_eq_ok, run_onAccounts_setReservedBalance, EStateM.Result.ok.injEq,
      run_pure_eq_ok] at h
    obtain ⟨_, _, ⟨-, rfl⟩, _, _, ⟨-, rfl⟩, rfl, rfl⟩ := h
    exact ⟨rfl, .inr ⟨rfl, rfl⟩⟩

/-! ## Locks -/

/-- The frozen amount `update_locks` computes for `locks`: the largest of their amounts. -/
def lockedAmount (locks : List BalanceLock) : Balance :=
  locks.foldl (fun frozen lock => max frozen lock.amount) 0

omit [DecidableEq AccountId] in
/-- The frozen amount covers every lock. -/
theorem le_lockedAmount {locks : List BalanceLock} {lock : BalanceLock} (h : lock ∈ locks) :
    lock.amount ≤ lockedAmount locks := by
  unfold lockedAmount
  -- the running maximum only grows, and each lock raises it to at least its amount
  have hgrow : ∀ (locks : List BalanceLock) (frozen : Balance),
      frozen ≤ locks.foldl (fun frozen lock => max frozen lock.amount) frozen := by
    intro locks
    induction locks with
    | nil => exact fun _ => le_rfl
    | cons lock locks ih => exact fun frozen => (le_max_left _ _).trans (ih _)
  generalize (0 : Balance) = frozen
  induction locks generalizing frozen with
  | nil => cases h
  | cons first locks ih =>
    rcases List.mem_cons.1 h with rfl | hmem
    · exact (le_max_right _ _).trans (hgrow _ _)
    · exact ih hmem _

omit [DecidableEq AccountId] in
/-- Merging into locks none of which is new drops every lock with the id. -/
theorem mergeLocks_none (merge : BalanceLock → BalanceLock → BalanceLock)
    (lockId : LockIdentifier) (locks : List BalanceLock) :
    mergeLocks merge lockId none locks = (locks.filter fun lock => lock.id ≠ lockId, none) := by
  induction locks with
  | nil => rfl
  | cons lock locks ih =>
    by_cases hid : lock.id = lockId
    · simp [mergeLocks, hid, ih]
    · simp [mergeLocks, hid, ih]

omit [DecidableEq AccountId] in
/-- `set_lock` and `extend_lock` leave the locks with other ids as they were, and exactly one lock
with the id: the first one merged with the new lock, or the new lock when there was none. -/
theorem mergeLocks_filter {merge : BalanceLock → BalanceLock → BalanceLock}
    {lockId : LockIdentifier} {newLock : BalanceLock} (hnew : newLock.id = lockId)
    (hmerge : ∀ lock, lock.id = lockId → (merge lock newLock).id = lockId)
    (locks : List BalanceLock) :
    ((mergeLocks merge lockId (some newLock) locks).1 ++
        (mergeLocks merge lockId (some newLock) locks).2.toList).filter
        (fun lock => lock.id ≠ lockId) = locks.filter (fun lock => lock.id ≠ lockId) ∧
      ((mergeLocks merge lockId (some newLock) locks).1 ++
        (mergeLocks merge lockId (some newLock) locks).2.toList).filter
        (fun lock => lock.id = lockId) =
        [((locks.find? fun lock => lock.id = lockId).map fun lock => merge lock newLock).getD
          newLock] := by
  induction locks with
  | nil => simp [mergeLocks, hnew]
  | cons lock locks ih =>
    by_cases hid : lock.id = lockId
    · -- the first lock with the id takes the new one; the later ones are dropped
      simp [mergeLocks, hid, mergeLocks_none, hmerge lock hid]
    · obtain ⟨ihne, iheq⟩ := ih
      simp only [List.filter_append, ne_eq, decide_not] at ihne iheq
      simp [mergeLocks, hid, ihne, iheq]

/-- `update_locks` cannot fail: it freezes the largest amount of `locks` and stores them. -/
@[simp] theorem run_updateLocks (locks : List BalanceLock) :
    (updateLocks currencyId who locks).run l =
      .ok () { l.mutate who currencyId (fun account =>
          { account with frozen := lockedAmount locks }) with
        locks := Function.update l.locks (who, currencyId) locks } :=
  rfl

/-- `set_lock` and `extend_lock` rebuild the locks with `merge_locks` and push what is left of the
new lock; a zero amount changes nothing. -/
theorem putLock_ok {merge : BalanceLock → BalanceLock → BalanceLock} {lockId : LockIdentifier}
    {amount : Balance} {u : Unit}
    (h : (putLock merge lockId currencyId who amount).run l = .ok u l') :
    amount = 0 ∧ l' = l ∨ amount ≠ 0 ∧
      (updateLocks currencyId who
        ((mergeLocks merge lockId (some { id := lockId, amount }) (l.locks (who, currencyId))).1 ++
          (mergeLocks merge lockId (some { id := lockId, amount })
            (l.locks (who, currencyId))).2.toList)).run l = .ok u l' := by
  unfold putLock at h
  split at h
  · exact .inl ⟨‹_›, (run_pure_eq_ok.1 h).2.symm⟩
  rename_i hamount
  simp only [run_bind_eq_ok, run_get_eq_ok] at h
  obtain ⟨_, _, ⟨rfl, rfl⟩, h⟩ := h
  exact .inr ⟨hamount, h⟩

theorem putLock_noFail (merge : BalanceLock → BalanceLock → BalanceLock) (lockId : LockIdentifier)
    (amount : Balance) : NoFail (putLock merge lockId currencyId who amount) := by
  intro l
  unfold putLock
  split
  · exact ⟨_, _, rfl⟩
  · exact ⟨_, _, rfl⟩

theorem removeLock_run (lockId : LockIdentifier) :
    (removeLock lockId currencyId who).run l =
      (updateLocks currencyId who
        ((l.locks (who, currencyId)).filter fun lock => lock.id ≠ lockId)).run l :=
  rfl

/-! ## Code that cannot fail -/

theorem slash_noFail (amount : Balance) : NoFail (slash currencyId who amount : LedgerM AccountId _) := by
  intro l
  unfold slash
  split
  · exact ⟨_, _, rfl⟩
  simp only [EStateM.run_bind, EStateM.run_get]
  split <;> split <;> exact ⟨_, _, rfl⟩

theorem slashReserved_noFail (value : Balance) :
    NoFail (slashReserved currencyId who value : LedgerM AccountId _) := by
  intro l
  unfold slashReserved
  split
  · exact ⟨_, _, rfl⟩
  · exact ⟨_, _, rfl⟩

theorem repatriateReserved_noFail (slashed beneficiary : AccountId) (value : Balance)
    (status : BalanceStatus) :
    NoFail (repatriateReserved currencyId slashed beneficiary value status) := by
  intro l
  unfold repatriateReserved
  split
  · exact ⟨_, _, rfl⟩
  split
  · cases status with
    | free =>
      exact noFail_onAccounts (unreserve_noFail currencyId slashed value) l
    | reserved => exact ⟨_, _, rfl⟩
  · cases status <;> exact ⟨_, _, rfl⟩

/-! ## Genesis -/

/-- One endowment of the genesis build: the balance reached the existential deposit, became the
free balance, and was added to the issuance without overflow. -/
theorem endow_ok {existentialDeposits : CurrencyId → Balance} {initialBalance : Balance}
    (h : endow existentialDeposits l (who, currencyId, initialBalance) = some l') :
    existentialDeposits currencyId ≤ initialBalance ∧ ∃ issuance,
      (l.totalIssuance currencyId).checkedAdd initialBalance = some issuance ∧
      l' = { l.mutate who currencyId (fun account => { account with free := initialBalance }) with
        totalIssuance := Function.update l.totalIssuance currencyId issuance } := by
  unfold endow at h
  by_cases hed : existentialDeposits currencyId ≤ initialBalance
  · simp only [hed, guard, if_true, Option.bind_eq_bind, Option.bind_eq_some_iff,
      Option.pure_def, Option.some.injEq] at h
    obtain ⟨-, -, issuance, hissuance, rfl⟩ := h
    exact ⟨hed, issuance, hissuance, rfl⟩
  · simp [hed] at h

/-- A successful genesis build found no account endowed twice in one currency, and endowed each in
turn from empty storage. -/
theorem build_ok {existentialDeposits : CurrencyId → Balance}
    {endowedAccounts : List (AccountId × CurrencyId × Balance)} {l : Ledger AccountId}
    (h : GenesisConfig.build existentialDeposits endowedAccounts = some l) :
    (endowedAccounts.map fun (who, currencyId, _) => (who, currencyId)).Nodup ∧
      endowedAccounts.foldlM (endow existentialDeposits) (Ledger.empty AccountId) = some l := by
  unfold GenesisConfig.build at h
  by_cases hunique :
      (endowedAccounts.map fun (who, currencyId, _) => (who, currencyId)).dedup.length =
        endowedAccounts.length
  · simp only [hunique, guard, if_true, Option.bind_eq_bind, Option.bind_eq_some_iff] at h
    obtain ⟨-, -, h⟩ := h
    -- the `BTreeSet` has as many keys as the list only when no key repeats
    have hkeys := List.dedup_sublist
      (endowedAccounts.map fun (who, currencyId, _) => (who, currencyId))
    have hlength :
        (endowedAccounts.map fun (who, currencyId, _) => (who, currencyId)).dedup.length =
          (endowedAccounts.map fun (who, currencyId, _) => (who, currencyId)).length := by
      rw [hunique, List.length_map]
    exact ⟨hkeys.eq_of_length hlength ▸ List.nodup_dedup _, h⟩
  · simp [hunique] at h

end Functions

end Nftmart.Tokens
