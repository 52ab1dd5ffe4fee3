import Mathlib
import Nftmart.Lib.Effect
import Nftmart.Lib.Supply
import Nftmart.Model.Runtime
import Nftmart.Spec.Currencies

/-!
# Money in the currency back-ends

What an account holds in a currency is its free plus its reserved balance (`holding`); the money
in existence is the sum of that over all accounts (`Balances.Store.supply`,
`Tokens.Store.supply`). `AccountId` ranges over a finite type for these sums, as the runtime's
`AccountId32` does.

Each operation the NFT pallet calls on a back-end is measured against that sum, on every run,
successful or not.

* `pallet_balances` never creates money. `reserve` and `unreserve` move it between the free
  and the reserved balance of one account, `transfer` between two accounts, and `post_mutation`
  destroys what an account holds when it falls below the existential deposit
  (`supply_update_postMutation`). `unreserve` adds with `saturating_add`, which can only lose.
* `orml_tokens` neither creates nor destroys money, as long as the supply of the currency fits
  in a `u128`, as its `TotalIssuance` does: then no account holds more than `u128::MAX`, and none
  of the unchecked additions of `reserve` and `unreserve` wraps. Removing a record whose total is
  zero (`mutate_account`) resets only its frozen amount (`reset_free`, `reset_reserved`).

## Main results

* `Balances.reserve_supply`, `Balances.unreserve_supply`, `Balances.transfer_supply`.
* `Tokens.reserve_supply`, `Tokens.unreserve_supply`, `Tokens.transfer_supply`.
-/

namespace Nftmart

open Effect

/-- What an account holds: its free and its reserved balance, added without saturation. -/
def AccountData.holding (account : AccountData) : ℕ :=
  account.free.val + account.reserved.val

@[simp] theorem AccountData.holding_default : (default : AccountData).holding = 0 := rfl

@[simp] theorem AccountData.default_free : (default : AccountData).free = 0 := rfl

@[simp] theorem AccountData.default_reserved : (default : AccountData).reserved = 0 := rfl

@[simp] theorem AccountData.default_frozen : (default : AccountData).frozen = 0 := rfl

/-- The saturating `total` is zero exactly when the account holds nothing. -/
theorem AccountData.total_eq_zero_iff (account : AccountData) :
    account.total = 0 ↔ account.free.val = 0 ∧ account.reserved.val = 0 := by
  rw [Fin.ext_iff]
  simp only [AccountData.total, UWord.val_saturatingAdd, Fin.val_zero]
  omega

variable {AccountId : Type} [Fintype AccountId]

/-- The native currency in existence: what every account holds in `pallet_balances`. -/
def Balances.Store.supply (b : Balances.Store AccountId) : ℕ :=
  Supply.supply AccountData.holding b.account

/-- The currency `currencyId` in existence in `orml_tokens`. -/
def Tokens.Store.supply (t : Tokens.Store AccountId) (currencyId : CurrencyId) : ℕ :=
  Supply.supply AccountData.holding (Supply.column t.accounts currencyId)

/-! ## `pallet_balances` -/

namespace Balances

/-- `b'` holds no more native currency than `b`. -/
def SupplyLe (b b' : Store AccountId) : Prop :=
  b'.supply ≤ b.supply

instance : Std.Refl (@SupplyLe AccountId _) := ⟨fun _ => le_refl _⟩

instance : IsTrans (Store AccountId) SupplyLe := ⟨fun _ _ _ h₁ h₂ => le_trans h₂ h₁⟩

omit [Fintype AccountId]

theorem holding_postMutation_le (ed : Balance) (new : AccountData) :
    (postMutation ed new).holding ≤ new.holding := by
  unfold postMutation
  split
  · simp
  · exact le_refl _

variable [DecidableEq AccountId]

/-- `try_mutate_account` writes the record its closure returns, through `post_mutation`. -/
theorem tryMutateAccount_ok {α : Type} {ed : Balance} {who : AccountId}
    {f : AccountData → Except DispatchError (AccountData × α)} {b b' : Store AccountId} {a : α}
    (h : (tryMutateAccount ed who f).run b = .ok a b') :
    ∃ account, f (b.account who) = .ok (account, a) ∧
      b' = { b with account := Function.update b.account who (postMutation ed account) } := by
  simp only [tryMutateAccount, writeAccount, run_bind_eq_ok, run_get_eq_ok, run_ofExcept_eq_ok,
    run_modify_eq_ok, run_pure_eq_ok] at h
  obtain ⟨_, _, ⟨rfl, rfl⟩, ⟨account, _⟩, _, ⟨hf, rfl⟩, _, _, rfl, rfl, rfl⟩ := h
  exact ⟨account, hf, rfl⟩

/-- When the closure of `try_mutate_account` fails, nothing is written. -/
theorem tryMutateAccount_error {α : Type} {ed : Balance} {who : AccountId}
    {f : AccountData → Except DispatchError (AccountData × α)} {b b' : Store AccountId}
    {e : DispatchError} (h : (tryMutateAccount ed who f).run b = .error e b') : b' = b := by
  unfold tryMutateAccount at h
  rcases run_bind_eq_error.1 h with hget | ⟨_, _, hget, h⟩
  · simp at hget
  obtain ⟨rfl, rfl⟩ := run_get_eq_ok.1 hget
  rcases run_bind_eq_error.1 h with hf | ⟨_, _, _, hwrite⟩
  · exact (run_ofExcept_eq_error.1 hf).2
  · simp [writeAccount] at hwrite

/-- The closure pair of `transfer` succeeds only with the debit and the credit in range, and
then returns the two records with those free balances; every later check only fails. -/
theorem transferAccounts_ok {ed : Balance} {providerRequired : Bool} {req : ExistenceRequirement}
    {value : Balance} {fromAccount toAccount fromAccount' toAccount' : AccountData}
    (h : transferAccounts ed providerRequired req value fromAccount toAccount =
      .ok (fromAccount', toAccount')) :
    ∃ fromFree toFree, fromAccount.free.checkedSub value = some fromFree ∧
      toAccount.free.checkedAdd value = some toFree ∧
      fromAccount' = { fromAccount with free := fromFree } ∧
      toAccount' = { toAccount with free := toFree } := by
  cases hfrom : fromAccount.free.checkedSub value with
  | none => simp [transferAccounts, hfrom] at h
  | some fromFree =>
    cases hto : toAccount.free.checkedAdd value with
    | none => simp [transferAccounts, hfrom, hto] at h
    | some toFree =>
      refine ⟨fromFree, toFree, rfl, rfl, ?_⟩
      simp only [transferAccounts, hfrom, hto, bind, Except.bind] at h
      repeat' split at h
      all_goals first
        | (simp only [pure, Except.pure, Except.ok.injEq, Prod.mk.injEq] at h
           exact ⟨h.1.symm, h.2.symm⟩)
        | simp at h

/-- `transfer` writes nothing for a zero value or a transfer to oneself; otherwise it writes
the two records the closures return, the sender's first. -/
theorem transfer_ok {ed : Balance} {transactor dest : AccountId} {value : Balance}
    {req : ExistenceRequirement} {b b' : Store AccountId} {u : Unit}
    (h : (transfer ed transactor dest value req).run b = .ok u b') :
    b' = b ∨ transactor ≠ dest ∧ ∃ fromAccount toAccount,
      transferAccounts ed (b.consumers transactor != 0) req value (b.account transactor)
        (b.account dest) = .ok (fromAccount, toAccount) ∧
      b' = { b with account := (Function.update
        (Function.update b.account transactor (postMutation ed fromAccount)) dest
        (postMutation ed toAccount)) } := by
  unfold transfer at h
  split at h
  · exact .inl (run_pure_eq_ok.1 h).2.symm
  rename_i hmove
  simp only [writeAccount, run_bind_eq_ok, run_get_eq_ok, run_ofExcept_eq_ok,
    run_modify_eq_ok] at h
  obtain ⟨_, _, ⟨rfl, rfl⟩, ⟨fromAccount, toAccount⟩, _, ⟨hacc, rfl⟩, _, _, rfl, rfl⟩ := h
  exact .inr ⟨fun he => hmove (.inr he), fromAccount, toAccount, hacc, rfl⟩

/-- A failed `transfer` has written nothing: both closures fail before any write. -/
theorem transfer_error {ed : Balance} {transactor dest : AccountId} {value : Balance}
    {req : ExistenceRequirement} {b b' : Store AccountId} {e : DispatchError}
    (h : (transfer ed transactor dest value req).run b = .error e b') : b' = b := by
  unfold transfer at h
  split at h
  · simp at h
  rcases run_bind_eq_error.1 h with hget | ⟨_, _, hget, h⟩
  · simp at hget
  obtain ⟨rfl, rfl⟩ := run_get_eq_ok.1 hget
  rcases run_bind_eq_error.1 h with hacc | ⟨_, _, _, hwrite⟩
  · exact (run_ofExcept_eq_error.1 hacc).2
  · simp [writeAccount] at hwrite

variable [Fintype AccountId]

/-- Writing the record of `who` through `post_mutation` changes the supply by at most what the
new record holds beyond the old one. -/
theorem supply_update_postMutation (b : Store AccountId) (ed : Balance) (who : AccountId)
    (new : AccountData) :
    ({ b with account := Function.update b.account who (postMutation ed new) } :
        Store AccountId).supply + (b.account who).holding ≤ b.supply + new.holding := by
  have hupdate := Supply.supply_update_add AccountData.holding b.account who
    (postMutation ed new)
  have hle := holding_postMutation_le ed new
  simp only [Store.supply] at hupdate ⊢
  omega

/-- A `try_mutate_account` whose closure never adds to the record's holding never adds to the
supply. -/
theorem tryMutateAccount_supply {α : Type} {ed : Balance} {who : AccountId}
    {f : AccountData → Except DispatchError (AccountData × α)}
    (hf : ∀ account account' a, f account = .ok (account', a) →
      account'.holding ≤ account.holding) :
    Keeps SupplyLe (tryMutateAccount ed who f) := by
  intro b
  cases h : (tryMutateAccount ed who f).run b with
  | ok a b' =>
    obtain ⟨account, hacc, rfl⟩ := tryMutateAccount_ok h
    have hwrite := supply_update_postMutation b ed who account
    have hheld := hf _ _ _ hacc
    simp only [stateOf_ok, SupplyLe]
    omega
  | error e b' =>
    rw [tryMutateAccount_error h]
    exact le_refl _

theorem reserve_supply (ed : Balance) (who : AccountId) (value : Balance) :
    Keeps SupplyLe (reserve ed who value) := by
  unfold reserve
  refine Keeps.ite (Keeps.pure _) (tryMutateAccount_supply fun account account' u hf => ?_)
  -- the closure: `checked_sub` of the free balance, `checked_add` of the reserved one, and the
  -- lock check; the record it returns holds what the old one did
  split at hf
  · rename_i free hfree
    split at hf
    · rename_i reserved hreserved
      simp only [bind, Except.bind] at hf
      split at hf
      · cases hf
      · simp only [pure, Except.pure, Except.ok.injEq, Prod.mk.injEq] at hf
        obtain ⟨rfl, -⟩ := hf
        have hsub := (UWord.checkedSub_eq_some.1 hfree).2
        have hadd := (UWord.checkedAdd_eq_some.1 hreserved).2
        have hle := (UWord.checkedSub_eq_some.1 hfree).1
        simp only [AccountData.holding, hsub, hadd]
        omega
    · cases hf
  · cases hf

theorem unreserve_supply (ed : Balance) (who : AccountId) (value : Balance) :
    Keeps SupplyLe (unreserve ed who value) := by
  unfold unreserve
  -- the two early returns, then the mutation, whose `saturating_add` can only lose
  refine Keeps.ite (Keeps.pure _) (Keeps.bind Keeps.get fun _ => ?_)
  refine Keeps.ite (Keeps.pure _) (Keeps.bind (tryMutateAccount_supply ?_) fun _ => Keeps.pure _)
  intro account account' actual hf
  simp only [pure, Except.pure, Except.ok.injEq, Prod.mk.injEq] at hf
  obtain ⟨rfl, rfl⟩ := hf
  have hmin : (min account.reserved value).val ≤ account.reserved.val :=
    Fin.le_def.1 (min_le_left _ _)
  simp only [AccountData.holding, UWord.val_saturatingAdd, Fin.sub_val_of_le (min_le_left _ _)]
  omega

/-- The records `transfer` writes hold, together, what the two old ones held. -/
theorem transferAccounts_holding {ed : Balance} {providerRequired : Bool}
    {req : ExistenceRequirement} {value : Balance}
    {fromAccount toAccount fromAccount' toAccount' : AccountData}
    (h : transferAccounts ed providerRequired req value fromAccount toAccount =
      .ok (fromAccount', toAccount')) :
    fromAccount'.holding + toAccount'.holding = fromAccount.holding + toAccount.holding := by
  obtain ⟨fromFree, toFree, hfrom, hto, rfl, rfl⟩ := transferAccounts_ok h
  have hsub := UWord.checkedSub_eq_some.1 hfrom
  have hadd := UWord.checkedAdd_eq_some.1 hto
  simp only [AccountData.holding, hsub.2, hadd.2]
  omega

theorem transfer_supply (ed : Balance) (transactor dest : AccountId) (value : Balance)
    (req : ExistenceRequirement) :
    Keeps SupplyLe (transfer ed transactor dest value req) := by
  intro b
  cases h : (transfer ed transactor dest value req).run b with
  | error e b' =>
    rw [stateOf_error, transfer_error h]
    exact le_refl _
  | ok u b' =>
    rw [stateOf_ok]
    rcases transfer_ok h with rfl | ⟨hne, fromAccount, toAccount, hacc, rfl⟩
    · exact le_refl _
    have hheld := transferAccounts_holding hacc
    -- the sender's record is written first; the receiver's record is read before either write
    have h₁ := supply_update_postMutation b ed transactor fromAccount
    have h₂ := supply_update_postMutation
      { b with account := Function.update b.account transactor (postMutation ed fromAccount) }
      ed dest toAccount
    simp only [Function.update_of_ne hne.symm] at h₂
    show _ ≤ _
    omega

end Balances

/-! ## `orml_tokens` -/

namespace Tokens

/-- `t'` holds as much of each currency as `t`, for every currency whose supply in `t` fits in a
`u128`. -/
def SupplyKept (t t' : Store AccountId) : Prop :=
  ∀ currencyId, t.supply currencyId < 2 ^ 128 → t'.supply currencyId = t.supply currencyId

instance : Std.Refl (@SupplyKept AccountId _) := ⟨fun _ _ _ => rfl⟩

instance : IsTrans (Store AccountId) SupplyKept :=
  ⟨fun _ _ _ h₁ h₂ c hc => (h₂ c ((h₁ c hc).symm ▸ hc)).trans (h₁ c hc)⟩

omit [Fintype AccountId]

/-- `mutate_account` removes a record whose total is zero; its free balance is zero then. -/
@[simp] theorem reset_free (new : AccountData) :
    (if new.total = 0 then default else new).free = new.free := by
  split
  · rename_i h
    exact (Fin.ext ((AccountData.total_eq_zero_iff new).1 h).1).symm
  · rfl

@[simp] theorem reset_reserved (new : AccountData) :
    (if new.total = 0 then default else new).reserved = new.reserved := by
  split
  · rename_i h
    exact (Fin.ext ((AccountData.total_eq_zero_iff new).1 h).2).symm
  · rfl

variable {t t' : Store AccountId} {who : AccountId} {currencyId : CurrencyId}

theorem ensureCanWithdraw_ok {amount : Balance} {u : Unit}
    (h : (ensureCanWithdraw currencyId who amount).run t = .ok u t') :
    t' = t ∧ (amount = 0 ∨ amount.val ≤ (t.accounts (who, currencyId)).free.val) := by
  unfold ensureCanWithdraw at h
  split at h
  · exact ⟨(run_pure_eq_ok.1 h).2.symm, .inl ‹_›⟩
  simp only [run_bind_eq_ok, run_get_eq_ok] at h
  obtain ⟨_, _, ⟨rfl, rfl⟩, h⟩ := h
  -- `checked_sub` of the free balance, then the lock check
  split at h
  · rename_i newBalance hsub
    exact ⟨(run_ensure_eq_ok.1 h).2.symm, .inr (UWord.checkedSub_eq_some.1 hsub).1⟩
  · simp at h

theorem ensureCanWithdraw_error {amount : Balance} {e : DispatchError}
    (h : (ensureCanWithdraw currencyId who amount).run t = .error e t') : t' = t := by
  unfold ensureCanWithdraw at h
  split at h
  · simp at h
  rcases run_bind_eq_error.1 h with hget | ⟨_, _, hget, h⟩
  · simp at hget
  obtain ⟨rfl, rfl⟩ := run_get_eq_ok.1 hget
  dsimp only at h
  split at h
  · exact (run_ensure_eq_error.1 h).2.2
  · exact (EStateM.Result.error.inj h).2.symm

variable [DecidableEq AccountId]


theorem mutateAccount_ok {f : AccountData → AccountData} {u : Unit}
    (h : (mutateAccount who currencyId f).run t = .ok u t') :
    t' = { t with accounts := (Function.update t.accounts (who, currencyId)
      (if (f (t.accounts (who, currencyId))).total = 0 then default
        else f (t.accounts (who, currencyId)))) } :=
  run_modify_eq_ok.1 h

/-- After `mutate_account` the record holds the balances `f` gave it. -/
theorem mutateAccount_balances {f : AccountData → AccountData} {u : Unit}
    (h : (mutateAccount who currencyId f).run t = .ok u t') :
    (t'.accounts (who, currencyId)).free = (f (t.accounts (who, currencyId))).free ∧
      (t'.accounts (who, currencyId)).reserved = (f (t.accounts (who, currencyId))).reserved := by
  rw [mutateAccount_ok h]
  simp

theorem mutateAccount_of_ne {f : AccountData → AccountData} {u : Unit}
    (h : (mutateAccount who currencyId f).run t = .ok u t') {key : AccountId × CurrencyId}
    (hkey : key ≠ (who, currencyId)) : t'.accounts key = t.accounts key := by
  rw [mutateAccount_ok h]
  exact Function.update_of_ne hkey _ _

/-! ### The three operations the NFT pallet calls -/

/-- A successful `reserve` moves `value`, which the free balance covers, with two writes. -/
theorem reserve_ok {value : Balance} {u : Unit} (h : (reserve currencyId who value).run t = .ok u t') :
    t' = t ∨ value.val ≤ (t.accounts (who, currencyId)).free.val ∧ ∃ t₁,
      (setFreeBalance currencyId who ((t.accounts (who, currencyId)).free - value)).run t =
        .ok () t₁ ∧
      (setReservedBalance currencyId who ((t.accounts (who, currencyId)).reserved + value)).run t₁ =
        .ok () t' := by
  unfold reserve at h
  split at h
  · exact .inl (run_pure_eq_ok.1 h).2.symm
  rename_i hvalue
  simp only [run_bind_eq_ok, run_get_eq_ok] at h
  obtain ⟨_, t₀, hcheck, _, _, ⟨rfl, rfl⟩, _, t₁, h₁, h₂⟩ := h
  obtain ⟨rfl, hle⟩ := ensureCanWithdraw_ok hcheck
  exact .inr ⟨hle.resolve_left hvalue, t₁, h₁, h₂⟩

theorem reserve_error {value : Balance} {e : DispatchError}
    (h : (reserve currencyId who value).run t = .error e t') : t' = t := by
  unfold reserve at h
  split at h
  · simp at h
  simp only [run_bind_eq_error, run_get_eq_ok] at h
  -- only the withdrawal check can fail, and it writes nothing
  rcases h with hcheck | ⟨_, t₀, hcheck, hget | ⟨_, _, ⟨rfl, rfl⟩, h⟩⟩
  · exact ensureCanWithdraw_error hcheck
  · simp at hget
  · simp [setFreeBalance, setReservedBalance, mutateAccount] at h

/-- `unreserve` never fails: it moves what is reserved, up to `value`, with two writes. -/
theorem unreserve_ok {value r : Balance} (h : (unreserve currencyId who value).run t = .ok r t') :
    t' = t ∨ ∃ t₁,
      (setReservedBalance currencyId who ((t.accounts (who, currencyId)).reserved -
        min (t.accounts (who, currencyId)).reserved value)).run t = .ok () t₁ ∧
      (setFreeBalance currencyId who ((t.accounts (who, currencyId)).free +
        min (t.accounts (who, currencyId)).reserved value)).run t₁ = .ok () t' := by
  unfold unreserve at h
  split at h
  · exact .inl (run_pure_eq_ok.1 h).2.symm
  simp only [run_bind_eq_ok, run_get_eq_ok, run_pure_eq_ok] at h
  obtain ⟨_, _, ⟨rfl, rfl⟩, _, t₁, h₁, _, _, h₂, -, rfl⟩ := h
  exact .inr ⟨t₁, h₁, h₂⟩

/-- A successful `transfer` between two accounts debits the sender, whose free balance covers
`amount`, and credits the receiver, whose free balance stays in range. -/
theorem transfer_ok {src dst : AccountId} {amount : Balance} {u : Unit}
    (h : (transfer currencyId src dst amount).run t = .ok u t') :
    t' = t ∨ src ≠ dst ∧ amount.val ≤ (t.accounts (src, currencyId)).free.val ∧
      ∃ toBalance t₁, (t.accounts (dst, currencyId)).free.checkedAdd amount = some toBalance ∧
      (setFreeBalance currencyId src ((t.accounts (src, currencyId)).free - amount)).run t =
        .ok () t₁ ∧
      (setFreeBalance currencyId dst toBalance).run t₁ = .ok () t' := by
  unfold transfer at h
  split at h
  · exact .inl (run_pure_eq_ok.1 h).2.symm
  rename_i hmove
  simp only [run_bind_eq_ok, run_get_eq_ok] at h
  obtain ⟨_, t₀, hcheck, _, _, ⟨rfl, rfl⟩, _, _, ⟨rfl, rfl⟩, h⟩ := h
  obtain ⟨rfl, hle⟩ := ensureCanWithdraw_ok hcheck
  -- the receiver's `checked_add`
  split at h
  · rename_i toBalance hto
    simp only [run_bind_eq_ok] at h
    obtain ⟨_, t₁, h₁, h₂⟩ := h
    exact .inr ⟨fun he => hmove (.inr he), hle.resolve_left fun h0 => hmove (.inl h0), toBalance,
      t₁, hto, h₁, h₂⟩
  · simp at h

theorem transfer_error {src dst : AccountId} {amount : Balance} {e : DispatchError}
    (h : (transfer currencyId src dst amount).run t = .error e t') : t' = t := by
  unfold transfer at h
  split at h
  · simp at h
  simp only [run_bind_eq_error, run_get_eq_ok] at h
  rcases h with hcheck | ⟨_, t₀, hcheck, hget | ⟨_, _, ⟨rfl, rfl⟩, hget | ⟨_, _, ⟨rfl, rfl⟩, h⟩⟩⟩
  · exact ensureCanWithdraw_error hcheck
  · simp at hget
  · simp at hget
  obtain ⟨rfl, -⟩ := ensureCanWithdraw_ok hcheck
  -- the receiver's `checked_add` fails before any write; past it, the writes cannot fail
  split at h
  · simp [setFreeBalance, mutateAccount] at h
  · exact (EStateM.Result.error.inj h).2.symm

variable [Fintype AccountId]

/-- `mutate_account` changes the supply of its currency by what `f` adds to the record. -/
theorem supply_mutateAccount {f : AccountData → AccountData} {u : Unit}
    (h : (mutateAccount who currencyId f).run t = .ok u t') :
    t'.supply currencyId + (t.accounts (who, currencyId)).holding =
      t.supply currencyId + (f (t.accounts (who, currencyId))).holding := by
  rw [mutateAccount_ok h]
  have hupdate := Supply.supply_update_add AccountData.holding
    (Supply.column t.accounts currencyId) who
    (if (f (t.accounts (who, currencyId))).total = 0 then default
      else f (t.accounts (who, currencyId)))
  simp only [Store.supply, Supply.column_update_self]
  simp only [Supply.column_apply, AccountData.holding, reset_free, reset_reserved] at hupdate ⊢
  exact hupdate

theorem supply_mutateAccount_of_ne {f : AccountData → AccountData} {u : Unit}
    (h : (mutateAccount who currencyId f).run t = .ok u t') {c : CurrencyId}
    (hc : c ≠ currencyId) : t'.supply c = t.supply c := by
  rw [mutateAccount_ok h]
  simp only [Store.supply, Supply.column_update_of_ne _ _ (Ne.symm hc)]

omit [DecidableEq AccountId] in
theorem holding_le_supply (t : Store AccountId) (who : AccountId) (currencyId : CurrencyId) :
    (t.accounts (who, currencyId)).holding ≤ t.supply currencyId :=
  Supply.le_supply AccountData.holding (Supply.column t.accounts currencyId) who

/-- `reserve` keeps the supply: the reserved balance grows by what the free balance loses, and
it does not wrap, since the account holds no more than the supply. -/
theorem reserve_supply (currencyId : CurrencyId) (who : AccountId) (value : Balance) :
    Keeps SupplyKept (reserve currencyId who value) := by
  intro t
  cases h : (reserve currencyId who value).run t with
  | error e t' =>
    rw [stateOf_error, reserve_error h]
    exact refl_of SupplyKept _
  | ok u t' =>
    rw [stateOf_ok]
    rcases reserve_ok h with rfl | ⟨hle, t₁, h₁, h₂⟩
    · exact refl_of SupplyKept _
    intro c hbound
    by_cases hc : c = currencyId
    · subst hc
      have e₁ := supply_mutateAccount h₁
      have e₂ := supply_mutateAccount h₂
      obtain ⟨hfree₁, hreserved₁⟩ := mutateAccount_balances h₁
      have hheld := holding_le_supply t who c
      simp only [AccountData.holding] at e₁ e₂ hfree₁ hreserved₁ hheld
      have hfree := UWord.val_sub_of_le hle
      have hreserved : ((t.accounts (who, c)).reserved + value).val =
          (t.accounts (who, c)).reserved.val + value.val :=
        UWord.val_add_of_lt (by omega)
      rw [hfree₁, hreserved₁] at e₂
      omega
    · rw [supply_mutateAccount_of_ne h₂ hc, supply_mutateAccount_of_ne h₁ hc]

/-- `unreserve` keeps the supply: the free balance grows by what the reserved balance loses,
without wrapping. -/
theorem unreserve_supply (currencyId : CurrencyId) (who : AccountId) (value : Balance) :
    Keeps SupplyKept (unreserve currencyId who value) := by
  intro t
  cases h : (unreserve currencyId who value).run t with
  | error e t' => exact absurd h ((Tokens.unreserve_noFail _ _ _).ne_error _ _ _)
  | ok r t' =>
    rw [stateOf_ok]
    rcases unreserve_ok h with rfl | ⟨t₁, h₁, h₂⟩
    · exact refl_of SupplyKept _
    intro c hbound
    by_cases hc : c = currencyId
    · subst hc
      have e₁ := supply_mutateAccount h₁
      have e₂ := supply_mutateAccount h₂
      obtain ⟨hfree₁, hreserved₁⟩ := mutateAccount_balances h₁
      have hheld := holding_le_supply t who c
      have hmin : (min (t.accounts (who, c)).reserved value).val ≤
          (t.accounts (who, c)).reserved.val :=
        Fin.le_def.1 (min_le_left _ _)
      simp only [AccountData.holding] at e₁ e₂ hfree₁ hreserved₁ hheld
      have hreserved := UWord.val_sub_of_le hmin
      have hfree : ((t.accounts (who, c)).free + min (t.accounts (who, c)).reserved value).val =
          (t.accounts (who, c)).free.val + (min (t.accounts (who, c)).reserved value).val :=
        UWord.val_add_of_lt (by omega)
      rw [hfree₁, hreserved₁] at e₂
      omega
    · rw [supply_mutateAccount_of_ne h₂ hc, supply_mutateAccount_of_ne h₁ hc]

/-- `transfer` keeps the supply: the receiver gains what the sender loses. -/
theorem transfer_supply (currencyId : CurrencyId) (src dst : AccountId) (amount : Balance) :
    Keeps SupplyKept (transfer currencyId src dst amount) := by
  intro t
  cases h : (transfer currencyId src dst amount).run t with
  | error e t' =>
    rw [stateOf_error, transfer_error h]
    exact refl_of SupplyKept _
  | ok u t' =>
    rw [stateOf_ok]
    rcases transfer_ok h with rfl | ⟨hne, hle, toBalance, t₁, hto, h₁, h₂⟩
    · exact refl_of SupplyKept _
    intro c _
    by_cases hc : c = currencyId
    · subst hc
      have e₁ := supply_mutateAccount h₁
      have e₂ := supply_mutateAccount h₂
      -- the receiver's record is the same before and after the sender's write
      have hdst : t₁.accounts (dst, c) = t.accounts (dst, c) :=
        mutateAccount_of_ne h₁ fun he => hne (Prod.mk.inj he).1.symm
      have hfree := UWord.val_sub_of_le hle
      have hto := (UWord.checkedAdd_eq_some.1 hto).2
      simp only [AccountData.holding, hdst] at e₁ e₂
      omega
    · rw [supply_mutateAccount_of_ne h₂ hc, supply_mutateAccount_of_ne h₁ hc]

end Tokens

end Nftmart
