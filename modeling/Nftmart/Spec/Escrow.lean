import Mathlib
import Nftmart.Lib.Effect
import Nftmart.Spec.Money
import Nftmart.Spec.Currencies
import Nftmart.Spec.Ledger
import Nftmart.Spec.Frame
import Nftmart.Spec.Pallet

/-!
# What `reserve` and `unreserve` write

An escrow moves an amount between the free and the reserved balance of one record:
`AccountData.reserveValue` takes it in, `AccountData.unreserveValue` gives it back. Their
arithmetic is modular, so they cancel and commute with no bound at all; the bounds are what make
the code agree with them. `pallet_balances` checks its subtraction and addition and writes
through `post_mutation`, which keeps a record that is not dust. `orml_tokens` writes the free and
the reserved balance one after the other, unchecked, and `mutate_account` resets a record that
holds nothing; the lock check keeps the free balance above the frozen amount, so no reset loses
anything.

## Main results

* `Balances.reserve_eq`, `Tokens.reserve_eq` — a successful `reserve` writes `reserveValue`.
* `Balances.run_unreserve`, `Tokens.run_unreserve` — `unreserve` of a covered amount writes
  `unreserveValue` and returns zero.
* `Balances.unreserve_reserveValue`, `Tokens.unreserve_reserveValue` — `unreserve` gives back
  what a `reserve` of the same amount took.
* `deleteOrder_releases` — `delete_order` drops the order and releases its escrow.
-/

namespace Nftmart

open Effect

/-! ## Moving a balance between free and reserved -/

namespace AccountData

/-- The record after `value` moved from the free balance to the reserved one. -/
def reserveValue (account : AccountData) (value : Balance) : AccountData :=
  { account with free := account.free - value, reserved := account.reserved + value }

/-- The record after `value` moved from the reserved balance back to the free one. -/
def unreserveValue (account : AccountData) (value : Balance) : AccountData :=
  { account with free := account.free + value, reserved := account.reserved - value }

variable {account : AccountData} {value : Balance}

@[simp] theorem frozen_reserveValue : (account.reserveValue value).frozen = account.frozen :=
  rfl

@[simp] theorem frozen_unreserveValue : (account.unreserveValue value).frozen = account.frozen :=
  rfl

theorem val_free_reserveValue (hle : value.val ≤ account.free.val) :
    (account.reserveValue value).free.val = account.free.val - value.val :=
  UWord.val_sub_of_le hle

theorem val_reserved_reserveValue (hfit : account.reserved.val + value.val < 2 ^ 128) :
    (account.reserveValue value).reserved.val = account.reserved.val + value.val :=
  UWord.val_add_of_lt hfit

theorem val_free_unreserveValue (hfit : account.free.val + value.val < 2 ^ 128) :
    (account.unreserveValue value).free.val = account.free.val + value.val :=
  UWord.val_add_of_lt hfit

theorem val_reserved_unreserveValue (hle : value.val ≤ account.reserved.val) :
    (account.unreserveValue value).reserved.val = account.reserved.val - value.val :=
  UWord.val_sub_of_le hle

@[simp] theorem reserveValue_zero : account.reserveValue 0 = account := by
  simp [reserveValue]

@[simp] theorem unreserveValue_zero : account.unreserveValue 0 = account := by
  simp [unreserveValue]

/-- Records are equal when their balances have the same values. -/
theorem eq_of_val {account' : AccountData} (hfree : account'.free.val = account.free.val)
    (hreserved : account'.reserved.val = account.reserved.val)
    (hfrozen : account'.frozen = account.frozen) : account' = account := by
  cases account'
  cases account
  simp only [AccountData.mk.injEq]
  exact ⟨Fin.ext hfree, Fin.ext hreserved, hfrozen⟩

/-- Moving `value` back undoes moving it. The arithmetic is modular, so no bound is needed here;
the bounds are what make the code's checked and saturating operations agree with it. -/
@[simp] theorem unreserveValue_reserveValue :
    (account.reserveValue value).unreserveValue value = account := by
  simp [reserveValue, unreserveValue]

/-- Releasing one amount and reserving another can be done in either order. -/
theorem unreserveValue_reserveValue_comm {value' : Balance} :
    (account.reserveValue value').unreserveValue value =
      (account.unreserveValue value).reserveValue value' :=
  eq_of_val (congrArg Fin.val (sub_add_eq_add_sub _ _ _))
    (congrArg Fin.val (add_sub_right_comm _ _ _)) rfl

/-- Records that hold as much, free and reserved together, have the same total. -/
theorem total_eq_of_val {account' : AccountData}
    (h : account'.free.val + account'.reserved.val = account.free.val + account.reserved.val) :
    account'.total = account.total := by
  apply Fin.ext
  simp only [Balances.val_total, h]

/-- Moving a covered amount that fits keeps the total. -/
theorem total_reserveValue (hle : value.val ≤ account.free.val)
    (hfit : account.reserved.val + value.val < 2 ^ 128) :
    (account.reserveValue value).total = account.total :=
  total_eq_of_val (by rw [val_free_reserveValue hle, val_reserved_reserveValue hfit]; omega)

theorem total_unreserveValue (hle : value.val ≤ account.reserved.val)
    (hfit : account.free.val + value.val < 2 ^ 128) :
    (account.unreserveValue value).total = account.total :=
  total_eq_of_val (by rw [val_free_unreserveValue hfit, val_reserved_unreserveValue hle]; omega)

/-- A record that holds something has a nonzero total. -/
theorem total_ne_zero (h : 0 < account.free.val + account.reserved.val) : account.total ≠ 0 :=
  fun hzero => by
    obtain ⟨hfree, hreserved⟩ := (total_eq_zero_iff account).1 hzero
    omega

/-- `mutate_account` keeps the record it is given when its frozen amount does not exceed its free
balance: a record that holds nothing then has nothing frozen either. -/
theorem reset_of_frozen_le {new : AccountData} (h : new.frozen ≤ new.free) :
    (if new.total = 0 then default else new) = new := by
  split
  · rename_i hzero
    obtain ⟨hfree, hreserved⟩ := (total_eq_zero_iff new).1 hzero
    have hfrozen : new.frozen.val = 0 := by
      have := Fin.le_def.1 h
      omega
    exact (eq_of_val hfree hreserved (Fin.ext hfrozen)).symm
  · rfl

end AccountData

variable {AccountId : Type} [DecidableEq AccountId]

/-! ## `pallet_balances` -/

namespace Balances

variable {ed : Balance} {who : AccountId} {value : Balance} {b b' : Store AccountId}

/-- `try_mutate_account` with a closure that cannot fail writes the record it returns. -/
theorem run_tryMutateAccount_pure {α : Type} (f : AccountData → AccountData × α) :
    (tryMutateAccount ed who fun account => pure (f account)).run b =
      .ok (f (b.account who)).2 { b with account := (Function.update b.account who
        (postMutation ed (f (b.account who)).1)) } :=
  rfl

/-- A successful `reserve` on a record that is not dust moved `value`, which the free balance
covered and the reserved balance had room for. The total is unchanged, so `post_mutation` keeps
the record. -/
theorem reserve_eq {u : Unit} (h : (reserve ed who value).run b = .ok u b')
    (hdust : (b.account who).total = 0 ∨ ed ≤ (b.account who).total) :
    value.val ≤ (b.account who).free.val ∧ (b.account who).reserved.val + value.val < 2 ^ 128 ∧
      b' = { b with account := (Function.update b.account who
        ((b.account who).reserveValue value)) } := by
  unfold reserve at h
  split at h
  · rename_i hzero
    subst hzero
    obtain ⟨-, rfl⟩ := run_pure_eq_ok.1 h
    refine ⟨Nat.zero_le _, by simp, ?_⟩
    rw [AccountData.reserveValue_zero, Function.update_eq_self]
  rename_i hzero
  obtain ⟨account, hf, rfl⟩ := tryMutateAccount_ok h
  -- the closure: `checked_sub` of the free balance, `checked_add` of the reserved one, and the
  -- lock check, which writes nothing
  split at hf
  · rename_i free hfree
    split at hf
    · rename_i reserved hreserved
      simp only [bind, Except.bind] at hf
      split at hf
      · cases hf
      simp only [pure, Except.pure, Except.ok.injEq, Prod.mk.injEq] at hf
      obtain ⟨rfl, -⟩ := hf
      obtain ⟨hle, hfreeVal⟩ := UWord.checkedSub_eq_some.1 hfree
      obtain ⟨hlt, hreservedVal⟩ := UWord.checkedAdd_eq_some.1 hreserved
      have hmoved : ({ b.account who with free, reserved } : AccountData) =
          (b.account who).reserveValue value :=
        AccountData.eq_of_val (by rw [AccountData.val_free_reserveValue hle]; exact hfreeVal)
          (by rw [AccountData.val_reserved_reserveValue hlt]; exact hreservedVal) rfl
      -- the record held `value`, so it was not empty, and not dust either
      have hpos : 0 < value.val := Nat.pos_of_ne_zero fun h0 => hzero (Fin.ext h0)
      have hed : ed ≤ (b.account who).total :=
        hdust.resolve_left (AccountData.total_ne_zero (by omega))
      refine ⟨hle, hlt, ?_⟩
      rw [hmoved, postMutation_of_le ((AccountData.total_reserveValue hle hlt).symm ▸ hed)]
    · cases hf
  · cases hf

/-- `unreserve` of an amount the reserved balance covers, on a record that is not dust and whose
free balance has room for it, moves it back and returns zero. -/
theorem run_unreserve (hle : value.val ≤ (b.account who).reserved.val)
    (hfit : (b.account who).free.val + value.val < 2 ^ 128)
    (hdust : (b.account who).total = 0 ∨ ed ≤ (b.account who).total) :
    (unreserve ed who value).run b = .ok 0 { b with account := (Function.update b.account who
      ((b.account who).unreserveValue value)) } := by
  by_cases hzero : value = 0
  · subst hzero
    rw [AccountData.unreserveValue_zero, Function.update_eq_self]
    rfl
  have hpos : 0 < value.val := Nat.pos_of_ne_zero fun h0 => hzero (Fin.ext h0)
  have htotal : (b.account who).total ≠ 0 := AccountData.total_ne_zero (by omega)
  -- all of `value` is reserved, so all of it moves
  have hmin : min (b.account who).reserved value = value := min_eq_right (Fin.le_def.2 hle)
  have hmoved : ({ b.account who with
      reserved := (b.account who).reserved - value
      free := (b.account who).free.saturatingAdd value } : AccountData) =
      (b.account who).unreserveValue value := by
    refine AccountData.eq_of_val ?_ rfl rfl
    rw [AccountData.val_free_unreserveValue hfit]
    simp only [UWord.val_saturatingAdd]
    omega
  have hkept : ed ≤ ((b.account who).unreserveValue value).total :=
    (hdust.resolve_left htotal).trans_eq (AccountData.total_unreserveValue hle hfit).symm
  unfold unreserve
  rw [if_neg hzero, EStateM.run_bind, EStateM.run_get]
  simp only [if_neg htotal]
  rw [EStateM.run_bind, run_tryMutateAccount_pure]
  simp only [hmin, hmoved, postMutation_of_le hkept, sub_self]
  rfl

/-- `unreserve` gives back what a `reserve` of the same amount moved. -/
theorem unreserve_reserveValue (hle : value.val ≤ (b.account who).free.val)
    (hfit : (b.account who).reserved.val + value.val < 2 ^ 128)
    (hdust : (b.account who).total = 0 ∨ ed ≤ (b.account who).total) :
    (unreserve ed who value).run { b with account := (Function.update b.account who
      ((b.account who).reserveValue value)) } = .ok 0 b := by
  rw [run_unreserve]
  · simp only [Function.update_self, Function.update_idem, AccountData.unreserveValue_reserveValue,
      Function.update_eq_self]
  · simp only [Function.update_self]
    rw [AccountData.val_reserved_reserveValue hfit]
    omega
  · simp only [Function.update_self]
    rw [AccountData.val_free_reserveValue hle]
    omega
  · simp only [Function.update_self]
    rw [AccountData.total_reserveValue hle hfit]
    exact hdust

/-- `unreserve` of the first of two amounts reserved one after the other gives it back and leaves
the second reserved. -/
theorem unreserve_reserveValue_reserveValue {value' : Balance}
    (hle : value.val ≤ (b.account who).free.val)
    (hfit : (b.account who).reserved.val + value.val < 2 ^ 128)
    (hle' : value'.val ≤ ((b.account who).reserveValue value).free.val)
    (hfit' : ((b.account who).reserveValue value).reserved.val + value'.val < 2 ^ 128)
    (hdust : (b.account who).total = 0 ∨ ed ≤ (b.account who).total) :
    (unreserve ed who value).run { b with account := (Function.update b.account who
      (((b.account who).reserveValue value).reserveValue value')) } =
      .ok 0 { b with account := (Function.update b.account who
        ((b.account who).reserveValue value')) } := by
  have hfree₁ := AccountData.val_free_reserveValue hle
  have hreserved₁ := AccountData.val_reserved_reserveValue hfit
  rw [run_unreserve]
  · simp only [Function.update_self, Function.update_idem]
    rw [AccountData.unreserveValue_reserveValue_comm, AccountData.unreserveValue_reserveValue]
  · simp only [Function.update_self]
    rw [AccountData.val_reserved_reserveValue (by omega), AccountData.val_reserved_reserveValue hfit]
    omega
  · simp only [Function.update_self]
    rw [AccountData.val_free_reserveValue (by omega), AccountData.val_free_reserveValue hle]
    omega
  · simp only [Function.update_self]
    rw [AccountData.total_reserveValue (by omega) (by omega),
      AccountData.total_reserveValue hle hfit]
    exact hdust

/-- `unreserve` releases from the reserved balance of `who` at least what it holds of `value`:
all of it, and the rest too when `post_mutation` removes the record as dust. -/
theorem unreserve_reserved_le {r : Balance} (h : (unreserve ed who value).run b = .ok r b') :
    (b'.account who).reserved.val + min (b.account who).reserved.val value.val ≤
      (b.account who).reserved.val := by
  unfold unreserve at h
  by_cases hzero : value = 0
  · subst hzero
    obtain ⟨-, rfl⟩ := run_pure_eq_ok.1 h
    simp
  rw [if_neg hzero, EStateM.run_bind, EStateM.run_get] at h
  by_cases htotal : (b.account who).total = 0
  · -- an empty record holds nothing reserved, and is not written
    simp only [if_pos htotal] at h
    obtain ⟨-, rfl⟩ := run_pure_eq_ok.1 h
    have hempty := ((AccountData.total_eq_zero_iff _).1 htotal).2
    omega
  simp only [if_neg htotal] at h
  rw [EStateM.run_bind, run_tryMutateAccount_pure] at h
  obtain ⟨-, rfl⟩ := run_pure_eq_ok.1 h
  have hmin : min (b.account who).reserved value ≤ (b.account who).reserved := min_le_left _ _
  simp only [Function.update_self]
  unfold postMutation
  split
  · simp
  · dsimp only
    rw [Fin.sub_val_of_le hmin, Fin.coe_min]
    omega

end Balances

/-! ## `orml_tokens` -/

namespace Tokens

variable {currencyId : CurrencyId} {who : AccountId} {value : Balance} {t t' : Store AccountId}

/-- `mutate_account` writes the record `f` returns when its frozen amount does not exceed its
free balance. -/
theorem run_mutateAccount {f : AccountData → AccountData}
    (hf : (f (t.accounts (who, currencyId))).frozen ≤ (f (t.accounts (who, currencyId))).free) :
    (mutateAccount who currencyId f).run t = .ok () { t with accounts := (Function.update
      t.accounts (who, currencyId) (f (t.accounts (who, currencyId)))) } :=
  run_modify_eq_ok.2 (by simp only [AccountData.reset_of_frozen_le hf])

/-- `reserve` of an amount the withdrawal check lets through moves it to the reserved balance.
The lock check leaves the free balance at least the frozen amount, so neither write resets the
record. -/
theorem run_reserve
    (hcan : value = 0 ∨ value.val ≤ (t.accounts (who, currencyId)).free.val ∧
      (t.accounts (who, currencyId)).frozen ≤ (t.accounts (who, currencyId)).free - value) :
    (reserve currencyId who value).run t = .ok () { t with accounts := (Function.update
      t.accounts (who, currencyId) ((t.accounts (who, currencyId)).reserveValue value)) } := by
  by_cases hzero : value = 0
  · subst hzero
    rw [AccountData.reserveValue_zero, Function.update_eq_self]
    rfl
  have hfrozen := (hcan.resolve_left hzero).2
  have hcheck : (ensureCanWithdraw currencyId who value).run t = .ok () t :=
    run_ensureCanWithdraw_eq_ok.2 ⟨rfl, hcan⟩
  unfold reserve
  rw [if_neg hzero, EStateM.run_bind, hcheck]
  dsimp only
  rw [EStateM.run_bind, EStateM.run_get]
  dsimp only
  rw [EStateM.run_bind, setFreeBalance, run_mutateAccount hfrozen]
  dsimp only
  rw [setReservedBalance, run_mutateAccount (by simpa using hfrozen)]
  simp only [Function.update_self, Function.update_idem]
  rfl

/-- A successful `reserve` passed the withdrawal check, and so moved `value` as `run_reserve`
says. -/
theorem reserve_eq {u : Unit} (h : (reserve currencyId who value).run t = .ok u t') :
    (value = 0 ∨ value.val ≤ (t.accounts (who, currencyId)).free.val ∧
      (t.accounts (who, currencyId)).frozen ≤ (t.accounts (who, currencyId)).free - value) ∧
    t' = { t with accounts := (Function.update t.accounts (who, currencyId)
      ((t.accounts (who, currencyId)).reserveValue value)) } := by
  have hcan : value = 0 ∨ value.val ≤ (t.accounts (who, currencyId)).free.val ∧
      (t.accounts (who, currencyId)).frozen ≤ (t.accounts (who, currencyId)).free - value := by
    unfold reserve at h
    split at h
    · exact .inl ‹_›
    obtain ⟨_, _, hcheck, -⟩ := run_bind_eq_ok.1 h
    exact (run_ensureCanWithdraw_eq_ok.1 hcheck).2
  refine ⟨hcan, ?_⟩
  rw [run_reserve hcan] at h
  cases h
  rfl

/-- `unreserve` of an amount the reserved balance covers, from a record whose free balance has
room for it and covers the frozen amount, moves it back and returns zero. -/
theorem run_unreserve (hle : value.val ≤ (t.accounts (who, currencyId)).reserved.val)
    (hfit : (t.accounts (who, currencyId)).free.val + value.val < 2 ^ 128)
    (hfrozen : value ≠ 0 →
      (t.accounts (who, currencyId)).frozen ≤ (t.accounts (who, currencyId)).free) :
    (unreserve currencyId who value).run t = .ok 0 { t with accounts := (Function.update
      t.accounts (who, currencyId) ((t.accounts (who, currencyId)).unreserveValue value)) } := by
  by_cases hzero : value = 0
  · subst hzero
    rw [AccountData.unreserveValue_zero, Function.update_eq_self]
    rfl
  -- all of `value` is reserved, so all of it moves
  have hmin : min (t.accounts (who, currencyId)).reserved value = value :=
    min_eq_right (Fin.le_def.2 hle)
  have hgrow : (t.accounts (who, currencyId)).frozen ≤
      ((t.accounts (who, currencyId)).unreserveValue value).free := by
    refine (hfrozen hzero).trans (Fin.le_def.2 ?_)
    rw [AccountData.val_free_unreserveValue hfit]
    omega
  unfold unreserve
  rw [if_neg hzero, EStateM.run_bind, EStateM.run_get]
  dsimp only
  rw [hmin, EStateM.run_bind, setReservedBalance, run_mutateAccount (hfrozen hzero)]
  dsimp only
  rw [EStateM.run_bind, setFreeBalance, run_mutateAccount (by simpa [AccountData.unreserveValue] using hgrow)]
  simp only [Function.update_self, Function.update_idem, sub_self]
  rfl

/-- `unreserve` gives back what a `reserve` of the same amount moved, on a record whose total
fits. -/
theorem unreserve_reserveValue (hle : value.val ≤ (t.accounts (who, currencyId)).free.val)
    (hfit : (t.accounts (who, currencyId)).free.val + (t.accounts (who, currencyId)).reserved.val <
      2 ^ 128)
    (hfrozen : value ≠ 0 →
      (t.accounts (who, currencyId)).frozen ≤ (t.accounts (who, currencyId)).free - value) :
    (unreserve currencyId who value).run { t with accounts := (Function.update t.accounts
      (who, currencyId) ((t.accounts (who, currencyId)).reserveValue value)) } = .ok 0 t := by
  rw [run_unreserve]
  · simp only [Function.update_self, Function.update_idem, AccountData.unreserveValue_reserveValue,
      Function.update_eq_self]
  · simp only [Function.update_self]
    rw [AccountData.val_reserved_reserveValue (by omega)]
    omega
  · simp only [Function.update_self]
    rw [AccountData.val_free_reserveValue hle]
    omega
  · simpa [AccountData.reserveValue] using hfrozen

/-! ### Reserved balances

What each write does to the reserved balances alone, with no condition: the facts the escrow
invariant of `Nftmart.Invariant.Backing` is kept by. -/

theorem setFreeBalance_reserved {amount : Balance} {u : Unit}
    (h : (setFreeBalance currencyId who amount).run t = .ok u t') (key : AccountId × CurrencyId) :
    (t'.accounts key).reserved = (t.accounts key).reserved := by
  rw [mutateAccount_ok h]
  by_cases hkey : key = (who, currencyId)
  · subst hkey
    simp
  · simp [Function.update_of_ne hkey]

theorem setReservedBalance_reserved {amount : Balance} {u : Unit}
    (h : (setReservedBalance currencyId who amount).run t = .ok u t')
    (key : AccountId × CurrencyId) :
    (t'.accounts key).reserved =
      if key = (who, currencyId) then amount else (t.accounts key).reserved := by
  rw [mutateAccount_ok h]
  by_cases hkey : key = (who, currencyId)
  · subst hkey
    simp
  · simp [hkey]

/-- `unreserve` takes from the reserved balance of `who` what it holds of `value`, and writes
no other reserved balance. -/
theorem unreserve_reserved {r : Balance} (h : (unreserve currencyId who value).run t = .ok r t')
    (key : AccountId × CurrencyId) :
    (t'.accounts key).reserved.val = if key = (who, currencyId) then
      (t.accounts key).reserved.val - min (t.accounts key).reserved.val value.val
    else (t.accounts key).reserved.val := by
  unfold unreserve at h
  split at h
  · rename_i hzero
    obtain ⟨-, rfl⟩ := run_pure_eq_ok.1 h
    subst hzero
    split <;> simp
  simp only [run_bind_eq_ok, run_get_eq_ok, run_pure_eq_ok] at h
  obtain ⟨_, _, ⟨rfl, rfl⟩, _, t₁, h₁, _, _, h₂, -, rfl⟩ := h
  rw [setFreeBalance_reserved h₂, setReservedBalance_reserved h₁]
  split
  · rename_i hkey
    subst hkey
    have hmin : min (t.accounts (who, currencyId)).reserved value ≤
        (t.accounts (who, currencyId)).reserved := min_le_left _ _
    rw [Fin.sub_val_of_le hmin, Fin.coe_min]
  · rfl

/-- `reserve` adds `value` to the reserved balance of `who`, and writes no other reserved
balance. -/
theorem reserve_reserved {u : Unit} (h : (reserve currencyId who value).run t = .ok u t')
    (key : AccountId × CurrencyId) :
    (t'.accounts key).reserved = if key = (who, currencyId) then
      (t.accounts key).reserved + value
    else (t.accounts key).reserved := by
  obtain ⟨-, rfl⟩ := reserve_eq h
  by_cases hkey : key = (who, currencyId)
  · subst hkey
    simp [AccountData.reserveValue]
  · simp [hkey]

/-- `transfer` moves free balances only. -/
theorem transfer_reserved {src dst : AccountId} {amount : Balance} {u : Unit}
    (h : (transfer currencyId src dst amount).run t = .ok u t') (key : AccountId × CurrencyId) :
    (t'.accounts key).reserved = (t.accounts key).reserved := by
  rcases transfer_ok h with rfl | ⟨-, -, toBalance, t₁, -, h₁, h₂⟩
  · rfl
  · rw [setFreeBalance_reserved h₂, setFreeBalance_reserved h₁]

end Tokens

/-! ## Through `orml_currencies` -/

namespace MultiCurrency

variable (cfg : Config AccountId) {s s' : State AccountId} {currencyId : CurrencyId}
  {who : AccountId}

/-- `unreserve` takes from the `orml_tokens` reserved balance of `who` what it holds of
`value`, and writes no other. -/
theorem unreserve_reserved {value r : Balance}
    (h : (unreserve cfg currencyId who value).run s = .ok r s') (key : AccountId × CurrencyId) :
    (s'.tokens.accounts key).reserved.val =
      if currencyId ≠ cfg.nativeCurrencyId ∧ key = (who, currencyId) then
        (s.tokens.accounts key).reserved.val - min (s.tokens.accounts key).reserved.val value.val
      else (s.tokens.accounts key).reserved.val := by
  unfold unreserve at h
  split at h
  · rename_i hnative
    obtain ⟨b, -, rfl⟩ := run_zoom_eq_ok.1 h
    simp [hnative]
  · rename_i hnative
    obtain ⟨t, ht, rfl⟩ := run_zoom_eq_ok.1 h
    rw [Tokens.unreserve_reserved ht key]
    simp [hnative]

/-- `unreserve` never raises the native reserved balance of `who`. -/
theorem unreserve_native_le {value r : Balance}
    (h : (unreserve cfg currencyId who value).run s = .ok r s') :
    (s'.balances.account who).reserved.val ≤ (s.balances.account who).reserved.val := by
  unfold unreserve at h
  split at h
  · obtain ⟨b, hb, rfl⟩ := run_zoom_eq_ok.1 h
    have hle := Balances.unreserve_reserved_le hb
    dsimp only
    omega
  · obtain ⟨t, -, rfl⟩ := run_zoom_eq_ok.1 h
    exact le_rfl

end MultiCurrency

/-! ## `delete_order` -/

variable (cfg : Config AccountId) {s s' : State AccountId}

/-- A successful `delete_order` drops the order and releases its escrow: the native reserved
balance of `who` falls by at least what it holds of the deposit, and, when `who` is not
`tokenOwner`, its `orml_tokens` reserved balance in the order's currency falls by what it holds
of the price. No token and no other order or `orml_tokens` reserved balance changes. -/
theorem deleteOrder_releases {classId : ClassId} {tokenId : TokenId} {who tokenOwner : AccountId}
    {order : OrderData} (horder : s.pallet.orders ((classId, tokenId), who) = some order)
    (h : (deleteOrder cfg classId tokenId who tokenOwner).run s = .ok () s') :
    s'.pallet.orders = Function.update s.pallet.orders ((classId, tokenId), who) none ∧
    s'.nft = s.nft ∧
    (s'.balances.account who).reserved.val +
        min (s.balances.account who).reserved.val order.deposit.val ≤
      (s.balances.account who).reserved.val ∧
    ∀ key, (s'.tokens.accounts key).reserved.val =
      if who ≠ tokenOwner ∧ order.currencyId ≠ cfg.nativeCurrencyId ∧
          key = (who, order.currencyId) then
        (s.tokens.accounts key).reserved.val -
          min (s.tokens.accounts key).reserved.val order.price.val
      else (s.tokens.accounts key).reserved.val := by
  obtain ⟨order', horder', r₁, s₁, h₁, s₂, h₂, rfl⟩ := deleteOrder_ok cfg h
  rw [horder, Option.some.injEq] at horder'
  subst horder'
  -- the deposit is released in `pallet_balances`, and the price, if it is, by `unreserve`
  have hframe : MoneyFrame s₁ s₂ := by
    split at h₂
    · obtain ⟨r₂, h₂⟩ := h₂
      exact (MultiCurrency.unreserve_keeps cfg _ _ _).of_ok h₂
    · exact h₂ ▸ MoneyFrame.rfl' s₁
  have hnative : (s₂.balances.account who).reserved.val ≤
      (s₁.balances.account who).reserved.val := by
    split at h₂
    · obtain ⟨r₂, h₂⟩ := h₂
      exact MultiCurrency.unreserve_native_le cfg h₂
    · rw [h₂]
  obtain ⟨b, hb, rfl⟩ := run_zoom_eq_ok.1 h₁
  have hdeposit := Balances.unreserve_reserved_le hb
  refine ⟨by rw [PalletStore.dropOrder_orders, hframe.pallet], hframe.nft, by
    dsimp only at hnative ⊢
    omega, fun key => ?_⟩
  dsimp only
  split at h₂
  · rename_i hwho
    obtain ⟨r₂, h₂⟩ := h₂
    rw [MultiCurrency.unreserve_reserved cfg h₂ key]
    simp [hwho]
  · rename_i hwho
    subst h₂
    simp [hwho]

end Nftmart
