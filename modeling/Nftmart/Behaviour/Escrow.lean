import Mathlib
import Nftmart.Lib.Effect
import Nftmart.Spec.Escrow
import Nftmart.Spec.Pallet
import Nftmart.Behaviour.StaleBid

/-!
# An order's escrow comes back whole

`submit_order` takes two amounts into escrow: the order deposit, reserved in the native currency,
and, for an account that does not own the token, the price, reserved in the order's currency.
`remove_order` gives them back with `unreserve`. This module proves the round trip exact:
removing an order right after submitting it restores the whole state (every balance record, the
category's order count and the orders) under three conditions. The count must be below
`u128::MAX`, where `saturating_add` and then `saturating_sub` lose one. The submitter's native
record must not be dust, which `post_mutation` would remove. And its record in the order's
currency must hold less than `2^128` in all, as it does when that currency's issuance fits: the
`orml_tokens` `reserve` adds to the reserved balance unchecked.

The balances are handled by the run lemmas of `Nftmart.Spec.Escrow`. The deposit is released
before the price, so when both are in the native currency the release runs in another order
than the reserve, and `AccountData.unreserveValue_reserveValue_comm` reorders it.

## Main results

* `PalletStore.dropOrder_setOrder` — `delete_order` takes back the pallet's writes.
* `run_removeOrder` — `remove_order` run forward.
* `removeOrder_submitOrder` — `remove_order` undoes `submit_order`.
-/

namespace Nftmart

open Effect

variable {AccountId : Type} [DecidableEq AccountId]

/-! ## The pallet's storage -/

namespace PalletStore

variable {p : PalletStore AccountId}

/-- `delete_order` takes back what `submit_order` wrote to the pallet's storage: the order, and
the order's count in its category, unless that count had saturated. -/
theorem dropOrder_setOrder {key : (ClassId × TokenId) × AccountId} {categoryId : CategoryId}
    {category : CategoryData} {order : OrderData} (hcategory : p.categories categoryId = some category)
    (hnone : p.orders key = none) (hcount : category.nftCount.val < 2 ^ 128 - 1)
    (horder : order.categoryId = categoryId) :
    ((p.setCategory categoryId
      (some { category with nftCount := category.nftCount.saturatingAdd 1 })).setOrder key
        (some order)).dropOrder key order = p := by
  subst horder
  have hone : (1 : Balance).val = 1 := rfl
  have hback : (category.nftCount.saturatingAdd 1).saturatingSub 1 = category.nftCount :=
    Fin.ext (by simp only [UWord.val_saturatingAdd, UWord.val_saturatingSub, hone]; omega)
  unfold dropOrder
  simp only [setOrder, setCategory, Function.update_self, Function.update_idem, Option.map_some,
    hback]
  rw [← hcategory, ← hnone, Function.update_eq_self, Function.update_eq_self]

end PalletStore

/-! ## The round trip -/

variable (cfg : Config AccountId) {s s₁ s₂ : State AccountId}

/-- `remove_order` run forward: once the token and the order are found, the state is the one the
two `unreserve`s leave, with the order dropped. -/
theorem run_removeOrder {who : AccountId} {classId : ClassId} {tokenId : TokenId}
    {token : TokenInfoOf AccountId} {order : OrderData} {r₁ : Balance}
    (htoken : s.nft.tokens (classId, tokenId) = some token)
    (horder : s.pallet.orders ((classId, tokenId), who) = some order)
    (h₁ : (liftBalances (Balances.unreserve cfg.existentialDeposit who order.deposit)).run s =
      .ok r₁ s₁)
    (h₂ : if who ≠ token.owner then
        ∃ r₂, (MultiCurrency.unreserve cfg order.currencyId who order.price).run s₁ = .ok r₂ s₂
      else s₂ = s₁) :
    (removeOrder cfg (.signed who) classId tokenId).run s =
      .ok () { s₂ with pallet := s₂.pallet.dropOrder ((classId, tokenId), who) order } := by
  simp only [removeOrder, deleteOrder, run_transactional_eq_ok, run_bind_eq_ok,
    run_ensureSigned_eq_ok, run_get_eq_ok, run_okOr_eq_ok]
  refine ⟨who, s, ⟨rfl, rfl⟩, s, s, ⟨rfl, rfl⟩, token, s, ⟨htoken, rfl⟩, s, s, ⟨rfl, rfl⟩, order, s,
    ⟨horder, rfl⟩, r₁, s₁, h₁, ?_⟩
  -- the price comes back only to an account that does not own the token
  split at h₂
  · rename_i hwho
    obtain ⟨r₂, h₂⟩ := h₂
    rw [if_pos hwho, EStateM.run_bind, h₂]
    rfl
  · rename_i hwho
    subst h₂
    rw [if_neg hwho]
    rfl

/-- `remove_order` right after `submit_order` restores the state the order was submitted in. -/
theorem removeOrder_submitOrder {who : AccountId} {currencyId : CurrencyId} {price : Balance}
    {categoryId : CategoryId} {classId : ClassId} {tokenId : TokenId} {deposit : Balance}
    {deadline : BlockNumber}
    (hdust : (s.balances.account who).total = 0 ∨
      cfg.existentialDeposit ≤ (s.balances.account who).total)
    (hfit : (s.tokens.accounts (who, currencyId)).free.val +
      (s.tokens.accounts (who, currencyId)).reserved.val < 2 ^ 128)
    (hcount : ∀ category, s.pallet.categories categoryId = some category →
      category.nftCount.val < 2 ^ 128 - 1)
    (h : (submitOrder cfg (.signed who) currencyId price categoryId classId tokenId deposit
      deadline).run s = .ok () s₁) :
    (removeOrder cfg (.signed who) classId tokenId).run s₁ = .ok () s := by
  obtain ⟨_, token, category, hwho, htoken, hnone, -, hcategory, -, s₂, s₃, h₂, h₃, rfl⟩ :=
    submitOrder_ok cfg h
  cases hwho
  -- the deposit is reserved in the native currency
  obtain ⟨b₂, hb₂, rfl⟩ := run_zoom_eq_ok.1 h₂
  obtain ⟨hle, hroom, rfl⟩ := Balances.reserve_eq hb₂ hdust
  dsimp only at hle hroom
  by_cases howner : token.owner ≠ who
  · rw [if_pos howner] at h₃
    obtain ⟨-, h₃⟩ := h₃
    unfold MultiCurrency.reserve at h₃
    split at h₃
    · -- the price in the native currency, from the same record as the deposit
      rename_i hnative
      obtain ⟨b₃, hb₃, rfl⟩ := run_zoom_eq_ok.1 h₃
      obtain ⟨hle', hroom', rfl⟩ := Balances.reserve_eq hb₃ (by
        simp only [Function.update_self]
        rw [AccountData.total_reserveValue hle hroom]
        exact hdust)
      simp only [Function.update_self] at hle' hroom'
      have hfree₁ := AccountData.val_free_reserveValue hle
      have hreserved₁ := AccountData.val_reserved_reserveValue hroom
      have hle₂ : price.val ≤ (s.balances.account who).free.val := by omega
      have hroom₂ : (s.balances.account who).reserved.val + price.val < 2 ^ 128 := by omega
      simp only [Function.update_self, Function.update_idem]
      rw [run_removeOrder cfg]
      case htoken => exact htoken
      case horder => exact Function.update_self _ _ _
      case h₁ =>
        exact run_zoom_eq_ok.2 ⟨_, Balances.unreserve_reserveValue_reserveValue hle hroom hle'
          hroom' hdust, rfl⟩
      case h₂ =>
        rw [if_pos (Ne.symm howner)]
        unfold MultiCurrency.unreserve
        rw [if_pos hnative]
        exact ⟨_, run_zoom_eq_ok.2 ⟨_, Balances.unreserve_reserveValue hle₂ hroom₂ hdust, rfl⟩⟩
      simp only [PalletStore.dropOrder_setOrder hcategory hnone (hcount _ hcategory)]
    · -- the price in an `orml_tokens` currency
      rename_i hnative
      obtain ⟨t₃, ht₃, rfl⟩ := run_zoom_eq_ok.1 h₃
      obtain ⟨hcan, rfl⟩ := Tokens.reserve_eq ht₃
      have hle' : price.val ≤ (s.tokens.accounts (who, currencyId)).free.val := by
        rcases hcan with rfl | ⟨hle', -⟩
        · exact Nat.zero_le _
        · exact hle'
      rw [run_removeOrder cfg]
      case htoken => exact htoken
      case horder => exact Function.update_self _ _ _
      case h₁ => exact run_zoom_eq_ok.2 ⟨_, Balances.unreserve_reserveValue hle hroom hdust, rfl⟩
      case h₂ =>
        rw [if_pos (Ne.symm howner)]
        unfold MultiCurrency.unreserve
        rw [if_neg hnative]
        exact ⟨_, run_zoom_eq_ok.2 ⟨_, Tokens.unreserve_reserveValue hle' hfit
          (fun hprice => (hcan.resolve_left hprice).2), rfl⟩⟩
      simp only [PalletStore.dropOrder_setOrder hcategory hnone (hcount _ hcategory)]
  · rw [if_neg howner] at h₃
    subst h₃
    rw [run_removeOrder cfg]
    case htoken => exact htoken
    case horder => exact Function.update_self _ _ _
    case h₁ => exact run_zoom_eq_ok.2 ⟨_, Balances.unreserve_reserveValue hle hroom hdust, rfl⟩
    case h₂ => rw [if_neg (fun hwho => howner hwho.symm)]
    simp only [PalletStore.dropOrder_setOrder hcategory hnone (hcount _ hcategory)]

/-- Account `2` bids `5 * 10^12` of the native currency on the token of `1` after the setup of
the stale-bid traces, and withdraws the bid at once. -/
theorem removeOrder_submitOrder_bid :
    (removeOrder bidConfig (.signed 2) 0 0).run
      (stateOf ((submitOrder bidConfig (.signed 2) 0 (UWord.ofNat (5 * 10 ^ 12)) 0 0 0
        (UWord.ofNat (10 ^ 12)) 100).run (runActions bidConfig bidGenesis bidSetup))) =
      .ok () (runActions bidConfig bidGenesis bidSetup) := by
  have hcategory : (runActions bidConfig bidGenesis bidSetup).pallet.categories 0 =
      some { metadata := [], nftCount := 0 } := by decide
  have hsubmit : (submitOrder bidConfig (.signed 2) 0 (UWord.ofNat (5 * 10 ^ 12)) 0 0 0
      (UWord.ofNat (10 ^ 12)) 100).run (runActions bidConfig bidGenesis bidSetup) =
      .ok () (stateOf ((submitOrder bidConfig (.signed 2) 0 (UWord.ofNat (5 * 10 ^ 12)) 0 0 0
        (UWord.ofNat (10 ^ 12)) 100).run (runActions bidConfig bidGenesis bidSetup))) := rfl
  refine removeOrder_submitOrder bidConfig ?_ ?_ (fun category h => ?_) hsubmit
  · decide
  · decide
  · rw [hcategory] at h
    cases h
    decide

end Nftmart
