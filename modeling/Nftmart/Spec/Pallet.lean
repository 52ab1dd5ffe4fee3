import Mathlib
import Nftmart.Lib.Effect
import Nftmart.Model.Pallet
import Nftmart.Spec.Currencies
import Nftmart.Spec.Frame

/-!
# `nftmart_nft`: what each call does when it succeeds

One inversion lemma for each function of `Nftmart.Model.Pallet`. A successful run means that
every check of the call passed; the lemma lists those checks and then the run itself, as the
sequence of the calls it made into the other pallets. The invariants and the behaviour theorems
cite these lemmas and never unfold a call.

Two facts about the helpers carry most of the weight later:

* `deleteOrder_error`: `delete_order` fails only when the order is absent, and then it has
  written nothing. `try_delete_order` drops that error without a rollback, so this is what
  makes the two `try_delete_order` calls in `take_order` safe.
* `doTransfer_ok`: a token moves only from its owner, and only when that owner has no order on
  it.

`PalletStore.dropOrder` names the two writes `delete_order` makes to the pallet's own storage.

## Main results

* `deleteOrder_ok`, `deleteOrder_error`, `tryDeleteOrder_frame` — the order helpers.
* `doTransfer_ok` — the checks of a token transfer.
* `takeOrder_ok`, `submitOrder_ok`, `removeOrder_ok`, `updateOrderPrice_ok`,
  `createCategory_ok`, `updateCategory_ok`, `updateMinOrderDeposit_ok`, `createClass_ok`,
  `mint_ok`, `transfer_ok`, `burn_ok`, `destroyClass_ok` — one per dispatchable.
-/

namespace Nftmart

open Effect

variable {AccountId : Type}

namespace PalletStore

variable (p : PalletStore AccountId)

@[simp] theorem setCategory_storageVersion (k v) :
    (p.setCategory k v).storageVersion = p.storageVersion := rfl
@[simp] theorem setCategory_nextCategoryId (k v) :
    (p.setCategory k v).nextCategoryId = p.nextCategoryId := rfl
@[simp] theorem setCategory_categories (k v) :
    (p.setCategory k v).categories = Function.update p.categories k v := rfl
@[simp] theorem setCategory_orders (k v) : (p.setCategory k v).orders = p.orders := rfl
@[simp] theorem setCategory_minOrderDeposit (k v) :
    (p.setCategory k v).minOrderDeposit = p.minOrderDeposit := rfl

variable [DecidableEq AccountId]

@[simp] theorem setOrder_storageVersion (k v) :
    (p.setOrder k v).storageVersion = p.storageVersion := rfl
@[simp] theorem setOrder_nextCategoryId (k v) :
    (p.setOrder k v).nextCategoryId = p.nextCategoryId := rfl
@[simp] theorem setOrder_categories (k v) : (p.setOrder k v).categories = p.categories := rfl
@[simp] theorem setOrder_orders (k v) :
    (p.setOrder k v).orders = Function.update p.orders k v := rfl
@[simp] theorem setOrder_minOrderDeposit (k v) :
    (p.setOrder k v).minOrderDeposit = p.minOrderDeposit := rfl

/-- The writes of `delete_order` to the pallet's storage once it has found `order` under
`key`: the order leaves its category's count, then the store. -/
def dropOrder (key : (ClassId × TokenId) × AccountId) (order : OrderData) :
    PalletStore AccountId :=
  (p.setCategory order.categoryId ((p.categories order.categoryId).map fun cate =>
    { cate with nftCount := cate.nftCount.saturatingSub 1 })).setOrder key none

/-- The writes of `try_delete_order`: those of `delete_order` when there is an order under
`key`, and none otherwise. -/
def dropOrderIfAny (key : (ClassId × TokenId) × AccountId) : PalletStore AccountId :=
  match p.orders key with
  | some order => p.dropOrder key order
  | none => p

@[simp] theorem dropOrder_orders (key order) :
    (p.dropOrder key order).orders = Function.update p.orders key none := rfl
@[simp] theorem dropOrder_nextCategoryId (key order) :
    (p.dropOrder key order).nextCategoryId = p.nextCategoryId := rfl

/-- Either way, `try_delete_order` leaves no order under `key`. -/
@[simp] theorem dropOrderIfAny_orders (key) :
    (p.dropOrderIfAny key).orders = Function.update p.orders key none := by
  unfold dropOrderIfAny
  split
  · rfl
  · rename_i hnone
    rw [← hnone, Function.update_eq_self]

end PalletStore

theorem modifyPallet_noFail (f : PalletStore AccountId → PalletStore AccountId) :
    NoFail (modifyPallet f) :=
  NoFail.modify _

theorem run_modifyPallet_eq_ok {f : PalletStore AccountId → PalletStore AccountId}
    {s s' : State AccountId} {u : Unit} :
    (modifyPallet f).run s = .ok u s' ↔ s' = { s with pallet := f s.pallet } :=
  run_modify_eq_ok

theorem run_ensureSigned_eq_ok {origin : Origin AccountId} {s s' : State AccountId}
    {who : AccountId} :
    (ensureSigned origin).run s = .ok who s' ↔ origin = .signed who ∧ s = s' := by
  cases origin <;> simp [ensureSigned, eq_comm]

theorem run_ensureRoot_eq_ok {origin : Origin AccountId} {s s' : State AccountId} {u : Unit} :
    (ensureRoot origin).run s = .ok u s' ↔ origin = .root ∧ s = s' := by
  cases origin <;> simp [ensureRoot, eq_comm]

variable {s s' : State AccountId}

/-! ## Helpers -/

theorem isBurnable_ok {classId : ClassId} {b : Bool}
    (h : (isBurnable classId : RuntimeM AccountId Bool).run s = .ok b s') :
    ∃ classInfo, s.nft.classes classId = some classInfo ∧
      b = classInfo.data.properties.contains .burnable ∧ s = s' := by
  simp only [isBurnable, run_bind_eq_ok, run_get_eq_ok, run_okOr_eq_ok, run_pure_eq_ok] at h
  obtain ⟨_, _, ⟨rfl, rfl⟩, classInfo, _, ⟨hclass, rfl⟩, hb, rfl⟩ := h
  exact ⟨classInfo, hclass, hb, rfl⟩

variable [DecidableEq AccountId] (cfg : Config AccountId)

/-- `delete_order` fails only when there is no order to delete, and then it has written
nothing: every step after the lookup cannot fail. -/
theorem deleteOrder_error {classId : ClassId} {tokenId : TokenId} {who tokenOwner : AccountId}
    {e : DispatchError} (h : (deleteOrder cfg classId tokenId who tokenOwner).run s = .error e s') :
    e = .nftmart .orderNotFound ∧ s.pallet.orders ((classId, tokenId), who) = none ∧ s' = s := by
  unfold deleteOrder at h
  rcases run_bind_eq_error.1 h with hget | ⟨_, _, hget, hfind⟩
  · simp at hget
  obtain ⟨rfl, rfl⟩ := run_get_eq_ok.1 hget
  rcases run_bind_eq_error.1 hfind with hnone | ⟨order, _, _, hrest⟩
  · obtain ⟨habsent, rfl, rfl⟩ := run_okOr_eq_error.1 hnone
    exact ⟨rfl, habsent, rfl⟩
  -- once the order is found, the two `unreserve`s and the two writes cannot fail
  refine absurd hrest (NoFail.ne_error ?_ _ _ _)
  refine NoFail.bind (NoFail.zoom (Balances.unreserve_noFail _ _ _)) fun _ => ?_
  dsimp only
  refine NoFail.ite (NoFail.bind (MultiCurrency.unreserve_noFail _ _ _ _) fun _ => ?_) ?_ <;>
  exact NoFail.bind (modifyPallet_noFail _) fun _ => modifyPallet_noFail _

/-- A successful `delete_order` found the order, released its deposit and, for an account
other than `tokenOwner`, its price, and then dropped it from its category and the store. -/
theorem deleteOrder_ok {classId : ClassId} {tokenId : TokenId} {who tokenOwner : AccountId}
    {u : Unit} (h : (deleteOrder cfg classId tokenId who tokenOwner).run s = .ok u s') :
    ∃ order, s.pallet.orders ((classId, tokenId), who) = some order ∧
      ∃ r₁ s₁, (liftBalances (Balances.unreserve cfg.existentialDeposit who order.deposit)).run s =
        .ok r₁ s₁ ∧
      ∃ s₂, (if who ≠ tokenOwner then
          ∃ r₂, (MultiCurrency.unreserve cfg order.currencyId who order.price).run s₁ = .ok r₂ s₂
        else s₂ = s₁) ∧
      s' = { s₂ with pallet := s₂.pallet.dropOrder ((classId, tokenId), who) order } := by
  simp only [deleteOrder, run_bind_eq_ok, run_get_eq_ok, run_okOr_eq_ok] at h
  obtain ⟨_, _, ⟨rfl, rfl⟩, order, _, ⟨horder, rfl⟩, r₁, s₁, h₁, h⟩ := h
  refine ⟨order, horder, r₁, s₁, h₁, ?_⟩
  -- the price is released only for an account that is not `tokenOwner`
  by_cases hwho : who ≠ tokenOwner
  · rw [if_pos hwho] at h
    simp only [run_bind_eq_ok, run_modifyPallet_eq_ok] at h
    obtain ⟨r₂, s₂, h₂, _, _, rfl, rfl⟩ := h
    exact ⟨s₂, by rw [if_pos hwho]; exact ⟨r₂, h₂⟩, rfl⟩
  · rw [if_neg hwho] at h
    simp only [run_bind_eq_ok, run_modifyPallet_eq_ok] at h
    obtain ⟨_, _, rfl, rfl⟩ := h
    exact ⟨s₁, by rw [if_neg hwho], rfl⟩

/-- `delete_order` succeeds whenever there is an order to delete. -/
theorem deleteOrder_ok_of_some (classId : ClassId) (tokenId : TokenId) (who tokenOwner : AccountId)
    {order : OrderData} (horder : s.pallet.orders ((classId, tokenId), who) = some order) :
    ∃ s', (deleteOrder cfg classId tokenId who tokenOwner).run s = .ok () s' := by
  cases hrun : (deleteOrder cfg classId tokenId who tokenOwner).run s with
  | ok u s' => exact ⟨s', rfl⟩
  | error e s' =>
    have hnone := (deleteOrder_error cfg hrun).2.1
    rw [horder] at hnone
    cases hnone

/-- The storage view of `deleteOrder_ok`: the NFT store and everything but money is as
`dropOrder` leaves it. -/
theorem deleteOrder_frame {classId : ClassId} {tokenId : TokenId} {who tokenOwner : AccountId}
    {u : Unit} (h : (deleteOrder cfg classId tokenId who tokenOwner).run s = .ok u s') :
    ∃ order, s.pallet.orders ((classId, tokenId), who) = some order ∧
      MoneyFrame { s with pallet := s.pallet.dropOrder ((classId, tokenId), who) order } s' := by
  obtain ⟨order, horder, r₁, s₁, h₁, s₂, h₂, rfl⟩ := deleteOrder_ok cfg h
  have hf₁ : MoneyFrame s s₁ := (liftBalances_keeps _).of_ok h₁
  have hf₂ : MoneyFrame s₁ s₂ := by
    split at h₂
    · obtain ⟨r₂, h₂⟩ := h₂
      exact (MultiCurrency.unreserve_keeps _ _ _ _).of_ok h₂
    · exact h₂ ▸ MoneyFrame.rfl' s₁
  have hf : MoneyFrame s s₂ := hf₁.trans hf₂
  refine ⟨order, horder, hf.blockNumber, hf.accountWhitelist, hf.nft, ?_⟩
  simp only [hf.pallet]

/-- `try_delete_order` leaves the storage as `dropOrderIfAny` does, whether or not there was an
order to delete. -/
theorem tryDeleteOrder_frame (classId : ClassId) (tokenId : TokenId) (who tokenOwner : AccountId)
    (s : State AccountId) :
    (tryDeleteOrder cfg classId tokenId who tokenOwner).run s =
        .ok () (stateOf ((deleteOrder cfg classId tokenId who tokenOwner).run s)) ∧
      MoneyFrame { s with pallet := s.pallet.dropOrderIfAny ((classId, tokenId), who) }
        (stateOf ((deleteOrder cfg classId tokenId who tokenOwner).run s)) := by
  refine ⟨run_attempt _ _, ?_⟩
  cases hrun : (deleteOrder cfg classId tokenId who tokenOwner).run s with
  | ok u s' =>
    obtain ⟨order, horder, hframe⟩ := deleteOrder_frame cfg hrun
    simpa [PalletStore.dropOrderIfAny, horder] using hframe
  | error e s' =>
    obtain ⟨-, hnone, rfl⟩ := deleteOrder_error cfg hrun
    simpa [PalletStore.dropOrderIfAny, hnone] using MoneyFrame.rfl' s'

/-- A token moves only out of a transferable class, only from its owner, and only when that
owner has no order on it; the move itself is `orml_nft::transfer`. -/
theorem doTransfer_ok {src dst : AccountId} {classId : ClassId} {tokenId : TokenId} {u : Unit}
    (h : (doTransfer src dst classId tokenId).run s = .ok u s') :
    ∃ classInfo token t, s.nft.classes classId = some classInfo ∧
      classInfo.data.properties.contains .transferable = true ∧
      s.nft.tokens (classId, tokenId) = some token ∧ src = token.owner ∧
      s.pallet.orders ((classId, tokenId), src) = none ∧
      (OrmlNft.transfer src dst (classId, tokenId)).run s.nft = .ok () t ∧
      s' = { s with nft := t } := by
  simp only [doTransfer, run_transactional_eq_ok, run_bind_eq_ok, run_get_eq_ok, run_okOr_eq_ok,
    run_ensure_eq_ok, decide_eq_true_eq, Option.isNone_iff_eq_none] at h
  obtain ⟨_, _, ⟨rfl, rfl⟩, classInfo, _, ⟨hclass, rfl⟩, _, _, ⟨htransferable, rfl⟩,
    _, _, ⟨rfl, rfl⟩, token, _, ⟨htoken, rfl⟩, _, _, ⟨hsrc, rfl⟩, _, _, ⟨rfl, rfl⟩, _, _,
    ⟨hnone, rfl⟩, h⟩ := h
  obtain ⟨t, ht, rfl⟩ := run_zoom_eq_ok.1 h
  exact ⟨classInfo, token, t, hclass, htransferable, htoken, hsrc, hnone, ht, rfl⟩

/-! ## Orders -/

theorem takeOrder_ok {origin : Origin AccountId} {classId : ClassId} {tokenId : TokenId}
    {price : Balance} {orderOwner : AccountId} {u : Unit}
    (h : (takeOrder cfg origin classId tokenId price orderOwner).run s = .ok u s') :
    ∃ who order token buyer, origin = .signed who ∧ orderOwner ≠ who ∧
      s.pallet.orders ((classId, tokenId), orderOwner) = some order ∧
      s.blockNumber ≤ order.deadline ∧ s.nft.tokens (classId, tokenId) = some token ∧
      ((token.owner = orderOwner ∧ order.price ≤ price ∧ buyer = who) ∨
        (token.owner = who ∧ price ≤ order.price ∧ buyer = orderOwner)) ∧
      ∃ s₁ s₃, (deleteOrder cfg classId tokenId orderOwner token.owner).run s = .ok () s₁ ∧
        (doTransfer token.owner buyer classId tokenId).run
          (stateOf ((deleteOrder cfg classId tokenId who token.owner).run s₁)) = .ok () s₃ ∧
        (MultiCurrency.transfer cfg order.currencyId buyer token.owner order.price).run s₃ =
          .ok () s' := by
  simp only [takeOrder, run_transactional_eq_ok, run_bind_eq_ok, run_ensureSigned_eq_ok,
    run_ensure_eq_ok, run_get_eq_ok, run_okOr_eq_ok, decide_eq_true_eq] at h
  obtain ⟨who, _, ⟨rfl, rfl⟩, _, _, ⟨hne, rfl⟩, _, _, ⟨rfl, rfl⟩, order, _, ⟨horder, rfl⟩,
    _, _, ⟨rfl, rfl⟩, _, _, ⟨hdeadline, rfl⟩, _, _, ⟨rfl, rfl⟩, token, _, ⟨htoken, rfl⟩, h⟩ := h
  -- the direction of the trade is read off the token's current owner
  split at h
  · rename_i hseller _
    have hseller : orderOwner = token.owner := of_decide_eq_true hseller
    simp only [run_bind_eq_ok, run_ensure_eq_ok, decide_eq_true_eq, tryDeleteOrder,
      run_attempt, EStateM.Result.ok.injEq] at h
    obtain ⟨_, _, ⟨hprice, rfl⟩, _, s₁, h₁, _, _, ⟨-, rfl⟩, _, s₃, h₃, h₄⟩ := h
    refine ⟨who, order, token, who, rfl, hne, horder, hdeadline, htoken,
      .inl ⟨hseller.symm, hprice, rfl⟩, s₁, s₃, h₁, ?_, ?_⟩
    · simpa only [hseller] using h₃
    · simpa only [hseller] using h₄
  · rename_i _ hbuyer
    have hbuyer : token.owner = who := of_decide_eq_true hbuyer
    simp only [run_bind_eq_ok, run_ensure_eq_ok, decide_eq_true_eq, tryDeleteOrder,
      run_attempt, EStateM.Result.ok.injEq] at h
    obtain ⟨_, _, ⟨hprice, rfl⟩, _, s₁, h₁, _, _, ⟨-, rfl⟩, _, s₃, h₃, h₄⟩ := h
    refine ⟨who, order, token, orderOwner, rfl, hne, horder, hdeadline, htoken,
      .inr ⟨hbuyer, hprice, rfl⟩, s₁, s₃, h₁, ?_, ?_⟩
    · simpa only [hbuyer] using h₃
    · simpa only [hbuyer] using h₄
  · simp at h

theorem submitOrder_ok {origin : Origin AccountId} {currencyId : CurrencyId} {price : Balance}
    {categoryId : CategoryId} {classId : ClassId} {tokenId : TokenId} {deposit : Balance}
    {deadline : BlockNumber} {u : Unit}
    (h : (submitOrder cfg origin currencyId price categoryId classId tokenId deposit deadline).run s =
      .ok u s') :
    ∃ who token category, origin = .signed who ∧ s.nft.tokens (classId, tokenId) = some token ∧
      s.pallet.orders ((classId, tokenId), who) = none ∧ s.blockNumber < deadline ∧
      s.pallet.categories categoryId = some category ∧ s.pallet.minOrderDeposit ≤ deposit ∧
      ∃ s₁ s₂, (liftBalances (Balances.reserve cfg.existentialDeposit who deposit)).run
          { s with pallet := (s.pallet.setCategory categoryId
            (some { category with nftCount := category.nftCount.saturatingAdd 1 })) } = .ok () s₁ ∧
        (if token.owner ≠ who then
          (∃ classInfo, s.nft.classes classId = some classInfo ∧
            classInfo.data.properties.contains .burnable = false) ∧
          (MultiCurrency.reserve cfg currencyId who price).run s₁ = .ok () s₂
        else s₂ = s₁) ∧
        s' = { s₂ with pallet := (s₂.pallet.setOrder ((classId, tokenId), who)
          (some { currencyId, price, deposit, deadline, categoryId })) } := by
  simp only [submitOrder, run_transactional_eq_ok, run_bind_eq_ok, run_ensureSigned_eq_ok,
    run_ensure_eq_ok, run_get_eq_ok, run_okOr_eq_ok, decide_eq_true_eq,
    Option.isNone_iff_eq_none, run_modifyPallet_eq_ok] at h
  obtain ⟨who, _, ⟨rfl, rfl⟩, _, _, ⟨rfl, rfl⟩, token, _, ⟨htoken, rfl⟩, _, _, ⟨rfl, rfl⟩, _, _,
    ⟨hnone, rfl⟩, _, _, ⟨rfl, rfl⟩, _, _, ⟨hdeadline, rfl⟩, _, _, ⟨rfl, rfl⟩, category, _,
    ⟨hcategory, rfl⟩, _, _, rfl, _, _, ⟨rfl, rfl⟩, _, _, ⟨hdeposit, rfl⟩, _, s₁, h₁, h⟩ := h
  refine ⟨who, token, category, rfl, htoken, hnone, hdeadline, hcategory, hdeposit, s₁, ?_⟩
  -- the price is reserved only by an account that does not own the token
  by_cases howner : token.owner ≠ who
  · rw [if_pos howner] at h
    simp only [run_bind_eq_ok, run_ensure_eq_ok, Bool.not_eq_eq_eq_not, Bool.not_true,
      run_modifyPallet_eq_ok] at h
    obtain ⟨b, _, hb, _, _, ⟨hfalse, rfl⟩, _, s₂, h₂, _, rfl⟩ := h
    obtain ⟨classInfo, hclass, rfl, rfl⟩ := isBurnable_ok hb
    have hnft : s₁.nft = s.nft := ((liftBalances_keeps _).of_ok h₁).nft
    refine ⟨s₂, h₁, ?_, rfl⟩
    rw [if_pos howner]
    exact ⟨⟨classInfo, hnft ▸ hclass, hfalse⟩, h₂⟩
  · rw [if_neg howner, run_modifyPallet_eq_ok] at h
    exact ⟨s₁, h₁, by rw [if_neg howner], h⟩

theorem removeOrder_ok {origin : Origin AccountId} {classId : ClassId} {tokenId : TokenId}
    {u : Unit} (h : (removeOrder cfg origin classId tokenId).run s = .ok u s') :
    ∃ who token, origin = .signed who ∧ s.nft.tokens (classId, tokenId) = some token ∧
      (deleteOrder cfg classId tokenId who token.owner).run s = .ok () s' := by
  simp only [removeOrder, run_transactional_eq_ok, run_bind_eq_ok, run_ensureSigned_eq_ok,
    run_get_eq_ok, run_okOr_eq_ok] at h
  obtain ⟨who, _, ⟨rfl, rfl⟩, _, _, ⟨rfl, rfl⟩, token, _, ⟨htoken, rfl⟩, h⟩ := h
  exact ⟨who, token, rfl, htoken, h⟩

/-- `remove_order` by the owner of an order on a live token succeeds. -/
theorem removeOrder_ok_of_some {who : AccountId} {classId : ClassId} {tokenId : TokenId}
    {token : TokenInfoOf AccountId} {order : OrderData}
    (htoken : s.nft.tokens (classId, tokenId) = some token)
    (horder : s.pallet.orders ((classId, tokenId), who) = some order) :
    ∃ s', (removeOrder cfg (.signed who) classId tokenId).run s = .ok () s' := by
  obtain ⟨s', h⟩ := deleteOrder_ok_of_some cfg classId tokenId who token.owner horder
  refine ⟨s', ?_⟩
  simp only [removeOrder, run_transactional_eq_ok, run_bind_eq_ok, run_ensureSigned_eq_ok,
    run_get_eq_ok, run_okOr_eq_ok]
  exact ⟨who, s, ⟨rfl, rfl⟩, s, s, ⟨rfl, rfl⟩, token, s, ⟨htoken, rfl⟩, h⟩

theorem updateOrderPrice_ok {origin : Origin AccountId} {classId : ClassId} {tokenId : TokenId}
    {price : Balance} {u : Unit}
    (h : (updateOrderPrice cfg origin classId tokenId price).run s = .ok u s') :
    ∃ who order s₁, origin = .signed who ∧ s.pallet.orders ((classId, tokenId), who) = some order ∧
      (if OrmlNft.isOwner s.nft who (classId, tokenId) = false then
        ∃ r s₀, (MultiCurrency.unreserve cfg order.currencyId who order.price).run s = .ok r s₀ ∧
          (MultiCurrency.reserve cfg order.currencyId who price).run s₀ = .ok () s₁
      else s₁ = s) ∧
      s' = { s₁ with pallet := (s₁.pallet.setOrder ((classId, tokenId), who)
        (some { order with price })) } := by
  simp only [updateOrderPrice, run_transactional_eq_ok, run_bind_eq_ok, run_ensureSigned_eq_ok,
    run_get_eq_ok, run_okOr_eq_ok] at h
  obtain ⟨who, _, ⟨rfl, rfl⟩, _, _, ⟨rfl, rfl⟩, order, _, ⟨horder, rfl⟩, _, _, ⟨rfl, rfl⟩, h⟩ := h
  refine ⟨who, order, ?_⟩
  -- the escrow is swapped only for an account that `is_owner` does not name as the owner
  by_cases hown : OrmlNft.isOwner s.nft who (classId, tokenId) = false
  · rw [if_pos (by simp [hown])] at h
    simp only [run_bind_eq_ok, run_modifyPallet_eq_ok] at h
    obtain ⟨r, s₀, h₀, _, s₁, h₁, rfl⟩ := h
    exact ⟨s₁, rfl, horder, by rw [if_pos hown]; exact ⟨r, s₀, h₀, h₁⟩, rfl⟩
  · rw [if_neg (by simpa using hown), run_modifyPallet_eq_ok] at h
    exact ⟨s, rfl, horder, by rw [if_neg hown], h⟩

/-! ## Categories and the order deposit -/

omit [DecidableEq AccountId] in
theorem createCategory_ok {origin : Origin AccountId} {metadata : Bytes} {u : Unit}
    (h : (createCategory origin metadata).run s = .ok u s') :
    origin = .root ∧ ∃ nextId, s.pallet.nextCategoryId.checkedAdd 1 = some nextId ∧
      s' = { s with pallet := (({ s.pallet with nextCategoryId := nextId }).setCategory
        s.pallet.nextCategoryId (some { metadata, nftCount := 0 })) } := by
  simp only [createCategory, run_transactional_eq_ok, run_bind_eq_ok, run_ensureRoot_eq_ok,
    run_get_eq_ok] at h
  obtain ⟨_, _, ⟨rfl, rfl⟩, _, _, ⟨rfl, rfl⟩, h⟩ := h
  -- the category id counter must not overflow
  split at h
  · rename_i nextId hnext
    simp only [run_bind_eq_ok, run_modifyPallet_eq_ok] at h
    obtain ⟨_, _, rfl, rfl⟩ := h
    exact ⟨rfl, nextId, hnext, rfl⟩
  · simp at h

omit [DecidableEq AccountId] in
theorem updateCategory_ok {origin : Origin AccountId} {categoryId : CategoryId} {metadata : Bytes}
    {u : Unit} (h : (updateCategory origin categoryId metadata).run s = .ok u s') :
    origin = .root ∧ s' = match s.pallet.categories categoryId with
      | some category => { s with pallet := (s.pallet.setCategory categoryId
          (some { metadata, nftCount := category.nftCount })) }
      | none => s := by
  simp only [updateCategory, run_transactional_eq_ok, run_bind_eq_ok, run_ensureRoot_eq_ok,
    run_get_eq_ok] at h
  obtain ⟨_, _, ⟨rfl, rfl⟩, _, _, ⟨rfl, rfl⟩, h⟩ := h
  refine ⟨rfl, ?_⟩
  -- `if let Some(category)`: an absent category is left absent
  split at h
  · rename_i category hcategory
    rw [run_modifyPallet_eq_ok] at h
    simp [hcategory, h]
  · rename_i hcategory
    obtain ⟨-, rfl⟩ := run_pure_eq_ok.1 h
    have hnone : s.pallet.categories categoryId = none :=
      Option.eq_none_iff_forall_ne_some.2 fun category hc => hcategory category hc
    simp [hnone]

omit [DecidableEq AccountId] in
theorem updateMinOrderDeposit_ok {origin : Origin AccountId} {newDeposit : Balance} {u : Unit}
    (h : (updateMinOrderDeposit origin newDeposit).run s = .ok u s') :
    origin = .root ∧ s' = { s with pallet := { s.pallet with minOrderDeposit := newDeposit } } := by
  simp only [updateMinOrderDeposit, run_transactional_eq_ok, run_bind_eq_ok, run_ensureRoot_eq_ok,
    run_modifyPallet_eq_ok] at h
  obtain ⟨_, _, ⟨rfl, rfl⟩, rfl⟩ := h
  exact ⟨rfl, rfl⟩

/-! ## Classes and tokens -/

theorem createClass_ok {origin : Origin AccountId} {metadata name description : Bytes}
    {properties : Properties} {u : Unit}
    (h : (createClass cfg origin metadata name description properties).run s = .ok u s') :
    ∃ who s₁ s₂ s₃ classId t, origin = .signed who ∧ s.accountWhitelist who = true ∧
      name.length ≤ 20 ∧ description.length ≤ 256 ∧
      (liftBalances (Balances.transfer cfg.existentialDeposit who
        (cfg.intoSubAccount s.nft.nextClassId)
        (createClassDeposit cfg (UWord.sat metadata.length) (UWord.sat name.length)
          (UWord.sat description.length)).2 .keepAlive)).run s = .ok () s₁ ∧
      (liftBalances (Balances.reserve cfg.existentialDeposit (cfg.intoSubAccount s.nft.nextClassId)
        (createClassDeposit cfg (UWord.sat metadata.length) (UWord.sat name.length)
          (UWord.sat description.length)).1)).run s₁ = .ok () s₂ ∧
      (Proxy.addProxyDelegate cfg (cfg.intoSubAccount s.nft.nextClassId) who default 0).run s₂ =
        .ok () s₃ ∧
      (OrmlNft.createClass (cfg.intoSubAccount s.nft.nextClassId) metadata
        { deposit := (createClassDeposit cfg (UWord.sat metadata.length) (UWord.sat name.length)
            (UWord.sat description.length)).1,
          properties, name, description, createBlock := s.blockNumber }).run s₃.nft =
        .ok classId t ∧
      s' = { s₃ with nft := t } := by
  simp only [createClass, run_transactional_eq_ok, run_bind_eq_ok, run_ensureSigned_eq_ok,
    run_ensure_eq_ok, run_get_eq_ok, decide_eq_true_eq] at h
  obtain ⟨who, _, ⟨rfl, rfl⟩, _, _, ⟨rfl, rfl⟩, _, _, ⟨hwhite, rfl⟩, _, _, ⟨hname, rfl⟩, _, _,
    ⟨hdesc, rfl⟩, _, _, ⟨rfl, rfl⟩, h⟩ := h
  simp only [run_pure_eq_ok] at h
  obtain ⟨_, s₁, h₁, _, s₂, h₂, _, s₃, h₃, _, _, ⟨rfl, rfl⟩, classId, _, h₄, -, rfl⟩ := h
  obtain ⟨t, ht, rfl⟩ := run_zoom_eq_ok.1 h₄
  -- the block number the class records is the one before the deposits moved
  have hblock : s₃.blockNumber = s.blockNumber :=
    (((liftBalances_keeps _).of_ok h₁).trans (((liftBalances_keeps _).of_ok h₂).trans
      ((Proxy.addProxyDelegate_keeps _ _ _ _ _).of_ok h₃))).blockNumber
  rw [hblock] at ht
  exact ⟨who, s₁, s₂, s₃, classId, t, rfl, hwhite, hname, hdesc, h₁, h₂, h₃, ht, rfl⟩

theorem mint_ok {origin : Origin AccountId} {toAccount : AccountId} {classId : ClassId}
    {metadata : Bytes} {quantity : UWord 32} {u : Unit}
    (h : (mint cfg origin toAccount classId metadata quantity).run s = .ok u s') :
    ∃ who classInfo s₁ t, origin = .signed who ∧ s.accountWhitelist toAccount = true ∧
      1 ≤ quantity.val ∧ s.nft.classes classId = some classInfo ∧ who = classInfo.owner ∧
      (liftBalances (Balances.reserve cfg.existentialDeposit classInfo.owner
        (mintTokenDeposit cfg (UWord.sat metadata.length) quantity).2)).run s = .ok () s₁ ∧
      (iterate quantity.val (OrmlNft.mint toAccount classId metadata
        { deposit := (mintTokenDeposit cfg (UWord.sat metadata.length) quantity).1,
          createBlock := s.blockNumber })).run s₁.nft = .ok () t ∧
      s' = { s₁ with nft := t } := by
  simp only [mint, run_transactional_eq_ok, run_bind_eq_ok, run_ensureSigned_eq_ok,
    run_ensure_eq_ok, run_get_eq_ok, run_okOr_eq_ok, decide_eq_true_eq] at h
  obtain ⟨who, _, ⟨rfl, rfl⟩, _, _, ⟨rfl, rfl⟩, _, _, ⟨hwhite, rfl⟩, _, _, ⟨hquantity, rfl⟩,
    _, _, ⟨rfl, rfl⟩, classInfo, _, ⟨hclass, rfl⟩, _, _, ⟨hwho, rfl⟩, _, s₁, h₁, _, _,
    ⟨rfl, rfl⟩, h₂⟩ := h
  obtain ⟨t, ht, rfl⟩ := run_zoom_eq_ok.1 h₂
  have hblock : s₁.blockNumber = s.blockNumber := ((liftBalances_keeps _).of_ok h₁).blockNumber
  rw [hblock] at ht
  exact ⟨who, classInfo, s₁, t, rfl, hwhite, hquantity, hclass, hwho, h₁, ht, rfl⟩

theorem transfer_ok {origin : Origin AccountId} {toAccount : AccountId} {classId : ClassId}
    {tokenId : TokenId} {u : Unit} (h : (transfer origin toAccount classId tokenId).run s = .ok u s') :
    ∃ who, origin = .signed who ∧ (doTransfer who toAccount classId tokenId).run s = .ok () s' := by
  simp only [transfer, run_transactional_eq_ok, run_bind_eq_ok, run_ensureSigned_eq_ok] at h
  obtain ⟨who, _, ⟨rfl, rfl⟩, h⟩ := h
  exact ⟨who, rfl, h⟩

theorem burn_ok {origin : Origin AccountId} {classId : ClassId} {tokenId : TokenId} {u : Unit}
    (h : (burn cfg origin classId tokenId).run s = .ok u s') :
    ∃ who classInfo tokenInfo t r s₂, origin = .signed who ∧
      s.nft.classes classId = some classInfo ∧
      classInfo.data.properties.contains .burnable = true ∧
      s.nft.tokens (classId, tokenId) = some tokenInfo ∧ who = tokenInfo.owner ∧
      s.pallet.orders ((classId, tokenId), who) = none ∧
      (OrmlNft.burn who (classId, tokenId)).run s.nft = .ok () t ∧
      (liftBalances (Balances.unreserve cfg.existentialDeposit (cfg.intoSubAccount classId)
        tokenInfo.data.deposit)).run { s with nft := t } = .ok r s₂ ∧
      (liftBalances (Balances.transfer cfg.existentialDeposit (cfg.intoSubAccount classId) who
        tokenInfo.data.deposit .keepAlive)).run s₂ = .ok () s' := by
  simp only [burn, run_transactional_eq_ok, run_bind_eq_ok, run_ensureSigned_eq_ok,
    run_ensure_eq_ok, run_get_eq_ok, run_okOr_eq_ok, decide_eq_true_eq,
    Option.isNone_iff_eq_none] at h
  obtain ⟨who, _, ⟨rfl, rfl⟩, b, _, hb, _, _, ⟨rfl, rfl⟩, _, _, ⟨rfl, rfl⟩, tokenInfo, _,
    ⟨htoken, rfl⟩, _, _, ⟨hwho, rfl⟩, _, _, ⟨rfl, rfl⟩, _, _, ⟨hnone, rfl⟩, _, _, h₁, r, s₂, h₂,
    h₃⟩ := h
  obtain ⟨classInfo, hclass, hburnable, rfl⟩ := isBurnable_ok hb
  obtain ⟨t, ht, rfl⟩ := run_zoom_eq_ok.1 h₁
  exact ⟨who, classInfo, tokenInfo, t, r, s₂, rfl, hclass, hburnable.symm, htoken, hwho, hnone,
    ht, h₂, h₃⟩

theorem destroyClass_ok {origin : Origin AccountId} {classId : ClassId} {dest : AccountId}
    {u : Unit} (h : (destroyClass cfg origin classId dest).run s = .ok u s') :
    ∃ who classInfo r s₁ s₂ t, origin = .signed who ∧ s.nft.classes classId = some classInfo ∧
      who = classInfo.owner ∧ classInfo.totalIssuance = 0 ∧
      (liftBalances (Balances.unreserve cfg.existentialDeposit (cfg.intoSubAccount classId)
        classInfo.data.deposit)).run s = .ok r s₁ ∧
      (liftBalances (Balances.transfer cfg.existentialDeposit (cfg.intoSubAccount classId) dest
        classInfo.data.deposit .keepAlive)).run s₁ = .ok () s₂ ∧
      (OrmlNft.destroyClass who classId).run s₂.nft = .ok () t ∧
      s' = { s₂ with nft := t } := by
  simp only [destroyClass, run_transactional_eq_ok, run_bind_eq_ok, run_ensureSigned_eq_ok,
    run_ensure_eq_ok, run_get_eq_ok, run_okOr_eq_ok, decide_eq_true_eq] at h
  obtain ⟨who, _, ⟨rfl, rfl⟩, _, _, ⟨rfl, rfl⟩, classInfo, _, ⟨hclass, rfl⟩, _, _, ⟨hwho, rfl⟩,
    _, _, ⟨hzero, rfl⟩, r, s₁, h₁, _, s₂, h₂, h₃⟩ := h
  obtain ⟨t, ht, rfl⟩ := run_zoom_eq_ok.1 h₃
  exact ⟨who, classInfo, r, s₁, s₂, t, rfl, hclass, hwho, hzero, h₁, h₂, ht, rfl⟩

theorem addWhitelist_ok {origin : Origin AccountId} {who : AccountId} {u : Unit}
    (h : (Whitelist.addWhitelist origin who).run s = .ok u s') :
    origin = .root ∧
      s' = { s with accountWhitelist := Function.update s.accountWhitelist who true } := by
  simp only [Whitelist.addWhitelist, run_transactional_eq_ok, run_bind_eq_ok,
    run_ensureRoot_eq_ok, run_modify_eq_ok] at h
  obtain ⟨_, _, ⟨rfl, rfl⟩, rfl⟩ := h
  exact ⟨rfl, rfl⟩

theorem removeWhitelist_ok {origin : Origin AccountId} {who : AccountId} {u : Unit}
    (h : (Whitelist.removeWhitelist origin who).run s = .ok u s') :
    origin = .root ∧
      s' = { s with accountWhitelist := Function.update s.accountWhitelist who false } := by
  simp only [Whitelist.removeWhitelist, run_transactional_eq_ok, run_bind_eq_ok,
    run_ensureRoot_eq_ok, run_modify_eq_ok] at h
  obtain ⟨_, _, ⟨rfl, rfl⟩, rfl⟩ := h
  exact ⟨rfl, rfl⟩

end Nftmart
