import Mathlib
import Nftmart.Lib.Effect
import Nftmart.Model.Dispatch
import Nftmart.Spec.OrmlNft
import Nftmart.Spec.Pallet

/-!
# What one step can do to the stores

`StoreStep s s'` lists, once, every way a step of the system can change the NFT store and the
pallet's storage, each with the checks that guard it. Money is left out: the currency and proxy
storage of `s'` is unconstrained. The invariants of `Nftmart.Invariant.*` are proved by a case
analysis on `StoreStep` and never look at a call again.

`dispatch_storeStep` derives it from the inversion lemmas of `Nftmart.Spec.Pallet` and the frames
of `Nftmart.Spec.Frame`; `step_storeStep` adds the failed calls, which leave the state as it was
(`dispatch_error`: every call is `#[transactional]`), and the new block.

In particular, the NFT store changes only through one successful call of an `orml_nft`
function, or several mints in a row: `nftmart_nft` is the only code that writes it.

## Main results

* `dispatch_error` — a failed call leaves the state unchanged.
* `dispatch_storeStep`, `step_storeStep` — every step is one of the `StoreStep` cases.
-/

namespace Nftmart

open Effect

variable {AccountId : Type} [DecidableEq AccountId]

/-- The changes a step can make to the NFT store and the pallet's storage. -/
inductive StoreStep (s s' : State AccountId) : Prop
  /-- `take_order`: the token goes from its owner to the other party of the trade, and the
  order of `orderOwner`, and any order of `who`, are dropped. -/
  | takeOrder {who orderOwner buyer : AccountId} {classId : ClassId} {tokenId : TokenId}
      {order : OrderData} {token : TokenInfoOf AccountId} :
      orderOwner ≠ who →
      s.pallet.orders ((classId, tokenId), orderOwner) = some order →
      s.nft.tokens (classId, tokenId) = some token →
      (token.owner = orderOwner ∧ buyer = who ∨ token.owner = who ∧ buyer = orderOwner) →
      (OrmlNft.transfer token.owner buyer (classId, tokenId)).run s.nft = .ok () s'.nft →
      s'.pallet = (s.pallet.dropOrder ((classId, tokenId), orderOwner) order).dropOrderIfAny
        ((classId, tokenId), who) →
      StoreStep s s'
  /-- `submit_order`: a new order on a live token, counted in its existing category; an account
  that does not own the token cannot order on a burnable class. -/
  | submitOrder {who : AccountId} {classId : ClassId} {tokenId : TokenId}
      {token : TokenInfoOf AccountId} {category : CategoryData} (order : OrderData) :
      s.nft.tokens (classId, tokenId) = some token →
      s.pallet.orders ((classId, tokenId), who) = none →
      s.pallet.categories order.categoryId = some category →
      (token.owner ≠ who → ∃ classInfo, s.nft.classes classId = some classInfo ∧
        classInfo.data.properties.contains .burnable = false) →
      s'.nft = s.nft →
      s'.pallet = (s.pallet.setCategory order.categoryId
        (some { category with nftCount := category.nftCount.saturatingAdd 1 })).setOrder
        ((classId, tokenId), who) (some order) →
      StoreStep s s'
  /-- `remove_order`: an order on a live token is dropped. -/
  | removeOrder {who : AccountId} {classId : ClassId} {tokenId : TokenId}
      {token : TokenInfoOf AccountId} {order : OrderData} :
      s.nft.tokens (classId, tokenId) = some token →
      s.pallet.orders ((classId, tokenId), who) = some order →
      s'.nft = s.nft →
      s'.pallet = s.pallet.dropOrder ((classId, tokenId), who) order →
      StoreStep s s'
  /-- `update_order_price`: an order gets a new price and nothing else. -/
  | updateOrderPrice {who : AccountId} {classId : ClassId} {tokenId : TokenId}
      {order : OrderData} (price : Balance) :
      s.pallet.orders ((classId, tokenId), who) = some order →
      s'.nft = s.nft →
      s'.pallet = s.pallet.setOrder ((classId, tokenId), who) (some { order with price }) →
      StoreStep s s'
  /-- `create_category`: a category with no orders at the next id, which is advanced. -/
  | createCategory {metadata : Bytes} {nextId : CategoryId} :
      s.pallet.nextCategoryId.checkedAdd 1 = some nextId →
      s'.nft = s.nft →
      s'.pallet = ({ s.pallet with nextCategoryId := nextId }).setCategory
        s.pallet.nextCategoryId (some { metadata, nftCount := 0 }) →
      StoreStep s s'
  /-- `update_category`: an existing category gets new metadata and keeps its count. -/
  | updateCategory {categoryId : CategoryId} {metadata : Bytes} {category : CategoryData} :
      s.pallet.categories categoryId = some category →
      s'.nft = s.nft →
      s'.pallet = s.pallet.setCategory categoryId
        (some { metadata, nftCount := category.nftCount }) →
      StoreStep s s'
  /-- `update_min_order_deposit`. -/
  | updateMinOrderDeposit {newDeposit : Balance} :
      s'.nft = s.nft →
      s'.pallet = { s.pallet with minOrderDeposit := newDeposit } →
      StoreStep s s'
  /-- `create_class`: `orml_nft::create_class`. -/
  | createClass {owner : AccountId} {metadata : Bytes} {data : ClassData} {classId : ClassId} :
      (OrmlNft.createClass owner metadata data).run s.nft = .ok classId s'.nft →
      s'.pallet = s.pallet →
      StoreStep s s'
  /-- `mint`: `orml_nft::mint`, `quantity` times. -/
  | mint {owner : AccountId} {classId : ClassId} {metadata : Bytes} {data : TokenData}
      {quantity : Nat} :
      (iterate quantity (OrmlNft.mint owner classId metadata data)).run s.nft = .ok () s'.nft →
      s'.pallet = s.pallet →
      StoreStep s s'
  /-- `transfer`: `orml_nft::transfer` by the token's owner, who has no order on it. -/
  | transfer {who dst : AccountId} {classId : ClassId} {tokenId : TokenId}
      {token : TokenInfoOf AccountId} :
      s.nft.tokens (classId, tokenId) = some token →
      who = token.owner →
      s.pallet.orders ((classId, tokenId), who) = none →
      (OrmlNft.transfer who dst (classId, tokenId)).run s.nft = .ok () s'.nft →
      s'.pallet = s.pallet →
      StoreStep s s'
  /-- `burn`: `orml_nft::burn` of a token of a burnable class by its owner, who has no order
  on it. -/
  | burn {who : AccountId} {classId : ClassId} {tokenId : TokenId}
      {classInfo : ClassInfoOf AccountId} :
      s.nft.classes classId = some classInfo →
      classInfo.data.properties.contains .burnable = true →
      s.pallet.orders ((classId, tokenId), who) = none →
      (OrmlNft.burn who (classId, tokenId)).run s.nft = .ok () s'.nft →
      s'.pallet = s.pallet →
      StoreStep s s'
  /-- `destroy_class`: `orml_nft::destroy_class`. -/
  | destroyClass {who : AccountId} {classId : ClassId} :
      (OrmlNft.destroyClass who classId).run s.nft = .ok () s'.nft →
      s'.pallet = s.pallet →
      StoreStep s s'
  /-- A step that writes neither store: the whitelist calls, `update_category` of an absent
  category, a failed call, a new block. -/
  | unchanged : s'.nft = s.nft → s'.pallet = s.pallet → StoreStep s s'

variable (cfg : Config AccountId)

/-- Every call is `#[transactional]`: a failed call leaves the state as it found it. -/
theorem dispatch_error {origin : Origin AccountId} {call : Call AccountId} {s s' : State AccountId}
    {e : DispatchError} (h : (dispatch cfg origin call).run s = .error e s') : s' = s := by
  cases call <;>
  simp only [dispatch, takeOrder, submitOrder, removeOrder, updateOrderPrice, createCategory,
    updateCategory, updateMinOrderDeposit, createClass, mint, transfer, burn, destroyClass,
    Whitelist.addWhitelist, Whitelist.removeWhitelist] at h <;>
  exact (run_transactional_eq_error.1 h).2

variable {s s' : State AccountId}

/-- A successful `take_order` by `who`: the token goes from its owner, one of the two parties,
to the other, at a price on the right side of the order's; the order of `orderOwner`, and any
order of `who`, are dropped. -/
theorem takeOrder_trade {origin : Origin AccountId} {classId : ClassId} {tokenId : TokenId}
    {price : Balance} {orderOwner : AccountId} {u : Unit}
    (h : (takeOrder cfg origin classId tokenId price orderOwner).run s = .ok u s') :
    ∃ who order token buyer, origin = .signed who ∧ orderOwner ≠ who ∧
      s.pallet.orders ((classId, tokenId), orderOwner) = some order ∧
      s.nft.tokens (classId, tokenId) = some token ∧
      ((token.owner = orderOwner ∧ order.price ≤ price ∧ buyer = who) ∨
        (token.owner = who ∧ price ≤ order.price ∧ buyer = orderOwner)) ∧
      (OrmlNft.transfer token.owner buyer (classId, tokenId)).run s.nft = .ok () s'.nft ∧
      s'.pallet = (s.pallet.dropOrder ((classId, tokenId), orderOwner) order).dropOrderIfAny
        ((classId, tokenId), who) := by
  obtain ⟨who, order, token, buyer, horigin, hne, horder, -, htoken, hdir, s₁, s₃, h₁, h₃, h₄⟩ :=
    takeOrder_ok cfg h
  -- the order of `orderOwner` is dropped, then any order of `who`
  obtain ⟨order', horder', hf₁⟩ := deleteOrder_frame cfg h₁
  obtain rfl : order = order' := Option.some.inj (horder.symm.trans horder')
  have hf₂ := (tryDeleteOrder_frame cfg classId tokenId who token.owner s₁).2
  generalize stateOf ((deleteOrder cfg classId tokenId who token.owner).run s₁) = s₂ at hf₂ h₃
  -- then the token moves, and the price is paid
  obtain ⟨_, _, t, -, -, -, -, -, ht, rfl⟩ := doTransfer_ok h₃
  have hf₄ : MoneyFrame _ s' := (MultiCurrency.transfer_keeps _ _ _ _ _).of_ok h₄
  have hnft : s₂.nft = s.nft := hf₂.nft.trans hf₁.nft
  have hpallet₁ : s₁.pallet = s.pallet.dropOrder ((classId, tokenId), orderOwner) order :=
    hf₁.pallet
  have hpallet₂ : s₂.pallet = s₁.pallet.dropOrderIfAny ((classId, tokenId), who) := hf₂.pallet
  refine ⟨who, order, token, buyer, horigin, hne, horder, htoken, hdir, ?_, ?_⟩
  · rw [hnft] at ht
    exact hf₄.nft ▸ ht
  · rw [hf₄.pallet]
    exact hpallet₁ ▸ hpallet₂

theorem takeOrder_storeStep {origin : Origin AccountId} {classId : ClassId} {tokenId : TokenId}
    {price : Balance} {orderOwner : AccountId} {u : Unit}
    (h : (takeOrder cfg origin classId tokenId price orderOwner).run s = .ok u s') :
    StoreStep s s' := by
  obtain ⟨who, order, token, buyer, -, hne, horder, htoken, hdir, ht, hpallet⟩ :=
    takeOrder_trade cfg h
  exact .takeOrder hne horder htoken (hdir.imp (fun h => ⟨h.1, h.2.2⟩) fun h => ⟨h.1, h.2.2⟩)
    ht hpallet

/-- `submit_order` by `who` writes the order and its category's count; the rest is money. -/
theorem submitOrder_frame {origin : Origin AccountId} {currencyId : CurrencyId}
    {price : Balance} {categoryId : CategoryId} {classId : ClassId} {tokenId : TokenId}
    {deposit : Balance} {deadline : BlockNumber} {u : Unit}
    (h : (submitOrder cfg origin currencyId price categoryId classId tokenId deposit deadline).run s =
      .ok u s') :
    ∃ who token category, origin = .signed who ∧ s.nft.tokens (classId, tokenId) = some token ∧
      s.pallet.orders ((classId, tokenId), who) = none ∧
      s.pallet.categories categoryId = some category ∧
      (token.owner ≠ who → ∃ classInfo, s.nft.classes classId = some classInfo ∧
        classInfo.data.properties.contains .burnable = false) ∧
      MoneyFrame { s with pallet := ((s.pallet.setCategory categoryId
        (some { category with nftCount := category.nftCount.saturatingAdd 1 })).setOrder
        ((classId, tokenId), who) (some { currencyId, price, deposit, deadline, categoryId })) }
        s' := by
  obtain ⟨who, token, category, horigin, htoken, hnone, -, hcategory, -, s₁, s₂, h₁, h₂, rfl⟩ :=
    submitOrder_ok cfg h
  have hf₁ := (liftBalances_keeps _).of_ok h₁
  -- the price reserve of a non-owner is the only other write, and it is money
  have hf₂ : MoneyFrame s₁ s₂ := by
    split at h₂
    · exact (MultiCurrency.reserve_keeps _ _ _ _).of_ok h₂.2
    · exact h₂ ▸ MoneyFrame.rfl' s₁
  have hf := hf₁.trans hf₂
  refine ⟨who, token, category, horigin, htoken, hnone, hcategory, fun hne => ?_,
    hf.blockNumber, hf.accountWhitelist, hf.nft, ?_⟩
  · rw [if_pos hne] at h₂
    exact h₂.1
  · simp only [hf.pallet]

theorem submitOrder_storeStep {origin : Origin AccountId} {currencyId : CurrencyId}
    {price : Balance} {categoryId : CategoryId} {classId : ClassId} {tokenId : TokenId}
    {deposit : Balance} {deadline : BlockNumber} {u : Unit}
    (h : (submitOrder cfg origin currencyId price categoryId classId tokenId deposit deadline).run s =
      .ok u s') : StoreStep s s' := by
  obtain ⟨who, token, category, -, htoken, hnone, hcategory, hburnable, hf⟩ :=
    submitOrder_frame cfg h
  exact .submitOrder { currencyId, price, deposit, deadline, categoryId } htoken hnone hcategory
    hburnable hf.nft hf.pallet

theorem removeOrder_storeStep {origin : Origin AccountId} {classId : ClassId} {tokenId : TokenId}
    {u : Unit} (h : (removeOrder cfg origin classId tokenId).run s = .ok u s') :
    StoreStep s s' := by
  obtain ⟨who, token, -, htoken, h₁⟩ := removeOrder_ok cfg h
  obtain ⟨order, horder, hf⟩ := deleteOrder_frame cfg h₁
  exact .removeOrder htoken horder hf.nft hf.pallet

/-- `update_order_price` by `who` writes the new price; swapping the escrow is money. -/
theorem updateOrderPrice_frame {origin : Origin AccountId} {classId : ClassId}
    {tokenId : TokenId} {price : Balance} {u : Unit}
    (h : (updateOrderPrice cfg origin classId tokenId price).run s = .ok u s') :
    ∃ who order, origin = .signed who ∧ s.pallet.orders ((classId, tokenId), who) = some order ∧
      MoneyFrame { s with pallet := (s.pallet.setOrder ((classId, tokenId), who)
        (some { order with price })) } s' := by
  obtain ⟨who, order, s₁, horigin, horder, h₁, rfl⟩ := updateOrderPrice_ok cfg h
  have hf : MoneyFrame s s₁ := by
    split at h₁
    · obtain ⟨r, s₀, h₀, h₁⟩ := h₁
      exact ((MultiCurrency.unreserve_keeps _ _ _ _).of_ok h₀).trans
        ((MultiCurrency.reserve_keeps _ _ _ _).of_ok h₁)
    · exact h₁ ▸ MoneyFrame.rfl' s
  refine ⟨who, order, horigin, horder, hf.blockNumber, hf.accountWhitelist, hf.nft, ?_⟩
  simp only [hf.pallet]

theorem updateOrderPrice_storeStep {origin : Origin AccountId} {classId : ClassId}
    {tokenId : TokenId} {price : Balance} {u : Unit}
    (h : (updateOrderPrice cfg origin classId tokenId price).run s = .ok u s') :
    StoreStep s s' := by
  obtain ⟨who, order, -, horder, hf⟩ := updateOrderPrice_frame cfg h
  exact .updateOrderPrice price horder hf.nft hf.pallet

/-- `create_class` by `who` writes a class owned by the sub-account of the next class id;
the deposits and the proxy are money. -/
theorem createClass_frame {origin : Origin AccountId} {metadata name description : Bytes}
    {properties : Properties} {u : Unit}
    (h : (createClass cfg origin metadata name description properties).run s = .ok u s') :
    ∃ who classId data t, origin = .signed who ∧
      (OrmlNft.createClass (cfg.intoSubAccount s.nft.nextClassId) metadata data).run s.nft =
        .ok classId t ∧
      MoneyFrame { s with nft := t } s' := by
  obtain ⟨who, s₁, s₂, s₃, classId, t, horigin, -, -, -, h₁, h₂, h₃, ht, rfl⟩ :=
    createClass_ok cfg h
  have hf : MoneyFrame s s₃ := ((liftBalances_keeps _).of_ok h₁).trans
    (((liftBalances_keeps _).of_ok h₂).trans ((Proxy.addProxyDelegate_keeps _ _ _ _ _).of_ok h₃))
  rw [hf.nft] at ht
  exact ⟨who, classId, _, t, horigin, ht, hf.blockNumber, hf.accountWhitelist, rfl, hf.pallet⟩

theorem createClass_storeStep {origin : Origin AccountId} {metadata name description : Bytes}
    {properties : Properties} {u : Unit}
    (h : (createClass cfg origin metadata name description properties).run s = .ok u s') :
    StoreStep s s' := by
  obtain ⟨_, _, _, t, -, ht, hf⟩ := createClass_frame cfg h
  have hnft : s'.nft = t := hf.nft
  exact .createClass (hnft ▸ ht) hf.pallet

/-- `mint` by the class's owner runs `orml_nft::mint` `quantity` times; the deposit is money. -/
theorem mint_frame {origin : Origin AccountId} {toAccount : AccountId} {classId : ClassId}
    {metadata : Bytes} {quantity : UWord 32} {u : Unit}
    (h : (mint cfg origin toAccount classId metadata quantity).run s = .ok u s') :
    ∃ classInfo data t, s.nft.classes classId = some classInfo ∧
      origin = .signed classInfo.owner ∧
      (iterate quantity.val (OrmlNft.mint toAccount classId metadata data)).run s.nft = .ok () t ∧
      MoneyFrame { s with nft := t } s' := by
  obtain ⟨who, classInfo, s₁, t, horigin, -, -, hclass, rfl, h₁, ht, rfl⟩ := mint_ok cfg h
  have hf : MoneyFrame s s₁ := (liftBalances_keeps _).of_ok h₁
  rw [hf.nft] at ht
  exact ⟨classInfo, _, t, hclass, horigin, ht, hf.blockNumber, hf.accountWhitelist, rfl,
    hf.pallet⟩

theorem mint_storeStep {origin : Origin AccountId} {toAccount : AccountId} {classId : ClassId}
    {metadata : Bytes} {quantity : UWord 32} {u : Unit}
    (h : (mint cfg origin toAccount classId metadata quantity).run s = .ok u s') :
    StoreStep s s' := by
  obtain ⟨_, _, t, -, -, ht, hf⟩ := mint_frame cfg h
  have hnft : s'.nft = t := hf.nft
  exact .mint (hnft ▸ ht) hf.pallet

theorem transfer_storeStep {origin : Origin AccountId} {toAccount : AccountId} {classId : ClassId}
    {tokenId : TokenId} {u : Unit} (h : (transfer origin toAccount classId tokenId).run s = .ok u s') :
    StoreStep s s' := by
  obtain ⟨who, -, h₁⟩ := transfer_ok h
  obtain ⟨_, token, t, -, -, htoken, hwho, hnone, ht, rfl⟩ := doTransfer_ok h₁
  exact .transfer htoken hwho hnone ht rfl

/-- `burn` by a token's owner runs `orml_nft::burn`; the deposit going back is money. -/
theorem burn_frame {origin : Origin AccountId} {classId : ClassId} {tokenId : TokenId} {u : Unit}
    (h : (burn cfg origin classId tokenId).run s = .ok u s') :
    ∃ who classInfo t, origin = .signed who ∧ s.nft.classes classId = some classInfo ∧
      classInfo.data.properties.contains .burnable = true ∧
      s.pallet.orders ((classId, tokenId), who) = none ∧
      (OrmlNft.burn who (classId, tokenId)).run s.nft = .ok () t ∧
      MoneyFrame { s with nft := t } s' := by
  obtain ⟨who, classInfo, _, t, _, s₂, horigin, hclass, hburnable, -, -, hnone, ht, h₂, h₃⟩ :=
    burn_ok cfg h
  -- the deposit goes back from the class account after the token is burned
  exact ⟨who, classInfo, t, horigin, hclass, hburnable, hnone, ht,
    ((liftBalances_keeps _).of_ok h₂).trans ((liftBalances_keeps _).of_ok h₃)⟩

theorem burn_storeStep {origin : Origin AccountId} {classId : ClassId} {tokenId : TokenId} {u : Unit}
    (h : (burn cfg origin classId tokenId).run s = .ok u s') : StoreStep s s' := by
  obtain ⟨_, _, t, -, hclass, hburnable, hnone, ht, hf⟩ := burn_frame cfg h
  have hnft : s'.nft = t := hf.nft
  exact .burn hclass hburnable hnone (hnft ▸ ht) hf.pallet

/-- `destroy_class` by the class's owner runs `orml_nft::destroy_class`; the deposit going back
is money. -/
theorem destroyClass_frame {origin : Origin AccountId} {classId : ClassId} {dest : AccountId}
    {u : Unit} (h : (destroyClass cfg origin classId dest).run s = .ok u s') :
    ∃ who t, origin = .signed who ∧ (OrmlNft.destroyClass who classId).run s.nft = .ok () t ∧
      MoneyFrame { s with nft := t } s' := by
  obtain ⟨who, _, _, s₁, s₂, t, horigin, -, -, -, h₁, h₂, ht, rfl⟩ := destroyClass_ok cfg h
  have hf : MoneyFrame s s₂ := ((liftBalances_keeps _).of_ok h₁).trans
    ((liftBalances_keeps _).of_ok h₂)
  rw [hf.nft] at ht
  exact ⟨who, t, horigin, ht, hf.blockNumber, hf.accountWhitelist, rfl, hf.pallet⟩

theorem destroyClass_storeStep {origin : Origin AccountId} {classId : ClassId} {dest : AccountId}
    {u : Unit} (h : (destroyClass cfg origin classId dest).run s = .ok u s') :
    StoreStep s s' := by
  obtain ⟨_, t, -, ht, hf⟩ := destroyClass_frame cfg h
  have hnft : s'.nft = t := hf.nft
  exact .destroyClass (hnft ▸ ht) hf.pallet

/-- Every successful call is one of the `StoreStep` cases. -/
theorem dispatch_storeStep {origin : Origin AccountId} {call : Call AccountId} {u : Unit}
    (h : (dispatch cfg origin call).run s = .ok u s') : StoreStep s s' := by
  cases call with
  | takeOrder => exact takeOrder_storeStep cfg h
  | submitOrder => exact submitOrder_storeStep cfg h
  | removeOrder => exact removeOrder_storeStep cfg h
  | updateOrderPrice => exact updateOrderPrice_storeStep cfg h
  | createCategory =>
    obtain ⟨-, nextId, hnext, rfl⟩ := createCategory_ok h
    exact .createCategory hnext rfl rfl
  | updateCategory categoryId metadata =>
    obtain ⟨-, rfl⟩ := updateCategory_ok h
    -- `if let Some(category)`: an absent category is a step that changes nothing
    cases hcategory : s.pallet.categories categoryId with
    | none => exact .unchanged rfl rfl
    | some category => exact .updateCategory hcategory rfl rfl
  | updateMinOrderDeposit =>
    obtain ⟨-, rfl⟩ := updateMinOrderDeposit_ok h
    exact .updateMinOrderDeposit rfl rfl
  | createClass => exact createClass_storeStep cfg h
  | mint => exact mint_storeStep cfg h
  | transfer => exact transfer_storeStep h
  | burn => exact burn_storeStep cfg h
  | destroyClass => exact destroyClass_storeStep cfg h
  | addWhitelist =>
    obtain ⟨-, rfl⟩ := addWhitelist_ok h
    exact .unchanged rfl rfl
  | removeWhitelist =>
    obtain ⟨-, rfl⟩ := removeWhitelist_ok h
    exact .unchanged rfl rfl

/-- Every step of the system is one of the `StoreStep` cases: a failed call and a new block
change neither store. -/
theorem step_storeStep (s : State AccountId) (a : Action AccountId) :
    StoreStep s (step cfg s a) := by
  cases a with
  | newBlock => exact .unchanged rfl rfl
  | dispatch origin call =>
    show StoreStep s (stateOf ((dispatch cfg origin call).run s))
    cases hrun : (dispatch cfg origin call).run s with
    | ok u s' => exact dispatch_storeStep cfg hrun
    | error e s' =>
      obtain rfl := dispatch_error cfg hrun
      exact .unchanged rfl rfl

end Nftmart
