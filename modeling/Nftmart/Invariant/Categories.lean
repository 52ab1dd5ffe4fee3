import Mathlib
import Nftmart.Lib.Count
import Nftmart.Spec.Step

/-!
# Categories and their order counts

A category counts the orders filed under it in `nft_count`, a `u128` that `submit_order` raises
with `saturating_add` and `delete_order` lowers with `saturating_sub`. Categories are never
removed, and `create_category` takes its id from a checked counter.

`CategoriesWf` holds in every reachable state: every category id is below `NextCategoryId`, and
every order's category exists. That each count equals the number of orders of its category is
kept by every step that leaves at most `u128::MAX` orders in each category: a saturating
increment that does not reach `MAX` is exact, and a decrement of a count that equals a
positive number of orders is exact. No step files more than one order, so a run of fewer than
`2^128` calls never reaches `MAX` orders in a category, and every run the chain can execute is
that short: block numbers are `u32`, and a block holds far fewer than `2^96` calls.

## Main results

* `StoreStep.categoriesWf`, `StoreStep.countsOk` — what one step keeps.
* `StoreStep.orderCount_le` — one step files at most one order in a category.
* `categories_count` — in every state reached from a genesis with no categories and no orders,
  the ids are in range and every order's category exists; and when the run has fewer than
  `2^128` calls, every count is right.
-/

namespace Nftmart

open Effect PartialMap

variable {AccountId : Type}

namespace PalletStore

variable (p : PalletStore AccountId)

/-- Every category id in use is below `NextCategoryId`, and every order's category exists. -/
structure CategoriesWf : Prop where
  bound : ∀ categoryId, (p.categories categoryId).isSome →
    categoryId.val < p.nextCategoryId.val
  orders : ∀ key order, p.orders key = some order → (p.categories order.categoryId).isSome

/-- The number of orders filed under a category. -/
noncomputable def orderCount (categoryId : CategoryId) : ℕ∞ :=
  count p.orders fun order => order.categoryId = categoryId

/-- Every category's `nft_count` is the number of its orders. -/
def CountsOk : Prop :=
  ∀ categoryId category, p.categories categoryId = some category →
    (category.nftCount.val : ℕ∞) = p.orderCount categoryId

variable {p}

/-! ### Writes to categories -/

/-- Writing an existing category keeps the set of categories. -/
theorem setCategory_isSome {categoryId : CategoryId} (hsome : (p.categories categoryId).isSome)
    (category : CategoryData) (categoryId' : CategoryId) :
    ((p.setCategory categoryId (some category)).categories categoryId').isSome =
      (p.categories categoryId').isSome := by
  by_cases hk : categoryId' = categoryId
  · subst hk
    simp [hsome]
  · simp [Function.update_of_ne hk]

theorem CategoriesWf.createCategory (hwf : p.CategoriesWf) {nextId : CategoryId}
    (hnext : p.nextCategoryId.checkedAdd 1 = some nextId) (metadata : Bytes) :
    (({ p with nextCategoryId := nextId } : PalletStore AccountId).setCategory p.nextCategoryId
      (some { metadata, nftCount := 0 })).CategoriesWf := by
  obtain ⟨-, hval⟩ := UWord.checkedAdd_eq_some.1 hnext
  have hone : (1 : CategoryId).val = 1 := rfl
  constructor
  · intro categoryId h
    simp only [setCategory_nextCategoryId, hval, hone]
    by_cases hk : categoryId = p.nextCategoryId
    · subst hk
      omega
    · simp only [setCategory_categories, Function.update_of_ne hk] at h
      have := hwf.bound _ h
      omega
  · intro key order h
    have hsome := hwf.orders _ _ h
    by_cases hk : order.categoryId = p.nextCategoryId
    · simp [hk]
    · simpa [Function.update_of_ne hk] using hsome

/-- A new category starts with no orders: no order can name an id that no category had. -/
theorem CountsOk.createCategory (hok : p.CountsOk) (hwf : p.CategoriesWf) (nextId : CategoryId)
    (metadata : Bytes) :
    (({ p with nextCategoryId := nextId } : PalletStore AccountId).setCategory p.nextCategoryId
      (some { metadata, nftCount := 0 })).CountsOk := by
  intro categoryId category hcategory
  show _ = count p.orders _
  by_cases hk : categoryId = p.nextCategoryId
  · subst hk
    simp only [setCategory_categories, Function.update_self, Option.some.injEq] at hcategory
    subst hcategory
    rw [count_eq_zero fun key order h hcat => ?_]
    · rfl
    have := hwf.bound _ (hwf.orders _ _ h)
    rw [hcat] at this
    exact lt_irrefl _ this
  · simp only [setCategory_categories, Function.update_of_ne hk] at hcategory
    exact hok _ _ hcategory

theorem CategoriesWf.updateCategory (hwf : p.CategoriesWf) {categoryId : CategoryId}
    {category : CategoryData} (hcategory : p.categories categoryId = some category)
    (category' : CategoryData) : (p.setCategory categoryId (some category')).CategoriesWf := by
  have hsome : (p.categories categoryId).isSome := by simp [hcategory]
  constructor
  · intro categoryId' h
    rw [setCategory_isSome hsome] at h
    exact hwf.bound _ h
  · intro key order h
    rw [setCategory_isSome hsome]
    exact hwf.orders _ _ h

/-- New metadata keeps the count. -/
theorem CountsOk.updateCategory (hok : p.CountsOk) {categoryId : CategoryId}
    {category : CategoryData} (hcategory : p.categories categoryId = some category)
    (metadata : Bytes) :
    (p.setCategory categoryId (some { metadata, nftCount := category.nftCount })).CountsOk := by
  intro categoryId' category' hcategory'
  by_cases hk : categoryId' = categoryId
  · subst hk
    simp only [setCategory_categories, Function.update_self, Option.some.injEq] at hcategory'
    subst hcategory'
    have hcount := hok _ _ hcategory
    exact hcount
  · simp only [setCategory_categories, Function.update_of_ne hk] at hcategory'
    exact hok _ _ hcategory'

variable [DecidableEq AccountId]

/-! ### How many orders a write can file -/

theorem orderCount_setOrder_le (key : (ClassId × TokenId) × AccountId) (v : Option OrderData)
    (categoryId : CategoryId) :
    (p.setOrder key v).orderCount categoryId ≤ p.orderCount categoryId + 1 :=
  count_update_le

theorem orderCount_dropOrder_le (key : (ClassId × TokenId) × AccountId) (order : OrderData)
    (categoryId : CategoryId) :
    (p.dropOrder key order).orderCount categoryId ≤ p.orderCount categoryId := by
  unfold orderCount
  rw [dropOrder_orders]
  exact count_update_none_le

theorem orderCount_dropOrderIfAny_le (key : (ClassId × TokenId) × AccountId)
    (categoryId : CategoryId) :
    (p.dropOrderIfAny key).orderCount categoryId ≤ p.orderCount categoryId := by
  unfold orderCount
  rw [dropOrderIfAny_orders]
  exact count_update_none_le

omit [DecidableEq AccountId] in
@[simp] theorem orderCount_setCategory (categoryId' : CategoryId) (v : Option CategoryData)
    (categoryId : CategoryId) :
    (p.setCategory categoryId' v).orderCount categoryId = p.orderCount categoryId :=
  rfl

/-! ### `delete_order` -/

theorem dropOrder_categories_isSome (key : (ClassId × TokenId) × AccountId) (order : OrderData)
    (categoryId : CategoryId) :
    ((p.dropOrder key order).categories categoryId).isSome = (p.categories categoryId).isSome := by
  by_cases hk : categoryId = order.categoryId
  · subst hk
    simp [dropOrder]
  · simp [dropOrder, Function.update_of_ne hk]

theorem CategoriesWf.dropOrder (hwf : p.CategoriesWf) (key : (ClassId × TokenId) × AccountId)
    (order : OrderData) : (p.dropOrder key order).CategoriesWf where
  bound categoryId h := by
    rw [dropOrder_categories_isSome] at h
    exact hwf.bound _ h
  orders key' order' h := by
    rw [dropOrder_categories_isSome]
    by_cases hk : key' = key
    · simp [hk] at h
    · simp only [dropOrder_orders, Function.update_of_ne hk] at h
      exact hwf.orders _ _ h

theorem CategoriesWf.dropOrderIfAny (hwf : p.CategoriesWf)
    (key : (ClassId × TokenId) × AccountId) : (p.dropOrderIfAny key).CategoriesWf := by
  unfold PalletStore.dropOrderIfAny
  split
  · exact hwf.dropOrder _ _
  · exact hwf

/-- Dropping an order takes it off its category's count, which is then exactly one lower: the
count was the number of orders, and this order was one of them. -/
theorem CountsOk.dropOrder (hok : p.CountsOk) {key : (ClassId × TokenId) × AccountId}
    {order : OrderData} (horder : p.orders key = some order) :
    (p.dropOrder key order).CountsOk := by
  intro categoryId category hcategory
  show _ = count (Function.update p.orders key none) _
  by_cases hk : categoryId = order.categoryId
  · subst hk
    simp only [PalletStore.dropOrder, setOrder_categories, setCategory_categories,
      Function.update_self, Option.map_eq_some_iff] at hcategory
    obtain ⟨category₀, hcategory₀, rfl⟩ := hcategory
    have hcount := count_update_of_mem_of_not (v := none) (p := fun o : OrderData =>
      o.categoryId = order.categoryId) ⟨order, horder, rfl⟩ (fun _ h => nomatch h)
    have hval : (category₀.nftCount.val : ℕ∞) =
        count p.orders fun o => o.categoryId = order.categoryId := hok _ _ hcategory₀
    rw [← hval] at hcount
    have hone : (1 : Balance).val = 1 := rfl
    simpa only [UWord.val_saturatingSub, hone] using natCast_sub_one_of_eq_add_one hcount.symm
  · simp only [PalletStore.dropOrder, setOrder_categories, setCategory_categories,
      Function.update_of_ne hk] at hcategory
    -- the dropped order is not one of this category's
    have hnot : key ∉ entries p.orders fun o => o.categoryId = categoryId := by
      rintro ⟨o, ho, hcat⟩
      rw [horder] at ho
      cases ho
      exact hk hcat.symm
    rw [count_update_of_not_mem_of_not (v := none) hnot (fun _ h => nomatch h)]
    exact hok _ _ hcategory

theorem CountsOk.dropOrderIfAny (hok : p.CountsOk) (key : (ClassId × TokenId) × AccountId) :
    (p.dropOrderIfAny key).CountsOk := by
  unfold PalletStore.dropOrderIfAny
  split
  · rename_i order horder
    exact hok.dropOrder horder
  · exact hok

/-! ### Writes to orders -/

theorem CategoriesWf.submit (hwf : p.CategoriesWf) {key : (ClassId × TokenId) × AccountId}
    {order : OrderData} {category : CategoryData}
    (hcategory : p.categories order.categoryId = some category) (category' : CategoryData) :
    ((p.setCategory order.categoryId (some category')).setOrder key (some order)).CategoriesWf := by
  have hsome : (p.categories order.categoryId).isSome := by simp [hcategory]
  constructor
  · intro categoryId h
    simp only [setOrder_categories, setCategory_isSome hsome] at h
    exact hwf.bound _ h
  · intro key' order' h
    simp only [setOrder_categories, setCategory_isSome hsome]
    by_cases hk : key' = key
    · subst hk
      simp only [setOrder_orders, Function.update_self, Option.some.injEq] at h
      exact h ▸ hsome
    · simp only [setOrder_orders, Function.update_of_ne hk] at h
      exact hwf.orders _ _ h

/-- `submit_order` files a new order under an existing category and raises its count: exactly,
when the category then has at most `MAX` orders. -/
theorem CountsOk.submit (hok : p.CountsOk) {key : (ClassId × TokenId) × AccountId}
    {order : OrderData} {category : CategoryData} (hnone : p.orders key = none)
    (hcategory : p.categories order.categoryId = some category)
    (hbound : ((p.setCategory order.categoryId (some { category with
      nftCount := category.nftCount.saturatingAdd 1 })).setOrder key (some order)).orderCount
        order.categoryId ≤ (UWord.max 128).val) :
    ((p.setCategory order.categoryId (some { category with
      nftCount := category.nftCount.saturatingAdd 1 })).setOrder key (some order)).CountsOk := by
  intro categoryId category' hcategory'
  show _ = count (Function.update p.orders key (some order)) _
  by_cases hk : categoryId = order.categoryId
  · subst hk
    simp only [setOrder_categories, setCategory_categories, Function.update_self,
      Option.some.injEq] at hcategory'
    subst hcategory'
    -- one more order, and a count one higher that stays below `MAX`
    have hcount : (count (Function.update p.orders key (some order)) fun o =>
        o.categoryId = order.categoryId) = category.nftCount.val + 1 := by
      rw [count_update_some_of_not_mem (p := fun o : OrderData => o.categoryId = order.categoryId)
        (not_mem_entries_of_none hnone) rfl]
      exact congrArg (· + 1) (hok _ _ hcategory).symm
    have hle : category.nftCount.val + 1 ≤ 2 ^ 128 - 1 := by
      have h := hbound
      simp only [orderCount, setOrder_orders, setCategory_orders] at h
      rw [hcount, UWord.val_max] at h
      exact_mod_cast h
    rw [hcount]
    simp only [UWord.val_saturatingAdd]
    have hone : (1 : Balance).val = 1 := rfl
    rw [hone, min_eq_left hle]
    push_cast
    rfl
  · simp only [setOrder_categories, setCategory_categories, Function.update_of_ne hk]
      at hcategory'
    rw [count_update_of_not_mem_of_not (not_mem_entries_of_none hnone)
      (fun o ho hcat => hk (by rw [← hcat, Option.some.inj ho]))]
    exact hok _ _ hcategory'

theorem CategoriesWf.updatePrice (hwf : p.CategoriesWf) {key : (ClassId × TokenId) × AccountId}
    {order : OrderData} (horder : p.orders key = some order) (price : Balance) :
    (p.setOrder key (some { order with price })).CategoriesWf := by
  refine ⟨hwf.bound, fun key' order' h => ?_⟩
  by_cases hk : key' = key
  · subst hk
    simp only [setOrder_orders, Function.update_self, Option.some.injEq] at h
    subst h
    exact hwf.orders _ order horder
  · simp only [setOrder_orders, Function.update_of_ne hk] at h
    exact hwf.orders _ _ h

/-- A new price keeps the order in its category. -/
theorem CountsOk.updatePrice (hok : p.CountsOk) {key : (ClassId × TokenId) × AccountId}
    {order : OrderData} (horder : p.orders key = some order) (price : Balance) :
    (p.setOrder key (some { order with price })).CountsOk := by
  intro categoryId category hcategory
  show _ = count (Function.update p.orders key (some { order with price })) _
  by_cases hk : order.categoryId = categoryId
  · rw [count_update_some_of_mem ⟨order, horder, hk⟩ hk]
    exact hok _ _ hcategory
  · rw [count_update_of_not_mem_of_not (fun ⟨o, ho, hcat⟩ => by
      rw [horder] at ho
      cases ho
      exact hk hcat) (fun o ho hcat => hk (by rw [← hcat, ← Option.some.inj ho]))]
    exact hok _ _ hcategory

end PalletStore

/-! ## One step, and whole runs -/

variable [DecidableEq AccountId] {s s' : State AccountId}

theorem StoreStep.categoriesWf (hstep : StoreStep s s') (hwf : s.pallet.CategoriesWf) :
    s'.pallet.CategoriesWf := by
  cases hstep with
  | takeOrder _ _ _ _ _ hpallet =>
    rw [hpallet]
    exact (hwf.dropOrder _ _).dropOrderIfAny _
  | submitOrder _ _ _ hcategory _ _ hpallet =>
    rw [hpallet]
    exact hwf.submit hcategory _
  | removeOrder _ _ _ hpallet =>
    rw [hpallet]
    exact hwf.dropOrder _ _
  | updateOrderPrice price horder _ hpallet =>
    rw [hpallet]
    exact hwf.updatePrice horder price
  | createCategory hnext _ hpallet =>
    rw [hpallet]
    exact hwf.createCategory hnext _
  | updateCategory hcategory _ hpallet =>
    rw [hpallet]
    exact hwf.updateCategory hcategory _
  | updateMinOrderDeposit _ hpallet =>
    rw [hpallet]
    exact ⟨hwf.bound, hwf.orders⟩
  | createClass _ hpallet | mint _ hpallet | transfer _ _ _ _ hpallet | burn _ _ _ _ hpallet
  | destroyClass _ hpallet | unchanged _ hpallet =>
    rw [hpallet]
    exact hwf

/-- A step keeps every count right when it leaves at most `MAX` orders in each category. -/
theorem StoreStep.countsOk (hstep : StoreStep s s') (hwf : s.pallet.CategoriesWf)
    (hbound : ∀ categoryId, s'.pallet.orderCount categoryId ≤ (UWord.max 128).val)
    (hok : s.pallet.CountsOk) : s'.pallet.CountsOk := by
  cases hstep with
  | takeOrder _ horder _ _ _ hpallet =>
    rw [hpallet]
    exact (hok.dropOrder horder).dropOrderIfAny _
  | submitOrder _ _ hnone hcategory _ _ hpallet =>
    rw [hpallet] at hbound ⊢
    exact hok.submit hnone hcategory (hbound _)
  | removeOrder _ horder _ hpallet =>
    rw [hpallet]
    exact hok.dropOrder horder
  | updateOrderPrice price horder _ hpallet =>
    rw [hpallet]
    exact hok.updatePrice horder price
  | createCategory _ _ hpallet =>
    rw [hpallet]
    exact hok.createCategory hwf _ _
  | updateCategory hcategory _ hpallet =>
    rw [hpallet]
    exact hok.updateCategory hcategory _
  | updateMinOrderDeposit _ hpallet =>
    rw [hpallet]
    exact hok
  | createClass _ hpallet | mint _ hpallet | transfer _ _ _ _ hpallet | burn _ _ _ _ hpallet
  | destroyClass _ hpallet | unchanged _ hpallet =>
    rw [hpallet]
    exact hok

/-- No step files more than one order in a category: only `submit_order` files one, and the
other writes drop or rewrite orders. -/
theorem StoreStep.orderCount_le (hstep : StoreStep s s') (categoryId : CategoryId) :
    s'.pallet.orderCount categoryId ≤ s.pallet.orderCount categoryId + 1 := by
  cases hstep with
  | takeOrder _ _ _ _ _ hpallet =>
    rw [hpallet]
    calc _ ≤ (s.pallet.dropOrder _ _).orderCount categoryId :=
          PalletStore.orderCount_dropOrderIfAny_le _ _
      _ ≤ s.pallet.orderCount categoryId := PalletStore.orderCount_dropOrder_le _ _ _
      _ ≤ _ := le_self_add
  | submitOrder _ _ _ _ _ _ hpallet =>
    rw [hpallet]
    exact PalletStore.orderCount_setOrder_le _ _ _
  | removeOrder _ _ _ hpallet =>
    rw [hpallet]
    exact (PalletStore.orderCount_dropOrder_le _ _ _).trans le_self_add
  | updateOrderPrice _ _ _ hpallet =>
    rw [hpallet]
    exact PalletStore.orderCount_setOrder_le _ _ _
  | createCategory _ _ hpallet | updateCategory _ _ hpallet =>
    rw [hpallet, PalletStore.orderCount_setCategory]
    exact le_self_add
  | updateMinOrderDeposit _ hpallet =>
    rw [hpallet]
    exact le_self_add
  | createClass _ hpallet | mint _ hpallet | transfer _ _ _ _ hpallet | burn _ _ _ _ hpallet
  | destroyClass _ hpallet | unchanged _ hpallet =>
    rw [hpallet]
    exact le_self_add

omit [DecidableEq AccountId] in
theorem CategoryGenesis.categoriesWf (h : CategoryGenesis s) : s.pallet.CategoriesWf where
  bound categoryId hsome := by simp [h.categories categoryId] at hsome
  orders key order horder := by simp [h.orders key] at horder

omit [DecidableEq AccountId] in
theorem CategoryGenesis.countsOk (h : CategoryGenesis s) : s.pallet.CountsOk := by
  intro categoryId category hcategory
  simp [h.categories categoryId] at hcategory

variable (cfg : Config AccountId)

theorem step_categoriesWf (s : State AccountId) (a : Action AccountId)
    (hwf : s.pallet.CategoriesWf) : (step cfg s a).pallet.CategoriesWf :=
  (step_storeStep cfg s a).categoriesWf hwf

/-- In every state reached from a genesis with no categories and no orders: every category id
is below `NextCategoryId`, and every order's category exists; and when the run has fewer than
`2^128` calls, every category's `nft_count` is the number of its orders. -/
theorem categories_count (s₀ : State AccountId) (h₀ : CategoryGenesis s₀)
    (actions : List (Action AccountId)) :
    (∀ categoryId, ((runActions cfg s₀ actions).pallet.categories categoryId).isSome →
      categoryId.val < (runActions cfg s₀ actions).pallet.nextCategoryId.val) ∧
    (∀ key order, (runActions cfg s₀ actions).pallet.orders key = some order →
      ((runActions cfg s₀ actions).pallet.categories order.categoryId).isSome) ∧
    (actions.length < 2 ^ 128 →
      ∀ categoryId category,
        (runActions cfg s₀ actions).pallet.categories categoryId = some category →
        (category.nftCount.val : ℕ∞) =
          count (runActions cfg s₀ actions).pallet.orders fun order =>
            order.categoryId = categoryId) := by
  have hreach : Reachable cfg CategoryGenesis (runActions cfg s₀ actions) :=
    Machine.reachable_of_init h₀ actions
  have hwf : (runActions cfg s₀ actions).pallet.CategoriesWf :=
    hreach.induction (fun _ h => h.categoriesWf) (fun s a hwf => step_categoriesWf cfg s a hwf)
  refine ⟨hwf.bound, hwf.orders, fun hlength => ?_⟩
  -- after `n` calls a category holds at most `n` orders, which is below `MAX`
  have hbound : ∀ n, n ≤ actions.length → ∀ categoryId,
      (runActions cfg s₀ (actions.take n)).pallet.orderCount categoryId ≤ (UWord.max 128).val := by
    intro n hn categoryId
    have hrun : (runActions cfg s₀ (actions.take n)).pallet.orderCount categoryId ≤
        s₀.pallet.orderCount categoryId + (actions.take n).length • (1 : ℕ∞) :=
      Machine.run_le_add_length (f := fun s => s.pallet.orderCount categoryId) (c := 1)
        (fun s a => (step_storeStep cfg s a).orderCount_le categoryId) _ _
    have hzero : s₀.pallet.orderCount categoryId = 0 := count_eq_zero_of_none h₀.orders
    rw [hzero, zero_add, nsmul_one] at hrun
    have hmax : (actions.take n).length ≤ 2 ^ 128 - 1 := by
      rw [List.length_take]
      omega
    calc (runActions cfg s₀ (actions.take n)).pallet.orderCount categoryId
        ≤ ((actions.take n).length : ℕ∞) := hrun
      _ ≤ (UWord.max 128).val := by
        rw [UWord.val_max]
        exact_mod_cast hmax
  -- the counts are right at each step after which no category is over `MAX`
  exact Machine.run_keeps_while (Q := fun s => ∀ categoryId,
      s.pallet.orderCount categoryId ≤ ((UWord.max 128).val : ℕ∞))
    (R := fun s => s.pallet.CountsOk) (fun s a hwf => step_categoriesWf cfg s a hwf)
    (fun s a hwf _ hQ' hR => (step_storeStep cfg s a).countsOk hwf hQ' hR)
    actions s₀ h₀.categoriesWf h₀.countsOk hbound

/-- After `bidSetup` and the bid of `2`, category `0` counts its one order. -/
theorem categories_count_staleBid :
    CategoryGenesis bidGenesis ∧ ((staleBid 2).take 5).length < 2 ^ 128 ∧
    (runActions bidConfig bidGenesis ((staleBid 2).take 5)).pallet.categories 0 =
      some { metadata := [], nftCount := 1 } ∧
    (∀ categoryId,
      ((runActions bidConfig bidGenesis ((staleBid 2).take 5)).pallet.categories categoryId).isSome →
      categoryId.val <
        (runActions bidConfig bidGenesis ((staleBid 2).take 5)).pallet.nextCategoryId.val) ∧
    (∀ key order,
      (runActions bidConfig bidGenesis ((staleBid 2).take 5)).pallet.orders key = some order →
      ((runActions bidConfig bidGenesis ((staleBid 2).take 5)).pallet.categories
        order.categoryId).isSome) ∧
    (∀ categoryId category,
      (runActions bidConfig bidGenesis ((staleBid 2).take 5)).pallet.categories categoryId =
        some category →
      (category.nftCount.val : ℕ∞) =
        count (runActions bidConfig bidGenesis ((staleBid 2).take 5)).pallet.orders fun order =>
          order.categoryId = categoryId) := by
  have h₀ : CategoryGenesis bidGenesis := genesis_categoryGenesis _ _ _
  have hlength : ((staleBid 2).take 5).length < 2 ^ 128 := by decide
  have hcategory : (runActions bidConfig bidGenesis ((staleBid 2).take 5)).pallet.categories 0 =
      some { metadata := [], nftCount := 1 } := by
    decide
  obtain ⟨hbound, horders, hcounts⟩ := categories_count bidConfig bidGenesis h₀ ((staleBid 2).take 5)
  exact ⟨h₀, hlength, hcategory, hbound, horders, hcounts hlength⟩

end Nftmart
