import Mathlib
import Nftmart.Invariant.Store
import Nftmart.Spec.Escrow

/-!
# Orders stay on live tokens

An order is stored under its token and its owner, and nothing in `Orders` is removed when a
token is burned or its class destroyed. The pallet relies instead on its checks: an owner with
an order cannot transfer or burn the token, and an account that does not own a token can order
on it only when its class cannot be burned. `OrdersWf` states what these checks keep:

* every order names a live token;
* an order by an account that does not own the token sits on a class that cannot be burned.

The proofs see a step through `TokenStep`, which says what each kind of step does to the tokens
and the orders: the store grows and no order appears; one order is submitted; a token changes
hands and its old owner keeps no order on it; a token of a burnable class, on which its owner
has no order, is burned.

## Main results

* `StoreStep.tokenStep` — every step is one of the `TokenStep` cases.
* `TokenStep.ordersWf` — a step keeps `OrdersWf`.
* `TokenStep.owns` — an owner with an order keeps the token while the order is there.
* `orders_live` — in every state reached from a genesis with no tokens and no orders, orders
  name live tokens, an owner keeps its token while its order on it exists, and `remove_order`
  removes every order and releases its escrow.
-/

namespace Nftmart

open Effect OrmlNft

variable {AccountId : Type} [DecidableEq AccountId] {s s' : State AccountId}

/-- The class exists and is not burnable. -/
def NonBurnable (t : OrmlNft.Store AccountId ClassData TokenData) (classId : ClassId) : Prop :=
  ∃ classInfo, t.classes classId = some classInfo ∧
    classInfo.data.properties.contains .burnable = false

/-- No order of `s'` is new. -/
def OrdersShrink (s s' : State AccountId) : Prop :=
  ∀ key order, s'.pallet.orders key = some order → (s.pallet.orders key).isSome

/-- `who` owns `token` in `s`. -/
def Owns (s : State AccountId) (who : AccountId) (token : ClassId × TokenId) : Prop :=
  ∃ info, s.nft.tokens token = some info ∧ info.owner = who

omit [DecidableEq AccountId] in
theorem OrmlNft.Grows.nonBurnable {t t' : OrmlNft.Store AccountId ClassData TokenData}
    (hgrow : Grows t t') {token : ClassId × TokenId} {info : TokenInfoOf AccountId}
    (htoken : t.tokens token = some info) (h : NonBurnable t token.1) :
    NonBurnable t' token.1 := by
  obtain ⟨classInfo, hclass, hburnable⟩ := h
  obtain ⟨classInfo', hclass', hdata⟩ := hgrow.classes _ _ _ htoken hclass
  exact ⟨classInfo', hclass', hdata ▸ hburnable⟩

omit [DecidableEq AccountId] in
theorem OrdersShrink.of_eq (h : s'.pallet.orders = s.pallet.orders) : OrdersShrink s s' := by
  intro key order horder
  rw [h] at horder
  simp [horder]

/-- An order whose key is cleared, or rewritten where an order was, is not new. -/
theorem OrdersShrink.of_update {key : (ClassId × TokenId) × AccountId}
    {v : Option OrderData} (hv : v.isSome → (s.pallet.orders key).isSome)
    (h : s'.pallet.orders = Function.update s.pallet.orders key v) : OrdersShrink s s' := by
  intro key' order horder
  rw [h] at horder
  by_cases hk : key' = key
  · subst hk
    simp only [Function.update_self] at horder
    exact hv (by simp [horder])
  · simp [Function.update_of_ne hk] at horder
    simp [horder]

/-! ## What a step does to tokens and orders -/

/-- The effect of a step on the tokens and the orders. -/
inductive TokenStep (s s' : State AccountId) : Prop
  /-- The store keeps every live token and its class's payload, and no order is new. -/
  | grow : Grows s.nft s'.nft → OrdersShrink s s' → TokenStep s s'
  /-- `submit_order`: one order appears on a live token, on a class that cannot be burned
  unless the account owns the token. -/
  | submit {who : AccountId} {token : ClassId × TokenId} {info : TokenInfoOf AccountId}
      {order : OrderData} :
      s.nft.tokens token = some info → (info.owner ≠ who → NonBurnable s.nft token.1) →
      s'.nft = s.nft →
      s'.pallet.orders = Function.update s.pallet.orders (token, who) (some order) →
      TokenStep s s'
  /-- A token changes hands; no order is new, and the old owner has none left on it. -/
  | move {src dst : AccountId} {token : ClassId × TokenId} :
      (OrmlNft.transfer src dst token).run s.nft = .ok () s'.nft → OrdersShrink s s' →
      s'.pallet.orders (token, src) = none → TokenStep s s'
  /-- `burn`: a token of a burnable class whose owner has no order on it is burned. -/
  | burn {who : AccountId} {token : ClassId × TokenId} {classInfo : ClassInfoOf AccountId} :
      s.nft.classes token.1 = some classInfo →
      classInfo.data.properties.contains .burnable = true →
      s.pallet.orders (token, who) = none → (OrmlNft.burn who token).run s.nft = .ok () s'.nft →
      s'.pallet.orders = s.pallet.orders → TokenStep s s'

/-- Every step of a well-formed store is a `TokenStep`. -/
theorem StoreStep.tokenStep (hstep : StoreStep s s') (hwf : OrmlNft.Wf s.nft) :
    TokenStep s s' := by
  cases hstep with
  | takeOrder _ _ _ hdir ht hpallet =>
    -- the token leaves its owner, who is one of the two parties, whose orders are dropped
    refine .move ht (fun key order h => ?_) ?_
    · rw [hpallet] at h
      simp only [PalletStore.dropOrderIfAny_orders, PalletStore.dropOrder_orders,
        Function.update_apply] at h
      split_ifs at h
      simp [h]
    · rcases hdir with ⟨howner, -⟩ | ⟨howner, -⟩ <;>
      simp [hpallet, howner, Function.update_apply]
  | @submitOrder who classId tokenId _ _ order htoken _ _ hburn hnft hpallet =>
    have horders : s'.pallet.orders =
        Function.update s.pallet.orders ((classId, tokenId), who) (some order) := by
      rw [hpallet]
      simp
    exact .submit htoken hburn hnft horders
  | @removeOrder who classId tokenId _ _ _ _ hnft hpallet =>
    have horders : s'.pallet.orders =
        Function.update s.pallet.orders ((classId, tokenId), who) none := by
      rw [hpallet]
      simp
    exact .grow (hnft ▸ Grows.rfl' _) (.of_update (by simp) horders)
  | @updateOrderPrice who classId tokenId order price horder hnft hpallet =>
    have horders : s'.pallet.orders =
        Function.update s.pallet.orders ((classId, tokenId), who) (some { order with price }) := by
      rw [hpallet]
      simp
    exact .grow (hnft ▸ Grows.rfl' _) (.of_update (by simp [horder]) horders)
  | createCategory _ hnft hpallet =>
    exact .grow (hnft ▸ Grows.rfl' _) (.of_eq (by rw [hpallet]; simp))
  | updateCategory _ hnft hpallet =>
    exact .grow (hnft ▸ Grows.rfl' _) (.of_eq (by rw [hpallet]; simp))
  | updateMinOrderDeposit hnft hpallet =>
    exact .grow (hnft ▸ Grows.rfl' _) (.of_eq (by rw [hpallet]))
  | createClass ht hpallet => exact .grow (hwf.createClass_grows ht) (.of_eq (by rw [hpallet]))
  | mint ht hpallet => exact .grow (hwf.iterate_mint_grows ht) (.of_eq (by rw [hpallet]))
  | transfer _ hwho hnone ht hpallet =>
    exact .move ht (.of_eq (by rw [hpallet])) (by rw [hpallet]; exact hnone)
  | burn hclass hburnable hnone ht hpallet => exact .burn hclass hburnable hnone ht (by rw [hpallet])
  | destroyClass ht hpallet => exact .grow (hwf.destroyClass_grows ht) (.of_eq (by rw [hpallet]))
  | unchanged hnft hpallet => exact .grow (hnft ▸ Grows.rfl' _) (.of_eq (by rw [hpallet]))

/-! ## The invariant -/

/-- What the checks of the pallet keep about orders. -/
structure OrdersWf (s : State AccountId) : Prop where
  /-- The store is well formed. -/
  nft : OrmlNft.Wf s.nft
  /-- Every order names a live token. -/
  live : ∀ token who order, s.pallet.orders (token, who) = some order →
    (s.nft.tokens token).isSome
  /-- An order by an account that does not own the token is on a class that cannot be
  burned. -/
  bid : ∀ token who order info, s.pallet.orders (token, who) = some order →
    s.nft.tokens token = some info → info.owner ≠ who → NonBurnable s.nft token.1

omit [DecidableEq AccountId] in
theorem OrderGenesis.ordersWf (hnft : NftGenesis s) (horders : OrderGenesis s) : OrdersWf s where
  nft := hnft.wf
  live token who order h := by simp [horders (token, who)] at h
  bid token who order info h := by simp [horders (token, who)] at h

/-- A step keeps `OrdersWf`, given that it keeps the store well formed. -/
theorem TokenStep.ordersWf (hstep : TokenStep s s') (hwf : OrdersWf s)
    (hnft : OrmlNft.Wf s'.nft) : OrdersWf s' := by
  cases hstep with
  | grow hgrow hshrink =>
    -- every order of `s'` was an order of `s`, on a token that `s'` keeps
    refine ⟨hnft, fun token who order h => ?_, fun token who order info h htoken hne => ?_⟩
    · obtain ⟨order₀, h₀⟩ := Option.isSome_iff_exists.1 (hshrink _ _ h)
      obtain ⟨info₀, hinfo₀⟩ := Option.isSome_iff_exists.1 (hwf.live _ _ _ h₀)
      simp [hgrow.tokens _ _ hinfo₀]
    · obtain ⟨order₀, h₀⟩ := Option.isSome_iff_exists.1 (hshrink _ _ h)
      obtain ⟨info₀, hinfo₀⟩ := Option.isSome_iff_exists.1 (hwf.live _ _ _ h₀)
      rw [hgrow.tokens _ _ hinfo₀] at htoken
      cases htoken
      exact hgrow.nonBurnable hinfo₀ (hwf.bid _ _ _ _ h₀ hinfo₀ hne)
  | @submit who token info order htoken hburn hnft' horders =>
    refine ⟨hnft, fun token' who' order' h => ?_, fun token' who' order' info' h htoken' hne => ?_⟩
    all_goals rw [horders] at h; rw [hnft']
    · by_cases hk : (token', who') = (token, who)
      · simp only [Prod.mk.injEq] at hk
        obtain ⟨rfl, rfl⟩ := hk
        simp [htoken]
      · rw [Function.update_of_ne hk] at h
        exact hwf.live _ _ _ h
    · rw [hnft'] at htoken'
      by_cases hk : (token', who') = (token, who)
      · -- the new order: `submit_order` checked the class of a non-owner
        simp only [Prod.mk.injEq] at hk
        obtain ⟨rfl, rfl⟩ := hk
        rw [htoken] at htoken'
        cases htoken'
        exact hburn hne
      · rw [Function.update_of_ne hk] at h
        exact hwf.bid _ _ _ _ h htoken' hne
  | @move src dst token hmove hshrink hnone =>
    obtain ⟨info₀, hinfo₀, hsrc, hclasses, htokens⟩ := transfer_tokens hmove
    refine ⟨hnft, fun token' who' order' h => ?_, fun token' who' order' info' h htoken' hne => ?_⟩
    · obtain ⟨order₀, h₀⟩ := Option.isSome_iff_exists.1 (hshrink _ _ h)
      by_cases hk : token' = token
      · simp [htokens, hk]
      · rw [htokens, Function.update_of_ne hk]
        exact hwf.live _ _ _ h₀
    · obtain ⟨order₀, h₀⟩ := Option.isSome_iff_exists.1 (hshrink _ _ h)
      show ∃ classInfo, s'.nft.classes token'.1 = some classInfo ∧ _
      rw [hclasses]
      by_cases hk : token' = token
      · -- the old owner has no order left on the token, so the order's owner was not it
        subst hk
        have hold : info₀.owner ≠ who' := by
          rintro hwho
          rw [← hwho, hsrc, hnone] at h
          cases h
        exact hwf.bid _ _ _ _ h₀ hinfo₀ hold
      · rw [htokens, Function.update_of_ne hk] at htoken'
        exact hwf.bid _ _ _ _ h₀ htoken' hne
  | @burn who token classInfo hclass hburnable hnone hburn horders =>
    obtain ⟨info₀, classInfo₀, issuance, hinfo₀, howner₀, hclass₀, -, ht⟩ := OrmlNft.burn_ok hburn
    rw [hclass] at hclass₀
    cases hclass₀
    -- no order is on the burned token: its owner has none, and a class that can be burned
    -- has no order of anyone else
    have hother : ∀ token' who' order', s.pallet.orders (token', who') = some order' →
        token' ≠ token := by
      rintro token' who' order' h rfl
      have hne : info₀.owner ≠ who' := by
        rintro hwho
        rw [← hwho, howner₀, hnone] at h
        cases h
      obtain ⟨classInfo', hclass', hfalse⟩ := hwf.bid _ _ _ _ h hinfo₀ hne
      rw [hclass] at hclass'
      cases hclass'
      rw [hburnable] at hfalse
      cases hfalse
    refine ⟨hnft, fun token' who' order' h => ?_, fun token' who' order' info' h htoken' hne => ?_⟩
    all_goals rw [horders] at h
    · rw [ht]
      simp only [Store.setToken_tokens, Store.setOwned_tokens, Store.setClass_tokens,
        Function.update_of_ne (hother _ _ _ h)]
      exact hwf.live _ _ _ h
    · rw [ht] at htoken'
      simp only [Store.setToken_tokens, Store.setOwned_tokens, Store.setClass_tokens,
        Function.update_of_ne (hother _ _ _ h)] at htoken'
      obtain ⟨classInfo', hclass', hfalse⟩ := hwf.bid _ _ _ _ h htoken' hne
      have hk : token'.1 ≠ token.1 := by
        rintro hk
        rw [hk, hclass] at hclass'
        cases hclass'
        rw [hburnable] at hfalse
        cases hfalse
      refine ⟨classInfo', ?_, hfalse⟩
      rw [ht]
      simpa [Function.update_of_ne hk] using hclass'

/-- While an order of the owner of a token is on it, the owner keeps the token. -/
theorem TokenStep.owns {token : ClassId × TokenId} {who : AccountId} (hstep : TokenStep s s')
    (hbefore : (s.pallet.orders (token, who)).isSome)
    (hafter : (s'.pallet.orders (token, who)).isSome) (hown : Owns s who token) :
    Owns s' who token := by
  obtain ⟨info, htoken, howner⟩ := hown
  cases hstep with
  | grow hgrow _ => exact ⟨info, hgrow.tokens _ _ htoken, howner⟩
  | submit _ _ hnft _ => exact ⟨info, by rw [hnft]; exact htoken, howner⟩
  | @move src dst token₀ hmove _ hnone =>
    obtain ⟨info₀, hinfo₀, hsrc, -, htokens⟩ := transfer_tokens hmove
    by_cases hk : token = token₀
    · -- a token moves only from an owner left with no order on it
      subst hk
      rw [htoken] at hinfo₀
      cases hinfo₀
      rw [← howner, hsrc, hnone] at hafter
      cases hafter
    · exact ⟨info, by rw [htokens, Function.update_of_ne hk, htoken], howner⟩
  | @burn who₀ token₀ classInfo _ _ hnone hburn _ =>
    obtain ⟨info₀, classInfo₀, issuance, hinfo₀, howner₀, -, -, ht⟩ := OrmlNft.burn_ok hburn
    by_cases hk : token = token₀
    · -- a token is burned only by an owner with no order on it
      subst hk
      rw [htoken] at hinfo₀
      cases hinfo₀
      rw [← howner, howner₀, hnone] at hbefore
      cases hbefore
    · refine ⟨info, ?_, howner⟩
      rw [ht]
      simpa [Function.update_of_ne hk] using htoken

/-! ## Every reachable state -/

variable (cfg : Config AccountId)

/-- A step of the system keeps `OrdersWf`. -/
theorem step_ordersWf (s : State AccountId) (a : Action AccountId) (hwf : OrdersWf s) :
    OrdersWf (step cfg s a) :=
  have hstep := step_storeStep cfg s a
  (hstep.tokenStep hwf.nft).ordersWf hwf (hstep.nft_wf hwf.nft)

/-- `OrdersWf` holds in every state reached from a genesis with no tokens and no orders. -/
theorem reachable_ordersWf (hs : Reachable cfg (fun s => NftGenesis s ∧ OrderGenesis s) s) :
    OrdersWf s :=
  Machine.Reachable.induction (fun _ h => OrderGenesis.ordersWf h.1 h.2)
    (fun s a hwf => step_ordersWf cfg s a hwf) hs

/-- In every state reached from a genesis with no tokens and no orders: every order names a
live token; an account that owns a token with its order on it still owns it after any run
along which that order stays; and `remove_order` removes any order: the call succeeds, the
order is gone, every other order stays, and the order's escrow is released, the deposit from the
native reserved balance and, for an account that does not own the token, the price from the
`orml_tokens` reserved balance in its currency. -/
theorem orders_live (hs : Reachable cfg (fun s => NftGenesis s ∧ OrderGenesis s) s) :
    (∀ token who order, s.pallet.orders (token, who) = some order →
      (s.nft.tokens token).isSome) ∧
    (∀ (actions : List (Action AccountId)) (token : ClassId × TokenId) (who : AccountId),
      Owns s who token →
      (∀ n, n ≤ actions.length →
        ((runActions cfg s (actions.take n)).pallet.orders (token, who)).isSome) →
      Owns (runActions cfg s actions) who token) ∧
    (∀ classId tokenId who order, s.pallet.orders ((classId, tokenId), who) = some order →
      ∃ token s', s.nft.tokens (classId, tokenId) = some token ∧
        (removeOrder cfg (.signed who) classId tokenId).run s = .ok () s' ∧
        s'.pallet.orders = Function.update s.pallet.orders ((classId, tokenId), who) none ∧
        (s'.balances.account who).reserved.val +
            min (s.balances.account who).reserved.val order.deposit.val ≤
          (s.balances.account who).reserved.val ∧
        ∀ key, (s'.tokens.accounts key).reserved.val =
          if who ≠ token.owner ∧ order.currencyId ≠ cfg.nativeCurrencyId ∧
              key = (who, order.currencyId) then
            (s.tokens.accounts key).reserved.val -
              min (s.tokens.accounts key).reserved.val order.price.val
          else (s.tokens.accounts key).reserved.val) := by
  have hwf := reachable_ordersWf cfg hs
  refine ⟨hwf.live, fun actions token who hown hwhile => ?_,
    fun classId tokenId who order horder => ?_⟩
  · -- the owner keeps the token at each step at which the order stays
    exact Machine.run_keeps_while (Q := fun s => (s.pallet.orders (token, who)).isSome)
      (R := fun s => Owns s who token) (fun s a hwf => step_ordersWf cfg s a hwf)
      (fun s a hwf hQ hQ' hR => ((step_storeStep cfg s a).tokenStep hwf.nft).owns hQ hQ' hR)
      actions s hwf hown hwhile
  · -- the order's token is live, so `remove_order` reaches `delete_order`
    obtain ⟨token, htoken⟩ := Option.isSome_iff_exists.1 (hwf.live _ _ _ horder)
    obtain ⟨s', hrun⟩ := removeOrder_ok_of_some cfg htoken horder
    obtain ⟨_, token', hwho, htoken', hdelete⟩ := removeOrder_ok cfg hrun
    cases hwho
    rw [htoken, Option.some.injEq] at htoken'
    subst htoken'
    obtain ⟨horders, -, hdeposit, hprice⟩ := deleteOrder_releases cfg horder hdelete
    exact ⟨token, s', htoken, hrun, horders, hdeposit, hprice⟩

/-- After `bidSetup`, account `2` bids on the token `(0, 0)` of `1`; `remove_order` then drops
the bid. -/
theorem orders_live_staleBid :
    Reachable bidConfig (fun s => NftGenesis s ∧ OrderGenesis s)
      (runActions bidConfig bidGenesis ((staleBid 2).take 5)) ∧
    (runActions bidConfig bidGenesis ((staleBid 2).take 5)).pallet.orders ((0, 0), 2) =
      some ⟨0, UWord.ofNat (5 * 10 ^ 12), UWord.ofNat (10 ^ 12), 100, 0⟩ ∧
    ∃ token s', (runActions bidConfig bidGenesis ((staleBid 2).take 5)).nft.tokens (0, 0) =
        some token ∧
      (removeOrder bidConfig (.signed 2) 0 0).run
        (runActions bidConfig bidGenesis ((staleBid 2).take 5)) = .ok () s' ∧
      s'.pallet.orders = Function.update
        (runActions bidConfig bidGenesis ((staleBid 2).take 5)).pallet.orders ((0, 0), 2) none ∧
      (s'.balances.account 2).reserved.val +
          min ((runActions bidConfig bidGenesis ((staleBid 2).take 5)).balances.account 2).reserved.val
            (UWord.ofNat (10 ^ 12) : Balance).val ≤
        ((runActions bidConfig bidGenesis ((staleBid 2).take 5)).balances.account 2).reserved.val ∧
      ∀ key, (s'.tokens.accounts key).reserved.val =
        if 2 ≠ token.owner ∧ (0 : CurrencyId) ≠ bidConfig.nativeCurrencyId ∧ key = (2, 0) then
          ((runActions bidConfig bidGenesis ((staleBid 2).take 5)).tokens.accounts key).reserved.val -
            min ((runActions bidConfig bidGenesis ((staleBid 2).take 5)).tokens.accounts
              key).reserved.val (UWord.ofNat (5 * 10 ^ 12) : Balance).val
        else ((runActions bidConfig bidGenesis ((staleBid 2).take 5)).tokens.accounts
          key).reserved.val := by
  have hs : Reachable bidConfig (fun s => NftGenesis s ∧ OrderGenesis s)
      (runActions bidConfig bidGenesis ((staleBid 2).take 5)) :=
    Machine.reachable_of_init ⟨genesis_nftGenesis _ _ _, fun _ => rfl⟩ _
  have horder : (runActions bidConfig bidGenesis ((staleBid 2).take 5)).pallet.orders
      ((0, 0), 2) = some ⟨0, UWord.ofNat (5 * 10 ^ 12), UWord.ofNat (10 ^ 12), 100, 0⟩ := by
    decide
  exact ⟨hs, horder, (orders_live bidConfig hs).2.2 0 0 2 _ horder⟩

end Nftmart
