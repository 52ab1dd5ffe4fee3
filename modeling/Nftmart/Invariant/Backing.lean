import Mathlib
import Nftmart.Lib.Effect
import Nftmart.Lib.Machine
import Nftmart.Lib.Supply
import Nftmart.Spec.Escrow
import Nftmart.Spec.Frame
import Nftmart.Spec.Pallet
import Nftmart.Spec.Step
import Nftmart.Invariant.Store
import Nftmart.Invariant.Money

/-!
# Every bid is backed

An account that orders on a token it does not own escrows the order's price: `submit_order`
reserves it, and `delete_order` releases it, again only when the account does not own the token.
The two checks read the owner at different times, so the pallet relies on the owner not changing
under an order in a way that makes the second check release what the first did not reserve. This
module proves that it does not, for every `orml_tokens` currency, along every run.

`escrowed s who currencyId` is what the orders of `who` hold in escrow in `currencyId`: the
prices of its orders in that currency on tokens it does not own, read off the current owners.
`Backed` says that the reserved balance of every account covers it. An order's price enters the
sum with a `reserve` of it, and leaves it with an `unreserve` that, by the invariant, finds all
of it reserved. A token that changes hands can only take orders out of the sum: `do_transfer`
and `burn` move a token whose owner has no order on it, and `take_order` drops the orders of
both parties. A bid that becomes its owner's (the stale bid of `Nftmart.Behaviour.StaleBid`)
leaves the sum with its price still reserved, which the invariant allows.

The native currency is left out: its reserved balances also hold the class and token deposits
and the proxy deposits, which other calls release.

## Main results

* `Backed.deleteOrder` — `delete_order` releases all of a backed price.
* `dispatch_backed` — every call keeps `Backed`.
* `reachable_backed` — every state reached from a genesis with no token and no order, whose
  `orml_tokens` supplies fit in a `u128`, is backed.
-/

namespace Nftmart

open Effect

variable {AccountId : Type} [DecidableEq AccountId]

/-! ## What an account holds in escrow -/

/-- What an order of `who` on a token holds in escrow in `currencyId`, read off the order and
the token: its price, when it is in that currency and `who` does not own the token. -/
def escrowAmount (who : AccountId) (currencyId : CurrencyId) :
    Option OrderData × Option (TokenInfoOf AccountId) → ℕ
  | (some order, token) =>
    if order.currencyId = currencyId ∧ token.map (·.owner) ≠ some who then order.price.val
    else 0
  | (none, _) => 0

/-- The order of `who` on each token, with the token. -/
def orderBook (s : State AccountId) (who : AccountId) (token : ClassId × TokenId) :
    Option OrderData × Option (TokenInfoOf AccountId) :=
  (s.pallet.orders (token, who), s.nft.tokens token)

/-- What the orders of `who` hold in escrow in `currencyId`. -/
def escrowed (s : State AccountId) (who : AccountId) (currencyId : CurrencyId) : ℕ :=
  Supply.supply (escrowAmount who currencyId) (orderBook s who)

variable {who : AccountId} {currencyId : CurrencyId} {s s' : State AccountId}

/-- An order's escrow does not grow while its owner keeps a token it owned. -/
theorem escrowAmount_le_of_owner (order : Option OrderData)
    {token token' : Option (TokenInfoOf AccountId)}
    (h : token.map (·.owner) = some who → token'.map (·.owner) = some who) :
    escrowAmount who currencyId (order, token') ≤ escrowAmount who currencyId (order, token) := by
  rcases order with _ | order
  · exact le_rfl
  simp only [escrowAmount]
  split_ifs with hafter hbefore
  · exact le_rfl
  · -- counted after but not before: the token was owned by `who`, and then it still is
    exact absurd (h (not_not.1 fun hown => hbefore ⟨hafter.1, hown⟩)) hafter.2
  · exact Nat.zero_le _
  · exact le_rfl

/-- With no order there is nothing in escrow. -/
theorem escrowed_eq_zero (h : ∀ token, s.pallet.orders (token, who) = none) :
    escrowed s who currencyId = 0 :=
  Supply.supply_eq_zero _ fun token => by simp [orderBook, h token, escrowAmount]

/-- A step that keeps the orders of `who`, and every token `who` owns with an order on it, does
not raise its escrow. -/
theorem escrowed_le_of_owner
    (horders : ∀ token, s'.pallet.orders (token, who) = s.pallet.orders (token, who))
    (hown : ∀ token order, s.pallet.orders (token, who) = some order →
      (s.nft.tokens token).map (·.owner) = some who →
      (s'.nft.tokens token).map (·.owner) = some who) :
    escrowed s' who currencyId ≤ escrowed s who currencyId := by
  refine Supply.supply_le_supply _ fun token => ?_
  simp only [orderBook, horders]
  cases horder : s.pallet.orders (token, who) with
  | none => exact le_rfl
  | some order => exact escrowAmount_le_of_owner _ (hown token order horder)

/-- A write of the order of `who` on `token`, the tokens unchanged, trades the escrow of the old
order for that of the new one. -/
theorem escrowed_setOrder {token : ClassId × TokenId} {v : Option OrderData}
    (horders : s'.pallet.orders = Function.update s.pallet.orders (token, who) v)
    (htokens : s'.nft.tokens = s.nft.tokens) :
    escrowed s' who currencyId + escrowAmount who currencyId (orderBook s who token) =
      escrowed s who currencyId + escrowAmount who currencyId (v, s.nft.tokens token) := by
  have hoff : ∀ token', token' ≠ token → orderBook s' who token' = orderBook s who token' :=
    fun token' hne => by
      have hkey : (token', who) ≠ (token, who) := fun h => hne (Prod.mk.inj h).1
      simp only [orderBook, horders, htokens, Function.update_of_ne hkey]
  have hnew : orderBook s' who token = (v, s.nft.tokens token) := by
    simp only [orderBook, horders, htokens, Function.update_self]
  have h := Supply.supply_add_of_eq_off (escrowAmount who currencyId) hoff
  rw [hnew] at h
  exact h

/-- ... and leaves the escrow of every other account as it was. -/
theorem escrowed_setOrder_of_ne {token : ClassId × TokenId} {v : Option OrderData}
    {who' : AccountId} (hne : who' ≠ who)
    (horders : s'.pallet.orders = Function.update s.pallet.orders (token, who) v)
    (htokens : s'.nft.tokens = s.nft.tokens) :
    escrowed s' who' currencyId = escrowed s who' currencyId := by
  unfold escrowed
  congr 1
  funext token'
  have hkey : (token', who') ≠ (token, who) := fun h => hne (Prod.mk.inj h).2
  simp only [orderBook, horders, htokens, Function.update_of_ne hkey]

/-! ## What the currency calls do to reserved balances -/

namespace MultiCurrency

variable (cfg : Config AccountId)

/-- `transfer` writes no reserved balance. -/
theorem transfer_reserved {src dst : AccountId} {amount : Balance} {u : Unit}
    (h : (transfer cfg currencyId src dst amount).run s = .ok u s')
    (key : AccountId × CurrencyId) :
    (s'.tokens.accounts key).reserved = (s.tokens.accounts key).reserved := by
  unfold transfer at h
  split at h
  · obtain ⟨-, rfl⟩ := run_pure_eq_ok.1 h
    rfl
  split at h
  · obtain ⟨b, -, rfl⟩ := run_zoom_eq_ok.1 h
    rfl
  · obtain ⟨t, ht, rfl⟩ := run_zoom_eq_ok.1 h
    exact Tokens.transfer_reserved ht key

variable [Fintype AccountId]

/-- `reserve` adds `value` to the `orml_tokens` reserved balance of `who`, exactly when the
currency's supply fits, and writes no other. -/
theorem reserve_reserved {value : Balance} {u : Unit}
    (h : (reserve cfg currencyId who value).run s = .ok u s')
    (hfits : currencyId ≠ cfg.nativeCurrencyId → s.tokens.supply currencyId < 2 ^ 128)
    (key : AccountId × CurrencyId) :
    (s'.tokens.accounts key).reserved.val =
      if currencyId ≠ cfg.nativeCurrencyId ∧ key = (who, currencyId) then
        (s.tokens.accounts key).reserved.val + value.val
      else (s.tokens.accounts key).reserved.val := by
  unfold reserve at h
  split at h
  · rename_i hnative
    obtain ⟨b, -, rfl⟩ := run_zoom_eq_ok.1 h
    simp [hnative]
  rename_i hnative
  obtain ⟨t, ht, rfl⟩ := run_zoom_eq_ok.1 h
  obtain ⟨hcan, rfl⟩ := Tokens.reserve_eq ht
  by_cases hkey : key = (who, currencyId)
  · subst hkey
    -- the record holds no more than the supply, so the reserved balance does not wrap
    have hheld := Tokens.holding_le_supply s.tokens who currencyId
    have hlt := hfits hnative
    have hle : value.val ≤ (s.tokens.accounts (who, currencyId)).free.val := by
      rcases hcan with rfl | ⟨hle, -⟩
      · exact Nat.zero_le _
      · exact hle
    simp only [AccountData.holding] at hheld
    simp only [Function.update_self, ne_eq, hnative, not_false_eq_true, and_self, if_true]
    exact AccountData.val_reserved_reserveValue (by omega)
  · simp [hkey]

end MultiCurrency

/-! ## Calls that leave `orml_tokens` alone -/

/-- `s'` has the `orml_tokens` store of `s`. -/
def TokensKept (s s' : State AccountId) : Prop :=
  s'.tokens = s.tokens

instance : Std.Refl (@TokensKept AccountId) := ⟨fun _ => rfl⟩

instance : IsTrans (State AccountId) TokensKept := ⟨fun _ _ _ h₁ h₂ => h₂.trans h₁⟩

omit [DecidableEq AccountId] in
theorem liftBalances_tokensKept {α : Type} (m : Balances.BalancesM AccountId α) :
    Keeps TokensKept (liftBalances m) := by
  unfold liftBalances
  refine Keeps.zoom (fun _ _ => ?_) m
  rfl

theorem Proxy.addProxyDelegate_tokensKept (cfg : Config AccountId) (delegator delegatee : AccountId)
    (proxyType : ProxyType) (delay : BlockNumber) :
    Keeps TokensKept (Proxy.addProxyDelegate cfg delegator delegatee proxyType delay) := by
  unfold Proxy.addProxyDelegate
  refine Keeps.bind (Keeps.ensure _ _) fun _ => Keeps.bind Keeps.get fun st => ?_
  obtain ⟨proxies, oldDeposit⟩ := st.proxies delegator
  refine Keeps.bind (Keeps.ensure _ _) fun _ => Keeps.bind (Keeps.ensure _ _) fun _ => ?_
  dsimp only
  -- the deposit moves in `pallet_balances`, and `Proxies` is written
  refine Keeps.ite (Keeps.bind (liftBalances_tokensKept _) fun _ => ?_)
    (Keeps.ite (Keeps.bind (Keeps.attempt (liftBalances_tokensKept _)) fun _ => ?_) ?_) <;>
  exact Keeps.modify fun _ => rfl

/-! ## The invariant -/

variable [Fintype AccountId] (cfg : Config AccountId)

/-- Every `orml_tokens` currency's supply fits in a `u128`, and in each of them the reserved
balance of every account covers what its orders hold in escrow. -/
structure Backed (s : State AccountId) : Prop where
  fits : ∀ currencyId, currencyId ≠ cfg.nativeCurrencyId → s.tokens.supply currencyId < 2 ^ 128
  backed : ∀ who currencyId, currencyId ≠ cfg.nativeCurrencyId →
    escrowed s who currencyId ≤ (s.tokens.accounts (who, currencyId)).reserved.val

namespace Backed

variable {cfg}

/-- One order's escrow is covered. -/
theorem amount_le (h : Backed cfg s) (hc : currencyId ≠ cfg.nativeCurrencyId)
    (token : ClassId × TokenId) :
    escrowAmount who currencyId (orderBook s who token) ≤
      (s.tokens.accounts (who, currencyId)).reserved.val :=
  (Supply.le_supply _ _ token).trans (h.backed who currencyId hc)

/-- The step rule: a step that keeps the money, and raises no escrow by more than it raises the
reserved balance that covers it, keeps `Backed`. -/
theorem of_le (h : Backed cfg s) (hkept : MoneyKept s s')
    (hle : ∀ who currencyId, currencyId ≠ cfg.nativeCurrencyId →
      escrowed s' who currencyId + (s.tokens.accounts (who, currencyId)).reserved.val ≤
        escrowed s who currencyId + (s'.tokens.accounts (who, currencyId)).reserved.val) :
    Backed cfg s' where
  fits currencyId hc := (hkept.tokens currencyId (h.fits currencyId hc)).symm ▸ h.fits currencyId hc
  backed who currencyId hc := by
    have hbefore := h.backed who currencyId hc
    have hstep := hle who currencyId hc
    omega

/-- A step that writes no order and no reserved balance, and moves no token away from an owner
with an order on it, keeps `Backed`. -/
theorem of_owners (h : Backed cfg s) (hkept : MoneyKept s s')
    (horders : s'.pallet.orders = s.pallet.orders)
    (hreserved : ∀ key, (s'.tokens.accounts key).reserved = (s.tokens.accounts key).reserved)
    (hown : ∀ token who order, s.pallet.orders (token, who) = some order →
      (s.nft.tokens token).map (·.owner) = some who →
      (s'.nft.tokens token).map (·.owner) = some who) :
    Backed cfg s' := by
  refine h.of_le hkept fun who currencyId _ => ?_
  have hle : escrowed s' who currencyId ≤ escrowed s who currencyId :=
    escrowed_le_of_owner (fun token => by rw [horders]) (hown · who)
  rw [hreserved]
  omega

/-- A step that keeps the live tokens, the orders and the reserved balances keeps `Backed`. -/
theorem of_grows (h : Backed cfg s) (hkept : MoneyKept s s')
    (horders : s'.pallet.orders = s.pallet.orders)
    (hreserved : ∀ key, (s'.tokens.accounts key).reserved = (s.tokens.accounts key).reserved)
    (hgrow : ∀ token info, s.nft.tokens token = some info → s'.nft.tokens token = some info) :
    Backed cfg s' :=
  h.of_owners hkept horders hreserved fun token _ _ _ howner => by
    obtain ⟨info, hinfo, rfl⟩ := Option.map_eq_some_iff.1 howner
    rw [hgrow token info hinfo]
    rfl

/-- `delete_order`, given the token's owner as its callers give it, keeps `Backed`: the price it
releases was all reserved, so the reserved balance drops by as much as the escrow. -/
theorem deleteOrder (h : Backed cfg s) {classId : ClassId} {tokenId : TokenId}
    {token : TokenInfoOf AccountId} (htoken : s.nft.tokens (classId, tokenId) = some token)
    (hrun : (Nftmart.deleteOrder cfg classId tokenId who token.owner).run s = .ok () s') :
    Backed cfg s' := by
  have hkept : MoneyKept s s' := ((moneyRel_moneyKept cfg).deleteOrder _ _ _ _).of_ok hrun
  obtain ⟨order, horder, -⟩ := deleteOrder_ok cfg hrun
  obtain ⟨horders, hnft, -, hreserved⟩ := deleteOrder_releases cfg horder hrun
  have htokens : s'.nft.tokens = s.nft.tokens := by rw [hnft]
  refine h.of_le hkept fun who' currencyId hc => ?_
  by_cases hwho' : who' = who
  · subst hwho'
    have hset : escrowed s' who' currencyId +
        escrowAmount who' currencyId (orderBook s who' (classId, tokenId)) =
        escrowed s who' currencyId +
          escrowAmount who' currencyId (none, s.nft.tokens (classId, tokenId)) :=
      escrowed_setOrder horders htokens
    have hbacked : escrowAmount who' currencyId (orderBook s who' (classId, tokenId)) ≤
        (s.tokens.accounts (who', currencyId)).reserved.val :=
      h.amount_le hc _
    have hamount : escrowAmount who' currencyId (orderBook s who' (classId, tokenId)) =
        if order.currencyId = currencyId ∧ token.owner ≠ who' then order.price.val else 0 := by
      simp [orderBook, horder, htoken, escrowAmount]
    rw [hamount] at hset hbacked
    rw [hreserved]
    -- the released price is the escrowed one: both count only a bid in this currency
    by_cases hbid : order.currencyId = currencyId ∧ token.owner ≠ who'
    · obtain ⟨rfl, howner⟩ := hbid
      rw [if_pos ⟨howner.symm, hc, rfl⟩]
      rw [if_pos ⟨rfl, howner⟩] at hset hbacked
      simp only [escrowAmount] at hset
      omega
    · rw [if_neg hbid] at hset
      have hkeep : ¬(who' ≠ token.owner ∧ order.currencyId ≠ cfg.nativeCurrencyId ∧
          (who', currencyId) = (who', order.currencyId)) := fun hrelease =>
        hbid ⟨(Prod.mk.inj hrelease.2.2).2.symm, hrelease.1.symm⟩
      rw [if_neg hkeep]
      simp only [escrowAmount] at hset
      omega
  · have hsame : escrowed s' who' currencyId = escrowed s who' currencyId :=
      escrowed_setOrder_of_ne hwho' horders htokens
    rw [hsame, hreserved]
    simp [hwho']

/-- `try_delete_order` keeps `Backed`: a `delete_order` that fails writes nothing. -/
theorem tryDeleteOrder (h : Backed cfg s) {classId : ClassId} {tokenId : TokenId}
    {token : TokenInfoOf AccountId} (htoken : s.nft.tokens (classId, tokenId) = some token) :
    Backed cfg (stateOf ((Nftmart.deleteOrder cfg classId tokenId who token.owner).run s)) := by
  cases hrun : (Nftmart.deleteOrder cfg classId tokenId who token.owner).run s with
  | ok u s' => exact h.deleteOrder htoken hrun
  | error e s' =>
    rw [stateOf_error, (deleteOrder_error cfg hrun).2.2]
    exact h

/-- `do_transfer` keeps `Backed`: the token it moves has no order of its owner on it. -/
theorem doTransfer (h : Backed cfg s) {src dst : AccountId} {classId : ClassId}
    {tokenId : TokenId} {u : Unit}
    (hrun : (Nftmart.doTransfer src dst classId tokenId).run s = .ok u s') : Backed cfg s' := by
  have hkept := (moneyRel_moneyKept cfg).doTransfer hrun
  obtain ⟨classInfo, token, t, -, -, htoken, hsrc, hnone, ht, rfl⟩ := doTransfer_ok hrun
  obtain ⟨info, -, -, -, htokens⟩ := OrmlNft.transfer_tokens ht
  refine h.of_owners hkept rfl (fun _ => rfl) fun token' who' order horder howner => ?_
  by_cases htok : token' = (classId, tokenId)
  · -- an owner of the moved token with an order on it would be `src`, which has none
    subst htok
    rw [htoken, Option.map_some, Option.some.injEq] at howner
    rw [← howner, ← hsrc, hnone] at horder
    cases horder
  · show (t.tokens token').map (·.owner) = some who'
    rw [htokens, Function.update_of_ne htok]
    exact howner

/-- `transfer` keeps `Backed`: it writes free balances only. -/
theorem transfer (h : Backed cfg s) {src dst : AccountId} {amount : Balance} {u : Unit}
    (hrun : (MultiCurrency.transfer cfg currencyId src dst amount).run s = .ok u s') :
    Backed cfg s' := by
  have hframe := (MultiCurrency.transfer_keeps cfg _ _ _ _).of_ok hrun
  refine h.of_grows (((moneyRel_moneyKept cfg).currencyTransfer _ _ _ _).of_ok hrun)
    (by rw [hframe.pallet]) (MultiCurrency.transfer_reserved cfg hrun) fun token info hinfo => ?_
  rw [hframe.nft]
  exact hinfo

/-- `submit_order` keeps `Backed`: a bid's price is reserved before the order is stored. -/
theorem submitOrder (h : Backed cfg s) {origin : Origin AccountId} {price : Balance}
    {categoryId : CategoryId} {classId : ClassId} {tokenId : TokenId} {deposit : Balance}
    {deadline : BlockNumber} {u : Unit}
    (hrun : (Nftmart.submitOrder cfg origin currencyId price categoryId classId tokenId deposit
      deadline).run s = .ok u s') :
    Backed cfg s' := by
  have hkept := (moneyRel_moneyKept cfg).submitOrder hrun
  obtain ⟨who, token, category, -, htoken, hnone, -, -, -, s₁, s₂, h₁, h₂, hs'⟩ :=
    submitOrder_ok cfg hrun
  -- the deposit is reserved in `pallet_balances`, and the price, if it is, by `reserve`
  have hframe : MoneyFrame s₁ s₂ := by
    split at h₂
    · exact (MultiCurrency.reserve_keeps cfg _ _ _).of_ok h₂.2
    · exact h₂ ▸ MoneyFrame.rfl' s₁
  obtain ⟨b, -, rfl⟩ := run_zoom_eq_ok.1 h₁
  have hreserved : ∀ key, (s'.tokens.accounts key).reserved.val =
      if token.owner ≠ who ∧ currencyId ≠ cfg.nativeCurrencyId ∧ key = (who, currencyId) then
        (s.tokens.accounts key).reserved.val + price.val
      else (s.tokens.accounts key).reserved.val := by
    intro key
    rw [hs']
    split at h₂
    · rename_i howner
      rw [MultiCurrency.reserve_reserved cfg h₂.2 (fun hc => h.fits currencyId hc) key]
      simp [howner]
    · rename_i howner
      subst h₂
      simp [howner]
  have horders : s'.pallet.orders = Function.update s.pallet.orders ((classId, tokenId), who)
      (some { currencyId, price, deposit, deadline, categoryId }) := by
    rw [hs', PalletStore.setOrder_orders, hframe.pallet]
    rfl
  have htokens : s'.nft.tokens = s.nft.tokens := by
    rw [hs', hframe.nft]
  refine h.of_le hkept fun who' currencyId' hc => ?_
  by_cases hwho' : who' = who
  · subst hwho'
    have hset : escrowed s' who' currencyId' +
        escrowAmount who' currencyId' (orderBook s who' (classId, tokenId)) =
        escrowed s who' currencyId' + escrowAmount who' currencyId'
          (some { currencyId, price, deposit, deadline, categoryId }, s.nft.tokens (classId, tokenId)) :=
      escrowed_setOrder horders htokens
    simp only [orderBook, hnone, htoken, escrowAmount, Option.map_some, ne_eq,
      Option.some.injEq] at hset
    rw [hreserved]
    -- the escrowed price is the reserved one: both count only a bid in this currency
    by_cases hbid : currencyId = currencyId' ∧ ¬token.owner = who'
    · obtain ⟨rfl, howner⟩ := hbid
      rw [if_pos ⟨howner, hc, rfl⟩]
      rw [if_pos ⟨rfl, howner⟩] at hset
      omega
    · rw [if_neg hbid] at hset
      have hkeep : ¬(token.owner ≠ who' ∧ currencyId ≠ cfg.nativeCurrencyId ∧
          (who', currencyId') = (who', currencyId)) := fun hreserve =>
        hbid ⟨(Prod.mk.inj hreserve.2.2).2.symm, hreserve.1⟩
      rw [if_neg hkeep]
      omega
  · have hsame : escrowed s' who' currencyId' = escrowed s who' currencyId' :=
      escrowed_setOrder_of_ne hwho' horders htokens
    rw [hsame, hreserved]
    simp [hwho']

/-- `update_order_price` keeps `Backed`: a bid's old price, all reserved, is released before
the new one is reserved. Which orders are bids is read off the owner index, which names the
token's owner in a well-formed store. -/
theorem updateOrderPrice (h : Backed cfg s) (hwf : OrmlNft.Wf s.nft) {origin : Origin AccountId}
    {classId : ClassId} {tokenId : TokenId} {price : Balance} {u : Unit}
    (hrun : (Nftmart.updateOrderPrice cfg origin classId tokenId price).run s = .ok u s') :
    Backed cfg s' := by
  have hkept := (moneyRel_moneyKept cfg).updateOrderPrice hrun
  obtain ⟨who, order, s₁, -, horder, h₁, hs'⟩ := updateOrderPrice_ok cfg hrun
  have hbid : OrmlNft.isOwner s.nft who (classId, tokenId) = false ↔
      (s.nft.tokens (classId, tokenId)).map (·.owner) ≠ some who := by
    rw [← Bool.not_eq_true, hwf.isOwner_iff, ← Option.map_eq_some_iff]
  have hframe : MoneyFrame s s₁ := by
    split at h₁
    · obtain ⟨r, s₀, h₀, h₁⟩ := h₁
      exact ((MultiCurrency.unreserve_keeps cfg _ _ _).of_ok h₀).trans
        ((MultiCurrency.reserve_keeps cfg _ _ _).of_ok h₁)
    · exact h₁ ▸ MoneyFrame.rfl' s
  have hreserved : ∀ key, (s'.tokens.accounts key).reserved.val =
      if (s.nft.tokens (classId, tokenId)).map (·.owner) ≠ some who ∧
          order.currencyId ≠ cfg.nativeCurrencyId ∧ key = (who, order.currencyId) then
        (s.tokens.accounts key).reserved.val - min (s.tokens.accounts key).reserved.val
          order.price.val + price.val
      else (s.tokens.accounts key).reserved.val := by
    intro key
    rw [hs']
    split at h₁
    · rename_i hnot
      obtain ⟨r, s₀, h₀, h₁⟩ := h₁
      -- the release keeps the supply, so the reserve that follows does not wrap
      have hfits : order.currencyId ≠ cfg.nativeCurrencyId →
          s₀.tokens.supply order.currencyId < 2 ^ 128 := fun hc => by
        rw [(((moneyRel_moneyKept cfg).currencyUnreserve _ _ _).of_ok h₀).tokens _ (h.fits _ hc)]
        exact h.fits _ hc
      rw [MultiCurrency.reserve_reserved cfg h₁ hfits key,
        MultiCurrency.unreserve_reserved cfg h₀ key]
      by_cases hk : order.currencyId ≠ cfg.nativeCurrencyId ∧ key = (who, order.currencyId)
      · simp [hk, hbid.1 hnot]
      · simp only [hk, if_false, and_false]
    · rename_i hnot
      rw [h₁]
      have hown : ¬(s.nft.tokens (classId, tokenId)).map (·.owner) ≠ some who :=
        fun hne => hnot (hbid.2 hne)
      simp only [hown, false_and, if_false]
  have horders : s'.pallet.orders =
      Function.update s.pallet.orders ((classId, tokenId), who) (some { order with price }) := by
    rw [hs', PalletStore.setOrder_orders, hframe.pallet]
  have htokens : s'.nft.tokens = s.nft.tokens := by
    rw [hs', hframe.nft]
  refine h.of_le hkept fun who' currencyId hc => ?_
  by_cases hwho' : who' = who
  · subst hwho'
    have hset : escrowed s' who' currencyId +
        escrowAmount who' currencyId (orderBook s who' (classId, tokenId)) =
        escrowed s who' currencyId + escrowAmount who' currencyId
          (some { order with price }, s.nft.tokens (classId, tokenId)) :=
      escrowed_setOrder horders htokens
    have hbacked : escrowAmount who' currencyId (orderBook s who' (classId, tokenId)) ≤
        (s.tokens.accounts (who', currencyId)).reserved.val :=
      h.amount_le hc _
    simp only [orderBook, horder, escrowAmount] at hset hbacked
    rw [hreserved]
    -- the old and the new price are both escrowed, or neither is
    by_cases hcount : order.currencyId = currencyId ∧
        (s.nft.tokens (classId, tokenId)).map (·.owner) ≠ some who'
    · obtain ⟨rfl, howner⟩ := hcount
      rw [if_pos ⟨howner, hc, rfl⟩]
      rw [if_pos ⟨rfl, howner⟩] at hbacked
      rw [if_pos ⟨rfl, howner⟩, if_pos ⟨rfl, howner⟩] at hset
      omega
    · rw [if_neg hcount, if_neg hcount] at hset
      have hkeep : ¬((s.nft.tokens (classId, tokenId)).map (·.owner) ≠ some who' ∧
          order.currencyId ≠ cfg.nativeCurrencyId ∧
          (who', currencyId) = (who', order.currencyId)) := fun hswap =>
        hcount ⟨(Prod.mk.inj hswap.2.2).2.symm, hswap.1⟩
      rw [if_neg hkeep]
      omega
  · have hsame : escrowed s' who' currencyId = escrowed s who' currencyId :=
      escrowed_setOrder_of_ne hwho' horders htokens
    rw [hsame, hreserved]
    simp [hwho']

/-- `take_order` keeps `Backed`: it drops the orders of both parties before the token moves. -/
theorem takeOrder (h : Backed cfg s) {origin : Origin AccountId} {classId : ClassId}
    {tokenId : TokenId} {price : Balance} {orderOwner : AccountId} {u : Unit}
    (hrun : (Nftmart.takeOrder cfg origin classId tokenId price orderOwner).run s = .ok u s') :
    Backed cfg s' := by
  obtain ⟨who, order, token, buyer, -, -, -, -, htoken, -, s₁, s₃, h₁, h₃, h₄⟩ :=
    takeOrder_ok cfg hrun
  have hb₁ := h.deleteOrder htoken h₁
  -- the token is still there, with its owner, for the second deletion
  have htoken₁ : s₁.nft.tokens (classId, tokenId) = some token := by
    obtain ⟨_, -, hframe⟩ := deleteOrder_frame cfg h₁
    rw [hframe.nft]
    exact htoken
  exact ((hb₁.tryDeleteOrder htoken₁).doTransfer h₃).transfer h₄

/-- `create_class` keeps `Backed`: it moves native currency and adds a class. -/
theorem createClass (h : Backed cfg s) (hwf : OrmlNft.Wf s.nft) {origin : Origin AccountId}
    {metadata name description : Bytes} {properties : Properties} {u : Unit}
    (hrun : (Nftmart.createClass cfg origin metadata name description properties).run s =
      .ok u s') :
    Backed cfg s' := by
  have hkept := (moneyRel_moneyKept cfg).createClass hrun
  obtain ⟨who, s₁, s₂, s₃, classId, t, -, -, -, -, h₁, h₂, h₃, ht, rfl⟩ := createClass_ok cfg hrun
  have hframe : MoneyFrame s s₃ :=
    (((liftBalances_keeps _).of_ok h₁).trans ((liftBalances_keeps _).of_ok h₂)).trans
      ((Proxy.addProxyDelegate_keeps cfg _ _ _ _).of_ok h₃)
  have htokens : TokensKept s s₃ :=
    trans_of TokensKept (trans_of TokensKept ((liftBalances_tokensKept _).of_ok h₁)
      ((liftBalances_tokensKept _).of_ok h₂)) ((Proxy.addProxyDelegate_tokensKept cfg _ _ _ _).of_ok h₃)
  rw [← hframe.nft] at hwf
  refine h.of_grows hkept (by rw [← hframe.pallet]) (fun key => by rw [← htokens]) ?_
  intro token info hinfo
  exact (hwf.createClass_grows ht).tokens token info (hframe.nft ▸ hinfo)

/-- `mint` keeps `Backed`: it moves native currency and adds tokens at free ids. -/
theorem mint (h : Backed cfg s) (hwf : OrmlNft.Wf s.nft) {origin : Origin AccountId}
    {toAccount : AccountId} {classId : ClassId} {metadata : Bytes} {quantity : UWord 32} {u : Unit}
    (hrun : (Nftmart.mint cfg origin toAccount classId metadata quantity).run s = .ok u s') :
    Backed cfg s' := by
  have hkept := (moneyRel_moneyKept cfg).mint hrun
  obtain ⟨who, classInfo, s₁, t, -, -, -, -, -, h₁, ht, rfl⟩ := mint_ok cfg hrun
  have hframe : MoneyFrame s s₁ := (liftBalances_keeps _).of_ok h₁
  have htokens : TokensKept s s₁ := (liftBalances_tokensKept _).of_ok h₁
  rw [← hframe.nft] at hwf
  refine h.of_grows hkept (by rw [← hframe.pallet]) (fun key => by rw [← htokens]) ?_
  intro token info hinfo
  exact (hwf.iterate_mint_grows ht).tokens token info (hframe.nft ▸ hinfo)

/-- `burn` keeps `Backed`: the token it removes has no order of its owner on it. -/
theorem burn (h : Backed cfg s) {origin : Origin AccountId} {classId : ClassId}
    {tokenId : TokenId} {u : Unit} (hrun : (Nftmart.burn cfg origin classId tokenId).run s = .ok u s') :
    Backed cfg s' := by
  have hkept := (moneyRel_moneyKept cfg).burn hrun
  obtain ⟨who, classInfo, tokenInfo, t, r, s₂, -, -, -, htoken, hwho, hnone, ht, h₂, h₃⟩ :=
    burn_ok cfg hrun
  have hframe : MoneyFrame { s with nft := t } s' :=
    ((liftBalances_keeps _).of_ok h₂).trans ((liftBalances_keeps _).of_ok h₃)
  have htokens : TokensKept { s with nft := t } s' :=
    trans_of TokensKept ((liftBalances_tokensKept _).of_ok h₂) ((liftBalances_tokensKept _).of_ok h₃)
  obtain ⟨info, classInfo', issuance, -, -, -, -, rfl⟩ := OrmlNft.burn_ok ht
  refine h.of_owners hkept (by rw [hframe.pallet]) (fun key => by rw [htokens])
    fun token' who' order horder howner => ?_
  by_cases htok : token' = (classId, tokenId)
  · -- an owner of the burned token with an order on it would be the burner, which has none
    subst htok
    rw [htoken, Option.map_some, Option.some.injEq] at howner
    rw [← howner, ← hwho, hnone] at horder
    cases horder
  · rw [hframe.nft]
    simpa [Function.update_of_ne htok] using howner

/-- `destroy_class` keeps `Backed`: it moves native currency and removes a class with no
token. -/
theorem destroyClass (h : Backed cfg s) (hwf : OrmlNft.Wf s.nft) {origin : Origin AccountId}
    {classId : ClassId} {dest : AccountId} {u : Unit}
    (hrun : (Nftmart.destroyClass cfg origin classId dest).run s = .ok u s') :
    Backed cfg s' := by
  have hkept := (moneyRel_moneyKept cfg).destroyClass hrun
  obtain ⟨who, classInfo, r, s₁, s₂, t, -, -, -, -, h₁, h₂, ht, rfl⟩ := destroyClass_ok cfg hrun
  have hframe : MoneyFrame s s₂ :=
    ((liftBalances_keeps _).of_ok h₁).trans ((liftBalances_keeps _).of_ok h₂)
  have htokens : TokensKept s s₂ :=
    trans_of TokensKept ((liftBalances_tokensKept _).of_ok h₁) ((liftBalances_tokensKept _).of_ok h₂)
  rw [← hframe.nft] at hwf
  refine h.of_grows hkept (by rw [← hframe.pallet]) (fun key => by rw [← htokens]) ?_
  intro token info hinfo
  exact (hwf.destroyClass_grows ht).tokens token info (hframe.nft ▸ hinfo)

/-- A call that writes neither the orders, nor the tokens, nor `orml_tokens` keeps `Backed`. -/
theorem of_eq (h : Backed cfg s) (hpallet : s'.pallet.orders = s.pallet.orders)
    (hnft : s'.nft = s.nft) (htokens : s'.tokens = s.tokens) (hbalances : s'.balances = s.balances) :
    Backed cfg s' :=
  h.of_grows (MoneyKept.of_eq hbalances htokens) hpallet (fun key => by rw [htokens])
    fun token info hinfo => by rw [hnft]; exact hinfo

end Backed

/-! ## Every run -/

/-- Every call, successful or not, keeps `Backed` on a well-formed store. -/
theorem dispatch_backed (hwf : OrmlNft.Wf s.nft) (h : Backed cfg s) (origin : Origin AccountId)
    (call : Call AccountId) : Backed cfg (stateOf ((dispatch cfg origin call).run s)) := by
  cases hrun : (dispatch cfg origin call).run s with
  | error e s' =>
    rw [stateOf_error, dispatch_error cfg hrun]
    exact h
  | ok u s' =>
    rw [stateOf_ok]
    cases call with
    | takeOrder => exact h.takeOrder hrun
    | submitOrder => exact h.submitOrder hrun
    | removeOrder =>
      obtain ⟨who, token, -, htoken, hdelete⟩ := removeOrder_ok cfg hrun
      exact h.deleteOrder htoken hdelete
    | updateOrderPrice => exact h.updateOrderPrice hwf hrun
    | createCategory =>
      obtain ⟨-, _, -, rfl⟩ := createCategory_ok hrun
      exact h.of_eq rfl rfl rfl rfl
    | updateCategory =>
      obtain ⟨-, rfl⟩ := updateCategory_ok hrun
      split <;> exact h.of_eq rfl rfl rfl rfl
    | updateMinOrderDeposit =>
      obtain ⟨-, rfl⟩ := updateMinOrderDeposit_ok hrun
      exact h.of_eq rfl rfl rfl rfl
    | createClass => exact h.createClass hwf hrun
    | mint => exact h.mint hwf hrun
    | transfer =>
      obtain ⟨who, -, hmove⟩ := transfer_ok hrun
      exact h.doTransfer hmove
    | burn => exact h.burn hrun
    | destroyClass => exact h.destroyClass hwf hrun
    | addWhitelist =>
      obtain ⟨-, rfl⟩ := addWhitelist_ok hrun
      exact h.of_eq rfl rfl rfl rfl
    | removeWhitelist =>
      obtain ⟨-, rfl⟩ := removeWhitelist_ok hrun
      exact h.of_eq rfl rfl rfl rfl

theorem step_backed (s : State AccountId) (a : Action AccountId) (hwf : OrmlNft.Wf s.nft)
    (h : Backed cfg s) : Backed cfg (step cfg s a) := by
  cases a with
  | dispatch origin call => exact dispatch_backed cfg hwf h origin call
  | newBlock => exact h.of_eq rfl rfl rfl rfl

/-- The initial states: no token, no order, and every `orml_tokens` supply fits in a `u128`. -/
structure BackedGenesis (s : State AccountId) : Prop where
  nft : NftGenesis s
  orders : OrderGenesis s
  fits : ∀ currencyId, currencyId ≠ cfg.nativeCurrencyId → s.tokens.supply currencyId < 2 ^ 128

theorem BackedGenesis.backed (h : BackedGenesis cfg s) : Backed cfg s where
  fits := h.fits
  backed who currencyId _ := by
    rw [escrowed_eq_zero fun token => h.orders (token, who)]
    exact Nat.zero_le _

/-- Along every run from a genesis with no token and no order, whose `orml_tokens` supplies fit
in a `u128`, the reserved balance of every account in every `orml_tokens` currency covers the
prices of its orders in that currency on tokens it does not own. -/
theorem reachable_backed (hs : Reachable cfg (BackedGenesis cfg) s) : Backed cfg s :=
  (Machine.Reachable.induction (I := fun s => OrmlNft.Wf s.nft ∧ Backed cfg s)
    (fun _ h => ⟨h.nft.wf, h.backed⟩)
    (fun s a hI => ⟨(step_storeStep cfg s a).nft_wf hI.1, step_backed cfg s a hI.1 hI.2⟩)
    hs).2

/-- The two-account genesis holds `2 * 10^12` of every `orml_tokens` currency. -/
theorem backedGenesis_moneyGenesis : BackedGenesis tradeConfig moneyGenesis where
  nft := genesis_nftGenesis _ _ _
  orders _ := rfl
  fits currencyId _ := by
    simp [Tokens.Store.supply, Supply.supply, Supply.column, moneyGenesis, genesis,
      AccountData.holding]

/-- After the class account's bid of `20` of currency `1` on the token of `0`, that price is
what it holds reserved in the currency. -/
theorem reachable_backed_tradeRun :
    (runActions tradeConfig moneyGenesis (tradeRun.take 5)).pallet.orders ((0, 0), 1) =
      some ⟨1, UWord.ofNat 20, UWord.ofNat (10 ^ 12), 100, 0⟩ ∧
    ((runActions tradeConfig moneyGenesis (tradeRun.take 5)).tokens.accounts (1, 1)).reserved.val =
      20 ∧
    Backed tradeConfig (runActions tradeConfig moneyGenesis (tradeRun.take 5)) :=
  ⟨by decide +kernel, by decide +kernel,
    reachable_backed tradeConfig (Machine.reachable_of_init backedGenesis_moneyGenesis _)⟩

end Nftmart
