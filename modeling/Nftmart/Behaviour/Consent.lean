import Mathlib
import Nftmart.Invariant.Store
import Nftmart.Behaviour.StaleBid

/-!
# Who can move a token

`take_order` reads off the token's current owner whether the order it executes is a bid or an
offer to sell, and the pallet never records which of the two the order was filed as
(`Nftmart.Behaviour.StaleBid`). What the code does guarantee is weaker: a token changes hands
only in a call its owner signed, or in a `take_order` by the new owner of an order that the old
owner holds on the token, at no less than the order's price. The stale bid is such an order.

## Main results

* `takeOrder_settles` — `take_order` fails and changes nothing, or moves the token from its owner
  to the other party, at a price on the right side of the order's, and drops both parties' orders
  on it.
* `dispatch_moves_token` — in a well-formed store, a call that changes the owner of a live token
  was signed by that owner, or took an order the owner holds on the token.
* `step_moves_token` — the same of every step from every reachable state.
-/

namespace Nftmart

open Effect

variable {AccountId : Type}

/-- No token that is live before and after changed owner. -/
def OwnersKept (t t' : OrmlNft.Store AccountId ClassData TokenData) : Prop :=
  ∀ token info info', t.tokens token = some info → t'.tokens token = some info' →
    info'.owner = info.owner

namespace OwnersKept

variable {t t' : OrmlNft.Store AccountId ClassData TokenData}

theorem of_grows (h : OrmlNft.Grows t t') : OwnersKept t t' := by
  intro token info info' hinfo hinfo'
  rw [h.tokens _ _ hinfo] at hinfo'
  cases hinfo'
  rfl

theorem of_eq (h : t' = t) : OwnersKept t t' :=
  of_grows (h ▸ OrmlNft.Grows.rfl' t)

variable [DecidableEq AccountId]

/-- `orml_nft::burn` removes one token and moves none. -/
theorem of_burn {who : AccountId} {burned : ClassId × TokenId} {u : Unit}
    (h : (OrmlNft.burn who burned).run t = .ok u t') : OwnersKept t t' := by
  intro token info info' hinfo hinfo'
  obtain ⟨_, _, _, -, -, -, -, rfl⟩ := OrmlNft.burn_ok h
  by_cases hk : token = burned
  · subst hk
    simp at hinfo'
  · simp only [OrmlNft.Store.setToken_tokens, Function.update_of_ne hk,
      OrmlNft.Store.setOwned_tokens, OrmlNft.Store.setClass_tokens, hinfo] at hinfo'
    cases hinfo'
    rfl

end OwnersKept

variable [DecidableEq AccountId]

/-- `orml_nft::transfer` changes the owner of the token it moves, from `src` to `dst`, and of no
other. -/
theorem transfer_moves {src dst : AccountId} {moved token : ClassId × TokenId}
    {t t' : OrmlNft.Store AccountId ClassData TokenData} {info info' : TokenInfoOf AccountId}
    (ht : (OrmlNft.transfer src dst moved).run t = .ok () t')
    (hinfo : t.tokens token = some info) (hinfo' : t'.tokens token = some info')
    (hmoved : info'.owner ≠ info.owner) :
    token = moved ∧ info.owner = src ∧ info'.owner = dst := by
  obtain ⟨i, hi, hsrc, -, htokens⟩ := OrmlNft.transfer_tokens ht
  by_cases hk : token = moved
  · subst hk
    rw [hi] at hinfo
    cases hinfo
    rw [htokens, Function.update_self] at hinfo'
    cases hinfo'
    exact ⟨rfl, hsrc, rfl⟩
  · rw [htokens, Function.update_of_ne hk, hinfo] at hinfo'
    cases hinfo'
    exact absurd rfl hmoved

variable (cfg : Config AccountId) {s s' : State AccountId}

theorem takeOrder_ok_settles {origin : Origin AccountId} {classId : ClassId} {tokenId : TokenId}
    {price : Balance} {orderOwner : AccountId} {u : Unit}
    (h : (takeOrder cfg origin classId tokenId price orderOwner).run s = .ok u s') :
    ∃ who order info, origin = .signed who ∧
      s.pallet.orders ((classId, tokenId), orderOwner) = some order ∧
      s.nft.tokens (classId, tokenId) = some info ∧
      ((info.owner = orderOwner ∧ order.price ≤ price ∧
          s'.nft.tokens (classId, tokenId) = some { info with owner := who }) ∨
        (info.owner = who ∧ price ≤ order.price ∧
          s'.nft.tokens (classId, tokenId) = some { info with owner := orderOwner })) ∧
      (∀ token, token ≠ (classId, tokenId) → s'.nft.tokens token = s.nft.tokens token) ∧
      s'.pallet.orders ((classId, tokenId), orderOwner) = none ∧
      s'.pallet.orders ((classId, tokenId), who) = none := by
  obtain ⟨who, order, info, buyer, horigin, hne, horder, hinfo, hdir, ht, hpallet⟩ :=
    takeOrder_trade cfg h
  obtain ⟨i, hi, -, -, htokens⟩ := OrmlNft.transfer_tokens ht
  rw [hinfo] at hi
  cases hi
  -- the token's new record is the old one with the buyer as owner
  have hmoved : s'.nft.tokens (classId, tokenId) = some { info with owner := buyer } := by
    rw [htokens, Function.update_self]
  refine ⟨who, order, info, horigin, horder, hinfo, ?_, fun token hk => ?_, ?_, ?_⟩
  · rcases hdir with ⟨hown, hprice, rfl⟩ | ⟨hown, hprice, rfl⟩
    · exact .inl ⟨hown, hprice, hmoved⟩
    · exact .inr ⟨hown, hprice, hmoved⟩
  · rw [htokens, Function.update_of_ne hk]
  · simp [hpallet, hne]
  · simp [hpallet]

/-- `take_order` of the order `o` of `orderOwner`, signed by `who`, either fails and changes
nothing, or settles: when `orderOwner` owns the token (an offer to sell) it goes to `who` for at
least `o.price`; when `who` owns it (a bid accepted) it goes to `orderOwner` for at most
`o.price`. No other token changes, and neither party has an order on the token afterwards. -/
theorem takeOrder_settles (origin : Origin AccountId) (classId : ClassId) (tokenId : TokenId)
    (price : Balance) (orderOwner : AccountId) (s : State AccountId) :
    match (takeOrder cfg origin classId tokenId price orderOwner).run s with
    | .ok _ s' =>
      ∃ who order info, origin = .signed who ∧
        s.pallet.orders ((classId, tokenId), orderOwner) = some order ∧
        s.nft.tokens (classId, tokenId) = some info ∧
        ((info.owner = orderOwner ∧ order.price ≤ price ∧
            s'.nft.tokens (classId, tokenId) = some { info with owner := who }) ∨
          (info.owner = who ∧ price ≤ order.price ∧
            s'.nft.tokens (classId, tokenId) = some { info with owner := orderOwner })) ∧
        (∀ token, token ≠ (classId, tokenId) → s'.nft.tokens token = s.nft.tokens token) ∧
        s'.pallet.orders ((classId, tokenId), orderOwner) = none ∧
        s'.pallet.orders ((classId, tokenId), who) = none
    | .error _ s' => s' = s := by
  split
  · rename_i u s' hrun
    exact takeOrder_ok_settles cfg hrun
  · rename_i e s' hrun
    -- `take_order` is `#[transactional]`
    have hdispatch : (dispatch cfg origin (.takeOrder classId tokenId price orderOwner)).run s =
        .error e s' := hrun
    exact dispatch_error cfg hdispatch

/-- A call changes the owner of a live token only when that owner signed it, or when the new
owner signed a `take_order` of an order the old owner holds on the token, at no less than the
order's price. -/
theorem dispatch_moves_token (hwf : OrmlNft.Wf s.nft) {origin : Origin AccountId}
    {call : Call AccountId} {u : Unit} (h : (dispatch cfg origin call).run s = .ok u s')
    {token : ClassId × TokenId} {info info' : TokenInfoOf AccountId}
    (hinfo : s.nft.tokens token = some info) (hinfo' : s'.nft.tokens token = some info')
    (hmoved : info'.owner ≠ info.owner) :
    origin = .signed info.owner ∨
      (origin = .signed info'.owner ∧ ∃ price order,
        call = .takeOrder token.1 token.2 price info.owner ∧
        s.pallet.orders (token, info.owner) = some order ∧ order.price ≤ price) := by
  -- every call but `take_order` and `transfer` keeps the owners
  have kept : ¬ OwnersKept s.nft s'.nft := fun hk => hmoved (hk _ _ _ hinfo hinfo')
  cases call with
  | takeOrder classId tokenId price orderOwner =>
    obtain ⟨who, order, tok, buyer, rfl, -, horder, -, hdir, ht, -⟩ := takeOrder_trade cfg h
    obtain ⟨rfl, hsrc, hdst⟩ := transfer_moves ht hinfo hinfo' hmoved
    rcases hdir with ⟨hown, hprice, rfl⟩ | ⟨hown, -, rfl⟩
    · -- an order of the owner, read as an offer to sell, taken by `who`
      refine .inr ⟨by rw [hdst], price, order, ?_, ?_, hprice⟩
      · rw [hsrc, hown]
      · rw [hsrc, hown]
        exact horder
    · -- a bid of `orderOwner`, accepted by the owner `who`
      exact .inl (by rw [hsrc, hown])
  | transfer toAccount classId tokenId =>
    obtain ⟨who, rfl, h₁⟩ := transfer_ok h
    obtain ⟨_, _, t, -, -, -, hwho, -, ht, rfl⟩ := doTransfer_ok h₁
    obtain ⟨-, hsrc, -⟩ := transfer_moves ht hinfo hinfo' hmoved
    exact .inl (by rw [hsrc])
  | submitOrder =>
    obtain ⟨_, _, _, -, -, -, -, -, hf⟩ := submitOrder_frame cfg h
    exact absurd (.of_eq hf.nft) kept
  | removeOrder =>
    obtain ⟨_, _, -, -, h₁⟩ := removeOrder_ok cfg h
    obtain ⟨_, -, hf⟩ := deleteOrder_frame cfg h₁
    exact absurd (.of_eq hf.nft) kept
  | updateOrderPrice =>
    obtain ⟨_, _, -, -, hf⟩ := updateOrderPrice_frame cfg h
    exact absurd (.of_eq hf.nft) kept
  | createCategory =>
    obtain ⟨-, _, -, rfl⟩ := createCategory_ok h
    exact absurd (.of_eq rfl) kept
  | updateCategory categoryId =>
    obtain ⟨-, rfl⟩ := updateCategory_ok h
    exact absurd (.of_eq (by split <;> rfl)) kept
  | updateMinOrderDeposit =>
    obtain ⟨-, rfl⟩ := updateMinOrderDeposit_ok h
    exact absurd (.of_eq rfl) kept
  | createClass =>
    obtain ⟨_, _, _, t, -, ht, hf⟩ := createClass_frame cfg h
    have hnft : s'.nft = t := hf.nft
    exact absurd (hnft ▸ .of_grows (hwf.createClass_grows ht)) kept
  | mint =>
    obtain ⟨_, _, t, -, -, ht, hf⟩ := mint_frame cfg h
    have hnft : s'.nft = t := hf.nft
    exact absurd (hnft ▸ .of_grows (hwf.iterate_mint_grows ht)) kept
  | burn =>
    obtain ⟨_, _, t, -, -, -, -, ht, hf⟩ := burn_frame cfg h
    have hnft : s'.nft = t := hf.nft
    exact absurd (hnft ▸ .of_burn ht) kept
  | destroyClass =>
    obtain ⟨_, t, -, ht, hf⟩ := destroyClass_frame cfg h
    have hnft : s'.nft = t := hf.nft
    exact absurd (hnft ▸ .of_grows (hwf.destroyClass_grows ht)) kept
  | addWhitelist =>
    obtain ⟨-, rfl⟩ := addWhitelist_ok h
    exact absurd (.of_eq rfl) kept
  | removeWhitelist =>
    obtain ⟨-, rfl⟩ := removeWhitelist_ok h
    exact absurd (.of_eq rfl) kept

/-- In every reachable state, a step that changes the owner of a live token is a call signed by
that owner, or a `take_order` by the new owner of an order the old owner holds on the token, at
no less than the order's price. -/
theorem step_moves_token (hs : Reachable cfg NftGenesis s) (a : Action AccountId)
    {token : ClassId × TokenId} {info info' : TokenInfoOf AccountId}
    (hinfo : s.nft.tokens token = some info)
    (hinfo' : (step cfg s a).nft.tokens token = some info') (hmoved : info'.owner ≠ info.owner) :
    ∃ origin call, a = .dispatch origin call ∧
      (origin = .signed info.owner ∨
        (origin = .signed info'.owner ∧ ∃ price order,
          call = .takeOrder token.1 token.2 price info.owner ∧
          s.pallet.orders (token, info.owner) = some order ∧ order.price ≤ price)) := by
  -- a new block and a failed call leave the store as it was
  have kept : (step cfg s a).nft ≠ s.nft := fun hnft => by
    rw [hnft, hinfo] at hinfo'
    cases hinfo'
    exact hmoved rfl
  cases a with
  | newBlock => exact absurd rfl kept
  | dispatch origin call =>
    refine ⟨origin, call, rfl, ?_⟩
    cases hrun : (dispatch cfg origin call).run s with
    | ok u s' =>
      have hinfo'' : s'.nft.tokens token = some info' := by
        simpa only [step, hrun, stateOf_ok] using hinfo'
      exact dispatch_moves_token cfg (reachable_nft_wf cfg hs) hrun hinfo hinfo'' hmoved
    | error e s' =>
      obtain rfl := dispatch_error cfg hrun
      exact absurd (by simp only [step, hrun, stateOf_error]) kept

/-- The stale bid of `Nftmart.Behaviour.StaleBid`: account `3` takes the bid of `2`, and the
token goes from `2` to `3`. -/
theorem step_moves_token_staleBid :
    Reachable bidConfig NftGenesis (runActions bidConfig bidGenesis ((staleBid 2).take 6)) ∧
    (runActions bidConfig bidGenesis ((staleBid 2).take 6)).nft.tokens (0, 0) =
      some { metadata := [], owner := 2, data := { deposit := UWord.ofNat (10 ^ 12), createBlock := 0 } } ∧
    (step bidConfig (runActions bidConfig bidGenesis ((staleBid 2).take 6))
        (.dispatch (.signed 3) (.takeOrder 0 0 (UWord.ofNat (5 * 10 ^ 12)) 2))).nft.tokens (0, 0) =
      some { metadata := [], owner := 3, data := { deposit := UWord.ofNat (10 ^ 12), createBlock := 0 } } ∧
    ∃ origin call, Action.dispatch (.signed 3) (.takeOrder 0 0 (UWord.ofNat (5 * 10 ^ 12)) 2) =
        Action.dispatch origin call ∧
      (origin = .signed 2 ∨
        (origin = .signed 3 ∧ ∃ price order, call = .takeOrder 0 0 price 2 ∧
          (runActions bidConfig bidGenesis ((staleBid 2).take 6)).pallet.orders ((0, 0), 2) =
            some order ∧ order.price ≤ price)) := by
  have hs : Reachable bidConfig NftGenesis (runActions bidConfig bidGenesis ((staleBid 2).take 6)) :=
    Machine.reachable_of_init (genesis_nftGenesis _ _ _) _
  have hinfo : (runActions bidConfig bidGenesis ((staleBid 2).take 6)).nft.tokens (0, 0) =
      some { metadata := [], owner := 2,
             data := { deposit := UWord.ofNat (10 ^ 12), createBlock := 0 } } := by decide
  have hinfo' : (step bidConfig (runActions bidConfig bidGenesis ((staleBid 2).take 6))
      (.dispatch (.signed 3) (.takeOrder 0 0 (UWord.ofNat (5 * 10 ^ 12)) 2))).nft.tokens (0, 0) =
      some { metadata := [], owner := 3,
             data := { deposit := UWord.ofNat (10 ^ 12), createBlock := 0 } } := by decide
  exact ⟨hs, hinfo, hinfo', step_moves_token bidConfig hs _ hinfo hinfo' (by decide)⟩

end Nftmart
