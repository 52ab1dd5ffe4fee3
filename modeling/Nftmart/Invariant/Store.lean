import Mathlib
import Nftmart.Lib.Count
import Nftmart.Lib.Machine
import Nftmart.Spec.OrmlNft
import Nftmart.Spec.Step

/-!
# The representation invariant of the `orml_nft` store

`orml_nft` keeps its store in four maps and two counters, and nothing in their types ties them
together: `total_issuance` counts a class's tokens, `NextTokenId` and `NextClassId` must stay
above every id in use, and `TokensByOwner` is an index of `Tokens` that every function updates
by hand. `OrmlNft.Wf` states the four facts that tie them, and this module proves that every
`orml_nft` function keeps them when it succeeds, and so (through `StoreStep`) that every state
the runtime reaches from an empty store has a well-formed store.

The consequences the pallet relies on follow: `mint` always writes a free id, the `checked_sub`
of `burn` never fails, and `destroy_class` (which checks `total_issuance = 0`) only removes a
class with no tokens.

## Main results

* `OrmlNft.Wf.createClass`, `.transfer`, `.mint`, `.burn`, `.destroyClass`, `.iterate_mint` —
  each `orml_nft` function keeps the invariant.
* `nftStore_wf` — every reachable state has a well-formed store, and the three consequences
  above hold in it.
-/

namespace Nftmart.OrmlNft

open Effect PartialMap

variable {AccountId ClassData TokenData : Type}

/-- The representation invariant of the `orml_nft` store. -/
structure Wf (t : Store AccountId ClassData TokenData) : Prop where
  /-- A class's `total_issuance` is the number of its live tokens. -/
  issuance : ∀ classId info, t.classes classId = some info →
    (info.totalIssuance.val : ℕ∞) = count (row t.tokens classId) fun _ => True
  /-- A live token's class exists, and its id is below the class's `NextTokenId`. -/
  tokenClass : ∀ classId tokenId info, t.tokens (classId, tokenId) = some info →
    (t.classes classId).isSome ∧ tokenId.val < (t.nextTokenId classId).val
  /-- Every class id in use is below `NextClassId`. -/
  classBound : ∀ classId, (t.classes classId).isSome → classId.val < t.nextClassId.val
  /-- `TokensByOwner` holds exactly the owner of each live token. -/
  index : ∀ owner token, t.tokensByOwner (owner, token) = true ↔
    ∃ info, t.tokens token = some info ∧ info.owner = owner

variable {t t' : Store AccountId ClassData TokenData}

/-! ## Consequences -/

namespace Wf

/-- The next token id of a class is never a live token: `mint` does not overwrite. -/
theorem nextTokenId_free (hwf : Wf t) (classId : ClassId) :
    t.tokens (classId, t.nextTokenId classId) = none := by
  cases h : t.tokens (classId, t.nextTokenId classId) with
  | none => rfl
  | some info => exact absurd (hwf.tokenClass _ _ _ h).2 (lt_irrefl _)

/-- A class at the next class id does not exist yet: `create_class` does not overwrite. -/
theorem nextClassId_free (hwf : Wf t) : t.classes t.nextClassId = none := by
  cases h : t.classes t.nextClassId with
  | none => rfl
  | some info => exact absurd (hwf.classBound _ (by simp [h])) (lt_irrefl _)

/-- A class with no issuance has no live token. -/
theorem tokens_eq_none_of_issuance (hwf : Wf t) {classId : ClassId}
    {info : ClassInfo AccountId ClassData} (hclass : t.classes classId = some info)
    (hzero : info.totalIssuance = 0) (tokenId : TokenId) : t.tokens (classId, tokenId) = none := by
  have hcount : count (row t.tokens classId) (fun _ => True) = 0 := by
    rw [← hwf.issuance _ _ hclass, hzero]
    rfl
  rw [count, Set.encard_eq_zero, Set.eq_empty_iff_forall_notMem] at hcount
  cases h : t.tokens (classId, tokenId) with
  | none => rfl
  | some tokenInfo => exact absurd ⟨tokenInfo, h, trivial⟩ (hcount tokenId)

/-- The class of a live token has a positive issuance: `burn`'s `checked_sub` succeeds. -/
theorem issuance_pos (hwf : Wf t) {token : ClassId × TokenId}
    {info : TokenInfo AccountId TokenData} {classInfo : ClassInfo AccountId ClassData}
    (htoken : t.tokens token = some info) (hclass : t.classes token.1 = some classInfo) :
    1 ≤ classInfo.totalIssuance.val := by
  by_contra hlt
  have hzero : classInfo.totalIssuance = 0 := Fin.ext (by simp only [Fin.val_zero]; omega)
  have := hwf.tokens_eq_none_of_issuance hclass hzero token.2
  simp_all

/-- `is_owner`, which `update_order_price` reads, agrees with the owner in `Tokens`, which
every other call reads. -/
theorem isOwner_iff [DecidableEq AccountId] (hwf : Wf t) (account : AccountId)
    (token : ClassId × TokenId) :
    isOwner t account token = true ↔ ∃ info, t.tokens token = some info ∧ info.owner = account :=
  hwf.index account token

end Wf

/-! ## Preservation by each function -/

/-! Counting a class's tokens after one write to `Tokens`. -/

section Count

variable {tokens : ClassId × TokenId → Option (TokenInfo AccountId TokenData)} {k : ClassId}
  {tokenId : TokenId}

theorem count_row_update_of_isSome (hlive : (tokens (k, tokenId)).isSome)
    (v : TokenInfo AccountId TokenData) (classId : ClassId) :
    count (row (Function.update tokens (k, tokenId) (some v)) classId) (fun _ => True) =
      count (row tokens classId) fun _ => True := by
  by_cases hk : k = classId
  · subst hk
    rw [row_update_self]
    obtain ⟨w, hw⟩ := Option.isSome_iff_exists.1 hlive
    exact count_update_some_of_mem ⟨w, hw, trivial⟩ trivial
  · rw [row_update_of_ne _ hk]

theorem count_row_update_of_none (hfree : tokens (k, tokenId) = none)
    (v : TokenInfo AccountId TokenData) :
    count (row (Function.update tokens (k, tokenId) (some v)) k) (fun _ => True) =
      (count (row tokens k) fun _ => True) + 1 := by
  rw [row_update_self]
  exact count_update_some_of_not_mem (not_mem_entries_of_none hfree) trivial

theorem count_row_update_none_of_some {v : TokenInfo AccountId TokenData}
    (hlive : tokens (k, tokenId) = some v) :
    count (row (Function.update tokens (k, tokenId) none) k) (fun _ => True) + 1 =
      count (row tokens k) fun _ => True := by
  rw [row_update_self]
  exact count_update_of_mem_of_not ⟨v, hlive, trivial⟩ (fun _ h => nomatch h)

end Count

namespace Wf

/-- `create_class` stores a class with no tokens at the next class id, and advances it. -/
theorem createClass (hwf : Wf t) {owner : AccountId} {metadata : Bytes} {data : ClassData}
    {c : ClassId} (h : (OrmlNft.createClass owner metadata data).run t = .ok c t') : Wf t' := by
  obtain ⟨nextId, hnext, -, rfl⟩ := createClass_ok h
  obtain ⟨hlt, hval⟩ := UWord.checkedAdd_eq_some.1 hnext
  have hfree := hwf.nextClassId_free
  constructor
  · -- the new class has no token yet, since none of its ids can be live
    intro classId info hinfo
    by_cases hc : classId = t.nextClassId
    · subst hc
      simp only [Store.setClass_classes, Function.update_self, Option.some.injEq] at hinfo
      subst hinfo
      have hnone : ∀ tokenId, row t.tokens t.nextClassId tokenId = none := fun tokenId => by
        cases h : t.tokens (t.nextClassId, tokenId) with
        | none => exact h
        | some i => exact absurd (hwf.tokenClass _ _ _ h).1 (by simp [hfree])
      show ((0 : TokenId).val : ℕ∞) = count (row t.tokens t.nextClassId) fun _ => True
      rw [count_eq_zero_of_none hnone]
      rfl
    · simp only [Store.setClass_classes, Function.update_of_ne hc] at hinfo
      exact hwf.issuance classId info hinfo
  · intro classId tokenId info hinfo
    obtain ⟨hclass, hid⟩ := hwf.tokenClass classId tokenId info hinfo
    refine ⟨?_, hid⟩
    by_cases hc : classId = t.nextClassId
    · simp [hc]
    · simpa [Function.update_of_ne hc] using hclass
  · intro classId hclass
    by_cases hc : classId = t.nextClassId
    · subst hc
      simp [hval]
    · have := hwf.classBound classId (by simpa [Function.update_of_ne hc] using hclass)
      simp only [Store.setClass_nextClassId]
      omega
  · exact hwf.index

variable [DecidableEq AccountId]

/-- `transfer` rewrites the owner of a live token and moves its key in the owner index. -/
theorem transfer (hwf : Wf t) {src dst : AccountId} {token : ClassId × TokenId} {u : Unit}
    (h : (OrmlNft.transfer src dst token).run t = .ok u t') : Wf t' := by
  obtain ⟨info, hinfo, hsrc, rfl⟩ := transfer_ok h
  -- a transfer to oneself writes nothing
  by_cases hsd : src = dst
  · simpa [hsd] using hwf
  rw [if_neg hsd]
  obtain ⟨k, tokenId⟩ := token
  have hlive : (t.tokens (k, tokenId)).isSome := by simp [hinfo]
  constructor
  · intro classId classInfo hclass
    rw [hwf.issuance classId classInfo hclass]
    exact (count_row_update_of_isSome hlive _ classId).symm
  · intro classId tokenId' info' hinfo'
    by_cases htok : (classId, tokenId') = (k, tokenId)
    · obtain ⟨rfl, rfl⟩ := Prod.mk.inj htok
      exact hwf.tokenClass _ _ _ hinfo
    · simp only [Store.setToken_tokens, Function.update_of_ne htok] at hinfo'
      exact hwf.tokenClass _ _ _ hinfo'
  · exact hwf.classBound
  · intro owner token'
    simp only [Store.setToken_tokensByOwner, Store.setOwned_tokensByOwner, Store.setToken_tokens]
    by_cases htok : token' = (k, tokenId)
    · -- the moved token: present under `dst` only
      subst htok
      simp only [Function.update_self, Option.some.injEq, exists_eq_left']
      by_cases hdst : owner = dst
      · subst hdst
        simp
      · rw [Function.update_of_ne (by simp [hdst])]
        by_cases hown : owner = src
        · subst hown
          simp [Ne.symm hdst]
        · rw [Function.update_of_ne (by simp [hown]), hwf.index owner (k, tokenId)]
          simp [hinfo, hsrc, Ne.symm hown, Ne.symm hdst]
    · rw [Function.update_of_ne (by simp [htok]), Function.update_of_ne (by simp [htok]),
        Function.update_of_ne htok]
      exact hwf.index owner token'

/-- `mint` stores a token at the class's next token id, which is free, and counts it. -/
theorem mint (hwf : Wf t) {owner : AccountId} {classId : ClassId} {metadata : Bytes}
    {data : TokenData} {tokenId : TokenId}
    (h : (OrmlNft.mint owner classId metadata data).run t = .ok tokenId t') : Wf t' := by
  obtain ⟨info, nextId, issuance, rfl, hnext, hclass, hissuance, rfl⟩ := mint_ok h
  obtain ⟨-, hnextVal⟩ := UWord.checkedAdd_eq_some.1 hnext
  obtain ⟨-, hissuanceVal⟩ := UWord.checkedAdd_eq_some.1 hissuance
  have hfree := hwf.nextTokenId_free classId
  constructor
  · intro classId' info' hinfo'
    by_cases hk : classId' = classId
    · -- the minted class: one more token, one more in the count
      subst hk
      simp only [Store.setNextTokenId_classes, Store.setOwned_classes, Store.setToken_classes,
        Store.setClass_classes, Function.update_self, Option.some.injEq] at hinfo'
      subst hinfo'
      show ((issuance.val : ℕ) : ℕ∞) = count (row (Function.update t.tokens
        (classId', t.nextTokenId classId') _) classId') fun _ => True
      rw [count_row_update_of_none hfree, ← hwf.issuance _ _ hclass, hissuanceVal]
      push_cast
      rfl
    · simp only [Store.setNextTokenId_classes, Store.setOwned_classes, Store.setToken_classes,
        Store.setClass_classes, Function.update_of_ne hk] at hinfo'
      show _ = count (row (Function.update t.tokens (classId, t.nextTokenId classId) _) classId')
        fun _ => True
      rw [row_update_of_ne _ (Ne.symm hk)]
      exact hwf.issuance _ _ hinfo'
  · intro classId' tokenId' info' hinfo'
    simp only [Store.setNextTokenId_tokens, Store.setOwned_tokens, Store.setToken_tokens] at hinfo'
    by_cases htok : (classId', tokenId') = (classId, t.nextTokenId classId)
    · -- the new token, just below the advanced counter
      obtain ⟨rfl, rfl⟩ := Prod.mk.inj htok
      simp [hnextVal]
    · rw [Function.update_of_ne htok] at hinfo'
      obtain ⟨hsome, hlt⟩ := hwf.tokenClass _ _ _ hinfo'
      by_cases hk : classId' = classId
      · subst hk
        simp [hnextVal]
        omega
      · simpa [Function.update_of_ne hk] using ⟨hsome, hlt⟩
  · intro classId' hsome
    by_cases hk : classId' = classId
    · subst hk
      exact hwf.classBound _ (by simp [hclass])
    · exact hwf.classBound _ (by simpa [Function.update_of_ne hk] using hsome)
  · intro owner' token'
    simp only [Store.setNextTokenId_tokensByOwner, Store.setOwned_tokensByOwner,
      Store.setToken_tokensByOwner, Store.setClass_tokensByOwner, Store.setNextTokenId_tokens,
      Store.setOwned_tokens, Store.setToken_tokens, Store.setClass_tokens]
    by_cases htok : token' = (classId, t.nextTokenId classId)
    · -- the new token was in no one's index, and is now in its owner's
      subst htok
      by_cases hown : owner' = owner
      · subst hown
        simp
      · rw [Function.update_of_ne (by simp [hown]), hwf.index]
        simp [hfree, Ne.symm hown]
    · rw [Function.update_of_ne (by simp [htok]), Function.update_of_ne htok]
      exact hwf.index owner' token'

/-- `burn` removes a live token of `owner`, uncounts it and takes it out of the index. -/
theorem burn (hwf : Wf t) {owner : AccountId} {token : ClassId × TokenId} {u : Unit}
    (h : (OrmlNft.burn owner token).run t = .ok u t') : Wf t' := by
  obtain ⟨info, classInfo, issuance, hinfo, howner, hclass, hissuance, rfl⟩ := burn_ok h
  obtain ⟨hle, hissuanceVal⟩ := UWord.checkedSub_eq_some.1 hissuance
  obtain ⟨k, tokenId⟩ := token
  constructor
  · intro classId' info' hinfo'
    by_cases hk : classId' = k
    · -- the burned token's class: one token fewer, and one less in the count
      subst hk
      simp only [Store.setToken_classes, Store.setOwned_classes, Store.setClass_classes,
        Function.update_self, Option.some.injEq] at hinfo'
      subst hinfo'
      have hcount := count_row_update_none_of_some hinfo
      rw [← hwf.issuance _ _ hclass] at hcount
      apply WithTop.add_right_cancel ENat.one_ne_top
      show ((issuance.val : ℕ) : ℕ∞) + 1 = count (row (Function.update t.tokens
        (classId', tokenId) none) classId') (fun _ => True) + 1
      rw [hcount, hissuanceVal]
      have : ((classInfo.totalIssuance.val - (1 : TokenId).val : ℕ) : ℕ∞) + 1 =
          ((classInfo.totalIssuance.val - (1 : TokenId).val + 1 : ℕ) : ℕ∞) := by push_cast; rfl
      rw [this]
      congr 1
      simp only [Fin.val_one'] at hle ⊢
      omega
    · simp only [Store.setToken_classes, Store.setOwned_classes, Store.setClass_classes,
        Function.update_of_ne hk] at hinfo'
      show _ = count (row (Function.update t.tokens (k, tokenId) none) classId') fun _ => True
      rw [row_update_of_ne _ (Ne.symm hk)]
      exact hwf.issuance _ _ hinfo'
  · intro classId' tokenId' info' hinfo'
    by_cases htok : (classId', tokenId') = (k, tokenId)
    · simp [htok] at hinfo'
    · simp only [Store.setToken_tokens, Function.update_of_ne htok] at hinfo'
      obtain ⟨hsome, hlt⟩ := hwf.tokenClass _ _ _ hinfo'
      refine ⟨?_, hlt⟩
      by_cases hk : classId' = k
      · simp [hk]
      · simpa [Function.update_of_ne hk] using hsome
  · intro classId' hsome
    by_cases hk : classId' = k
    · subst hk
      exact hwf.classBound _ (by simp [hclass])
    · exact hwf.classBound _ (by simpa [Function.update_of_ne hk] using hsome)
  · intro owner' token'
    simp only [Store.setToken_tokensByOwner, Store.setOwned_tokensByOwner,
      Store.setClass_tokensByOwner, Store.setToken_tokens]
    by_cases htok : token' = (k, tokenId)
    · -- the burned token is in no one's index
      subst htok
      by_cases hown : owner' = owner
      · subst hown
        simp
      · rw [Function.update_of_ne (by simp [hown]), hwf.index]
        simp [hinfo, howner, Ne.symm hown]
    · rw [Function.update_of_ne (by simp [htok]), Function.update_of_ne htok]
      exact hwf.index owner' token'

/-- `destroy_class` removes a class with no issuance, which has no live token. -/
theorem destroyClass (hwf : Wf t) {owner : AccountId} {classId : ClassId} {u : Unit}
    (h : (OrmlNft.destroyClass owner classId).run t = .ok u t') : Wf t' := by
  obtain ⟨info, hclass, -, hzero, rfl⟩ := destroyClass_ok h
  have hnone := hwf.tokens_eq_none_of_issuance hclass hzero
  constructor
  · intro classId' info' hinfo'
    by_cases hk : classId' = classId
    · simp [hk] at hinfo'
    · simp only [Store.setClass_classes, Store.setNextTokenId_classes,
        Function.update_of_ne hk] at hinfo'
      exact hwf.issuance _ _ hinfo'
  · intro classId' tokenId' info' hinfo'
    -- the destroyed class had no token, so every live token is of another class
    have hk : classId' ≠ classId := by
      rintro rfl
      simp [hnone] at hinfo'
    simpa [Function.update_of_ne hk] using hwf.tokenClass _ _ _ hinfo'
  · intro classId' hsome
    by_cases hk : classId' = classId
    · simp [hk] at hsome
    · exact hwf.classBound _ (by simpa [Function.update_of_ne hk] using hsome)
  · exact hwf.index

/-- A run of mints keeps the invariant. -/
theorem iterate_mint (hwf : Wf t) {owner : AccountId} {classId : ClassId} {metadata : Bytes}
    {data : TokenData} {n : Nat}
    (h : (iterate n (OrmlNft.mint owner classId metadata data)).run t = .ok () t') : Wf t' :=
  iterate_preserves (fun _ _ _ hwf h => Wf.mint hwf h) n t t' () hwf h

end Wf

/-! ## What the store keeps

`create_class`, `mint` and `destroy_class` leave every live token as it was, and the payload of
its class: on a well-formed store they write only at free ids, or remove a class with no
tokens. -/

/-- Every live token of `t` is in `t'` unchanged, and its class is there with the same
payload. -/
structure Grows (t t' : Store AccountId ClassData TokenData) : Prop where
  tokens : ∀ token info, t.tokens token = some info → t'.tokens token = some info
  classes : ∀ token info classInfo, t.tokens token = some info →
    t.classes token.1 = some classInfo →
    ∃ classInfo', t'.classes token.1 = some classInfo' ∧ classInfo'.data = classInfo.data

namespace Grows

theorem rfl' (t : Store AccountId ClassData TokenData) : Grows t t :=
  ⟨fun _ _ h => h, fun _ _ classInfo _ h => ⟨classInfo, h, rfl⟩⟩

theorem trans {t₁ t₂ t₃ : Store AccountId ClassData TokenData} (h₁ : Grows t₁ t₂)
    (h₂ : Grows t₂ t₃) : Grows t₁ t₃ where
  tokens token info h := h₂.tokens _ _ (h₁.tokens _ _ h)
  classes token info classInfo htoken hclass := by
    obtain ⟨classInfo₂, hclass₂, hdata₂⟩ := h₁.classes _ _ _ htoken hclass
    obtain ⟨classInfo₃, hclass₃, hdata₃⟩ :=
      h₂.classes _ _ _ (h₁.tokens _ _ htoken) hclass₂
    exact ⟨classInfo₃, hclass₃, hdata₃.trans hdata₂⟩

end Grows

namespace Wf

theorem createClass_grows (hwf : Wf t) {owner : AccountId} {metadata : Bytes}
    {data : ClassData} {c : ClassId}
    (h : (OrmlNft.createClass owner metadata data).run t = .ok c t') : Grows t t' := by
  obtain ⟨nextId, -, -, rfl⟩ := createClass_ok h
  refine ⟨fun _ _ h => h, fun token _ classInfo _ hclass => ⟨classInfo, ?_, rfl⟩⟩
  -- the new class takes a free id
  have hne : token.1 ≠ t.nextClassId := by
    rintro heq
    rw [heq, hwf.nextClassId_free] at hclass
    cases hclass
  simpa [Function.update_of_ne hne] using hclass

variable [DecidableEq AccountId]

theorem mint_grows (hwf : Wf t) {owner : AccountId} {classId : ClassId} {metadata : Bytes}
    {data : TokenData} {tokenId : TokenId}
    (h : (OrmlNft.mint owner classId metadata data).run t = .ok tokenId t') : Grows t t' := by
  obtain ⟨info, nextId, issuance, rfl, -, hinfo, -, rfl⟩ := mint_ok h
  constructor
  · -- the new token takes a free id
    intro token tokenInfo htoken
    have hne : token ≠ (classId, t.nextTokenId classId) := by
      rintro rfl
      rw [hwf.nextTokenId_free] at htoken
      cases htoken
    simpa [Function.update_of_ne hne] using htoken
  · -- the class's issuance grows, and nothing else of it changes
    intro token _ classInfo _ hclass
    by_cases hk : token.1 = classId
    · rw [hk, hinfo] at hclass
      cases hclass
      exact ⟨{ info with totalIssuance := issuance }, by simp [hk], rfl⟩
    · exact ⟨classInfo, by simpa [Function.update_of_ne hk] using hclass, rfl⟩

theorem iterate_mint_grows (hwf : Wf t) {owner : AccountId} {classId : ClassId}
    {metadata : Bytes} {data : TokenData} {n : Nat}
    (h : (iterate n (OrmlNft.mint owner classId metadata data)).run t = .ok () t') :
    Grows t t' :=
  -- carried along the loop with the invariant that makes each mint grow the store
  (iterate_preserves (P := fun t₁ => Wf t₁ ∧ Grows t t₁)
    (fun _ _ _ hP h => ⟨hP.1.mint h, hP.2.trans (hP.1.mint_grows h)⟩)
    n t t' () ⟨hwf, Grows.rfl' t⟩ h).2

theorem destroyClass_grows (hwf : Wf t) {owner : AccountId} {classId : ClassId} {u : Unit}
    (h : (OrmlNft.destroyClass owner classId).run t = .ok u t') : Grows t t' := by
  obtain ⟨info, hinfo, -, hzero, rfl⟩ := destroyClass_ok h
  refine ⟨fun _ _ h => h, fun token tokenInfo classInfo htoken hclass => ⟨classInfo, ?_, rfl⟩⟩
  -- the class removed has no live token
  have hne : token.1 ≠ classId := by
    rintro hk
    rw [← hk] at hinfo
    rw [hwf.tokens_eq_none_of_issuance hinfo hzero token.2] at htoken
    cases htoken
  simpa [Function.update_of_ne hne] using hclass

end Wf

end Nftmart.OrmlNft

/-! ## Every reachable store is well formed -/

namespace Nftmart

open Effect

variable {AccountId : Type} {s s' : State AccountId}

/-- The empty store is well formed. -/
theorem NftGenesis.wf (h : NftGenesis s) : OrmlNft.Wf s.nft where
  issuance classId info hinfo := by simp [h.classes classId] at hinfo
  tokenClass classId tokenId info hinfo := by simp [h.tokens (classId, tokenId)] at hinfo
  classBound classId hsome := by simp [h.classes classId] at hsome
  index owner token := by simp [h.tokens token, h.tokensByOwner (owner, token)]

variable [DecidableEq AccountId]

/-- A step keeps the store well formed: the store changes only through a successful
`orml_nft` function, or a run of mints. -/
theorem StoreStep.nft_wf (hstep : StoreStep s s') (hwf : OrmlNft.Wf s.nft) :
    OrmlNft.Wf s'.nft := by
  cases hstep with
  | takeOrder _ _ _ _ ht _ => exact hwf.transfer ht
  | submitOrder _ _ _ _ _ hnft _ => exact hnft ▸ hwf
  | removeOrder _ _ hnft _ => exact hnft ▸ hwf
  | updateOrderPrice _ _ hnft _ => exact hnft ▸ hwf
  | createCategory _ hnft _ => exact hnft ▸ hwf
  | updateCategory _ hnft _ => exact hnft ▸ hwf
  | updateMinOrderDeposit hnft _ => exact hnft ▸ hwf
  | createClass ht _ => exact hwf.createClass ht
  | mint ht _ => exact hwf.iterate_mint ht
  | transfer _ _ _ ht _ => exact hwf.transfer ht
  | burn _ _ _ ht _ => exact hwf.burn ht
  | destroyClass ht _ => exact hwf.destroyClass ht
  | unchanged hnft _ => exact hnft ▸ hwf

variable (cfg : Config AccountId)

/-- The store of every state reached from an empty one is well formed. -/
theorem reachable_nft_wf (hs : Reachable cfg NftGenesis s) : OrmlNft.Wf s.nft :=
  Machine.Reachable.induction (fun _ h => h.wf)
    (fun s a hwf => (step_storeStep cfg s a).nft_wf hwf) hs

/-- In every state reached from an empty `orml_nft` store the store is well formed, and so:
the id `mint` takes is free, the `checked_sub` of `burn` on a live token succeeds, and a class
with no issuance, the only kind `destroy_class` removes, has no live token. -/
theorem nftStore_wf (hs : Reachable cfg NftGenesis s) :
    OrmlNft.Wf s.nft ∧
    (∀ classId, s.nft.tokens (classId, s.nft.nextTokenId classId) = none) ∧
    (∀ token info classInfo, s.nft.tokens token = some info →
      s.nft.classes token.1 = some classInfo → (classInfo.totalIssuance.checkedSub 1).isSome) ∧
    (∀ classId info, s.nft.classes classId = some info → info.totalIssuance = 0 →
      ∀ tokenId, s.nft.tokens (classId, tokenId) = none) := by
  have hwf := reachable_nft_wf cfg hs
  refine ⟨hwf, hwf.nextTokenId_free, fun token info classInfo htoken hclass => ?_,
    fun _ _ hclass hzero => hwf.tokens_eq_none_of_issuance hclass hzero⟩
  have hpos := hwf.issuance_pos htoken hclass
  cases hsub : classInfo.totalIssuance.checkedSub 1 with
  | none => simp [UWord.checkedSub_eq_none] at hsub; omega
  | some _ => rfl

/-- The run `staleBid 2` creates a class, mints a token, files a bid on it, gives the token to the
bidder and has the bid taken by `3`, who then owns the token. -/
theorem nftStore_wf_staleBid :
    Reachable bidConfig NftGenesis (runActions bidConfig bidGenesis (staleBid 2)) ∧
    ((runActions bidConfig bidGenesis (staleBid 2)).nft.tokens (0, 0)).map (·.owner) = some 3 ∧
    OrmlNft.Wf (runActions bidConfig bidGenesis (staleBid 2)).nft ∧
    (∀ classId, (runActions bidConfig bidGenesis (staleBid 2)).nft.tokens
      (classId, (runActions bidConfig bidGenesis (staleBid 2)).nft.nextTokenId classId) = none) ∧
    (∀ token info classInfo, (runActions bidConfig bidGenesis (staleBid 2)).nft.tokens token =
        some info → (runActions bidConfig bidGenesis (staleBid 2)).nft.classes token.1 =
        some classInfo → (classInfo.totalIssuance.checkedSub 1).isSome) ∧
    (∀ classId info, (runActions bidConfig bidGenesis (staleBid 2)).nft.classes classId =
        some info → info.totalIssuance = 0 →
      ∀ tokenId, (runActions bidConfig bidGenesis (staleBid 2)).nft.tokens (classId, tokenId) =
        none) := by
  have hs : Reachable bidConfig NftGenesis (runActions bidConfig bidGenesis (staleBid 2)) :=
    Machine.reachable_of_init (genesis_nftGenesis _ _ _) _
  have howner :
      ((runActions bidConfig bidGenesis (staleBid 2)).nft.tokens (0, 0)).map (·.owner) =
        some 3 := by
    decide
  exact ⟨hs, howner, nftStore_wf bidConfig hs⟩

end Nftmart
