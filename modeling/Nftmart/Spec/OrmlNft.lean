import Mathlib
import Nftmart.Lib.Effect
import Nftmart.Model.OrmlNft

/-!
# `orml_nft`: what each function does when it succeeds

One inversion lemma per function of `Nftmart.Model.OrmlNft`: a successful run means that every
check of the function passed, and the store it leaves is the one its writes build. Callers cite
these lemmas and never unfold the functions.

The setters of the store come with one `@[simp]` lemma per field, so that a goal about a
written store reduces to `Function.update` terms.

## Main results

* `createClass_ok`, `transfer_ok`, `mint_ok`, `burn_ok`, `destroyClass_ok` — inversion of a
  successful call.
* `iterate_mint_range` — a run of `q` mints, in closed form.
-/

namespace Nftmart.OrmlNft

open Effect

variable {AccountId ClassData TokenData : Type}

namespace Store

variable (s : Store AccountId ClassData TokenData)

@[simp] theorem setClass_nextClassId (k v) : (s.setClass k v).nextClassId = s.nextClassId := rfl
@[simp] theorem setClass_nextTokenId (k v) : (s.setClass k v).nextTokenId = s.nextTokenId := rfl
@[simp] theorem setClass_classes (k v) :
    (s.setClass k v).classes = Function.update s.classes k v := rfl
@[simp] theorem setClass_tokens (k v) : (s.setClass k v).tokens = s.tokens := rfl
@[simp] theorem setClass_tokensByOwner (k v) :
    (s.setClass k v).tokensByOwner = s.tokensByOwner := rfl

@[simp] theorem setToken_nextClassId (k v) : (s.setToken k v).nextClassId = s.nextClassId := rfl
@[simp] theorem setToken_nextTokenId (k v) : (s.setToken k v).nextTokenId = s.nextTokenId := rfl
@[simp] theorem setToken_classes (k v) : (s.setToken k v).classes = s.classes := rfl
@[simp] theorem setToken_tokens (k v) :
    (s.setToken k v).tokens = Function.update s.tokens k v := rfl
@[simp] theorem setToken_tokensByOwner (k v) :
    (s.setToken k v).tokensByOwner = s.tokensByOwner := rfl

@[simp] theorem setNextTokenId_nextClassId (k v) :
    (s.setNextTokenId k v).nextClassId = s.nextClassId := rfl
@[simp] theorem setNextTokenId_nextTokenId (k v) :
    (s.setNextTokenId k v).nextTokenId = Function.update s.nextTokenId k v := rfl
@[simp] theorem setNextTokenId_classes (k v) : (s.setNextTokenId k v).classes = s.classes := rfl
@[simp] theorem setNextTokenId_tokens (k v) : (s.setNextTokenId k v).tokens = s.tokens := rfl
@[simp] theorem setNextTokenId_tokensByOwner (k v) :
    (s.setNextTokenId k v).tokensByOwner = s.tokensByOwner := rfl

variable [DecidableEq AccountId]

@[simp] theorem setOwned_nextClassId (a k b) :
    (s.setOwned a k b).nextClassId = s.nextClassId := rfl
@[simp] theorem setOwned_nextTokenId (a k b) :
    (s.setOwned a k b).nextTokenId = s.nextTokenId := rfl
@[simp] theorem setOwned_classes (a k b) : (s.setOwned a k b).classes = s.classes := rfl
@[simp] theorem setOwned_tokens (a k b) : (s.setOwned a k b).tokens = s.tokens := rfl
@[simp] theorem setOwned_tokensByOwner (a k b) :
    (s.setOwned a k b).tokensByOwner = Function.update s.tokensByOwner (a, k) b := rfl

end Store

variable {t t' : Store AccountId ClassData TokenData}

theorem createClass_ok {owner : AccountId} {metadata : Bytes} {data : ClassData} {c : ClassId}
    (h : (createClass owner metadata data : NftM AccountId ClassData TokenData ClassId).run t =
      .ok c t') :
    ∃ nextId, t.nextClassId.checkedAdd 1 = some nextId ∧ c = t.nextClassId ∧
      t' = ({ t with nextClassId := nextId }).setClass t.nextClassId
        (some { metadata, totalIssuance := 0, owner, data }) := by
  simp only [createClass, run_bind_eq_ok, run_get_eq_ok] at h
  obtain ⟨_, _, ⟨rfl, rfl⟩, h⟩ := h
  -- the `let some nextId := .. | throw ..` of the class id counter
  split at h
  · rename_i nextId hnext
    simp only [run_bind_eq_ok, run_modify_eq_ok, run_pure_eq_ok] at h
    obtain ⟨_, _, rfl, _, _, rfl, rfl, rfl⟩ := h
    exact ⟨nextId, hnext, rfl, rfl⟩
  · simp at h

variable [DecidableEq AccountId]

theorem transfer_ok {src dst : AccountId} {token : ClassId × TokenId} {u : Unit}
    (h : (transfer src dst token : NftM AccountId ClassData TokenData Unit).run t = .ok u t') :
    ∃ info, t.tokens token = some info ∧ info.owner = src ∧
      t' = if src = dst then t else
        ((t.setOwned src token false).setOwned dst token true).setToken token
          (some { info with owner := dst }) := by
  simp only [transfer, run_bind_eq_ok, run_get_eq_ok, run_okOr_eq_ok, run_ensure_eq_ok,
    decide_eq_true_eq] at h
  obtain ⟨_, _, ⟨rfl, rfl⟩, info, _, ⟨hinfo, rfl⟩, _, _, ⟨howner, rfl⟩, h⟩ := h
  refine ⟨info, hinfo, howner, ?_⟩
  -- a transfer to oneself returns before any write
  by_cases hsd : src = dst
  · simp only [hsd, if_true, run_pure_eq_ok] at h ⊢
    exact h.2.symm
  · simp only [hsd, if_false, run_bind_eq_ok, run_modify_eq_ok] at h ⊢
    obtain ⟨_, _, rfl, rfl⟩ := h
    rfl

/-- `transfer_ok` as one write to `Tokens`, which for a transfer to oneself writes the token
back as it was. -/
theorem transfer_tokens {src dst : AccountId} {token : ClassId × TokenId} {u : Unit}
    (h : (transfer src dst token : NftM AccountId ClassData TokenData Unit).run t = .ok u t') :
    ∃ info, t.tokens token = some info ∧ info.owner = src ∧ t'.classes = t.classes ∧
      t'.tokens = Function.update t.tokens token (some { info with owner := dst }) := by
  obtain ⟨info, hinfo, howner, rfl⟩ := transfer_ok h
  refine ⟨info, hinfo, howner, ?_⟩
  by_cases hsd : src = dst
  · subst hsd howner
    rw [if_pos rfl]
    exact ⟨rfl, by rw [← hinfo, Function.update_eq_self]⟩
  · simp [hsd]

theorem mint_ok {owner : AccountId} {classId : ClassId} {metadata : Bytes} {data : TokenData}
    {tokenId : TokenId}
    (h : (mint owner classId metadata data : NftM AccountId ClassData TokenData TokenId).run t =
      .ok tokenId t') :
    ∃ info nextId issuance, tokenId = t.nextTokenId classId ∧
      (t.nextTokenId classId).checkedAdd 1 = some nextId ∧
      t.classes classId = some info ∧ info.totalIssuance.checkedAdd 1 = some issuance ∧
      t' = (((t.setClass classId (some { info with totalIssuance := issuance })).setToken
        (classId, tokenId) (some { metadata, owner, data })).setOwned owner (classId, tokenId)
        true).setNextTokenId classId nextId := by
  simp only [mint, run_bind_eq_ok, run_get_eq_ok] at h
  obtain ⟨_, _, ⟨rfl, rfl⟩, h⟩ := h
  -- the token id counter must not overflow
  split at h
  · rename_i nextId hnext
    simp only [run_bind_eq_ok, run_get_eq_ok, run_okOr_eq_ok] at h
    obtain ⟨_, _, ⟨rfl, rfl⟩, info, _, ⟨hinfo, rfl⟩, h⟩ := h
    -- nor the class's issuance
    split at h
    · rename_i issuance hissuance
      simp only [run_bind_eq_ok, run_modify_eq_ok, run_pure_eq_ok] at h
      obtain ⟨_, _, rfl, _, _, rfl, _, _, rfl, _, _, rfl, rfl, rfl⟩ := h
      exact ⟨info, nextId, issuance, rfl, hnext, hinfo, hissuance, rfl⟩
    · simp at h
  · simp at h

/-- What `q` mints of one token into class `classId` leave behind: from `n = NextTokenId[classId]`,
the ids `n` to `n + q - 1` hold the token, in `TokensByOwner` under `owner`; the class's
`NextTokenId` and issuance have grown by `q`; nothing else has changed. -/
structure MintedRange (t t' : Store AccountId ClassData TokenData) (owner : AccountId)
    (classId : ClassId) (metadata : Bytes) (data : TokenData) (q : ℕ) : Prop where
  nextClassId : t'.nextClassId = t.nextClassId
  nextTokenId : (t'.nextTokenId classId).val = (t.nextTokenId classId).val + q
  nextTokenId_of_ne : ∀ k, k ≠ classId → t'.nextTokenId k = t.nextTokenId k
  classes_of_ne : ∀ k, k ≠ classId → t'.classes k = t.classes k
  issuance : (t'.classes classId).map (·.totalIssuance.val) =
    (t.classes classId).map (·.totalIssuance.val + q)
  classInfo : (t'.classes classId).map (fun info => (info.metadata, info.owner, info.data)) =
    (t.classes classId).map (fun info => (info.metadata, info.owner, info.data))
  tokens : ∀ k i, t'.tokens (k, i) =
    if k = classId ∧ (t.nextTokenId classId).val ≤ i.val ∧
      i.val < (t.nextTokenId classId).val + q then some { metadata, owner, data }
    else t.tokens (k, i)
  tokensByOwner : ∀ a k i, t'.tokensByOwner (a, (k, i)) =
    if a = owner ∧ k = classId ∧ (t.nextTokenId classId).val ≤ i.val ∧
      i.val < (t.nextTokenId classId).val + q then true
    else t.tokensByOwner (a, (k, i))

theorem MintedRange.zero (t : Store AccountId ClassData TokenData) (owner : AccountId)
    (classId : ClassId) (metadata : Bytes) (data : TokenData) :
    MintedRange t t owner classId metadata data 0 where
  nextClassId := rfl
  nextTokenId := rfl
  nextTokenId_of_ne _ _ := rfl
  classes_of_ne _ _ := rfl
  issuance := by simp
  classInfo := rfl
  tokens k i := by simp
  tokensByOwner a k i := by simp

/-- The loop of `q` mints, in closed form. -/
theorem iterate_mint_range {owner : AccountId} {classId : ClassId} {metadata : Bytes}
    {data : TokenData} :
    ∀ (q : ℕ) (t t' : Store AccountId ClassData TokenData),
      (iterate q (mint owner classId metadata data)).run t = .ok () t' →
      MintedRange t t' owner classId metadata data q := by
  intro q
  induction q with
  | zero =>
    intro t t' h
    rw [run_iterate_zero_eq_ok] at h
    subst h
    exact MintedRange.zero t owner classId metadata data
  | succ q ih =>
    intro t t' h
    -- the first mint, at `n`, then the other `q` from `n + 1`
    obtain ⟨tokenId, t₁, h₁, h₂⟩ := run_iterate_succ_eq_ok.1 h
    have hr := ih t₁ t' h₂
    obtain ⟨info, nextId, issuance, rfl, hnext, hinfo, hissuance, rfl⟩ := mint_ok h₁
    obtain ⟨-, hnextVal⟩ := UWord.checkedAdd_eq_some.1 hnext
    obtain ⟨-, hissuanceVal⟩ := UWord.checkedAdd_eq_some.1 hissuance
    have hone : (1 : TokenId).val = 1 := rfl
    constructor
    · simp [hr.nextClassId]
    · rw [hr.nextTokenId]
      simp [hnextVal]
      omega
    · intro k hk
      rw [hr.nextTokenId_of_ne k hk]
      simp [Function.update_of_ne hk]
    · intro k hk
      rw [hr.classes_of_ne k hk]
      simp [Function.update_of_ne hk]
    · rw [hr.issuance]
      simp only [Store.setNextTokenId_classes, Store.setOwned_classes, Store.setToken_classes,
        Store.setClass_classes, Function.update_self, Option.map_some, hinfo, hissuanceVal, hone]
      congr 1
      omega
    · rw [hr.classInfo]
      simp [hinfo]
    · intro k i
      rw [hr.tokens]
      simp only [Store.setNextTokenId_nextTokenId, Store.setNextTokenId_tokens,
        Store.setOwned_tokens, Store.setToken_tokens, Function.update_self, hnextVal, hone]
      by_cases hki : (k, i) = (classId, t.nextTokenId classId)
      · obtain ⟨rfl, rfl⟩ := Prod.mk.inj hki
        rw [Function.update_self, if_neg (by omega), if_pos ⟨rfl, le_rfl, by omega⟩]
      · rw [Function.update_of_ne hki]
        refine if_congr ⟨fun ⟨hk, h₁, h₂⟩ => ⟨hk, by omega, by omega⟩,
          fun ⟨hk, h₁, h₂⟩ => ?_⟩ rfl rfl
        have hne : i.val ≠ (t.nextTokenId classId).val := fun he => hki (by rw [hk, Fin.ext he])
        exact ⟨hk, by omega, by omega⟩
    · intro a k i
      rw [hr.tokensByOwner]
      simp only [Store.setNextTokenId_nextTokenId, Store.setNextTokenId_tokensByOwner,
        Store.setOwned_tokensByOwner, Store.setToken_tokensByOwner, Store.setClass_tokensByOwner,
        Function.update_self, hnextVal, hone]
      by_cases hki : (a, (k, i)) = (owner, (classId, t.nextTokenId classId))
      · simp only [Prod.mk.injEq] at hki
        obtain ⟨rfl, rfl, rfl⟩ := hki
        rw [Function.update_self, if_neg (by omega), if_pos ⟨rfl, rfl, le_rfl, by omega⟩]
      · rw [Function.update_of_ne hki]
        refine if_congr ⟨fun ⟨ha, hk, h₁, h₂⟩ => ⟨ha, hk, by omega, by omega⟩,
          fun ⟨ha, hk, h₁, h₂⟩ => ?_⟩ rfl rfl
        have hne : i.val ≠ (t.nextTokenId classId).val := fun he =>
          hki (by rw [ha, hk, Fin.ext he])
        exact ⟨ha, hk, by omega, by omega⟩

theorem burn_ok {owner : AccountId} {token : ClassId × TokenId} {u : Unit}
    (h : (burn owner token : NftM AccountId ClassData TokenData Unit).run t = .ok u t') :
    ∃ info classInfo issuance, t.tokens token = some info ∧ info.owner = owner ∧
      t.classes token.1 = some classInfo ∧ classInfo.totalIssuance.checkedSub 1 = some issuance ∧
      t' = ((t.setClass token.1 (some { classInfo with totalIssuance := issuance })).setOwned
        owner token false).setToken token none := by
  simp only [burn, run_bind_eq_ok, run_get_eq_ok, run_okOr_eq_ok, run_ensure_eq_ok,
    decide_eq_true_eq] at h
  obtain ⟨_, _, ⟨rfl, rfl⟩, info, _, ⟨hinfo, rfl⟩, _, _, ⟨howner, rfl⟩, _, _, ⟨rfl, rfl⟩,
    classInfo, _, ⟨hclass, rfl⟩, h⟩ := h
  -- the issuance is decremented with `checked_sub`
  split at h
  · rename_i issuance hissuance
    simp only [run_bind_eq_ok, run_modify_eq_ok] at h
    obtain ⟨_, _, rfl, _, _, rfl, rfl⟩ := h
    exact ⟨info, classInfo, issuance, hinfo, howner, hclass, hissuance, rfl⟩
  · simp at h

theorem destroyClass_ok {owner : AccountId} {classId : ClassId} {u : Unit}
    (h : (destroyClass owner classId : NftM AccountId ClassData TokenData Unit).run t =
      .ok u t') :
    ∃ info, t.classes classId = some info ∧ info.owner = owner ∧ info.totalIssuance = 0 ∧
      t' = (t.setNextTokenId classId 0).setClass classId none := by
  simp only [destroyClass, run_bind_eq_ok, run_get_eq_ok, run_okOr_eq_ok, run_ensure_eq_ok,
    decide_eq_true_eq, run_modify_eq_ok] at h
  obtain ⟨_, _, ⟨rfl, rfl⟩, info, _, ⟨hinfo, rfl⟩, _, _, ⟨howner, rfl⟩, _, _, ⟨hzero, rfl⟩,
    _, _, rfl, rfl⟩ := h
  exact ⟨info, hinfo, howner, hzero, rfl⟩

end Nftmart.OrmlNft
