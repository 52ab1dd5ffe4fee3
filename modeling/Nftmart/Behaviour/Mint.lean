import Mathlib
import Nftmart.Spec.Currencies
import Nftmart.Spec.Step
import Nftmart.Invariant.Money

/-!
# Minting

`mint` reserves the deposit of all `quantity` tokens on the class account, then calls
`orml_nft::mint` `quantity` times. Each call takes the next token id, and fails when the id
counter would overflow; a failure part-way through the loop is undone with the rest of the call
by `#[transactional]`.

`mint_exact` says what a successful call leaves: the ids from `NextTokenId[class]` on hold the
new tokens (`OrmlNft.MintedRange`), and the class account's reserved balance grows by exactly the
tokens' deposit, on balances that `pallet_balances` keeps (`Balances.NoDust`) and when the total
deposit does not saturate. With the runtime's constants both always hold: the deposit never
saturates (`mintTokenDeposit_node_fits`), and no run from a genesis without dust ever leaves dust
(`reachable_noDust`), so every `mint` of the chain is exact (`mint_exact_node`).

## Main results

* `mint_exact` — a successful `mint`, in closed form; a failed one changes nothing.
* `mintTokenDeposit_node_fits` — the runtime's deposits make `mint_token_deposit` exact.
* `mint_exact_node` — with the runtime's constants, every `mint` of every run is exact.
-/

namespace Nftmart

open Effect

variable {AccountId : Type} [DecidableEq AccountId] (cfg : Config AccountId)
  {s : State AccountId}

/-- What a successful `mint` of `quantity` tokens with `metadata` into `classId` leaves in `s'`,
from `s`: the signer owns the class; with `n = NextTokenId[classId]` and `d` the deposit of one
token, the ids `n` to `n + quantity - 1` hold the new tokens, owned by `toAccount` with data
`{ deposit: d, create_block: now }`, and nothing else changed in the store but
`NextTokenId[classId]` and the issuance of the class, which grew by `quantity`; the counter did
not overflow, so `n + quantity ≤ TokenId::MAX`; and the class account's reserved balance grew by
`quantity * d`. -/
def MintedExactly (s s' : State AccountId) (origin : Origin AccountId) (toAccount : AccountId)
    (classId : ClassId) (metadata : Bytes) (quantity : UWord 32) : Prop :=
  ∃ classInfo, s.nft.classes classId = some classInfo ∧
    origin = .signed classInfo.owner ∧ 1 ≤ quantity.val ∧
    (s.nft.nextTokenId classId).val + quantity.val ≤ 2 ^ 64 - 1 ∧
    OrmlNft.MintedRange s.nft s'.nft toAccount classId metadata
      { deposit := (mintTokenDeposit cfg (UWord.sat metadata.length) quantity).1,
        createBlock := s.blockNumber } quantity.val ∧
    (s'.balances.account classInfo.owner).reserved.val =
      (s.balances.account classInfo.owner).reserved.val +
        quantity.val * (mintTokenDeposit cfg (UWord.sat metadata.length) quantity).1.val

/-- A successful `mint` on balances without dust, whose total deposit does not saturate, is
exact. -/
theorem mint_ok_exactly {origin : Origin AccountId} {toAccount : AccountId} {classId : ClassId}
    {metadata : Bytes} {quantity : UWord 32}
    (hdust : Balances.NoDust cfg.existentialDeposit s.balances)
    (hfit : (mintTokenDeposit cfg (UWord.sat metadata.length) quantity).1.val * quantity.val <
      2 ^ 128)
    {u : Unit} {s' : State AccountId}
    (h : (mint cfg origin toAccount classId metadata quantity).run s = .ok u s') :
    MintedExactly cfg s s' origin toAccount classId metadata quantity := by
  obtain ⟨who, classInfo, s₁, t, rfl, -, hquantity, hclass, rfl, h₁, ht, rfl⟩ := mint_ok cfg h
  -- the reserve writes only `pallet_balances`, and moves the total deposit
  obtain ⟨b, hb, rfl⟩ := run_zoom_eq_ok.1 h₁
  obtain ⟨-, hreserved, -, -⟩ := Balances.reserve_ok hb hdust
  have hrange : OrmlNft.MintedRange s.nft t toAccount classId metadata
      { deposit := (mintTokenDeposit cfg (UWord.sat metadata.length) quantity).1,
        createBlock := s.blockNumber } quantity.val :=
    OrmlNft.iterate_mint_range _ _ _ ht
  have hlt := (t.nextTokenId classId).isLt
  rw [hrange.nextTokenId] at hlt
  refine ⟨classInfo, hclass, rfl, hquantity, by omega, hrange, ?_⟩
  -- the total deposit is `d * q`, which does not saturate
  have htotal : (mintTokenDeposit cfg (UWord.sat metadata.length) quantity).2.val =
      quantity.val * (mintTokenDeposit cfg (UWord.sat metadata.length) quantity).1.val := by
    have hcast : (UWord.cast quantity : Balance).val = quantity.val :=
      UWord.val_cast_of_le quantity (by norm_num)
    have hle : (mintTokenDeposit cfg (UWord.sat metadata.length) quantity).1.val *
        quantity.val ≤ 2 ^ 128 - 1 := by omega
    simp only [mintTokenDeposit, UWord.val_saturatingMul] at hle ⊢
    rw [hcast, min_eq_left hle, Nat.mul_comm]
  rw [← htotal]
  exact hreserved

/-- A successful `mint` of `q` tokens with metadata `m` into class `k`, by its owner: with
`n = NextTokenId[k]` and `d` the deposit of one token, the ids `n` to `n + q - 1` hold the new
tokens, owned by `to` with data `{ deposit: d, create_block: now }`, and nothing else changed in
the store but `NextTokenId[k]` and the issuance of `k`, which grew by `q`; the counter did not
overflow, so `n + q ≤ TokenId::MAX`; and the class account's reserved balance grew by `q * d`. A
failed `mint` leaves the state as it was. -/
theorem mint_exact {origin : Origin AccountId} {toAccount : AccountId} {classId : ClassId}
    {metadata : Bytes} {quantity : UWord 32}
    (hdust : Balances.NoDust cfg.existentialDeposit s.balances)
    (hfit : (mintTokenDeposit cfg (UWord.sat metadata.length) quantity).1.val * quantity.val <
      2 ^ 128) :
    (∀ u s', (mint cfg origin toAccount classId metadata quantity).run s = .ok u s' →
      ∃ classInfo, s.nft.classes classId = some classInfo ∧
        origin = .signed classInfo.owner ∧ 1 ≤ quantity.val ∧
        (s.nft.nextTokenId classId).val + quantity.val ≤ 2 ^ 64 - 1 ∧
        OrmlNft.MintedRange s.nft s'.nft toAccount classId metadata
          { deposit := (mintTokenDeposit cfg (UWord.sat metadata.length) quantity).1,
            createBlock := s.blockNumber } quantity.val ∧
        (s'.balances.account classInfo.owner).reserved.val =
          (s.balances.account classInfo.owner).reserved.val +
            quantity.val * (mintTokenDeposit cfg (UWord.sat metadata.length) quantity).1.val) ∧
    (∀ e s', (mint cfg origin toAccount classId metadata quantity).run s = .error e s' →
      s' = s) :=
  ⟨fun _ _ h => mint_ok_exactly cfg hdust hfit h, fun _ _ h => (run_transactional_eq_error.1 h).2⟩

/-- The state `bidSetup` reaches: class `0` of the account `1000`, with the token `(0, 0)`. -/
def setupState : State ℕ :=
  runActions bidConfig bidGenesis bidSetup

/-- Two more tokens of class `0`, minted to `1` by the class account. -/
def twoMinted : State ℕ :=
  stateOf ((mint bidConfig (.signed 1000) 1 0 [] 2).run setupState)

/-- `setupState` with the id counter of class `0` at `TokenId::MAX - 1`: one more token fits,
two do not. -/
def nearMaxState : State ℕ :=
  { setupState with
    nft := { setupState.nft with nextTokenId := fun _ => UWord.ofNat (2 ^ 64 - 2) } }

/-- The genesis of the marketplace run endows accounts with `10^15` or nothing. -/
theorem bidGenesis_noDust : Balances.NoDust bidConfig.existentialDeposit bidGenesis.balances :=
  genesis_noDust bidConfig (fun who => by
    split_ifs
    · exact .inr (by decide)
    · exact .inl rfl) _ _

theorem setupState_reachable :
    Reachable bidConfig (fun s => Balances.NoDust bidConfig.existentialDeposit s.balances)
      setupState :=
  Machine.reachable_of_init (by exact bidGenesis_noDust) bidSetup

/-- After `bidSetup` the class account mints two tokens, at the ids `1` and `2`. With the
counter at `TokenId::MAX - 1` one token still fits, but a mint of two takes the last id and then
fails in the loop, and the call leaves the state as it was. -/
theorem mint_exact_bidSetup :
    Balances.NoDust bidConfig.existentialDeposit setupState.balances ∧
    (mintTokenDeposit bidConfig (UWord.sat ([] : Bytes).length) 2).1.val * (2 : UWord 32).val <
      2 ^ 128 ∧
    (mint bidConfig (.signed 1000) 1 0 [] 2).run setupState = .ok () twoMinted ∧
    MintedExactly bidConfig setupState twoMinted (.signed 1000) 1 0 [] 2 ∧
    (∃ s', (mint bidConfig (.signed 1000) 1 0 [] 1).run nearMaxState = .ok () s') ∧
    (mint bidConfig (.signed 1000) 1 0 [] 2).run nearMaxState =
      .error (.ormlNft .noAvailableTokenId) nearMaxState := by
  have hdust : Balances.NoDust bidConfig.existentialDeposit setupState.balances :=
    reachable_noDust bidConfig setupState_reachable
  have hfit : (mintTokenDeposit bidConfig (UWord.sat ([] : Bytes).length) 2).1.val *
      (2 : UWord 32).val < 2 ^ 128 := by decide
  have hrun : (mint bidConfig (.signed 1000) 1 0 [] 2).run setupState = .ok () twoMinted :=
    eq_ok_of_errorOf (by decide +kernel)
  have hfail := eq_error_of_errorOf (e := DispatchError.ormlNft .noAvailableTokenId)
    (r := (mint bidConfig (.signed 1000) 1 0 [] 2).run nearMaxState) (by decide +kernel)
  have hkept := (mint_exact bidConfig (s := nearMaxState) hdust hfit).2 _ _ hfail
  refine ⟨hdust, hfit, hrun, (mint_exact bidConfig hdust hfit).1 () twoMinted hrun,
    ⟨_, eq_ok_of_errorOf (by decide +kernel)⟩, ?_⟩
  rw [hfail, hkept]

omit [DecidableEq AccountId] in
/-- With the runtime's constants the deposit of a token is at most `10^12 + (2^32 - 1) * 10^10`,
well below `2^67`, and `quantity < 2^32`: the total deposit never saturates. -/
theorem mintTokenDeposit_node_fits (intoSubAccount : ClassId → AccountId)
    (metadataLen quantity : UWord 32) :
    (mintTokenDeposit (Config.node intoSubAccount) metadataLen quantity).1.val * quantity.val <
      2 ^ 128 := by
  have hlen := metadataLen.isLt
  have hq := quantity.isLt
  have hcast : (UWord.cast metadataLen : Balance).val = metadataLen.val :=
    UWord.val_cast_of_le metadataLen (by norm_num)
  have hdeposit : (mintTokenDeposit (Config.node intoSubAccount) metadataLen quantity).1.val ≤
      10 ^ 12 + metadataLen.val * (10 * 10 ^ 9) := by
    simp only [mintTokenDeposit, Config.node, UWord.val_saturatingAdd, UWord.val_saturatingMul,
      hcast]
    omega
  calc (mintTokenDeposit (Config.node intoSubAccount) metadataLen quantity).1.val * quantity.val
      ≤ (10 ^ 12 + metadataLen.val * (10 * 10 ^ 9)) * quantity.val :=
        Nat.mul_le_mul_right _ hdeposit
    _ < 2 ^ 128 := by nlinarith


/-- With the runtime's constants, from every genesis without dust: in every reachable state a
successful `mint` is exact, and a failed one changes nothing. -/
theorem mint_exact_node {intoSubAccount : ClassId → AccountId}
    (hs : Reachable (Config.node intoSubAccount)
      (fun s => Balances.NoDust (Config.node intoSubAccount).existentialDeposit s.balances) s)
    (origin : Origin AccountId) (toAccount : AccountId) (classId : ClassId) (metadata : Bytes)
    (quantity : UWord 32) :
    (∀ u s', (mint (Config.node intoSubAccount) origin toAccount classId metadata quantity).run s =
        .ok u s' →
      MintedExactly (Config.node intoSubAccount) s s' origin toAccount classId metadata
        quantity) ∧
    (∀ e s', (mint (Config.node intoSubAccount) origin toAccount classId metadata quantity).run s =
        .error e s' → s' = s) :=
  -- no dust along the run, and a deposit that never saturates
  ⟨fun _ _ h => mint_ok_exactly _ (reachable_noDust _ hs) (mintTokenDeposit_node_fits _ _ _) h,
    fun _ _ h => (run_transactional_eq_error.1 h).2⟩

/-- Three tokens with two bytes of metadata, minted to `1` after `bidSetup`. -/
def threeMinted : State ℕ :=
  stateOf ((mint bidConfig (.signed 1000) 1 0 [7, 7] 3).run setupState)

theorem mint_exact_node_bidSetup :
    Reachable bidConfig (fun s => Balances.NoDust bidConfig.existentialDeposit s.balances)
        setupState ∧
      MintedExactly bidConfig setupState threeMinted (.signed 1000) 1 0 [7, 7] 3 :=
  have hrun : (mint bidConfig (.signed 1000) 1 0 [7, 7] 3).run setupState = .ok () threeMinted :=
    eq_ok_of_errorOf (by decide +kernel)
  ⟨setupState_reachable, (mint_exact_node setupState_reachable _ _ _ _ _).1 () _ hrun⟩

end Nftmart
