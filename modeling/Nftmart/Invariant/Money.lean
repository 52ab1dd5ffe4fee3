import Mathlib
import Nftmart.Lib.Effect
import Nftmart.Lib.Machine
import Nftmart.Spec.Money
import Nftmart.Spec.Pallet
import Nftmart.Spec.Step

/-!
# The marketplace neither mints nor burns tokens

Every call of the NFT pallet moves money only through `reserve`, `unreserve` and `transfer` of
the two back-ends (`Nftmart.Spec.Money`), and through `pallet_proxy`, which reserves and releases
with `pallet_balances`. So a relation between states that holds across every write outside the
back-ends, and that each of these six operations keeps, is kept by every call (`MoneyRel`). The
lemmas of the calls are proved once, for every such relation, from the inversion lemmas of
`Nftmart.Spec.Pallet`; a failed call leaves the state as it was. Runs follow by
`Machine.rel_run`.

Two relations are instances.

* `MoneyKept s s'`: no call creates money, and no call destroys an `orml_tokens` currency: an
  order's escrow, a deposit, a price paid, all stay in some account. The native currency can
  shrink, by the dust `pallet_balances` destroys when an account falls below the existential
  deposit, which `take_order` can cause since it pays with `AllowDeath`.
* That `pallet_balances` holds no dust (`Balances.NoDust`) is preserved: every record it writes
  goes through `post_mutation`.

## Main results

* `MoneyRel.dispatch`, `MoneyRel.runActions` — every call, successful or not, and every run.
* `runActions_conserves` — along every run from every state: the native supply never grows,
  and the supply of each `orml_tokens` currency stays what it was, as long as it fits in a
  `u128`, as the currency's `TotalIssuance` does.
* `reachable_noDust` — from a genesis without dust, no account ever holds dust.
-/

namespace Nftmart

open Effect

variable {AccountId : Type}

/-! ## Relations the money operations keep -/

/-- A relation between states that every call keeps: it holds across a write that leaves both
back-ends alone, and every run of a back-end operation the pallet calls, with the runtime's
existential deposit, keeps it. -/
structure MoneyRel [DecidableEq AccountId] (cfg : Config AccountId)
    (R : State AccountId → State AccountId → Prop) : Prop where
  of_eq : ∀ {s s' : State AccountId}, s'.balances = s.balances → s'.tokens = s.tokens → R s s'
  balancesReserve : ∀ who value,
    Keeps R (liftBalances (Balances.reserve cfg.existentialDeposit who value))
  balancesUnreserve : ∀ who value,
    Keeps R (liftBalances (Balances.unreserve cfg.existentialDeposit who value))
  balancesTransfer : ∀ src dst value req,
    Keeps R (liftBalances (Balances.transfer cfg.existentialDeposit src dst value req))
  tokensReserve : ∀ currencyId who value, Keeps R (liftTokens (Tokens.reserve currencyId who value))
  tokensUnreserve : ∀ currencyId who value,
    Keeps R (liftTokens (Tokens.unreserve currencyId who value))
  tokensTransfer : ∀ currencyId src dst amount,
    Keeps R (liftTokens (Tokens.transfer currencyId src dst amount))

namespace MoneyRel

variable [DecidableEq AccountId] {cfg : Config AccountId}
  {R : State AccountId → State AccountId → Prop} [Std.Refl R] [IsTrans (State AccountId) R]
  (hR : MoneyRel cfg R)

include hR

/-! ### The calls into the back-ends -/

omit [IsTrans (State AccountId) R] in
theorem currencyTransfer (currencyId : CurrencyId) (src dst : AccountId) (amount : Balance) :
    Keeps R (MultiCurrency.transfer cfg currencyId src dst amount) := by
  unfold MultiCurrency.transfer
  -- the early `return` for a zero amount or a transfer to oneself, then the two back-ends
  exact Keeps.ite (Keeps.pure _)
    (Keeps.ite (hR.balancesTransfer _ _ _ _) (hR.tokensTransfer _ _ _ _))

omit [Std.Refl R] [IsTrans (State AccountId) R] in
theorem currencyReserve (currencyId : CurrencyId) (who : AccountId) (value : Balance) :
    Keeps R (MultiCurrency.reserve cfg currencyId who value) :=
  Keeps.ite (hR.balancesReserve _ _) (hR.tokensReserve _ _ _)

omit [Std.Refl R] [IsTrans (State AccountId) R] in
theorem currencyUnreserve (currencyId : CurrencyId) (who : AccountId) (value : Balance) :
    Keeps R (MultiCurrency.unreserve cfg currencyId who value) :=
  Keeps.ite (hR.balancesUnreserve _ _) (hR.tokensUnreserve _ _ _)

theorem addProxyDelegate (delegator delegatee : AccountId) (proxyType : ProxyType)
    (delay : BlockNumber) :
    Keeps R (Proxy.addProxyDelegate cfg delegator delegatee proxyType delay) := by
  unfold Proxy.addProxyDelegate
  refine Keeps.bind (Keeps.ensure _ _) fun _ => Keeps.bind Keeps.get fun st => ?_
  obtain ⟨proxies, oldDeposit⟩ := st.proxies delegator
  refine Keeps.bind (Keeps.ensure _ _) fun _ => Keeps.bind (Keeps.ensure _ _) fun _ => ?_
  dsimp only
  -- the deposit is topped up or released in `pallet_balances`; `Proxies` holds no money
  refine Keeps.ite (Keeps.bind (hR.balancesReserve _ _) fun _ => ?_)
    (Keeps.ite (Keeps.bind (Keeps.attempt (hR.balancesUnreserve _ _)) fun _ => ?_) ?_) <;>
  exact Keeps.modify fun _ => hR.of_eq rfl rfl

/-! ### The pallet's helpers -/

variable {s s' : State AccountId}

theorem deleteOrder (classId : ClassId) (tokenId : TokenId) (who tokenOwner : AccountId) :
    Keeps R (Nftmart.deleteOrder cfg classId tokenId who tokenOwner) := by
  intro s
  cases h : (Nftmart.deleteOrder cfg classId tokenId who tokenOwner).run s with
  | error e s' =>
    rw [stateOf_error, (deleteOrder_error cfg h).2.2]
    exact refl_of R s
  | ok u s' =>
    rw [stateOf_ok]
    obtain ⟨order, -, r₁, s₁, h₁, s₂, h₂, rfl⟩ := deleteOrder_ok cfg h
    have hk₁ : R s s₁ := (hR.balancesUnreserve _ _).of_ok h₁
    -- the price is released only for an account other than `tokenOwner`
    have hk₂ : R s₁ s₂ := by
      split at h₂
      · obtain ⟨r₂, h₂⟩ := h₂
        exact (hR.currencyUnreserve _ _ _).of_ok h₂
      · exact h₂ ▸ refl_of R s₁
    refine trans_of R (trans_of R hk₁ hk₂) (hR.of_eq ?_ ?_) <;> rfl

omit [Std.Refl R] [IsTrans (State AccountId) R] in
theorem doTransfer {src dst : AccountId} {classId : ClassId} {tokenId : TokenId} {u : Unit}
    (h : (Nftmart.doTransfer src dst classId tokenId).run s = .ok u s') : R s s' := by
  obtain ⟨-, -, t, -, -, -, -, -, -, rfl⟩ := doTransfer_ok h
  exact hR.of_eq rfl rfl

/-! ### The calls -/

theorem takeOrder {origin : Origin AccountId} {classId : ClassId} {tokenId : TokenId}
    {price : Balance} {orderOwner : AccountId} {u : Unit}
    (h : (Nftmart.takeOrder cfg origin classId tokenId price orderOwner).run s = .ok u s') :
    R s s' := by
  obtain ⟨who, order, token, buyer, -, -, -, -, -, -, s₁, s₃, h₁, h₃, h₄⟩ := takeOrder_ok cfg h
  -- both orders are deleted, the token moves, and the price is paid
  have hk₁ : R s s₁ := (hR.deleteOrder _ _ _ _).of_ok h₁
  have hk₂ := hR.deleteOrder classId tokenId who token.owner s₁
  have hk₃ := hR.doTransfer h₃
  have hk₄ := (hR.currencyTransfer _ _ _ _).of_ok h₄
  exact trans_of R (trans_of R (trans_of R hk₁ hk₂) hk₃) hk₄

theorem submitOrder {origin : Origin AccountId} {currencyId : CurrencyId}
    {price : Balance} {categoryId : CategoryId} {classId : ClassId} {tokenId : TokenId}
    {deposit : Balance} {deadline : BlockNumber} {u : Unit}
    (h : (Nftmart.submitOrder cfg origin currencyId price categoryId classId tokenId deposit
      deadline).run s = .ok u s') :
    R s s' := by
  obtain ⟨who, token, category, -, -, -, -, -, -, s₁, s₂, h₁, h₂, rfl⟩ := submitOrder_ok cfg h
  have hk₁ := (hR.balancesReserve _ _).of_ok h₁
  -- the price is reserved only by an account that does not own the token
  have hk₂ : R s₁ s₂ := by
    split at h₂
    · exact (hR.currencyReserve _ _ _).of_ok h₂.2
    · exact h₂ ▸ refl_of R s₁
  refine trans_of R (trans_of R (trans_of R (hR.of_eq ?_ ?_) hk₁) hk₂) (hR.of_eq ?_ ?_) <;> rfl

theorem removeOrder {origin : Origin AccountId} {classId : ClassId} {tokenId : TokenId}
    {u : Unit} (h : (Nftmart.removeOrder cfg origin classId tokenId).run s = .ok u s') :
    R s s' := by
  obtain ⟨who, token, -, -, h₁⟩ := removeOrder_ok cfg h
  exact (hR.deleteOrder _ _ _ _).of_ok h₁

theorem updateOrderPrice {origin : Origin AccountId} {classId : ClassId}
    {tokenId : TokenId} {price : Balance} {u : Unit}
    (h : (Nftmart.updateOrderPrice cfg origin classId tokenId price).run s = .ok u s') :
    R s s' := by
  obtain ⟨who, order, s₁, -, -, h₁, rfl⟩ := updateOrderPrice_ok cfg h
  -- the old escrow is released and the new one taken, only for an account that is not the owner
  have hk₁ : R s s₁ := by
    split at h₁
    · obtain ⟨r, s₀, h₀, h₁⟩ := h₁
      exact trans_of R ((hR.currencyUnreserve _ _ _).of_ok h₀)
        ((hR.currencyReserve _ _ _).of_ok h₁)
    · exact h₁ ▸ refl_of R s
  refine trans_of R hk₁ (hR.of_eq ?_ ?_) <;> rfl

theorem createClass {origin : Origin AccountId} {metadata name description : Bytes}
    {properties : Properties} {u : Unit}
    (h : (Nftmart.createClass cfg origin metadata name description properties).run s =
      .ok u s') :
    R s s' := by
  obtain ⟨who, s₁, s₂, s₃, classId, t, -, -, -, -, h₁, h₂, h₃, -, rfl⟩ := createClass_ok cfg h
  -- the deposits go to the class account, which reserves the class deposit and a proxy deposit
  have hk₁ := (hR.balancesTransfer _ _ _ _).of_ok h₁
  have hk₂ := (hR.balancesReserve _ _).of_ok h₂
  have hk₃ := (hR.addProxyDelegate _ _ _ _).of_ok h₃
  refine trans_of R (trans_of R (trans_of R hk₁ hk₂) hk₃) (hR.of_eq ?_ ?_) <;> rfl

omit [Std.Refl R] in
theorem mint {origin : Origin AccountId} {toAccount : AccountId} {classId : ClassId}
    {metadata : Bytes} {quantity : UWord 32} {u : Unit}
    (h : (Nftmart.mint cfg origin toAccount classId metadata quantity).run s = .ok u s') :
    R s s' := by
  obtain ⟨who, classInfo, s₁, t, -, -, -, -, -, h₁, -, rfl⟩ := mint_ok cfg h
  refine trans_of R ((hR.balancesReserve _ _).of_ok h₁) (hR.of_eq ?_ ?_) <;> rfl

omit [Std.Refl R] in
theorem burn {origin : Origin AccountId} {classId : ClassId} {tokenId : TokenId}
    {u : Unit} (h : (Nftmart.burn cfg origin classId tokenId).run s = .ok u s') : R s s' := by
  obtain ⟨who, classInfo, tokenInfo, t, r, s₂, -, -, -, -, -, -, -, h₂, h₃⟩ := burn_ok cfg h
  -- the token's deposit is released by the class account and paid back to the burner
  have hk₂ := (hR.balancesUnreserve _ _).of_ok h₂
  have hk₃ := (hR.balancesTransfer _ _ _ _).of_ok h₃
  refine trans_of R (trans_of R (hR.of_eq ?_ ?_) hk₂) hk₃ <;> rfl

omit [Std.Refl R] in
theorem destroyClass {origin : Origin AccountId} {classId : ClassId} {dest : AccountId}
    {u : Unit} (h : (Nftmart.destroyClass cfg origin classId dest).run s = .ok u s') :
    R s s' := by
  obtain ⟨who, classInfo, r, s₁, s₂, t, -, -, -, -, h₁, h₂, -, rfl⟩ := destroyClass_ok cfg h
  have hk₁ := (hR.balancesUnreserve _ _).of_ok h₁
  have hk₂ := (hR.balancesTransfer _ _ _ _).of_ok h₂
  refine trans_of R (trans_of R hk₁ hk₂) (hR.of_eq ?_ ?_) <;> rfl

/-- Every call, successful or not, keeps `R`. -/
theorem dispatch (origin : Origin AccountId) (call : Call AccountId) (s : State AccountId) :
    R s (stateOf ((Nftmart.dispatch cfg origin call).run s)) := by
  cases h : (Nftmart.dispatch cfg origin call).run s with
  | error e s' =>
    rw [stateOf_error, dispatch_error cfg h]
    exact refl_of R s
  | ok u s' =>
    rw [stateOf_ok]
    cases call with
    | takeOrder => exact hR.takeOrder h
    | submitOrder => exact hR.submitOrder h
    | removeOrder => exact hR.removeOrder h
    | updateOrderPrice => exact hR.updateOrderPrice h
    | createCategory =>
      obtain ⟨-, _, -, rfl⟩ := createCategory_ok h
      exact hR.of_eq rfl rfl
    | updateCategory categoryId =>
      obtain ⟨-, rfl⟩ := updateCategory_ok h
      split <;> exact hR.of_eq rfl rfl
    | updateMinOrderDeposit =>
      obtain ⟨-, rfl⟩ := updateMinOrderDeposit_ok h
      exact hR.of_eq rfl rfl
    | createClass => exact hR.createClass h
    | mint => exact hR.mint h
    | transfer =>
      obtain ⟨who, -, h₁⟩ := transfer_ok h
      exact hR.doTransfer h₁
    | burn => exact hR.burn h
    | destroyClass => exact hR.destroyClass h
    | addWhitelist =>
      obtain ⟨-, rfl⟩ := addWhitelist_ok h
      exact hR.of_eq rfl rfl
    | removeWhitelist =>
      obtain ⟨-, rfl⟩ := removeWhitelist_ok h
      exact hR.of_eq rfl rfl

theorem step (s : State AccountId) (a : Action AccountId) : R s (Nftmart.step cfg s a) := by
  cases a with
  | dispatch origin call => exact hR.dispatch origin call s
  | newBlock => exact hR.of_eq rfl rfl

/-- Every run keeps `R`. -/
theorem runActions (s : State AccountId) (actions : List (Action AccountId)) :
    R s (Nftmart.runActions cfg s actions) :=
  Machine.rel_run hR.step actions s

end MoneyRel

/-! ## Money is conserved -/

section Conservation

variable [Fintype AccountId]

/-- `s'` holds no more native currency than `s`, and as much of each `orml_tokens` currency
whose supply in `s` fits in a `u128`. -/
structure MoneyKept (s s' : State AccountId) : Prop where
  native : Balances.SupplyLe s.balances s'.balances
  tokens : Tokens.SupplyKept s.tokens s'.tokens

namespace MoneyKept

theorem rfl' (s : State AccountId) : MoneyKept s s :=
  ⟨refl_of Balances.SupplyLe _, refl_of Tokens.SupplyKept _⟩

theorem trans {s₁ s₂ s₃ : State AccountId} (h₁ : MoneyKept s₁ s₂) (h₂ : MoneyKept s₂ s₃) :
    MoneyKept s₁ s₃ :=
  ⟨trans_of Balances.SupplyLe h₁.native h₂.native, trans_of Tokens.SupplyKept h₁.tokens h₂.tokens⟩

instance : Std.Refl (@MoneyKept AccountId _) := ⟨rfl'⟩

instance : IsTrans (State AccountId) MoneyKept := ⟨fun _ _ _ => trans⟩

/-- A write that touches neither back-end keeps the money. -/
theorem of_eq {s s' : State AccountId} (hb : s'.balances = s.balances) (ht : s'.tokens = s.tokens) :
    MoneyKept s s' :=
  ⟨by rw [Balances.SupplyLe, hb], fun _ _ => by rw [ht]⟩

end MoneyKept

theorem liftBalances_moneyKept {α : Type} {m : Balances.BalancesM AccountId α}
    (hm : Keeps Balances.SupplyLe m) : Keeps MoneyKept (liftBalances m) :=
  Keeps.zoom_of hm fun _ _ h => ⟨h, refl_of Tokens.SupplyKept _⟩

theorem liftTokens_moneyKept {α : Type} {m : Tokens.TokensM AccountId α}
    (hm : Keeps Tokens.SupplyKept m) : Keeps MoneyKept (liftTokens m) :=
  Keeps.zoom_of hm fun _ _ h => ⟨refl_of Balances.SupplyLe _, h⟩

variable [DecidableEq AccountId] (cfg : Config AccountId)

/-- The back-end operations keep the money, so every call does. -/
theorem moneyRel_moneyKept : MoneyRel cfg MoneyKept where
  of_eq := MoneyKept.of_eq
  balancesReserve _ _ := liftBalances_moneyKept (Balances.reserve_supply _ _ _)
  balancesUnreserve _ _ := liftBalances_moneyKept (Balances.unreserve_supply _ _ _)
  balancesTransfer _ _ _ _ := liftBalances_moneyKept (Balances.transfer_supply _ _ _ _ _)
  tokensReserve _ _ _ := liftTokens_moneyKept (Tokens.reserve_supply _ _ _)
  tokensUnreserve _ _ _ := liftTokens_moneyKept (Tokens.unreserve_supply _ _ _)
  tokensTransfer _ _ _ _ := liftTokens_moneyKept (Tokens.transfer_supply _ _ _ _)

/-- Along every run, from every state, the marketplace creates no native currency, and neither
creates nor destroys any currency of `orml_tokens` whose supply fits in a `u128`. -/
theorem runActions_conserves (s : State AccountId) (actions : List (Action AccountId)) :
    (runActions cfg s actions).balances.supply ≤ s.balances.supply ∧
      ∀ currencyId, s.tokens.supply currencyId < 2 ^ 128 →
        (runActions cfg s actions).tokens.supply currencyId = s.tokens.supply currencyId := by
  have hkept : MoneyKept s (runActions cfg s actions) :=
    (moneyRel_moneyKept cfg).runActions s actions
  exact ⟨hkept.native, hkept.tokens⟩

/-- Two accounts, each endowed with `10^15` native units and `10^12` of every other currency. -/
def moneyGenesis : State (Fin 2) :=
  genesis (fun _ => UWord.ofNat (10 ^ 15)) (fun _ => UWord.ofNat (10 ^ 12)) (UWord.ofNat (10 ^ 12))

/-- The runtime's constants, with the account `1` for every class. -/
def tradeConfig : Config (Fin 2) := Config.node fun _ => 1

/-- Account `0` creates a class, whose account is `1`, which mints it the token `(0, 0)`; the
class account bids `20` of currency `1` on it, and `0` takes the bid. -/
def tradeRun : List (Action (Fin 2)) :=
  [.dispatch .root (.addWhitelist 0), .dispatch .root (.createCategory []),
   .dispatch (.signed 0) (.createClass [] [] [] ⟨1⟩), .dispatch (.signed 1) (.mint 0 0 [] 1),
   .dispatch (.signed 1) (.submitOrder 1 (UWord.ofNat 20) 0 0 0 (UWord.ofNat (10 ^ 12)) 100),
   .dispatch (.signed 0) (.takeOrder 0 0 (UWord.ofNat 20) 1)]

theorem runActions_conserves_moneyGenesis :
    moneyGenesis.tokens.supply 1 < 2 ^ 128 ∧
    ((runActions tradeConfig moneyGenesis tradeRun).tokens.accounts (0, 1)).free.val =
      10 ^ 12 + 20 ∧
    ((runActions tradeConfig moneyGenesis tradeRun).tokens.accounts (1, 1)).free.val =
      10 ^ 12 - 20 ∧
    (runActions tradeConfig moneyGenesis tradeRun).tokens.supply 1 =
      moneyGenesis.tokens.supply 1 := by
  have hbound : moneyGenesis.tokens.supply 1 < 2 ^ 128 := by decide
  refine ⟨hbound, by decide, by decide, ?_⟩
  exact (runActions_conserves tradeConfig moneyGenesis tradeRun).2 1 hbound

end Conservation

/-! ## No dust -/

section NoDust

variable [DecidableEq AccountId] (cfg : Config AccountId)

/-- `pallet_balances` writes every record through `post_mutation`, so no call leaves dust. -/
theorem moneyRel_noDust :
    MoneyRel cfg
      (Preserves fun s : State AccountId => Balances.NoDust cfg.existentialDeposit s.balances) where
  of_eq hb _ h := by
    dsimp only at h ⊢
    rw [hb]
    exact h
  balancesReserve _ _ := Keeps.zoom_of (Balances.reserve_noDust _ _) fun _ _ h => h
  balancesUnreserve _ _ := Keeps.zoom_of (Balances.unreserve_noDust _ _) fun _ _ h => h
  balancesTransfer _ _ _ _ := Keeps.zoom_of (Balances.transfer_noDust _ _ _ _) fun _ _ h => h
  tokensReserve _ _ _ := Keeps.zoom (fun _ _ h => h) _
  tokensUnreserve _ _ _ := Keeps.zoom (fun _ _ h => h) _
  tokensTransfer _ _ _ _ := Keeps.zoom (fun _ _ h => h) _

/-- From a genesis without dust, no account of `pallet_balances` ever holds dust. -/
theorem reachable_noDust {s : State AccountId}
    (hs : Reachable cfg (fun s => Balances.NoDust cfg.existentialDeposit s.balances) s) :
    Balances.NoDust cfg.existentialDeposit s.balances :=
  Machine.Reachable.induction (fun _ h => h) (fun s a h => (moneyRel_noDust cfg).step s a h) hs

omit [DecidableEq AccountId] in
/-- A genesis that endows every account with nothing or with at least the existential deposit
has no dust. -/
theorem genesis_noDust {balances : AccountId → Balance}
    (h : ∀ who, balances who = 0 ∨ cfg.existentialDeposit ≤ balances who)
    (tokens : AccountId × CurrencyId → Balance) (minOrderDeposit : Balance) :
    Balances.NoDust cfg.existentialDeposit (genesis balances tokens minOrderDeposit).balances := by
  intro who
  -- nothing is reserved at genesis, so the total is the endowment
  have htotal : (((genesis balances tokens minOrderDeposit).balances.account who).total) =
      balances who := by
    ext
    have hlt := (balances who).isLt
    simp [genesis]
    omega
  rw [htotal]
  exact h who

end NoDust

end Nftmart
