import Mathlib
import Nftmart.Lib.Effect
import Nftmart.Lib.Machine
import Nftmart.Model.Pallet

/-!
# The runtime as a state machine

Every dispatchable of `nftmart_nft`, and the two root calls of `nftmart_config` that manage
the whitelist, as one `Call` type. An action of the system is a call with its origin, or the
start of a new block. `step` runs an action: a call that fails leaves the state its
`#[transactional]` body restores, which is the state before the call.

The initial states are given by what they must not contain, and the invariants are proved from
every genesis of that kind: an empty `orml_nft` store (`NftGenesis`), no orders
(`OrderGenesis`), no categories (`CategoryGenesis`). Balances, the whitelist, proxies, the
counters and the minimum order deposit are arbitrary.

The last section fixes one run of the marketplace with the runtime's constants (`staleBid`): a
class, a token, a bid on it, a transfer to the bidder and a `take_order`. The theorems about
particular states are stated at its prefixes.
-/

namespace Nftmart

open Effect

/-- The dispatchable calls of `nftmart_nft` and `nftmart_config`. -/
inductive Call (AccountId : Type)
  | takeOrder (classId : ClassId) (tokenId : TokenId) (price : Balance) (orderOwner : AccountId)
  | submitOrder (currencyId : CurrencyId) (price : Balance) (categoryId : CategoryId)
      (classId : ClassId) (tokenId : TokenId) (deposit : Balance) (deadline : BlockNumber)
  | removeOrder (classId : ClassId) (tokenId : TokenId)
  | updateOrderPrice (classId : ClassId) (tokenId : TokenId) (price : Balance)
  | createCategory (metadata : Bytes)
  | updateCategory (categoryId : CategoryId) (metadata : Bytes)
  | updateMinOrderDeposit (newDeposit : Balance)
  | createClass (metadata name description : Bytes) (properties : Properties)
  | mint (toAccount : AccountId) (classId : ClassId) (metadata : Bytes) (quantity : UWord 32)
  | transfer (toAccount : AccountId) (classId : ClassId) (tokenId : TokenId)
  | burn (classId : ClassId) (tokenId : TokenId)
  | destroyClass (classId : ClassId) (dest : AccountId)
  | addWhitelist (who : AccountId)
  | removeWhitelist (who : AccountId)

/-- An action of the system: a call dispatched with an origin, or a new block. -/
inductive Action (AccountId : Type)
  | dispatch (origin : Origin AccountId) (call : Call AccountId)
  | newBlock

variable {AccountId : Type} [DecidableEq AccountId] (cfg : Config AccountId)

/-- Dispatch a call with its origin. -/
def dispatch (origin : Origin AccountId) : Call AccountId → RuntimeM AccountId Unit
  | .takeOrder classId tokenId price orderOwner =>
      takeOrder cfg origin classId tokenId price orderOwner
  | .submitOrder currencyId price categoryId classId tokenId deposit deadline =>
      submitOrder cfg origin currencyId price categoryId classId tokenId deposit deadline
  | .removeOrder classId tokenId => removeOrder cfg origin classId tokenId
  | .updateOrderPrice classId tokenId price => updateOrderPrice cfg origin classId tokenId price
  | .createCategory metadata => createCategory origin metadata
  | .updateCategory categoryId metadata => updateCategory origin categoryId metadata
  | .updateMinOrderDeposit newDeposit => updateMinOrderDeposit origin newDeposit
  | .createClass metadata name description properties =>
      createClass cfg origin metadata name description properties
  | .mint toAccount classId metadata quantity => mint cfg origin toAccount classId metadata quantity
  | .transfer toAccount classId tokenId => transfer origin toAccount classId tokenId
  | .burn classId tokenId => burn cfg origin classId tokenId
  | .destroyClass classId dest => destroyClass cfg origin classId dest
  | .addWhitelist who => Whitelist.addWhitelist origin who
  | .removeWhitelist who => Whitelist.removeWhitelist origin who

/-- One step of the system. -/
def step (s : State AccountId) : Action AccountId → State AccountId
  | .dispatch origin call => stateOf ((dispatch cfg origin call).run s)
  | .newBlock => { s with blockNumber := s.blockNumber + 1 }

/-- The state after a sequence of actions. -/
def runActions (s : State AccountId) (actions : List (Action AccountId)) : State AccountId :=
  Machine.run (step cfg) s actions

/-! ## Initial states -/

/-- The `orml_nft` store is empty: no class, no token, nothing in the owner index. -/
structure NftGenesis (s : State AccountId) : Prop where
  classes : ∀ classId, s.nft.classes classId = none
  tokens : ∀ token, s.nft.tokens token = none
  tokensByOwner : ∀ key, s.nft.tokensByOwner key = false

/-- There is no order. -/
def OrderGenesis (s : State AccountId) : Prop :=
  ∀ key, s.pallet.orders key = none

/-- There is no category and no order. -/
structure CategoryGenesis (s : State AccountId) : Prop where
  categories : ∀ categoryId, s.pallet.categories categoryId = none
  orders : ∀ key, s.pallet.orders key = none

/-- The state the runtime's genesis configuration builds: the endowed free balances of
`pallet_balances` and `orml_tokens`, nothing reserved, no proxy, an empty whitelist (the genesis
build of `nftmart_config` writes nothing) and an empty `orml_nft` store; the genesis build of
`nftmart_nft` stores the current `StorageVersion` and `MinOrderDeposit`. The chain starts at
block `0`. -/
def genesis (balances : AccountId → Balance) (tokens : AccountId × CurrencyId → Balance)
    (minOrderDeposit : Balance) : State AccountId where
  blockNumber := 0
  balances :=
    { account := fun a => { free := balances a, reserved := 0, frozen := 0 },
      consumers := fun _ => 0 }
  tokens := { accounts := fun key => { free := tokens key, reserved := 0, frozen := 0 } }
  proxies := fun _ => ([], 0)
  accountWhitelist := fun _ => false
  nft :=
    { nextClassId := 0, nextTokenId := fun _ => 0, classes := fun _ => none,
      tokens := fun _ => none, tokensByOwner := fun _ => false }
  pallet :=
    { storageVersion := default, nextCategoryId := 0, categories := fun _ => none,
      orders := fun _ => none, minOrderDeposit }

omit [DecidableEq AccountId] in
theorem genesis_nftGenesis (balances : AccountId → Balance)
    (tokens : AccountId × CurrencyId → Balance) (minOrderDeposit : Balance) :
    NftGenesis (genesis balances tokens minOrderDeposit) :=
  ⟨fun _ => rfl, fun _ => rfl, fun _ => rfl⟩

omit [DecidableEq AccountId] in
theorem genesis_categoryGenesis (balances : AccountId → Balance)
    (tokens : AccountId × CurrencyId → Balance) (minOrderDeposit : Balance) :
    CategoryGenesis (genesis balances tokens minOrderDeposit) :=
  ⟨fun _ => rfl, fun _ => rfl⟩

/-- The states the system reaches from the initial states `init`. -/
abbrev Reachable (init : State AccountId → Prop) : State AccountId → Prop :=
  Machine.Reachable init (step cfg)

/-! ## A run of the marketplace -/

/-- The runtime's constants, with the class accounts `1000 + class_id`. -/
def bidConfig : Config ℕ := Config.node fun classId => 1000 + classId.val

/-- The accounts `1`, `2`, `3` and the account `1000` of class `0` hold `10^15`; the minimum
order deposit is the genesis default, `10^12`. -/
def bidGenesis : State ℕ :=
  genesis (fun a => if a = 1 ∨ a = 2 ∨ a = 3 ∨ a = 1000 then UWord.ofNat (10 ^ 15) else 0)
    (fun _ => 0) (UWord.ofNat (10 ^ 12))

/-- Category `0`, and class `0` of account `1`, with one token `(0, 0)` owned by `1`. -/
def bidSetup : List (Action ℕ) :=
  [.dispatch .root (.addWhitelist 1),
   .dispatch .root (.createCategory []),
   .dispatch (.signed 1) (.createClass [] [] [] ⟨1⟩),
   .dispatch (.signed 1000) (.mint 1 0 [] 1)]

/-- `bidder` bids on `(0, 0)`, is given it by `1`, and `3` takes the bid. -/
def staleBid (bidder : ℕ) : List (Action ℕ) :=
  bidSetup ++
  [.dispatch (.signed bidder)
     (.submitOrder 0 (UWord.ofNat (5 * 10 ^ 12)) 0 0 0 (UWord.ofNat (10 ^ 12)) 100),
   .dispatch (.signed 1) (.transfer bidder 0 0),
   .dispatch (.signed 3) (.takeOrder 0 0 (UWord.ofNat (5 * 10 ^ 12)) bidder)]

end Nftmart
