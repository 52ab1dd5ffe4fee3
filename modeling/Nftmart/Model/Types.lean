import Mathlib
import Nftmart.Model.Primitives
import Nftmart.Model.OrmlNft

/-!
# The data of the NFT pallet

The types `nftmart_nft` declares (`pallets/nftmart-nft/src/lib.rs`): the class properties,
the payloads it stores in `orml_nft` (`ClassData`, `TokenData`), its categories and orders, and
its own storage.

An order (`OrderData`) does not record whether it is a bid or an offer to sell: the pallet
reads the direction off the token's owner at the time the order is used (see the `TODO: Add
is_token_owner field` in the source). This is the fact the defect traces of
`Nftmart.Behaviour.StaleBid` turn on.
-/

namespace Nftmart

/-- `ClassProperty`, a `#[repr(u8)]` flag of a class. -/
inductive ClassProperty
  | transferable
  | burnable
  deriving DecidableEq, Repr

/-- The bit of a flag: `Transferable = 0b01`, `Burnable = 0b10`. -/
def ClassProperty.bits : ClassProperty → Nat
  | .transferable => 0b01
  | .burnable => 0b10

/-- The modulus of the flag bits is nonzero, named once for every numeral of `Fin 4`. -/
instance neZero_four : NeZero (4 : ℕ) := ⟨by norm_num⟩

/-- `Properties(BitFlags<ClassProperty>)`: a set of flags, held as its bits. `BitFlags` admits
no bit outside the two flags, so the bits are a number below `4`. -/
structure Properties where
  bits : Fin 4
  deriving DecidableEq, Repr

/-- `Properties::default()`: no flag set. -/
instance : Inhabited Properties := ⟨⟨0⟩⟩

/-- `BitFlags::contains`: every bit of the flag is set. -/
def Properties.contains (p : Properties) (flag : ClassProperty) : Bool :=
  p.bits.val &&& flag.bits == flag.bits

/-- `BitFlags::bits`, as the `u8` the `Encode` impl writes. -/
def Properties.toBits (p : Properties) : UInt8 := p.bits.val.toUInt8

/-- `BitFlags::from_bits`: the set with bits `b`, or `none` when `b` has a bit that no flag
owns (the `Decode` impl turns this into the error `"invalid value"`). -/
def Properties.fromBits (b : UInt8) : Option Properties :=
  if h : b.toNat < 4 then some ⟨⟨b.toNat, h⟩⟩ else none

/-- `ClassData<BlockNumber>`: the class payload stored in `orml_nft`. -/
structure ClassData where
  deposit : Balance
  properties : Properties
  name : Bytes
  description : Bytes
  createBlock : BlockNumber
  deriving DecidableEq, Repr

/-- `TokenData<BlockNumber>`: the token payload stored in `orml_nft`. -/
structure TokenData where
  deposit : Balance
  createBlock : BlockNumber
  deriving DecidableEq, Repr

/-- `CategoryData`: a category's metadata and the number of orders filed under it. -/
structure CategoryData where
  metadata : Bytes
  nftCount : Balance
  deriving DecidableEq, Repr

/-- `OrderData`: an order on a token. Its owner is the key it is stored under. -/
structure OrderData where
  currencyId : CurrencyId
  price : Balance
  deposit : Balance
  deadline : BlockNumber
  categoryId : CategoryId
  deriving DecidableEq, Repr

/-- `Releases`: the storage layout version. -/
inductive Releases
  | v1_0_0
  | v2_0_0
  deriving DecidableEq, Repr

/-- `Releases::default()` is the current layout. -/
instance : Inhabited Releases := ⟨.v2_0_0⟩

/-- The class records the pallet keeps in `orml_nft`. -/
abbrev ClassInfoOf (AccountId : Type) := OrmlNft.ClassInfo AccountId ClassData

/-- The token records the pallet keeps in `orml_nft`. -/
abbrev TokenInfoOf (AccountId : Type) := OrmlNft.TokenInfo AccountId TokenData

/-- The storage of `nftmart_nft`. -/
structure PalletStore (AccountId : Type) where
  /-- `StorageVersion`. -/
  storageVersion : Releases
  /-- `NextCategoryId`. -/
  nextCategoryId : CategoryId
  /-- `Categories`. -/
  categories : CategoryId → Option CategoryData
  /-- `Orders`, keyed by `((class_id, token_id), order_owner)`. -/
  orders : (ClassId × TokenId) × AccountId → Option OrderData
  /-- `MinOrderDeposit`. -/
  minOrderDeposit : Balance

namespace PalletStore

variable {AccountId : Type} [DecidableEq AccountId]

/-- Write `Categories[category_id]`. -/
def setCategory (s : PalletStore AccountId) (categoryId : CategoryId)
    (v : Option CategoryData) : PalletStore AccountId :=
  { s with categories := Function.update s.categories categoryId v }

/-- Write `Orders[token][who]`. -/
def setOrder (s : PalletStore AccountId) (key : (ClassId × TokenId) × AccountId)
    (v : Option OrderData) : PalletStore AccountId :=
  { s with orders := Function.update s.orders key v }

end PalletStore

end Nftmart
