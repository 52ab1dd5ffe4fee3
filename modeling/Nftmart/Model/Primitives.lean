import Mathlib
import Nftmart.Lib.Word

/-!
# Runtime primitives

The types the node runtime (`bin/node/runtime`) fixes for the pallets it assembles, the
constants it configures them with, and the errors its pallets can raise.

The pallets are generic over their id and balance types; the runtime chooses
`ClassId = u32`, `TokenId = u64`, `CategoryId = u32`, `CurrencyId = u32`, `BlockNumber = u32`
and `Balance = u128` (`primitives/core/src/constants_types.rs`), and those are the widths used
here. `AccountId` stays a type parameter throughout.

`DispatchError` gathers the module errors the modelled code raises, one constructor per pallet,
as `sp_runtime::DispatchError::Module` does. Only the variants some modelled function raises are
listed.
-/

namespace Nftmart

/-- `Balance = u128`. -/
abbrev Balance : Type := UWord 128
/-- `ClassId = u32`. -/
abbrev ClassId : Type := UWord 32
/-- `TokenId = u64`. -/
abbrev TokenId : Type := UWord 64
/-- `CategoryId = u32`. -/
abbrev CategoryId : Type := UWord 32
/-- `CurrencyId = u32`. -/
abbrev CurrencyId : Type := UWord 32
/-- `BlockNumber = u32`. -/
abbrev BlockNumber : Type := UWord 32

/-- The moduli of the runtime's words are nonzero. Named once, so that every numeral of these
types refers to the same instance. -/
instance neZero_two_pow_32 : NeZero (2 ^ 32 : ℕ) := ⟨by norm_num⟩

instance neZero_two_pow_64 : NeZero (2 ^ 64 : ℕ) := ⟨by norm_num⟩

instance neZero_two_pow_128 : NeZero (2 ^ 128 : ℕ) := ⟨by norm_num⟩

/-- The accounts of the two-account runs are `Fin 2`. -/
instance neZero_two : NeZero (2 : ℕ) := ⟨by norm_num⟩

/-- `Vec<u8>` metadata, names and descriptions. -/
abbrev Bytes : Type := List UInt8

/-- The constants the runtime configures the currency, proxy and NFT pallets with, and the
sub-account derivation of the NFT pallet's `ModuleId`. -/
structure Config (AccountId : Type) where
  /-- `pallet_balances::ExistentialDeposit`. -/
  existentialDeposit : Balance
  /-- `pallet_proxy::ProxyDepositBase`. -/
  proxyDepositBase : Balance
  /-- `pallet_proxy::ProxyDepositFactor`. -/
  proxyDepositFactor : Balance
  /-- `pallet_proxy::MaxProxies` (a `u16`). -/
  maxProxies : Nat
  /-- `orml_currencies::GetNativeCurrencyId`. -/
  nativeCurrencyId : CurrencyId
  /-- `nftmart_nft::CreateClassDeposit`. -/
  createClassDeposit : Balance
  /-- `nftmart_nft::MetaDataByteDeposit`. -/
  metaDataByteDeposit : Balance
  /-- `nftmart_nft::CreateTokenDeposit`. -/
  createTokenDeposit : Balance
  /-- `T::ModuleId::get().into_sub_account(class_id)`: the account that holds a class. -/
  intoSubAccount : ClassId → AccountId

/-- The constants of `bin/node/runtime`: `ACCURACY = 10^12` is a cent, `deposit(items, bytes)`
is `items * 15 + bytes * 6` cents, and the native currency id is `0`. The class accounts are
given by `intoSubAccount`, the sub-accounts of the pallet's `ModuleId`. -/
def Config.node {AccountId : Type} (intoSubAccount : ClassId → AccountId) : Config AccountId where
  existentialDeposit := ⟨10 ^ 12, by decide⟩
  proxyDepositBase := ⟨63 * 10 ^ 12, by decide⟩
  proxyDepositFactor := ⟨198 * 10 ^ 12, by decide⟩
  maxProxies := 32
  nativeCurrencyId := 0
  createClassDeposit := ⟨2 * 10 ^ 12, by decide⟩
  metaDataByteDeposit := ⟨10 * 10 ^ 9, by decide⟩
  createTokenDeposit := ⟨10 ^ 12, by decide⟩
  intoSubAccount

/-- The balance record of one account in one currency: `free`, `reserved`, and the amount
`free` may not fall below when withdrawing. For the native currency `frozen` is
`pallet_balances`' `misc_frozen`, the only frozen amount the transfer and reserve reasons
consult. -/
structure AccountData where
  free : Balance
  reserved : Balance
  frozen : Balance
  deriving DecidableEq, Repr

/-- `AccountData::default()`: the record of an account that holds nothing. -/
instance : Inhabited AccountData := ⟨⟨0, 0, 0⟩⟩

/-- `AccountData::total`: `free.saturating_add(reserved)`. -/
def AccountData.total (account : AccountData) : Balance :=
  account.free.saturatingAdd account.reserved

/-- `ExistenceRequirement` of a `Currency::transfer`. -/
inductive ExistenceRequirement
  | keepAlive
  | allowDeath
  deriving DecidableEq, Repr

/-! ## Errors -/

/-- `nftmart_nft::Error`. -/
inductive NftmartError
  | classIdNotFound
  | tokenIdNotFound
  | orderNotFound
  | categoryNotFound
  | noPermission
  | invalidQuantity
  | invalidDeadline
  | invalidDeposit
  | nonTransferable
  | nonBurnable
  | burnable
  | cannotDestroyClass
  | noAvailableCategoryId
  | canNotAfford
  | priceTooLow
  | duplicatedOrder
  | takeOwnOrder
  | orderExists
  | orderExpired
  | nameTooLong
  | descriptionTooLong
  | accountNotInWhitelist
  deriving DecidableEq, Repr

/-- `orml_nft::Error`. -/
inductive OrmlNftError
  | noAvailableClassId
  | noAvailableTokenId
  | tokenNotFound
  | classNotFound
  | noPermission
  | numOverflow
  | cannotDestroyClass
  deriving DecidableEq, Repr

/-- The `pallet_balances::Error` variants its `reserve` and `transfer` raise. -/
inductive BalancesError
  | liquidityRestrictions
  | overflow
  | insufficientBalance
  | existentialDeposit
  | keepAlive
  deriving DecidableEq, Repr

/-- The `orml_tokens::Error` variants its `reserve` and `transfer` raise. -/
inductive TokensError
  | balanceTooLow
  | balanceOverflow
  | liquidityRestrictions
  deriving DecidableEq, Repr

/-- The `pallet_proxy::Error` variants `add_proxy_delegate` raises. -/
inductive ProxyError
  | tooMany
  | duplicate
  | noSelfProxy
  deriving DecidableEq, Repr

/-- `sp_runtime::DispatchError`: a bad origin, or a module error of one of the pallets. -/
inductive DispatchError
  | badOrigin
  | nftmart (e : NftmartError)
  | ormlNft (e : OrmlNftError)
  | balances (e : BalancesError)
  | tokens (e : TokensError)
  | proxy (e : ProxyError)
  deriving DecidableEq, Repr

end Nftmart
