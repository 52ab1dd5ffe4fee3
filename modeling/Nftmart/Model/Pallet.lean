import Mathlib
import Nftmart.Lib.Effect
import Nftmart.Model.Runtime

/-!
# `nftmart_nft`: the NFT marketplace pallet

The dispatchable calls of the pallet and the helpers they share, from
`pallets/nftmart-nft/src/lib.rs`. Every dispatchable is `#[transactional]`: when it fails, all
its writes are undone. Inside a call the helpers are not: `try_delete_order` drops the error of
`delete_order` and keeps whatever `delete_order` wrote before failing, which is why
`deleteOrder` is written as the exact sequence of its writes.

Each call takes the origin it is dispatched with; `Nftmart.Model.Dispatch` collects them.
Events are not modelled: no claim reads them.

## Orders

An order of `a` on token `(k, t)` is stored under `Orders[(k, t)][a]`. Whether it is an offer to
sell or a bid is never stored: `submit_order` reserves the price only when `a` does not own
the token, `delete_order` releases the price only when `a` is not the owner passed to it, and
`take_order` decides the direction of the trade by comparing the order's owner with the token's
current owner.
-/

namespace Nftmart

open Effect

variable {AccountId : Type} [DecidableEq AccountId] (cfg : Config AccountId)

/-! ## Deposits -/

/-- `mint_token_deposit`: the deposit of one token, and of `quantity` of them. -/
def mintTokenDeposit (metadataLen quantity : UWord 32) : Balance × Balance :=
  let deposit : Balance := cfg.createTokenDeposit.saturatingAdd
    ((UWord.cast metadataLen : Balance).saturatingMul cfg.metaDataByteDeposit)
  let totalDeposit : Balance := deposit.saturatingMul (UWord.cast quantity)
  (deposit, totalDeposit)

/-- `create_class_deposit`: the class deposit, and the class deposit with the proxy deposit
of one proxy. -/
def createClassDeposit (metadataLen nameLen descriptionLen : UWord 32) : Balance × Balance :=
  let totalBytes := (metadataLen.saturatingAdd nameLen).saturatingAdd descriptionLen
  let deposit : Balance := cfg.createClassDeposit.saturatingAdd
    ((UWord.cast totalBytes : Balance).saturatingMul cfg.metaDataByteDeposit)
  let proxyDeposit := Proxy.deposit cfg 1
  (deposit, deposit.saturatingAdd proxyDeposit)

/-- `add_class_admin_deposit`: what adding `admin_count` more proxies to a class account
costs. -/
def addClassAdminDeposit (adminCount : UWord 32) : Balance :=
  let proxyDepositBefore := Proxy.deposit cfg 1
  let proxyDepositAfter := Proxy.deposit cfg (adminCount.saturatingAdd 1)
  proxyDepositAfter.saturatingSub proxyDepositBefore

/-! ## Helpers -/

/-- `is_burnable`: the class exists and has the `Burnable` flag. -/
def isBurnable (classId : ClassId) : RuntimeM AccountId Bool := do
  let classInfo ← okOr ((← get).nft.classes classId) (.nftmart .classIdNotFound)
  pure (classInfo.data.properties.contains .burnable)

/-- `delete_order`: remove the order of `who` on the token, release its deposit and, when
`who` is not `tokenOwner`, the price it reserved, and uncount it from its category. The body is
the closure of `Orders::try_mutate_exists`: it can fail only at its first step, before any
write. -/
def deleteOrder (classId : ClassId) (tokenId : TokenId) (who tokenOwner : AccountId) :
    RuntimeM AccountId Unit := do
  let order ← okOr ((← get).pallet.orders ((classId, tokenId), who)) (.nftmart .orderNotFound)
  let _ ← liftBalances (Balances.unreserve cfg.existentialDeposit who order.deposit)
  if who ≠ tokenOwner then
    let _ ← MultiCurrency.unreserve cfg order.currencyId who order.price
  -- `Categories::try_mutate`, whose closure never fails
  modifyPallet fun p => p.setCategory order.categoryId
    ((p.categories order.categoryId).map fun cate =>
      { cate with nftCount := cate.nftCount.saturatingSub 1 })
  modifyPallet (·.setOrder ((classId, tokenId), who) none)

/-- `try_delete_order`: `delete_order` with its error dropped. -/
def tryDeleteOrder (classId : ClassId) (tokenId : TokenId) (who tokenOwner : AccountId) :
    RuntimeM AccountId Unit :=
  attempt (deleteOrder cfg classId tokenId who tokenOwner)

/-- `do_transfer`: the class must be transferable, the token must belong to `src`, and `src`
must have no order on it. -/
def doTransfer (src dst : AccountId) (classId : ClassId) (tokenId : TokenId) :
    RuntimeM AccountId Unit :=
  transactional do
    let classInfo ← okOr ((← get).nft.classes classId) (.nftmart .classIdNotFound)
    ensure (classInfo.data.properties.contains .transferable) (.nftmart .nonTransferable)
    let tokenInfo ← okOr ((← get).nft.tokens (classId, tokenId)) (.nftmart .tokenIdNotFound)
    ensure (decide (src = tokenInfo.owner)) (.nftmart .noPermission)
    ensure ((← get).pallet.orders ((classId, tokenId), src)).isNone (.nftmart .orderExists)
    liftNft (OrmlNft.transfer src dst (classId, tokenId))

/-! ## Orders -/

/-- `take_order`: `who` takes the order of `orderOwner` on the token. When `orderOwner` owns
the token, `who` buys it at the order's price (`price` is the most `who` will pay); when `who`
owns it, `who` sells it to `orderOwner` at the order's price (`price` is the least `who` will
accept). -/
def takeOrder (origin : Origin AccountId) (classId : ClassId) (tokenId : TokenId)
    (price : Balance) (orderOwner : AccountId) : RuntimeM AccountId Unit :=
  transactional do
    let who ← ensureSigned origin
    ensure (decide (orderOwner ≠ who)) (.nftmart .takeOwnOrder)
    let order ← okOr ((← get).pallet.orders ((classId, tokenId), orderOwner))
      (.nftmart .orderNotFound)
    ensure (decide ((← get).blockNumber ≤ order.deadline)) (.nftmart .orderExpired)
    let token ← okOr ((← get).nft.tokens (classId, tokenId)) (.nftmart .tokenIdNotFound)
    let tokenOwner := token.owner
    match decide (orderOwner = tokenOwner), decide (tokenOwner = who) with
    | true, false =>
      ensure (decide (order.price ≤ price)) (.nftmart .canNotAfford)
      deleteOrder cfg classId tokenId orderOwner tokenOwner
      tryDeleteOrder cfg classId tokenId who tokenOwner
      doTransfer orderOwner who classId tokenId
      MultiCurrency.transfer cfg order.currencyId who orderOwner order.price
    | false, true =>
      ensure (decide (price ≤ order.price)) (.nftmart .priceTooLow)
      deleteOrder cfg classId tokenId orderOwner tokenOwner
      tryDeleteOrder cfg classId tokenId who tokenOwner
      doTransfer who orderOwner classId tokenId
      MultiCurrency.transfer cfg order.currencyId orderOwner who order.price
    | _, _ => throw (.nftmart .noPermission)

/-- `submit_order`: file an order on a token under a category, reserving the deposit and,
for an account that does not own the token, the price. -/
def submitOrder (origin : Origin AccountId) (currencyId : CurrencyId) (price : Balance)
    (categoryId : CategoryId) (classId : ClassId) (tokenId : TokenId) (deposit : Balance)
    (deadline : BlockNumber) : RuntimeM AccountId Unit :=
  transactional do
    let who ← ensureSigned origin
    let token ← okOr ((← get).nft.tokens (classId, tokenId)) (.nftmart .tokenIdNotFound)
    ensure ((← get).pallet.orders ((classId, tokenId), who)).isNone (.nftmart .duplicatedOrder)
    ensure (decide ((← get).blockNumber < deadline)) (.nftmart .invalidDeadline)
    -- `Categories::try_mutate`: count the order before the remaining checks
    let category ← okOr ((← get).pallet.categories categoryId) (.nftmart .categoryNotFound)
    modifyPallet (·.setCategory categoryId
      (some { category with nftCount := category.nftCount.saturatingAdd 1 }))
    ensure (decide ((← get).pallet.minOrderDeposit ≤ deposit)) (.nftmart .invalidDeposit)
    liftBalances (Balances.reserve cfg.existentialDeposit who deposit)
    if token.owner ≠ who then
      ensure (!(← isBurnable classId)) (.nftmart .burnable)
      MultiCurrency.reserve cfg currencyId who price
    let order : OrderData := { currencyId, price, deposit, deadline, categoryId }
    modifyPallet (·.setOrder ((classId, tokenId), who) (some order))

/-- `remove_order`: the signer deletes its own order on an existing token. -/
def removeOrder (origin : Origin AccountId) (classId : ClassId) (tokenId : TokenId) :
    RuntimeM AccountId Unit :=
  transactional do
    let who ← ensureSigned origin
    let token ← okOr ((← get).nft.tokens (classId, tokenId)) (.nftmart .tokenIdNotFound)
    deleteOrder cfg classId tokenId who token.owner

/-- `update_order_price`: a signer that is not the token's owner (by `orml_nft::is_owner`) has
its reserved price swapped for the new one. -/
def updateOrderPrice (origin : Origin AccountId) (classId : ClassId) (tokenId : TokenId)
    (price : Balance) : RuntimeM AccountId Unit :=
  transactional do
    let who ← ensureSigned origin
    -- `Orders::try_mutate`
    let order ← okOr ((← get).pallet.orders ((classId, tokenId), who)) (.nftmart .orderNotFound)
    if !OrmlNft.isOwner (← get).nft who (classId, tokenId) then
      let _ ← MultiCurrency.unreserve cfg order.currencyId who order.price
      MultiCurrency.reserve cfg order.currencyId who price
    modifyPallet (·.setOrder ((classId, tokenId), who) (some { order with price }))

/-! ## Categories and the order deposit -/

/-- `create_category`, a root call: a new category with no orders, at the next id. -/
def createCategory (origin : Origin AccountId) (metadata : Bytes) : RuntimeM AccountId Unit :=
  transactional do
    ensureRoot origin
    let categoryId := (← get).pallet.nextCategoryId
    let some nextId := categoryId.checkedAdd 1 | throw (.nftmart .noAvailableCategoryId)
    modifyPallet fun p => { p with nextCategoryId := nextId }
    modifyPallet (·.setCategory categoryId (some { metadata, nftCount := 0 }))

/-- `update_category`, a root call: replace the metadata of an existing category, keeping its
count. -/
def updateCategory (origin : Origin AccountId) (categoryId : CategoryId) (metadata : Bytes) :
    RuntimeM AccountId Unit :=
  transactional do
    ensureRoot origin
    if let some category := (← get).pallet.categories categoryId then
      modifyPallet (·.setCategory categoryId (some { metadata, nftCount := category.nftCount }))

/-- `update_min_order_deposit`, a root call. -/
def updateMinOrderDeposit (origin : Origin AccountId) (newDeposit : Balance) :
    RuntimeM AccountId Unit :=
  transactional do
    ensureRoot origin
    modifyPallet fun p => { p with minOrderDeposit := newDeposit }

/-! ## Classes and tokens -/

/-- `create_class`: a whitelisted signer pays the deposits into the account of the next class
id, which reserves the class deposit, makes the signer its proxy, and owns the new class. -/
def createClass (origin : Origin AccountId) (metadata name description : Bytes)
    (properties : Properties) : RuntimeM AccountId Unit :=
  transactional do
    let who ← ensureSigned origin
    ensure ((← get).accountWhitelist who) (.nftmart .accountNotInWhitelist)
    ensure (decide (name.length ≤ 20)) (.nftmart .nameTooLong)
    ensure (decide (description.length ≤ 256)) (.nftmart .descriptionTooLong)
    let nextId := (← get).nft.nextClassId
    let owner := cfg.intoSubAccount nextId
    let (deposit, allDeposit) := createClassDeposit cfg (UWord.sat metadata.length)
      (UWord.sat name.length) (UWord.sat description.length)
    liftBalances (Balances.transfer cfg.existentialDeposit who owner allDeposit .keepAlive)
    liftBalances (Balances.reserve cfg.existentialDeposit owner deposit)
    Proxy.addProxyDelegate cfg owner who default 0
    let data : ClassData :=
      { deposit, properties, name, description, createBlock := (← get).blockNumber }
    let _ ← liftNft (OrmlNft.createClass owner metadata data)

/-- `mint`: the owner of a class mints `quantity` tokens to the whitelisted `toAccount`, reserving
their deposit on the class account first. -/
def mint (origin : Origin AccountId) (toAccount : AccountId) (classId : ClassId) (metadata : Bytes)
    (quantity : UWord 32) : RuntimeM AccountId Unit :=
  transactional do
    let who ← ensureSigned origin
    ensure ((← get).accountWhitelist toAccount) (.nftmart .accountNotInWhitelist)
    ensure (decide (1 ≤ quantity.val)) (.nftmart .invalidQuantity)
    let classInfo ← okOr ((← get).nft.classes classId) (.nftmart .classIdNotFound)
    ensure (decide (who = classInfo.owner)) (.nftmart .noPermission)
    let (deposit, totalDeposit) := mintTokenDeposit cfg (UWord.sat metadata.length) quantity
    liftBalances (Balances.reserve cfg.existentialDeposit classInfo.owner totalDeposit)
    let data : TokenData := { deposit, createBlock := (← get).blockNumber }
    -- `for _ in 0..quantity { orml_nft::mint(..)?; }`
    liftNft (iterate quantity.val (OrmlNft.mint toAccount classId metadata data))

/-- `transfer`: the signer gives its token to `toAccount` (`to`). -/
def transfer (origin : Origin AccountId) (toAccount : AccountId) (classId : ClassId)
    (tokenId : TokenId) : RuntimeM AccountId Unit :=
  transactional do
    let who ← ensureSigned origin
    doTransfer who toAccount classId tokenId

/-- `burn`: the owner of a token of a burnable class, with no order on it, destroys it and
gets the token's deposit back from the class account. -/
def burn (origin : Origin AccountId) (classId : ClassId) (tokenId : TokenId) :
    RuntimeM AccountId Unit :=
  transactional do
    let who ← ensureSigned origin
    ensure (← isBurnable classId) (.nftmart .nonBurnable)
    let tokenInfo ← okOr ((← get).nft.tokens (classId, tokenId)) (.nftmart .tokenIdNotFound)
    ensure (decide (who = tokenInfo.owner)) (.nftmart .noPermission)
    ensure ((← get).pallet.orders ((classId, tokenId), who)).isNone (.nftmart .orderExists)
    liftNft (OrmlNft.burn who (classId, tokenId))
    let owner := cfg.intoSubAccount classId
    let _ ← liftBalances (Balances.unreserve cfg.existentialDeposit owner tokenInfo.data.deposit)
    liftBalances (Balances.transfer cfg.existentialDeposit owner who tokenInfo.data.deposit
      .keepAlive)

/-- `destroy_class`: the owner of a class with no tokens removes it, and the class deposit goes
from the class account to `dest`. -/
def destroyClass (origin : Origin AccountId) (classId : ClassId) (dest : AccountId) :
    RuntimeM AccountId Unit :=
  transactional do
    let who ← ensureSigned origin
    let classInfo ← okOr ((← get).nft.classes classId) (.nftmart .classIdNotFound)
    ensure (decide (who = classInfo.owner)) (.nftmart .noPermission)
    ensure (decide (classInfo.totalIssuance = 0)) (.nftmart .cannotDestroyClass)
    let owner := cfg.intoSubAccount classId
    let _ ← liftBalances (Balances.unreserve cfg.existentialDeposit owner classInfo.data.deposit)
    liftBalances (Balances.transfer cfg.existentialDeposit owner dest classInfo.data.deposit
      .keepAlive)
    liftNft (OrmlNft.destroyClass who classId)

end Nftmart
