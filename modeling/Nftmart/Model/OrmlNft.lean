import Mathlib
import Nftmart.Lib.Effect
import Nftmart.Model.Primitives

/-!
# `orml_nft`: the NFT store

`orml_nft` has no dispatchables of its own. It keeps the store of classes and tokens, and the
NFT pallet changes that store only through the five functions modelled here: `create_class`,
`transfer`, `mint`, `burn` and `destroy_class`; `is_owner` reads it.

The store is two counters and three maps. `TokensByOwner` is an index of `Tokens` by owner that
each function keeps up to date by hand; nothing in the types ties the two together, which is
why `Nftmart.Invariant.Store` proves that every reachable store keeps them in step.

The class and token payloads stay type parameters, as in the pallet. Double maps are functions
of the pair of their keys. A storage closure (`try_mutate`) writes its own item back only when
it succeeds; since every error here propagates to the caller, which rolls back, each function
is written as the sequence of reads, checks and writes it performs.
-/

namespace Nftmart.OrmlNft

open Effect

/-- `ClassInfo`: a class's metadata, number of live tokens, owner and payload. -/
structure ClassInfo (AccountId Data : Type) where
  metadata : Bytes
  totalIssuance : TokenId
  owner : AccountId
  data : Data
  deriving DecidableEq, Repr

/-- `TokenInfo`: a token's metadata, owner and payload. -/
structure TokenInfo (AccountId Data : Type) where
  metadata : Bytes
  owner : AccountId
  data : Data
  deriving DecidableEq, Repr

/-- The storage of `orml_nft`. -/
structure Store (AccountId ClassData TokenData : Type) where
  /-- `NextClassId`. -/
  nextClassId : ClassId
  /-- `NextTokenId`, a value query: `0` for a class never minted in. -/
  nextTokenId : ClassId → TokenId
  /-- `Classes`. -/
  classes : ClassId → Option (ClassInfo AccountId ClassData)
  /-- `Tokens`, keyed by `(class_id, token_id)`. -/
  tokens : ClassId × TokenId → Option (TokenInfo AccountId TokenData)
  /-- `TokensByOwner`, keyed by `(owner, (class_id, token_id))`; `true` when the key is
  present. -/
  tokensByOwner : AccountId × (ClassId × TokenId) → Bool

namespace Store

variable {AccountId ClassData TokenData : Type} [DecidableEq AccountId]

/-- Write `Classes[class_id]`. -/
def setClass (s : Store AccountId ClassData TokenData) (classId : ClassId)
    (v : Option (ClassInfo AccountId ClassData)) : Store AccountId ClassData TokenData :=
  { s with classes := Function.update s.classes classId v }

/-- Write `Tokens[token]`. -/
def setToken (s : Store AccountId ClassData TokenData) (token : ClassId × TokenId)
    (v : Option (TokenInfo AccountId TokenData)) : Store AccountId ClassData TokenData :=
  { s with tokens := Function.update s.tokens token v }

/-- Insert (`true`) or remove (`false`) the key `(owner, token)` of `TokensByOwner`. -/
def setOwned (s : Store AccountId ClassData TokenData) (owner : AccountId)
    (token : ClassId × TokenId) (b : Bool) : Store AccountId ClassData TokenData :=
  { s with tokensByOwner := Function.update s.tokensByOwner (owner, token) b }

/-- Write `NextTokenId[class_id]`. -/
def setNextTokenId (s : Store AccountId ClassData TokenData) (classId : ClassId)
    (v : TokenId) : Store AccountId ClassData TokenData :=
  { s with nextTokenId := Function.update s.nextTokenId classId v }

end Store

/-- Code running against `orml_nft`'s storage. -/
abbrev NftM (AccountId ClassData TokenData : Type) :=
  EStateM DispatchError (Store AccountId ClassData TokenData)

variable {AccountId ClassData TokenData : Type} [DecidableEq AccountId]

/-- `create_class`: allocate the next class id and store the class, with no tokens. -/
def createClass (owner : AccountId) (metadata : Bytes) (data : ClassData) :
    NftM AccountId ClassData TokenData ClassId := do
  let classId := (← get).nextClassId
  let some nextId := classId.checkedAdd 1 | throw (.ormlNft .noAvailableClassId)
  modify fun s => { s with nextClassId := nextId }
  let info : ClassInfo AccountId ClassData :=
    { metadata, totalIssuance := 0, owner, data }
  modify (·.setClass classId (some info))
  pure classId

/-- `transfer`: the token must exist and belong to `src`. A transfer to oneself changes
nothing; otherwise the owner and the owner index move to `dst`. -/
def transfer (src dst : AccountId) (token : ClassId × TokenId) :
    NftM AccountId ClassData TokenData Unit := do
  let info ← okOr ((← get).tokens token) (.ormlNft .tokenNotFound)
  ensure (decide (info.owner = src)) (.ormlNft .noPermission)
  if src = dst then return ()
  modify fun s => (s.setOwned src token false).setOwned dst token true
  modify (·.setToken token (some { info with owner := dst }))

/-- `mint`: take the next token id of the class, count the token in the class's issuance, and
store it under its owner. The id counter must not overflow: the largest id is never used. -/
def mint (owner : AccountId) (classId : ClassId) (metadata : Bytes) (data : TokenData) :
    NftM AccountId ClassData TokenData TokenId := do
  let tokenId := (← get).nextTokenId classId
  let some nextId := tokenId.checkedAdd 1 | throw (.ormlNft .noAvailableTokenId)
  let info ← okOr ((← get).classes classId) (.ormlNft .classNotFound)
  let some issuance := info.totalIssuance.checkedAdd 1 | throw (.ormlNft .numOverflow)
  modify (·.setClass classId (some { info with totalIssuance := issuance }))
  modify (·.setToken (classId, tokenId) (some { metadata, owner, data }))
  modify (·.setOwned owner (classId, tokenId) true)
  modify (·.setNextTokenId classId nextId)
  pure tokenId

/-- `burn`: the token must exist and belong to `owner`; it leaves the store, the class's
issuance and the owner index. -/
def burn (owner : AccountId) (token : ClassId × TokenId) :
    NftM AccountId ClassData TokenData Unit := do
  let t ← okOr ((← get).tokens token) (.ormlNft .tokenNotFound)
  ensure (decide (t.owner = owner)) (.ormlNft .noPermission)
  let info ← okOr ((← get).classes token.1) (.ormlNft .classNotFound)
  let some issuance := info.totalIssuance.checkedSub 1 | throw (.ormlNft .numOverflow)
  modify (·.setClass token.1 (some { info with totalIssuance := issuance }))
  modify (·.setOwned owner token false)
  modify (·.setToken token none)

/-- `destroy_class`: a class of `owner` with no issued tokens is removed, with its token id
counter. -/
def destroyClass (owner : AccountId) (classId : ClassId) :
    NftM AccountId ClassData TokenData Unit := do
  let info ← okOr ((← get).classes classId) (.ormlNft .classNotFound)
  ensure (decide (info.owner = owner)) (.ormlNft .noPermission)
  ensure (decide (info.totalIssuance = 0)) (.ormlNft .cannotDestroyClass)
  modify (·.setNextTokenId classId 0)
  modify (·.setClass classId none)

/-- `is_owner`: the owner index has the key `(account, token)`. -/
def isOwner (s : Store AccountId ClassData TokenData) (account : AccountId)
    (token : ClassId × TokenId) : Bool :=
  s.tokensByOwner (account, token)

end Nftmart.OrmlNft
