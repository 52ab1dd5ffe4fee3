import Mathlib
import Nftmart.Lib.Codec
import Nftmart.Model.Types

/-!
# The V1 to V2 storage migration

Version 2 of the pallet's storage added a field `create_block` at the end of `ClassData` and of
`TokenData`. When the stored `StorageVersion` is `V1_0_0`, `on_runtime_upgrade` sets it to
`V2_0_0` and runs `migrations::do_migrate` (`pallets/nftmart-nft/src/lib.rs`), which reads every
`orml_nft::Classes` and `orml_nft::Tokens` entry in the old layout (`OldClassData`,
`OldTokenData`) with `translate` and writes it back in the new one, with `create_block` set to
`2` for a class and `3` for a token.

The migration works on encoded values, so this module models the storage it touches as bytes
(`RawStore`), and the layouts as codecs built with `Lib/Codec`, in the order
`#[derive(Encode, Decode)]` writes the fields. The codecs that `parity-scale-codec` provides,
outside this repository, are a parameter (`Scale`): the compact encodings of balances, block
numbers and lengths, and the encoding of `AccountId`. The fixed-width `u8` and the `u64` of
`TokenId` are built here. SCALE writes a `Vec` behind a `Compact<u32>` length, so only a value
whose byte vectors are shorter than `2^32` can be written (`Bytes.Writable` and the `Writable`
predicates of the layouts).

`translate` is the loop of `StorageMap::translate` and `StorageDoubleMap::translate`
(`frame/support/src/storage/generator/map.rs`, `double_map.rs`), over decoded keys: the decoding
of the hashed keys is left out.
-/

namespace Nftmart

/-- The codecs of `parity-scale-codec` that the stored layouts use. -/
structure Scale (AccountId : Type) where
  /-- `Compact<Balance>`. -/
  compactBalance : Codec Balance
  /-- `Compact<BlockNumber>`. -/
  compactBlockNumber : Codec BlockNumber
  /-- The `Compact<u32>` length in front of a `Vec`. -/
  compactLength : Codec ℕ
  /-- `AccountId`. -/
  accountId : Codec AccountId

/-- Each codec of `scale` reads back what it writes: every balance, block number and account,
and every length below `2^32`, the only lengths `Compact<u32>` reads. -/
structure Scale.Lawful {AccountId : Type} (scale : Scale AccountId) : Prop where
  compactBalance : scale.compactBalance.Lawful
  compactBlockNumber : scale.compactBlockNumber.Lawful
  compactLength : scale.compactLength.LawfulOn (Set.Iio (2 ^ 32))
  accountId : scale.accountId.Lawful

/-- A `Vec<u8>` SCALE can write: its length fits the `Compact<u32>` in front of it. -/
def Bytes.Writable (bytes : Bytes) : Prop := bytes.length < 2 ^ 32

instance : DecidablePred Bytes.Writable := fun bytes =>
  inferInstanceAs (Decidable (bytes.length < 2 ^ 32))

variable {AccountId : Type} (scale : Scale AccountId)

/-- `Vec<u8>`: a compact length, then the bytes. -/
def Scale.bytes : Codec Bytes := Codec.list scale.compactLength Codec.byte

/-- `TokenId = u64`: eight little-endian bytes. -/
def tokenIdCodec : Codec TokenId := Codec.fin 8 (2 ^ 64)

/-- `impl Encode for Properties` writes the `u8` of the flags; `impl Decode` reads a `u8` and
fails with `"invalid value"` when it has a bit that is not a flag. -/
def Properties.codec : Codec Properties :=
  Codec.byte.mapPartial Properties.fromBits Properties.toBits

/-- `ClassData`: compact `deposit`, `properties`, `name`, `description`, compact
`create_block`. -/
def ClassData.codec : Codec ClassData :=
  ((((scale.compactBalance.prod Properties.codec).prod scale.bytes).prod scale.bytes).prod
      scale.compactBlockNumber).map
    (fun ((((deposit, properties), name), description), createBlock) =>
      { deposit, properties, name, description, createBlock })
    (fun d => ((((d.deposit, d.properties), d.name), d.description), d.createBlock))

/-- A `ClassData` SCALE can write. -/
def ClassData.Writable (d : ClassData) : Prop :=
  Bytes.Writable d.name ∧ Bytes.Writable d.description

instance : DecidablePred ClassData.Writable := fun d =>
  inferInstanceAs (Decidable (Bytes.Writable d.name ∧ Bytes.Writable d.description))

/-- `TokenData`: compact `deposit`, compact `create_block`. -/
def TokenData.codec : Codec TokenData :=
  (scale.compactBalance.prod scale.compactBlockNumber).map
    (fun (deposit, createBlock) => { deposit, createBlock })
    (fun d => (d.deposit, d.createBlock))

/-- `orml_nft::ClassInfo`: `metadata`, `total_issuance`, `owner`, then the payload. -/
def OrmlNft.ClassInfo.codec {Data : Type} (data : Codec Data) :
    Codec (OrmlNft.ClassInfo AccountId Data) :=
  (((scale.bytes.prod tokenIdCodec).prod scale.accountId).prod data).map
    (fun (((metadata, totalIssuance), owner), data) => { metadata, totalIssuance, owner, data })
    (fun c => (((c.metadata, c.totalIssuance), c.owner), c.data))

/-- `orml_nft::TokenInfo`: `metadata`, `owner`, then the payload. -/
def OrmlNft.TokenInfo.codec {Data : Type} (data : Codec Data) :
    Codec (OrmlNft.TokenInfo AccountId Data) :=
  ((scale.bytes.prod scale.accountId).prod data).map
    (fun ((metadata, owner), data) => { metadata, owner, data })
    (fun t => ((t.metadata, t.owner), t.data))

/-- A class SCALE can write, with a payload `dataWritable` admits. -/
def OrmlNft.ClassInfo.Writable {Data : Type} (dataWritable : Data → Prop)
    (c : OrmlNft.ClassInfo AccountId Data) : Prop :=
  Bytes.Writable c.metadata ∧ dataWritable c.data

/-- A token SCALE can write: its payloads hold no `Vec`. -/
def OrmlNft.TokenInfo.Writable {Data : Type} (t : OrmlNft.TokenInfo AccountId Data) : Prop :=
  Bytes.Writable t.metadata

instance {Data : Type} {P : Data → Prop} [DecidablePred P] :
    DecidablePred (@OrmlNft.ClassInfo.Writable AccountId Data P) := fun c =>
  inferInstanceAs (Decidable (Bytes.Writable c.metadata ∧ P c.data))

instance {Data : Type} : DecidablePred (@OrmlNft.TokenInfo.Writable AccountId Data) := fun t =>
  inferInstanceAs (Decidable (Bytes.Writable t.metadata))

/-- `NewClass<T>`: a `Classes` value in the V2 layout. -/
def classCodec : Codec (ClassInfoOf AccountId) :=
  OrmlNft.ClassInfo.codec scale (ClassData.codec scale)

/-- `NewToken<T>`: a `Tokens` value in the V2 layout. -/
def tokenCodec : Codec (TokenInfoOf AccountId) :=
  OrmlNft.TokenInfo.codec scale (TokenData.codec scale)

/-- `StorageMap::translate`, and `StorageDoubleMap::translate`, the same loop over pairs of
keys: an entry whose value decodes as an `O` is replaced by `f key old` in `new`'s layout, or
removed when that is `None`; an entry that does not decode is logged and left as it is. -/
def translate {K O V : Type} (old : Codec O) (new : Codec V) (f : K → O → Option V)
    (m : K → Option Bytes) (key : K) : Option Bytes :=
  match m key with
  | none => none
  | some bytes =>
    match old.read bytes with
    | none => some bytes
    | some value => (f key value).map new.encode

/-- The storage `on_runtime_upgrade` reads and writes: `StorageVersion`, and the encoded values
of `orml_nft::Classes` and `orml_nft::Tokens` under their keys. -/
structure RawStore where
  storageVersion : Releases
  classes : ClassId → Option Bytes
  tokens : ClassId × TokenId → Option Bytes

/-- `Classes[class_id]`, read in the V2 layout. -/
def RawStore.classInfo (raw : RawStore) (classId : ClassId) : Option (ClassInfoOf AccountId) :=
  (raw.classes classId).bind (classCodec scale).read

/-- `Tokens[class_id][token_id]`, read in the V2 layout. -/
def RawStore.tokenInfo (raw : RawStore) (token : ClassId × TokenId) :
    Option (TokenInfoOf AccountId) :=
  (raw.tokens token).bind (tokenCodec scale).read

namespace Migrations

/-- `OldClassData`, the V1 class payload: `ClassData` without `create_block`. -/
structure OldClassData where
  deposit : Balance
  properties : Properties
  name : Bytes
  description : Bytes
  deriving DecidableEq, Repr

/-- `OldTokenData`, the V1 token payload: `TokenData` without `create_block`. -/
structure OldTokenData where
  deposit : Balance
  deriving DecidableEq, Repr

/-- `OldClassData`: compact `deposit`, `properties`, `name`, `description`. -/
def OldClassData.codec : Codec OldClassData :=
  (((scale.compactBalance.prod Properties.codec).prod scale.bytes).prod scale.bytes).map
    (fun (((deposit, properties), name), description) =>
      { deposit, properties, name, description })
    (fun d => (((d.deposit, d.properties), d.name), d.description))

/-- An `OldClassData` SCALE can write. -/
def OldClassData.Writable (d : OldClassData) : Prop :=
  Bytes.Writable d.name ∧ Bytes.Writable d.description

instance : DecidablePred OldClassData.Writable := fun d =>
  inferInstanceAs (Decidable (Bytes.Writable d.name ∧ Bytes.Writable d.description))

/-- `OldTokenData`: compact `deposit`. -/
def OldTokenData.codec : Codec OldTokenData :=
  scale.compactBalance.map (fun deposit => { deposit }) (fun d => d.deposit)

/-- `OldClass<T>`: a `Classes` value in the V1 layout. -/
def oldClassCodec : Codec (OrmlNft.ClassInfo AccountId OldClassData) :=
  OrmlNft.ClassInfo.codec scale (OldClassData.codec scale)

/-- `OldToken<T>`: a `Tokens` value in the V1 layout. -/
def oldTokenCodec : Codec (OrmlNft.TokenInfo AccountId OldTokenData) :=
  OrmlNft.TokenInfo.codec scale (OldTokenData.codec scale)

/-- `OldClassData::upgraded`: the same fields, and `create_block = One::one() * 2`. -/
def OldClassData.upgraded (d : OldClassData) : ClassData :=
  let createBlock : BlockNumber := 1
  { createBlock := createBlock * 2, deposit := d.deposit, properties := d.properties,
    name := d.name, description := d.description }

/-- `OldTokenData::upgraded`: the same deposit, and `create_block = One::one() * 3`. -/
def OldTokenData.upgraded (d : OldTokenData) : TokenData :=
  let createBlock : BlockNumber := 1
  { createBlock := createBlock * 3, deposit := d.deposit }

/-- The closure `do_migrate` passes to `Classes::translate`: the class with its payload
upgraded. -/
def upgradeClass (p : OrmlNft.ClassInfo AccountId OldClassData) : ClassInfoOf AccountId :=
  { metadata := p.metadata, totalIssuance := p.totalIssuance, owner := p.owner,
    data := p.data.upgraded }

/-- The closure `do_migrate` passes to `Tokens::translate`: the token with its payload
upgraded. -/
def upgradeToken (p : OrmlNft.TokenInfo AccountId OldTokenData) : TokenInfoOf AccountId :=
  { metadata := p.metadata, owner := p.owner, data := p.data.upgraded }

/-- `do_migrate`: every class and every token that decodes in the V1 layout is written back,
upgraded, in the V2 layout. -/
def doMigrate (raw : RawStore) : RawStore :=
  { raw with
    classes := translate (oldClassCodec scale) (classCodec scale)
      (fun _ p => some (upgradeClass p)) raw.classes
    tokens := translate (oldTokenCodec scale) (tokenCodec scale)
      (fun _ p => some (upgradeToken p)) raw.tokens }

end Migrations

/-- `on_runtime_upgrade`: migrate once, from `V1_0_0`, recording `V2_0_0` first. -/
def onRuntimeUpgrade (raw : RawStore) : RawStore :=
  if raw.storageVersion = .v1_0_0 then
    Migrations.doMigrate scale { raw with storageVersion := .v2_0_0 }
  else raw

end Nftmart
