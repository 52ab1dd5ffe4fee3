import Mathlib
import Nftmart.Model.Migration

/-!
# The storage migration

Every layout of `Nftmart.Model.Migration` reads back each value SCALE can write when the codecs
of `parity-scale-codec` are lawful (`Scale.Lawful.classCodec` and its siblings), and reads no
other: a value read from storage has byte vectors shorter than `2^32`. With that, `translate`
turns a map that holds the encodings of some values into one that holds the encodings of their
images (`Encodes.translate`), and the migration is exact.

The V2 layouts extend the V1 ones by one field at the end (`classCodec_encode`), and a stored
value is read with its trailing bytes ignored: the V1 decoder reads a V2 entry without an error.
So `do_migrate` run on V2 storage would rewrite every `create_block` to `2` or `3`
(`doMigrate_resets_createBlock`); only the check of `StorageVersion` in `on_runtime_upgrade`
keeps the migration to one run.

`nodeScale` is SCALE itself for the runtime's types, built from `Codec.compact`: the results
hold of it, and the stores at the end of the module are written with it.

## Main results

* `onRuntimeUpgrade_migrates` — from `V1_0_0`, every entry that reads in the V1 layout reads in
  the V2 layout with the same fields and `create_block` `2` or `3`; the version becomes
  `V2_0_0`, and a second upgrade changes nothing.
* `onRuntimeUpgrade_encodes` — storage that holds exactly the V1 encodings of some classes and
  tokens ends up holding exactly the V2 encodings of their upgrades.
* `doMigrate_resets_createBlock` — `do_migrate` on V2 storage overwrites `create_block`.
-/

namespace Nftmart

open Migrations

variable {AccountId : Type} (scale : Scale AccountId)

/-! ## The layouts are lawful -/

theorem Scale.Lawful.bytes {scale : Scale AccountId} (h : scale.Lawful) :
    scale.bytes.LawfulOn {b | Bytes.Writable b} :=
  h.compactLength.list Codec.lawful_byte

theorem lawful_tokenIdCodec : tokenIdCodec.Lawful :=
  Codec.lawful_fin (by norm_num)

theorem Properties.fromBits_toBits (p : Properties) : Properties.fromBits p.toBits = some p := by
  obtain ⟨bits⟩ := p
  fin_cases bits <;> rfl

theorem Properties.lawful_codec : Properties.codec.Lawful :=
  Codec.lawful_byte.mapPartial Properties.fromBits_toBits

section Lawful

variable {scale : Scale AccountId} (h : scale.Lawful)

include h

theorem Scale.Lawful.classData : (ClassData.codec scale).LawfulOn {d | d.Writable} :=
  (((((h.compactBalance.lawfulOn.prod Properties.lawful_codec.lawfulOn).prod h.bytes).prod
    h.bytes).prod h.compactBlockNumber.lawfulOn).map (fun _ => rfl) (fun _ => rfl)).congr
    (by ext d; simp [ClassData.Writable])

theorem Scale.Lawful.tokenData : (TokenData.codec scale).LawfulOn Set.univ :=
  ((h.compactBalance.lawfulOn.prod h.compactBlockNumber.lawfulOn).map (fun _ => rfl)
    (fun _ => rfl)).congr (by simp)

theorem Scale.Lawful.oldClassData : (OldClassData.codec scale).LawfulOn {d | d.Writable} :=
  ((((h.compactBalance.lawfulOn.prod Properties.lawful_codec.lawfulOn).prod h.bytes).prod
    h.bytes).map (fun _ => rfl) (fun _ => rfl)).congr (by ext d; simp [OldClassData.Writable])

theorem Scale.Lawful.oldTokenData : (OldTokenData.codec scale).LawfulOn Set.univ :=
  (h.compactBalance.lawfulOn.map (fun _ => rfl) (fun _ => rfl)).congr (by simp)

theorem Scale.Lawful.classInfo {Data : Type} {data : Codec Data} {P : Data → Prop}
    (hdata : data.LawfulOn {d | P d}) :
    (OrmlNft.ClassInfo.codec scale data).LawfulOn {c | c.Writable P} :=
  ((((h.bytes.prod lawful_tokenIdCodec.lawfulOn).prod h.accountId.lawfulOn).prod hdata).map
    (fun _ => rfl) (fun _ => rfl)).congr (by ext c; simp [OrmlNft.ClassInfo.Writable])

theorem Scale.Lawful.tokenInfo {Data : Type} {data : Codec Data} (hdata : data.LawfulOn Set.univ) :
    (OrmlNft.TokenInfo.codec scale data).LawfulOn {t | t.Writable} :=
  (((h.bytes.prod h.accountId.lawfulOn).prod hdata).map (fun _ => rfl) (fun _ => rfl)).congr
    (by ext t; simp [OrmlNft.TokenInfo.Writable])

theorem Scale.Lawful.classCodec :
    (classCodec scale).LawfulOn {c | c.Writable ClassData.Writable} :=
  h.classInfo h.classData

theorem Scale.Lawful.tokenCodec : (tokenCodec scale).LawfulOn {t | t.Writable} :=
  h.tokenInfo h.tokenData

theorem Scale.Lawful.oldClassCodec :
    (oldClassCodec scale).LawfulOn {c | c.Writable OldClassData.Writable} :=
  h.classInfo h.oldClassData

theorem Scale.Lawful.oldTokenCodec : (oldTokenCodec scale).LawfulOn {t | t.Writable} :=
  h.tokenInfo h.oldTokenData

end Lawful

/-- A V2 class is written as its V1 form, then `create_block`. -/
theorem classCodec_encode (info : ClassInfoOf AccountId) :
    (classCodec scale).encode info =
      (oldClassCodec scale).encode
        { metadata := info.metadata, totalIssuance := info.totalIssuance, owner := info.owner,
          data := { deposit := info.data.deposit, properties := info.data.properties,
                    name := info.data.name, description := info.data.description } } ++
      scale.compactBlockNumber.encode info.data.createBlock := by
  simp [classCodec, oldClassCodec, OrmlNft.ClassInfo.codec, ClassData.codec, OldClassData.codec]

/-- A V2 token is written as its V1 form, then `create_block`. -/
theorem tokenCodec_encode (info : TokenInfoOf AccountId) :
    (tokenCodec scale).encode info =
      (oldTokenCodec scale).encode
        { metadata := info.metadata, owner := info.owner, data := { deposit := info.data.deposit } } ++
      scale.compactBlockNumber.encode info.data.createBlock := by
  simp [tokenCodec, oldTokenCodec, OrmlNft.TokenInfo.codec, TokenData.codec, OldTokenData.codec]

/-! ## `translate` -/

section Translate

variable {K O V : Type} (old : Codec O) (new : Codec V) (f : K → O → Option V)
  (m : K → Option Bytes) (key : K)

theorem translate_of_read {bytes : Bytes} {value : O} (hm : m key = some bytes)
    (hread : old.read bytes = some value) :
    translate old new f m key = (f key value).map new.encode := by
  simp [translate, hm, hread]

/-- `m` holds, under each key, the encoding in `codec`'s layout of the value `values` gives,
and nothing where it gives none. -/
def Encodes {α : Type} (codec : Codec α) (m : K → Option Bytes) (values : K → Option α) : Prop :=
  ∀ key, m key = (values key).map codec.encode

/-- `translate` over a map of encoded values: when the old layout reads each stored value as
`g` of it, the map ends up holding the new encodings of `f` applied to those. -/
theorem Encodes.translate {α : Type} {cur : Codec α} {values : K → Option α} {g : α → O}
    (hread : ∀ key a, values key = some a → old.read (cur.encode a) = some (g a))
    (hm : Encodes cur m values) :
    Encodes new (Nftmart.translate old new f m) fun key => (values key).bind fun a => f key (g a) := by
  intro key
  cases hv : values key with
  | none => simp [Nftmart.translate, hm key, hv]
  | some a => simp [Nftmart.translate, hm key, hv, hread key a hv]

end Translate

/-! ## `do_migrate` and `on_runtime_upgrade` -/

variable {raw : RawStore}

@[simp] theorem doMigrate_storageVersion :
    (doMigrate scale raw).storageVersion = raw.storageVersion := rfl

theorem doMigrate_classes :
    (doMigrate scale raw).classes =
      translate (oldClassCodec scale) (classCodec scale) (fun _ p => some (upgradeClass p))
        raw.classes := rfl

theorem doMigrate_tokens :
    (doMigrate scale raw).tokens =
      translate (oldTokenCodec scale) (tokenCodec scale) (fun _ p => some (upgradeToken p))
        raw.tokens := rfl

/-- The upgraded class: its fields, and `create_block = 2`. -/
theorem upgradeClass_apply (p : OrmlNft.ClassInfo AccountId OldClassData) :
    upgradeClass p =
      { metadata := p.metadata, totalIssuance := p.totalIssuance, owner := p.owner,
        data := { deposit := p.data.deposit, properties := p.data.properties, name := p.data.name,
                  description := p.data.description, createBlock := 2 } } := rfl

/-- The upgraded token: its fields, and `create_block = 3`. -/
theorem upgradeToken_apply (p : OrmlNft.TokenInfo AccountId OldTokenData) :
    upgradeToken p =
      { metadata := p.metadata, owner := p.owner,
        data := { deposit := p.data.deposit, createBlock := 3 } } := rfl

theorem onRuntimeUpgrade_of_v1 (hv : raw.storageVersion = .v1_0_0) :
    onRuntimeUpgrade scale raw = doMigrate scale { raw with storageVersion := .v2_0_0 } :=
  if_pos hv

theorem onRuntimeUpgrade_of_v2 (hv : raw.storageVersion = .v2_0_0) :
    onRuntimeUpgrade scale raw = raw :=
  if_neg (by rw [hv]; decide)

theorem onRuntimeUpgrade_storageVersion (raw : RawStore) :
    (onRuntimeUpgrade scale raw).storageVersion = .v2_0_0 := by
  cases hv : raw.storageVersion with
  | v1_0_0 => rw [onRuntimeUpgrade_of_v1 scale hv]; rfl
  | v2_0_0 => rw [onRuntimeUpgrade_of_v2 scale hv, hv]

theorem classInfo_doMigrate (hscale : scale.Lawful) {classId : ClassId} {bytes : Bytes}
    {p : OrmlNft.ClassInfo AccountId OldClassData} (hraw : raw.classes classId = some bytes)
    (hread : (oldClassCodec scale).read bytes = some p) :
    (doMigrate scale raw).classInfo scale classId = some (upgradeClass p) := by
  simp only [RawStore.classInfo, doMigrate, translate_of_read _ _ _ _ _ hraw hread,
    Option.map_some, Option.bind_some]
  -- a class read from storage has byte vectors SCALE can write, and its upgrade keeps them
  have hp : p.Writable OldClassData.Writable := hscale.oldClassCodec.mem_of_read hread
  exact hscale.classCodec.read_encode hp

theorem tokenInfo_doMigrate (hscale : scale.Lawful) {token : ClassId × TokenId} {bytes : Bytes}
    {p : OrmlNft.TokenInfo AccountId OldTokenData} (hraw : raw.tokens token = some bytes)
    (hread : (oldTokenCodec scale).read bytes = some p) :
    (doMigrate scale raw).tokenInfo scale token = some (upgradeToken p) := by
  simp only [RawStore.tokenInfo, doMigrate, translate_of_read _ _ _ _ _ hraw hread,
    Option.map_some, Option.bind_some]
  have hp : p.Writable := hscale.oldTokenCodec.mem_of_read hread
  exact hscale.tokenCodec.read_encode hp

/-- From `V1_0_0`, `on_runtime_upgrade` leaves each class and token that read in the V1 layout
readable, under the same key, in the V2 layout, with the same metadata, issuance, owner,
deposit, properties, name and description, and `create_block` `2` for a class and `3` for a
token; it records `V2_0_0`, and a second upgrade changes nothing. -/
theorem onRuntimeUpgrade_migrates (hscale : scale.Lawful) (raw : RawStore)
    (hversion : raw.storageVersion = .v1_0_0) :
    (onRuntimeUpgrade scale raw).storageVersion = .v2_0_0 ∧
    (∀ classId bytes (p : OrmlNft.ClassInfo AccountId OldClassData),
      raw.classes classId = some bytes → (oldClassCodec scale).read bytes = some p →
      (onRuntimeUpgrade scale raw).classInfo scale classId =
        some { metadata := p.metadata, totalIssuance := p.totalIssuance, owner := p.owner,
               data := { deposit := p.data.deposit, properties := p.data.properties,
                         name := p.data.name, description := p.data.description,
                         createBlock := 2 } }) ∧
    (∀ token bytes (p : OrmlNft.TokenInfo AccountId OldTokenData),
      raw.tokens token = some bytes → (oldTokenCodec scale).read bytes = some p →
      (onRuntimeUpgrade scale raw).tokenInfo scale token =
        some { metadata := p.metadata, owner := p.owner,
               data := { deposit := p.data.deposit, createBlock := 3 } }) ∧
    onRuntimeUpgrade scale (onRuntimeUpgrade scale raw) = onRuntimeUpgrade scale raw := by
  have hup := onRuntimeUpgrade_of_v1 scale hversion
  refine ⟨onRuntimeUpgrade_storageVersion scale raw, ?_, ?_,
    onRuntimeUpgrade_of_v2 scale (onRuntimeUpgrade_storageVersion scale raw)⟩
  -- `do_migrate` runs on the store with the new version, whose entries are those of `raw`
  · intro classId bytes p hraw hread
    have hraw' : ({ raw with storageVersion := .v2_0_0 } : RawStore).classes classId = some bytes :=
      hraw
    rw [hup, classInfo_doMigrate scale hscale hraw' hread, upgradeClass_apply]
  · intro token bytes p hraw hread
    have hraw' : ({ raw with storageVersion := .v2_0_0 } : RawStore).tokens token = some bytes :=
      hraw
    rw [hup, tokenInfo_doMigrate scale hscale hraw' hread, upgradeToken_apply]

/-- The codecs of `parity-scale-codec` for the runtime's types: `Compact<u128>` balances,
`Compact<u32>` block numbers and `Vec` lengths, and the 32 bytes of an `AccountId32`, here the
bytes of a 256-bit number, least significant first. -/
def nodeScale : Scale (UWord 256) where
  compactBalance := Codec.compact 128
  compactBlockNumber := Codec.compact 32
  compactLength := Codec.compactLength
  accountId := Codec.fin 32 (2 ^ 256)

theorem nodeScale_lawful : nodeScale.Lawful :=
  ⟨Codec.lawful_compact (by norm_num) (by norm_num) (by norm_num),
    Codec.lawful_compact (by norm_num) (by norm_num) (by norm_num), Codec.lawfulOn_compactLength,
    Codec.lawful_fin (by norm_num)⟩

/-- One V1 class `0` of account `7`, with its one token `(0, 0)`. -/
def v1Classes (classId : ClassId) : Option (OrmlNft.ClassInfo (UWord 256) OldClassData) :=
  if classId = 0 then
    some { metadata := [1, 2], totalIssuance := 1, owner := UWord.ofNat 7,
           data := { deposit := 2, properties := ⟨3⟩, name := [4], description := [] } }
  else none

/-- The token `(0, 0)` of `v1Classes`. -/
def v1Tokens (token : ClassId × TokenId) : Option (OrmlNft.TokenInfo (UWord 256) OldTokenData) :=
  if token = (0, 0) then
    some { metadata := [5], owner := UWord.ofNat 7, data := { deposit := 1 } }
  else none

/-- V1 storage holding `v1Classes` and `v1Tokens`. -/
def v1Store : RawStore where
  storageVersion := .v1_0_0
  classes classId := (v1Classes classId).map (oldClassCodec nodeScale).encode
  tokens token := (v1Tokens token).map (oldTokenCodec nodeScale).encode

/-- The stored token, as SCALE writes it: the length `1` of its metadata as the compact byte
`1 << 2`, the metadata, the 32 bytes of the account, and the deposit `1` as `1 << 2`. -/
example : v1Store.tokens (0, 0) = some ([4, 5, 7] ++ List.replicate 31 0 ++ [4]) := by
  decide

theorem onRuntimeUpgrade_migrates_v1Store :
    nodeScale.Lawful ∧ v1Store.storageVersion = .v1_0_0 ∧
    (onRuntimeUpgrade nodeScale v1Store).storageVersion = .v2_0_0 ∧
    (∀ classId bytes (p : OrmlNft.ClassInfo (UWord 256) OldClassData),
      v1Store.classes classId = some bytes → (oldClassCodec nodeScale).read bytes = some p →
      (onRuntimeUpgrade nodeScale v1Store).classInfo nodeScale classId =
        some { metadata := p.metadata, totalIssuance := p.totalIssuance, owner := p.owner,
               data := { deposit := p.data.deposit, properties := p.data.properties,
                         name := p.data.name, description := p.data.description,
                         createBlock := 2 } }) ∧
    (∀ token bytes (p : OrmlNft.TokenInfo (UWord 256) OldTokenData),
      v1Store.tokens token = some bytes → (oldTokenCodec nodeScale).read bytes = some p →
      (onRuntimeUpgrade nodeScale v1Store).tokenInfo nodeScale token =
        some { metadata := p.metadata, owner := p.owner,
               data := { deposit := p.data.deposit, createBlock := 3 } }) ∧
    onRuntimeUpgrade nodeScale (onRuntimeUpgrade nodeScale v1Store) =
      onRuntimeUpgrade nodeScale v1Store :=
  ⟨nodeScale_lawful, rfl, onRuntimeUpgrade_migrates nodeScale nodeScale_lawful v1Store rfl⟩

/-- Storage that holds exactly the V1 encodings of some classes and tokens that SCALE can write
holds, after the upgrade, exactly the V2 encodings of their upgrades: nothing is lost, moved or
added. -/
theorem onRuntimeUpgrade_encodes (hscale : scale.Lawful) (hversion : raw.storageVersion = .v1_0_0)
    (classes : ClassId → Option (OrmlNft.ClassInfo AccountId OldClassData))
    (tokens : ClassId × TokenId → Option (OrmlNft.TokenInfo AccountId OldTokenData))
    (hclassesWritable : ∀ classId c, classes classId = some c → c.Writable OldClassData.Writable)
    (htokensWritable : ∀ token t, tokens token = some t → t.Writable)
    (hclasses : Encodes (oldClassCodec scale) raw.classes classes)
    (htokens : Encodes (oldTokenCodec scale) raw.tokens tokens) :
    Encodes (classCodec scale) (onRuntimeUpgrade scale raw).classes
      (fun classId => (classes classId).map upgradeClass) ∧
    Encodes (tokenCodec scale) (onRuntimeUpgrade scale raw).tokens
      (fun token => (tokens token).map upgradeToken) := by
  have hclass := Encodes.translate (oldClassCodec scale) (classCodec scale)
    (fun _ p => some (upgradeClass p)) raw.classes
    (fun classId c hc => hscale.oldClassCodec.read_encode (hclassesWritable classId c hc)) hclasses
  have htoken := Encodes.translate (oldTokenCodec scale) (tokenCodec scale)
    (fun _ p => some (upgradeToken p)) raw.tokens
    (fun token t ht => hscale.oldTokenCodec.read_encode (htokensWritable token t ht)) htokens
  rw [onRuntimeUpgrade_of_v1 scale hversion]
  constructor
  · intro classId
    exact (hclass classId).trans (by cases hc : classes classId <;> simp [hc])
  · intro token
    exact (htoken token).trans (by cases ht : tokens token <;> simp [ht])

theorem onRuntimeUpgrade_encodes_v1Store :
    nodeScale.Lawful ∧ v1Store.storageVersion = .v1_0_0 ∧
    (∀ classId c, v1Classes classId = some c → c.Writable OldClassData.Writable) ∧
    (∀ token t, v1Tokens token = some t → t.Writable) ∧
    Encodes (oldClassCodec nodeScale) v1Store.classes v1Classes ∧
    Encodes (oldTokenCodec nodeScale) v1Store.tokens v1Tokens ∧
    Encodes (classCodec nodeScale) (onRuntimeUpgrade nodeScale v1Store).classes
      (fun classId => (v1Classes classId).map upgradeClass) ∧
    Encodes (tokenCodec nodeScale) (onRuntimeUpgrade nodeScale v1Store).tokens
      (fun token => (v1Tokens token).map upgradeToken) := by
  have hclassesWritable :
      ∀ classId c, v1Classes classId = some c → c.Writable OldClassData.Writable := by
    intro classId c hc
    unfold v1Classes at hc
    split at hc
    · cases hc
      decide
    · cases hc
  have htokensWritable : ∀ token t, v1Tokens token = some t → t.Writable := by
    intro token t ht
    unfold v1Tokens at ht
    split at ht
    · cases ht
      decide
    · cases ht
  exact ⟨nodeScale_lawful, rfl, hclassesWritable, htokensWritable, fun _ => rfl, fun _ => rfl,
    onRuntimeUpgrade_encodes nodeScale nodeScale_lawful rfl v1Classes v1Tokens hclassesWritable
      htokensWritable (fun _ => rfl) (fun _ => rfl)⟩

/-- Run on storage that already holds V2 values, `do_migrate` reads each of them in the V1
layout, ignoring the `create_block` bytes at its end, and writes it back with `create_block` `2`
for a class and `3` for a token: the version check of `on_runtime_upgrade` is what keeps the
migration from running twice. -/
theorem doMigrate_resets_createBlock (hscale : scale.Lawful) (raw : RawStore)
    (classes : ClassId → Option (ClassInfoOf AccountId))
    (tokens : ClassId × TokenId → Option (TokenInfoOf AccountId))
    (hclassesWritable : ∀ classId c, classes classId = some c → c.Writable ClassData.Writable)
    (htokensWritable : ∀ token t, tokens token = some t → t.Writable)
    (hclasses : Encodes (classCodec scale) raw.classes classes)
    (htokens : Encodes (tokenCodec scale) raw.tokens tokens) :
    Encodes (classCodec scale) (doMigrate scale raw).classes
      (fun classId => (classes classId).map fun info =>
        { info with data := { info.data with createBlock := 2 } }) ∧
    Encodes (tokenCodec scale) (doMigrate scale raw).tokens
      (fun token => (tokens token).map fun info =>
        { info with data := { info.data with createBlock := 3 } }) := by
  -- the V1 decoder reads a V2 value as its V1 prefix, which has the same byte vectors
  have hclass : ∀ classId info, classes classId = some info →
      (oldClassCodec scale).read ((classCodec scale).encode info) =
        some { metadata := info.metadata, totalIssuance := info.totalIssuance, owner := info.owner,
               data := { deposit := info.data.deposit, properties := info.data.properties,
                         name := info.data.name, description := info.data.description } } :=
    fun classId info hc => by
      rw [classCodec_encode]
      exact hscale.oldClassCodec.read_encode_append (hclassesWritable classId info hc) _
  have htoken : ∀ token info, tokens token = some info →
      (oldTokenCodec scale).read ((tokenCodec scale).encode info) =
        some { metadata := info.metadata, owner := info.owner,
               data := { deposit := info.data.deposit } } :=
    fun token info ht => by
      rw [tokenCodec_encode]
      exact hscale.oldTokenCodec.read_encode_append (htokensWritable token info ht) _
  constructor
  · intro classId
    rw [doMigrate_classes, Encodes.translate _ _ _ _ hclass hclasses classId]
    cases hc : classes classId <;> simp [hc, upgradeClass_apply]
  · intro token
    rw [doMigrate_tokens, Encodes.translate _ _ _ _ htoken htokens token]
    cases ht : tokens token <;> simp [ht, upgradeToken_apply]

/-- The V2 form of `v1Classes`, created at block `40`. -/
def v2Classes (classId : ClassId) : Option (ClassInfoOf (UWord 256)) :=
  (v1Classes classId).map fun p =>
    { upgradeClass p with data := { (upgradeClass p).data with createBlock := 40 } }

/-- The V2 form of `v1Tokens`, created at block `41`. -/
def v2Tokens (token : ClassId × TokenId) : Option (TokenInfoOf (UWord 256)) :=
  (v1Tokens token).map fun p =>
    { upgradeToken p with data := { (upgradeToken p).data with createBlock := 41 } }

/-- V2 storage holding `v2Classes` and `v2Tokens`. -/
def v2Store : RawStore where
  storageVersion := .v2_0_0
  classes classId := (v2Classes classId).map (classCodec nodeScale).encode
  tokens token := (v2Tokens token).map (tokenCodec nodeScale).encode

theorem doMigrate_resets_createBlock_v2Store :
    nodeScale.Lawful ∧
    (∀ classId c, v2Classes classId = some c → c.Writable ClassData.Writable) ∧
    (∀ token t, v2Tokens token = some t → t.Writable) ∧
    Encodes (classCodec nodeScale) v2Store.classes v2Classes ∧
    Encodes (tokenCodec nodeScale) v2Store.tokens v2Tokens ∧
    Encodes (classCodec nodeScale) (doMigrate nodeScale v2Store).classes
      (fun classId => (v2Classes classId).map fun info =>
        { info with data := { info.data with createBlock := 2 } }) ∧
    Encodes (tokenCodec nodeScale) (doMigrate nodeScale v2Store).tokens
      (fun token => (v2Tokens token).map fun info =>
        { info with data := { info.data with createBlock := 3 } }) := by
  have hclassesWritable :
      ∀ classId c, v2Classes classId = some c → c.Writable ClassData.Writable := by
    intro classId c hc
    unfold v2Classes v1Classes at hc
    split at hc
    · cases hc
      decide
    · cases hc
  have htokensWritable : ∀ token t, v2Tokens token = some t → t.Writable := by
    intro token t ht
    unfold v2Tokens v1Tokens at ht
    split at ht
    · cases ht
      decide
    · cases ht
  exact ⟨nodeScale_lawful, hclassesWritable, htokensWritable, fun _ => rfl, fun _ => rfl,
    doMigrate_resets_createBlock nodeScale nodeScale_lawful v2Store v2Classes v2Tokens
      hclassesWritable htokensWritable (fun _ => rfl) (fun _ => rfl)⟩

end Nftmart
