import Mathlib

/-!
# Byte codecs

A `Codec α` writes a value as bytes and reads one off the front of a byte string, handing back
the bytes after it, as a SCALE `Encode`/`Decode` pair does on an `Input`. Reading a stored value
(`read`) decodes once and ignores whatever bytes are left: a value written in a layout that
extends another, field after field, still reads in the shorter layout.

A codec is `Lawful` when decoding reads back exactly what encoding wrote, whatever bytes follow.
Some writers are defined on part of their type only: SCALE writes a `Vec` behind a
`Compact<u32>` length and refuses a longer one. `LawfulOn c s` says that `c` reads back every
value of `s` and reads no value outside it. Both compose: two values written one after the
other (`prod`), a codec seen through a partial inverse (`mapPartial`, `map`: records, and types
whose decoder rejects some inputs), and a list written as its length and then its elements
(`list`).

The primitives: one byte (`byte`), a number below `w` in `n` little-endian bytes (`fin`), and
SCALE's compact integers (`compact`, `compactLength`), whose decoder accepts only the shortest
form of a number.

## Main results

* `LawfulOn.read_encode_append` — a codec reads its value back, whatever follows it.
* `LawfulOn.prod`, `Lawful.mapPartial`, `LawfulOn.map`, `LawfulOn.list` — lawfulness composes.
* `decodeCompact_encodeCompact` — the compact round trip, in each of its four modes.
* `lawful_byte`, `lawful_fin`, `lawful_compact`, `lawfulOn_compactLength` — the primitives are
  lawful.
-/

/-- An encoder to bytes, and a decoder that reads a value off the front of a byte string and
returns the bytes after it. -/
structure Codec (α : Type) where
  encode : α → List UInt8
  decode : List UInt8 → Option (α × List UInt8)

namespace Codec

variable {α β : Type}

/-- Decoding reads back what encoding wrote, and leaves the bytes after it. -/
def Lawful (c : Codec α) : Prop :=
  ∀ a rest, c.decode (c.encode a ++ rest) = some (a, rest)

/-- `c` reads back every value of `s` it writes, whatever bytes follow, and reads no value
outside `s`. -/
structure LawfulOn (c : Codec α) (s : Set α) : Prop where
  decode_encode : ∀ a ∈ s, ∀ rest, c.decode (c.encode a ++ rest) = some (a, rest)
  mem_of_decode : ∀ {bytes a rest}, c.decode bytes = some (a, rest) → a ∈ s

theorem Lawful.lawfulOn {c : Codec α} (h : c.Lawful) : c.LawfulOn Set.univ :=
  ⟨fun a _ => h a, fun _ => Set.mem_univ _⟩

theorem LawfulOn.congr {c : Codec α} {s t : Set α} (h : c.LawfulOn s) (hst : s = t) :
    c.LawfulOn t :=
  hst ▸ h

/-- Read a stored value: decode once and drop the bytes left over. -/
def read (c : Codec α) (bytes : List UInt8) : Option α :=
  (c.decode bytes).map Prod.fst

namespace LawfulOn

variable {c : Codec α} {s : Set α}

theorem read_encode_append (h : c.LawfulOn s) {a : α} (ha : a ∈ s) (rest : List UInt8) :
    c.read (c.encode a ++ rest) = some a := by
  simp [read, h.decode_encode a ha rest]

theorem read_encode (h : c.LawfulOn s) {a : α} (ha : a ∈ s) : c.read (c.encode a) = some a := by
  simpa using h.read_encode_append ha []

theorem mem_of_read (h : c.LawfulOn s) {bytes : List UInt8} {a : α}
    (hread : c.read bytes = some a) : a ∈ s := by
  obtain ⟨⟨a', rest⟩, hdecode, rfl⟩ := Option.map_eq_some_iff.1 hread
  exact h.mem_of_decode hdecode

end LawfulOn

/-! ## Composition -/

/-- Two values, one after the other: a struct of two fields, or a field appended to a record. -/
def prod (ca : Codec α) (cb : Codec β) : Codec (α × β) where
  encode p := ca.encode p.1 ++ cb.encode p.2
  decode bytes :=
    (ca.decode bytes).bind fun (a, rest) =>
      (cb.decode rest).map fun (b, rest) => ((a, b), rest)

@[simp] theorem prod_encode (ca : Codec α) (cb : Codec β) (a : α) (b : β) :
    (ca.prod cb).encode (a, b) = ca.encode a ++ cb.encode b := rfl

theorem LawfulOn.prod {ca : Codec α} {cb : Codec β} {sa : Set α} {sb : Set β}
    (ha : ca.LawfulOn sa) (hb : cb.LawfulOn sb) : (ca.prod cb).LawfulOn (sa ×ˢ sb) := by
  constructor
  · rintro ⟨a, b⟩ ⟨hma, hmb⟩ rest
    simp [Codec.prod, ha.decode_encode a hma, hb.decode_encode b hmb]
  · intro bytes p rest h
    simp only [Codec.prod, Option.bind_eq_some_iff, Option.map_eq_some_iff] at h
    obtain ⟨⟨a, rest₁⟩, h₁, ⟨b, rest₂⟩, h₂, hp⟩ := h
    obtain ⟨rfl, -⟩ := Prod.mk.inj hp
    exact ⟨ha.mem_of_decode h₁, hb.mem_of_decode h₂⟩

/-- A codec of `α` seen as one of `β`: `g` picks the `α` to write, and `f` turns a decoded `α`
into a `β`, or rejects it. -/
def mapPartial (f : α → Option β) (g : β → α) (c : Codec α) : Codec β where
  encode b := c.encode (g b)
  decode bytes :=
    (c.decode bytes).bind fun (a, rest) => (f a).map fun b => (b, rest)

@[simp] theorem mapPartial_encode (f : α → Option β) (g : β → α) (c : Codec α) (b : β) :
    (c.mapPartial f g).encode b = c.encode (g b) := rfl

theorem Lawful.mapPartial {c : Codec α} {f : α → Option β} {g : β → α} (h : c.Lawful)
    (hfg : ∀ b, f (g b) = some b) : (c.mapPartial f g).Lawful := by
  intro b rest
  simp [Codec.mapPartial, h (g b) rest, hfg b]

/-- A codec of `α` seen through a bijection, as a record is seen through the tuple of its
fields. -/
def map (f : α → β) (g : β → α) (c : Codec α) : Codec β :=
  c.mapPartial (fun a => some (f a)) g

@[simp] theorem map_encode (f : α → β) (g : β → α) (c : Codec α) (b : β) :
    (c.map f g).encode b = c.encode (g b) := rfl

/-- Through a bijection, a codec reads back the values whose tuple it reads back. -/
theorem LawfulOn.map {c : Codec α} {s : Set α} {f : α → β} {g : β → α} (h : c.LawfulOn s)
    (hfg : ∀ b, f (g b) = b) (hgf : ∀ a, g (f a) = a) : (c.map f g).LawfulOn (Set.preimage g s) := by
  constructor
  · intro b hb rest
    simp [Codec.map, Codec.mapPartial, h.decode_encode (g b) hb rest, hfg b]
  · intro bytes b rest hdecode
    simp only [Codec.map, Codec.mapPartial, Option.bind_eq_some_iff, Option.map_some,
      Option.some.injEq] at hdecode
    obtain ⟨⟨a, rest'⟩, ha, hb⟩ := hdecode
    obtain ⟨rfl, -⟩ := Prod.mk.inj hb
    show g (f a) ∈ s
    rw [hgf]
    exact h.mem_of_decode ha

/-! ## Lists -/

/-- Decode `n` values, one after the other. -/
def decodeMany (c : Codec α) : ℕ → List UInt8 → Option (List α × List UInt8)
  | 0, rest => some ([], rest)
  | n + 1, bytes =>
    (c.decode bytes).bind fun (a, rest) =>
      (decodeMany c n rest).map fun (as, rest) => (a :: as, rest)

/-- A list, written as its length and then its elements: SCALE's `Vec<T>`. -/
def list (len : Codec ℕ) (c : Codec α) : Codec (List α) where
  encode as := len.encode as.length ++ (as.map c.encode).flatten
  decode bytes := (len.decode bytes).bind fun (n, rest) => decodeMany c n rest

theorem Lawful.decodeMany {c : Codec α} (h : c.Lawful) (as : List α) (rest : List UInt8) :
    Codec.decodeMany c as.length ((as.map c.encode).flatten ++ rest) = some (as, rest) := by
  induction as with
  | nil => rfl
  | cons a as ih => simp [Codec.decodeMany, h a, ih]

/-- `decodeMany c n` reads exactly `n` values. -/
theorem length_of_decodeMany {c : Codec α} {n : ℕ} {bytes rest : List UInt8} {as : List α}
    (h : Codec.decodeMany c n bytes = some (as, rest)) : as.length = n := by
  induction n generalizing bytes as rest with
  | zero =>
    simp only [Codec.decodeMany, Option.some.injEq, Prod.mk.injEq] at h
    rw [← h.1]
    rfl
  | succ n ih =>
    simp only [Codec.decodeMany, Option.bind_eq_some_iff, Option.map_eq_some_iff] at h
    obtain ⟨⟨a, rest₁⟩, -, ⟨as', rest₂⟩, h₂, hcons⟩ := h
    obtain ⟨rfl, -⟩ := Prod.mk.inj hcons
    rw [List.length_cons, ih h₂]

/-- A list whose length the length codec reads back, of values the element codec reads back,
reads back; and every list read has such a length. -/
theorem LawfulOn.list {len : Codec ℕ} {c : Codec α} {N : ℕ} (hlen : len.LawfulOn (Set.Iio N))
    (h : c.Lawful) : (list len c).LawfulOn {as | as.length < N} := by
  constructor
  · intro as has rest
    simp [Codec.list, hlen.decode_encode as.length has, h.decodeMany]
  · intro bytes as rest hdecode
    simp only [Codec.list, Option.bind_eq_some_iff] at hdecode
    obtain ⟨⟨n, rest₁⟩, hn, hmany⟩ := hdecode
    show as.length < N
    rw [length_of_decodeMany hmany]
    exact hlen.mem_of_decode hn

/-! ## Primitives -/

/-- One byte: SCALE's `u8`. -/
def byte : Codec UInt8 where
  encode b := [b]
  decode
    | [] => none
    | b :: rest => some (b, rest)

theorem lawful_byte : byte.Lawful := fun _ _ => rfl

/-- The `n` lowest bytes of a number, least significant first. -/
def encodeLE : ℕ → ℕ → List UInt8
  | 0, _ => []
  | n + 1, x => (x % 256).toUInt8 :: encodeLE n (x / 256)

/-- Read `n` bytes as a little-endian number. -/
def decodeLE : ℕ → List UInt8 → Option (ℕ × List UInt8)
  | 0, rest => some (0, rest)
  | _ + 1, [] => none
  | n + 1, b :: rest => (decodeLE n rest).map fun (x, rest) => (b.toNat + 256 * x, rest)

theorem toNat_toUInt8_mod (x : ℕ) : ((x % 256).toUInt8).toNat = x % 256 := by
  simp

/-- Writing `n` bytes keeps `x` modulo `256 ^ n`. -/
theorem decodeLE_encodeLE (n x : ℕ) (rest : List UInt8) :
    decodeLE n (encodeLE n x ++ rest) = some (x % 256 ^ n, rest) := by
  induction n generalizing x with
  | zero => simp [encodeLE, decodeLE, Nat.mod_one]
  | succ n ih =>
    simp only [encodeLE, decodeLE, List.cons_append, ih, Option.map_some, toNat_toUInt8_mod]
    rw [pow_succ', Nat.mod_mul]

/-- `n` bytes hold a number below `256 ^ n`. -/
theorem lt_of_decodeLE {n x : ℕ} {bytes rest : List UInt8}
    (h : decodeLE n bytes = some (x, rest)) : x < 256 ^ n := by
  induction n generalizing bytes x rest with
  | zero =>
    simp only [decodeLE, Option.some.injEq, Prod.mk.injEq] at h
    rw [← h.1]
    exact Nat.one_pos
  | succ n ih =>
    match bytes, h with
    | b :: bytes, h =>
      simp only [decodeLE, Option.map_eq_some_iff] at h
      obtain ⟨⟨y, rest'⟩, hy, hx⟩ := h
      obtain ⟨rfl, -⟩ := Prod.mk.inj hx
      have hb := b.toNat_lt
      have hlt := ih hy
      rw [pow_succ]
      omega

/-- A number below `w` in `n` little-endian bytes: SCALE's `u8` to `u128` when `w = 256 ^ n`.
The decoder rejects a number that is not below `w`. -/
def fin (n w : ℕ) : Codec (Fin w) where
  encode a := encodeLE n a.val
  decode bytes :=
    (decodeLE n bytes).bind fun (x, rest) => if h : x < w then some (⟨x, h⟩, rest) else none

theorem lawful_fin {n w : ℕ} (hw : w ≤ 256 ^ n) : (fin n w).Lawful := by
  intro a rest
  have hmod : a.val % 256 ^ n = a.val := Nat.mod_eq_of_lt (lt_of_lt_of_le a.isLt hw)
  simp [fin, decodeLE_encodeLE, hmod]

/-! ## SCALE compact integers -/

/-- The number of bytes `n` needs, at least one. -/
def byteLength (n : ℕ) : ℕ := Nat.log 256 n + 1

theorem lt_pow_byteLength (n : ℕ) : n < 256 ^ byteLength n :=
  Nat.lt_pow_succ_log_self (by norm_num) n

theorem pow_byteLength_le {n : ℕ} (hn : n ≠ 0) : 256 ^ (byteLength n - 1) ≤ n := by
  simpa [byteLength] using Nat.pow_log_le_self 256 hn

/-- SCALE's compact encoding (`CompactRef::encode_to`): below `2^6` the byte `n << 2`, below
`2^14` the two little-endian bytes of `n << 2 | 0b01`, below `2^30` the four of
`n << 2 | 0b10`, and above, the byte `(k - 4) << 2 | 0b11` followed by the `k` bytes that `n`
needs. -/
def encodeCompact (n : ℕ) : List UInt8 :=
  if n < 2 ^ 6 then encodeLE 1 (4 * n)
  else if n < 2 ^ 14 then encodeLE 2 (4 * n + 1)
  else if n < 2 ^ 30 then encodeLE 4 (4 * n + 2)
  else encodeLE 1 (4 * (byteLength n - 4) + 3) ++ encodeLE (byteLength n) n

/-- SCALE's compact decoder for an integer of `w` bits (`Compact<u32>`, `Compact<u128>`): the
low two bits of the first byte give the mode, and a number written in a longer mode than it
needs, or in more bytes than `w` bits hold, is rejected (`U16_OUT_OF_RANGE` and its
siblings). -/
def decodeCompact (w : ℕ) : List UInt8 → Option (ℕ × List UInt8)
  | [] => none
  | b :: rest =>
    if b.toNat % 4 = 0 then some (b.toNat / 4, rest)
    else if b.toNat % 4 = 1 then
      (decodeLE 1 rest).bind fun (x, rest) =>
        if 2 ^ 6 ≤ (b.toNat + 256 * x) / 4 then some ((b.toNat + 256 * x) / 4, rest) else none
    else if b.toNat % 4 = 2 then
      (decodeLE 3 rest).bind fun (x, rest) =>
        if 2 ^ 14 ≤ (b.toNat + 256 * x) / 4 then some ((b.toNat + 256 * x) / 4, rest) else none
    else if 8 * (b.toNat / 4 + 4) ≤ w then
      (decodeLE (b.toNat / 4 + 4) rest).bind fun (n, rest) =>
        if 2 ^ 30 ≤ n ∧ 256 ^ (b.toNat / 4 + 3) ≤ n then some (n, rest) else none
    else none

example : encodeCompact 1 = [4] := by decide

example : decodeCompact 32 [0x15, 0x01] = some (69, []) := by decide

section Compact

variable {w : ℕ} {b : UInt8} {rest : List UInt8}

/-! The decoder's four modes, read off the first byte. -/

theorem decodeCompact_of_mode_zero (h : b.toNat % 4 = 0) :
    decodeCompact w (b :: rest) = some (b.toNat / 4, rest) := by
  simp [decodeCompact, h]

theorem decodeCompact_of_mode_one (h : b.toNat % 4 = 1) :
    decodeCompact w (b :: rest) = (decodeLE 1 rest).bind fun (x, rest) =>
      if 2 ^ 6 ≤ (b.toNat + 256 * x) / 4 then some ((b.toNat + 256 * x) / 4, rest) else none := by
  simp [decodeCompact, h]

theorem decodeCompact_of_mode_two (h : b.toNat % 4 = 2) :
    decodeCompact w (b :: rest) = (decodeLE 3 rest).bind fun (x, rest) =>
      if 2 ^ 14 ≤ (b.toNat + 256 * x) / 4 then some ((b.toNat + 256 * x) / 4, rest) else none := by
  simp [decodeCompact, h]

theorem decodeCompact_of_mode_three (h : b.toNat % 4 = 3) (hw : 8 * (b.toNat / 4 + 4) ≤ w) :
    decodeCompact w (b :: rest) = (decodeLE (b.toNat / 4 + 4) rest).bind fun (n, rest) =>
      if 2 ^ 30 ≤ n ∧ 256 ^ (b.toNat / 4 + 3) ≤ n then some (n, rest) else none := by
  simp [decodeCompact, h, hw]

variable (h8 : 8 ∣ w) (h32 : 32 ≤ w) (h67 : w ≤ 8 * 67)

include h8 h32 h67 in
/-- Every number below `2 ^ w` reads back from its compact form, in each of the four modes. -/
theorem decodeCompact_encodeCompact {n : ℕ} (hn : n < 2 ^ w) (rest : List UInt8) :
    decodeCompact w (encodeCompact n ++ rest) = some (n, rest) := by
  unfold encodeCompact
  split_ifs with h₀ h₁ h₂
  · -- one byte, `n << 2`
    have hmode : ((4 * n) % 256).toUInt8.toNat % 4 = 0 := by rw [toNat_toUInt8_mod]; omega
    rw [show encodeLE 1 (4 * n) ++ rest = ((4 * n) % 256).toUInt8 :: rest from rfl,
      decodeCompact_of_mode_zero hmode, toNat_toUInt8_mod]
    congr
    omega
  · -- two bytes, `n << 2 | 0b01`
    have hmode : ((4 * n + 1) % 256).toUInt8.toNat % 4 = 1 := by rw [toNat_toUInt8_mod]; omega
    rw [show encodeLE 2 (4 * n + 1) ++ rest =
        ((4 * n + 1) % 256).toUInt8 :: (encodeLE 1 ((4 * n + 1) / 256) ++ rest) from rfl,
      decodeCompact_of_mode_one hmode, decodeLE_encodeLE, Option.bind_some]
    dsimp only
    rw [toNat_toUInt8_mod, pow_one, if_pos (by omega)]
    congr
    omega
  · -- four bytes, `n << 2 | 0b10`
    have hmode : ((4 * n + 2) % 256).toUInt8.toNat % 4 = 2 := by rw [toNat_toUInt8_mod]; omega
    rw [show encodeLE 4 (4 * n + 2) ++ rest =
        ((4 * n + 2) % 256).toUInt8 :: (encodeLE 3 ((4 * n + 2) / 256) ++ rest) from rfl,
      decodeCompact_of_mode_two hmode, decodeLE_encodeLE, Option.bind_some]
    dsimp only
    rw [toNat_toUInt8_mod, if_pos (by omega)]
    congr
    omega
  · -- the byte `(k - 4) << 2 | 0b11`, then the `k` bytes `n` needs
    have hk := lt_pow_byteLength n
    have hk' := pow_byteLength_le (n := n) (by omega)
    -- `n` needs at least four bytes, and no more than `w` bits hold
    have hk4 : 4 ≤ byteLength n := by
      by_contra hlt
      have : 256 ^ byteLength n ≤ 256 ^ 3 := Nat.pow_le_pow_right (by norm_num) (by omega)
      omega
    have hkw : 8 * byteLength n ≤ w := by
      obtain ⟨m, rfl⟩ := h8
      have hpow : (2 : ℕ) ^ (8 * m) = 256 ^ m := by rw [pow_mul]; norm_num
      have hlt : byteLength n - 1 < m := by
        by_contra hge
        have : 256 ^ m ≤ 256 ^ (byteLength n - 1) := Nat.pow_le_pow_right (by norm_num) (by omega)
        omega
      omega
    have hmode : ((4 * (byteLength n - 4) + 3) % 256).toUInt8.toNat % 4 = 3 := by
      rw [toNat_toUInt8_mod]; omega
    have hlen : ((4 * (byteLength n - 4) + 3) % 256).toUInt8.toNat / 4 + 4 = byteLength n := by
      rw [toNat_toUInt8_mod]; omega
    rw [show encodeLE 1 (4 * (byteLength n - 4) + 3) ++ encodeLE (byteLength n) n ++ rest =
        ((4 * (byteLength n - 4) + 3) % 256).toUInt8 :: (encodeLE (byteLength n) n ++ rest)
        from rfl, decodeCompact_of_mode_three hmode (by rw [hlen]; exact hkw), hlen,
      decodeLE_encodeLE, Option.bind_some, Nat.mod_eq_of_lt hk]
    dsimp only
    have hlen' : ((4 * (byteLength n - 4) + 3) % 256).toUInt8.toNat / 4 + 3 = byteLength n - 1 := by
      omega
    rw [hlen', if_pos ⟨by omega, hk'⟩]

/-- `256 ^ k` is `2 ^ (8 * k)`. -/
theorem pow_256 (k : ℕ) : (256 : ℕ) ^ k = 2 ^ (8 * k) := by
  rw [pow_mul]
  norm_num

/-- A compact integer of `w ≥ 30` bits reads as a number below `2 ^ w`. -/
theorem lt_of_decodeCompact (h30 : 30 ≤ w) {bytes : List UInt8} {n : ℕ}
    (h : decodeCompact w bytes = some (n, rest)) : n < 2 ^ w := by
  have hpow : 2 ^ 30 ≤ 2 ^ w := Nat.pow_le_pow_right (by norm_num) h30
  match bytes, h with
  | b :: bytes, h =>
    have hb := b.toNat_lt
    have hmode : b.toNat % 4 = 0 ∨ b.toNat % 4 = 1 ∨ b.toNat % 4 = 2 ∨ b.toNat % 4 = 3 := by
      omega
    rcases hmode with hm | hm | hm | hm
    · rw [decodeCompact_of_mode_zero hm] at h
      obtain ⟨rfl, -⟩ := Prod.mk.inj (Option.some.inj h)
      omega
    · rw [decodeCompact_of_mode_one hm, Option.bind_eq_some_iff] at h
      obtain ⟨⟨x, rest'⟩, hx, h⟩ := h
      have hlt := lt_of_decodeLE hx
      dsimp only at h
      split at h
      · obtain ⟨rfl, -⟩ := Prod.mk.inj (Option.some.inj h)
        omega
      · cases h
    · rw [decodeCompact_of_mode_two hm, Option.bind_eq_some_iff] at h
      obtain ⟨⟨x, rest'⟩, hx, h⟩ := h
      have hlt := lt_of_decodeLE hx
      dsimp only at h
      split at h
      · obtain ⟨rfl, -⟩ := Prod.mk.inj (Option.some.inj h)
        omega
      · cases h
    · -- the long mode: at most `w / 8` bytes
      by_cases hw : 8 * (b.toNat / 4 + 4) ≤ w
      · rw [decodeCompact_of_mode_three hm hw, Option.bind_eq_some_iff] at h
        obtain ⟨⟨x, rest'⟩, hx, h⟩ := h
        have hlt := lt_of_decodeLE hx
        dsimp only at h
        split at h
        · obtain ⟨rfl, -⟩ := Prod.mk.inj (Option.some.inj h)
          calc x < 256 ^ (b.toNat / 4 + 4) := hlt
            _ = 2 ^ (8 * (b.toNat / 4 + 4)) := pow_256 _
            _ ≤ 2 ^ w := Nat.pow_le_pow_right (by norm_num) hw
        · cases h
      · simp [decodeCompact, hm, hw] at h

end Compact

/-- SCALE's `Compact<T>` for the unsigned integer `T` of `w` bits. -/
def compact (w : ℕ) : Codec (Fin (2 ^ w)) where
  encode a := encodeCompact a.val
  decode bytes :=
    (decodeCompact w bytes).bind fun (n, rest) =>
      if h : n < 2 ^ w then some (⟨n, h⟩, rest) else none

theorem lawful_compact {w : ℕ} (h8 : 8 ∣ w) (h32 : 32 ≤ w) (h67 : w ≤ 8 * 67) :
    (compact w).Lawful := by
  intro a rest
  simp [compact, decodeCompact_encodeCompact h8 h32 h67 a.isLt]

/-- The `Compact<u32>` length in front of a SCALE `Vec`. It is written for lengths below
`2 ^ 32` only: `compact_encode_len_to` refuses a longer collection. -/
def compactLength : Codec ℕ := ⟨encodeCompact, decodeCompact 32⟩

theorem lawfulOn_compactLength : compactLength.LawfulOn (Set.Iio (2 ^ 32)) :=
  ⟨fun _ hn rest => decodeCompact_encodeCompact (by norm_num) le_rfl (by norm_num) hn rest,
    fun h => lt_of_decodeCompact (by norm_num) h⟩

end Codec
