import Mathlib

/-!
# Unsigned machine words

`UWord w` is an unsigned `w`-bit integer, represented as `Fin (2 ^ w)`, so that a value out of
range cannot be built. Plain `+` and `-` on `Fin` wrap, which is what Rust's unsigned
arithmetic does in a release build without overflow checks.

The other operations are the ones Rust's unsigned integers provide: `checked_add` and
`checked_sub` return `none` instead of wrapping, the `saturating_*` family clamps at `0` and
at `MAX`, `saturated_into` clamps a wider value, and `as` keeps the low `w` bits. Each is
defined through its `Nat` value, and each has a `@[simp]` lemma that reads that value back, so
that a goal about words becomes a goal about `Nat` that `omega` closes.

## Main results

* `checkedAdd_eq_some`, `checkedSub_eq_some` — the checked operations succeed exactly when
  the mathematical result is in range, and then return it.
* `val_saturatingAdd`, `val_saturatingSub`, `val_saturatingMul` — the saturating operations
  are the mathematical result clamped to `[0, MAX]`.
* `val_cast_of_le` — a widening `as` cast keeps the value.
-/

/-- An unsigned `w`-bit machine integer. -/
abbrev UWord (w : Nat) : Type := Fin (2 ^ w)

namespace UWord

variable {w : Nat}

theorem two_pow_pos' (w : Nat) : 0 < 2 ^ w := Nat.two_pow_pos w

/-- `MAX`, the largest `w`-bit value. -/
def max (w : Nat) : UWord w := ⟨2 ^ w - 1, by have := two_pow_pos' w; omega⟩

@[simp] theorem val_max (w : Nat) : (max w).val = 2 ^ w - 1 := rfl

/-- `saturated_into`: a natural number clamped to `MAX`. -/
def sat (n : Nat) : UWord w := ⟨min n (2 ^ w - 1), by
  have := two_pow_pos' w
  have := min_le_right n (2 ^ w - 1)
  omega⟩

@[simp] theorem val_sat (n : Nat) : (sat n : UWord w).val = min n (2 ^ w - 1) := rfl

/-- `checked_add`: the sum, or `none` when it does not fit. -/
def checkedAdd (a b : UWord w) : Option (UWord w) :=
  if h : a.val + b.val < 2 ^ w then some ⟨a.val + b.val, h⟩ else none

/-- `checked_sub`: the difference, or `none` when it would be negative. -/
def checkedSub (a b : UWord w) : Option (UWord w) :=
  if h : b.val ≤ a.val then some ⟨a.val - b.val, by have := a.isLt; omega⟩ else none

/-- `saturating_add`: the sum clamped to `MAX`. -/
def saturatingAdd (a b : UWord w) : UWord w := sat (a.val + b.val)

/-- `saturating_sub`: the difference clamped to `0`. -/
def saturatingSub (a b : UWord w) : UWord w := ⟨a.val - b.val, by have := a.isLt; omega⟩

/-- `saturating_mul`: the product clamped to `MAX`. -/
def saturatingMul (a b : UWord w) : UWord w := sat (a.val * b.val)

/-- `x as uW`: the low `w` bits of a word of any width. -/
def cast {v : Nat} (x : UWord v) : UWord w :=
  ⟨x.val % 2 ^ w, Nat.mod_lt _ (two_pow_pos' w)⟩

/-- `n as uW` for a natural number `n` (a `usize` length): its low `w` bits. -/
def ofNat (n : Nat) : UWord w := ⟨n % 2 ^ w, Nat.mod_lt _ (two_pow_pos' w)⟩

@[simp] theorem val_ofNat (n : Nat) : (ofNat n : UWord w).val = n % 2 ^ w := rfl

@[simp] theorem val_saturatingAdd (a b : UWord w) :
    (saturatingAdd a b).val = min (a.val + b.val) (2 ^ w - 1) := rfl

@[simp] theorem val_saturatingSub (a b : UWord w) :
    (saturatingSub a b).val = a.val - b.val := rfl

@[simp] theorem val_saturatingMul (a b : UWord w) :
    (saturatingMul a b).val = min (a.val * b.val) (2 ^ w - 1) := rfl

@[simp] theorem val_cast {v : Nat} (x : UWord v) : (cast x : UWord w).val = x.val % 2 ^ w := rfl

/-- A widening cast keeps the value. -/
theorem val_cast_of_le {v : Nat} (x : UWord v) (h : v ≤ w) : (cast x : UWord w).val = x.val := by
  have hlt : x.val < 2 ^ w :=
    Nat.lt_of_lt_of_le x.isLt (Nat.pow_le_pow_right (by decide) h)
  simp [Nat.mod_eq_of_lt hlt]

theorem checkedAdd_eq_some {a b c : UWord w} :
    checkedAdd a b = some c ↔ a.val + b.val < 2 ^ w ∧ c.val = a.val + b.val := by
  unfold checkedAdd
  split
  · rename_i h
    constructor
    · rintro ⟨⟩
      exact ⟨h, rfl⟩
    · rintro ⟨-, hc⟩
      exact congrArg some (Fin.ext hc.symm)
  · rename_i h
    simp only [reduceCtorEq, false_iff, not_and]
    intro hlt
    exact absurd hlt h

theorem checkedSub_eq_some {a b c : UWord w} :
    checkedSub a b = some c ↔ b.val ≤ a.val ∧ c.val = a.val - b.val := by
  unfold checkedSub
  split
  · rename_i h
    constructor
    · rintro ⟨⟩
      exact ⟨h, rfl⟩
    · rintro ⟨-, hc⟩
      exact congrArg some (Fin.ext hc.symm)
  · rename_i h
    simp only [reduceCtorEq, false_iff, not_and]
    intro hle
    exact absurd hle h

theorem checkedSub_eq_none {a b : UWord w} :
    checkedSub a b = none ↔ a.val < b.val := by
  unfold checkedSub
  split <;> simp <;> omega

/-- Wrapping subtraction of a smaller word is exact. -/
theorem val_sub_of_le {a b : UWord w} (h : b.val ≤ a.val) : (a - b).val = a.val - b.val :=
  Fin.sub_val_of_le h

/-- Wrapping addition that stays in range is exact. -/
theorem val_add_of_lt {a b : UWord w} (h : a.val + b.val < 2 ^ w) :
    (a + b).val = a.val + b.val := by
  rw [Fin.val_add, Nat.mod_eq_of_lt h]

end UWord
