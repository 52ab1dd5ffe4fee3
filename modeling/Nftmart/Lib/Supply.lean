import Mathlib

/-!
# Supplies: amounts summed over finitely many holders

A store that keeps a record for each holder, out of finitely many, has a supply: the sum over
all holders of the amount `q` reads off each record. An operation writes the records of a few
holders, so its effect on the supply is read off those records alone. The lemmas state that
effect additively (the new supply plus the old amounts is the old supply plus the new amounts),
so that no truncated subtraction gets in the way.

A store keyed by pairs has one supply per second component: the supply of its `column`.

## Main results

* `supply_update_add` — one record rewritten.
* `supply_add_of_eq_off` — a store that agrees with another off one holder.
* `le_supply`, `add_le_supply` — no holder, and no two holders, hold more than the supply.
* `supply_le_supply` — amounts that go down take the supply down.
* `column_update_self`, `column_update_of_ne` — writes to a pair-keyed store, column by column.
-/

namespace Supply

open Finset

variable {ι κ α : Type*}

/-- The supply of the store `m`: the amounts `q` of all its records, summed. -/
def supply [Fintype ι] (q : α → ℕ) (m : ι → α) : ℕ :=
  ∑ i, q (m i)

/-- The column `k` of a store keyed by pairs: the records whose second key is `k`. -/
def column (m : ι × κ → α) (k : κ) : ι → α :=
  fun i => m (i, k)

@[simp] theorem column_apply (m : ι × κ → α) (k : κ) (i : ι) : column m k i = m (i, k) := rfl

section Column

variable [DecidableEq ι] [DecidableEq κ]

theorem column_update_self (m : ι × κ → α) (i : ι) (k : κ) (v : α) :
    column (Function.update m (i, k) v) k = Function.update (column m k) i v := by
  ext1 j
  by_cases hj : j = i
  · subst hj
    simp
  · have hne : (j, k) ≠ (i, k) := fun he => hj (Prod.mk.inj he).1
    simp [Function.update_of_ne hj, Function.update_of_ne hne]

theorem column_update_of_ne (m : ι × κ → α) (i : ι) {k k' : κ} (h : k' ≠ k) (v : α) :
    column (Function.update m (i, k') v) k = column m k := by
  ext1 j
  have hne : (j, k) ≠ (i, k') := fun he => h (Prod.mk.inj he).2.symm
  simp [Function.update_of_ne hne]

end Column

variable [Fintype ι] (q : α → ℕ)

theorem le_supply (m : ι → α) (i : ι) : q (m i) ≤ supply q m :=
  single_le_sum (f := fun j => q (m j)) (fun _ _ => Nat.zero_le _) (mem_univ i)

/-- A store whose every amount went down has the smaller supply. -/
theorem supply_le_supply {m m' : ι → α} (h : ∀ i, q (m' i) ≤ q (m i)) :
    supply q m' ≤ supply q m :=
  sum_le_sum fun i _ => h i

theorem supply_eq_zero {m : ι → α} (h : ∀ i, q (m i) = 0) : supply q m = 0 :=
  sum_eq_zero fun i _ => h i

/-- Two holders together hold no more than the supply. -/
theorem add_le_supply [DecidableEq ι] (m : ι → α) {i j : ι} (hij : i ≠ j) :
    q (m i) + q (m j) ≤ supply q m :=
  calc q (m i) + q (m j) = ∑ k ∈ {i, j}, q (m k) := (sum_pair (f := fun k => q (m k)) hij).symm
    _ ≤ supply q m := sum_le_sum_of_subset (subset_univ _)

section Update

variable [DecidableEq ι]

/-- Rewriting the record of `i` with `v` trades its amount for that of `v`. -/
theorem supply_update_add (m : ι → α) (i : ι) (v : α) :
    supply q (Function.update m i v) + q (m i) = supply q m + q v := by
  unfold supply
  have hupdate : ∑ j, q (Function.update m i v j) =
      ∑ j, Function.update (fun j => q (m j)) i (q v) j :=
    sum_congr rfl fun j _ => by
      by_cases hj : j = i
      · subst hj
        simp
      · simp [Function.update_of_ne hj]
  rw [hupdate, sum_update_of_mem (mem_univ i), ← add_sum_erase univ _ (mem_univ i),
    sdiff_singleton_eq_erase]
  ring

/-- A store that agrees with `m` off `i`: the supply changes by what the record of `i` does. -/
theorem supply_add_of_eq_off {m m' : ι → α} {i : ι} (h : ∀ j, j ≠ i → m' j = m j) :
    supply q m' + q (m i) = supply q m + q (m' i) := by
  have hm' : Function.update m i (m' i) = m' := by
    funext j
    by_cases hj : j = i
    · subst hj
      simp
    · simp [Function.update_of_ne hj, h j hj]
  have hupdate := supply_update_add q m i (m' i)
  rwa [hm'] at hupdate

end Update

end Supply
