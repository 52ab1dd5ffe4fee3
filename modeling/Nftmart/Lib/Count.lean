import Mathlib

/-!
# Counting the entries of a partial map

A storage map is a function into `Option`. `entries m p` is the set of keys whose value
satisfies `p`, and `count m p` is its size in `ℕ∞`, defined for every map, finite or not. A
counter kept beside a map is correct when it equals such a count, and a proof of that follows
the writes: each write of one key changes the count by at most one, and the lemmas below say
by how much.

A map keyed by pairs is read one row at a time with `row`; a write to a pair changes only the
row of its first component.

## Main results

* `count_update_some_of_not_mem`, `count_update_of_mem_of_not` — a write that adds an entry
  adds one to the count; one that removes an entry takes one off.
* `count_update_of_not_mem_of_not`, `count_update_some_of_mem` — a write that keeps the key
  in or out of the entries keeps the count.
* `count_update_le`, `count_update_none_le` — a write adds at most one entry, a removal none.
* `row_update_self`, `row_update_of_ne` — writes to a pair-keyed map, row by row.
-/

namespace PartialMap

variable {ι β : Type*}

/-- The keys of `m` whose value satisfies `p`. -/
def entries (m : ι → Option β) (p : β → Prop) : Set ι :=
  {i | ∃ b, m i = some b ∧ p b}

/-- The number of keys of `m` whose value satisfies `p`. -/
noncomputable def count (m : ι → Option β) (p : β → Prop) : ℕ∞ :=
  (entries m p).encard

variable {m : ι → Option β} {p : β → Prop} {i j : ι} {b : β} {v : Option β}

@[simp] theorem mem_entries : i ∈ entries m p ↔ ∃ b, m i = some b ∧ p b := Iff.rfl

theorem not_mem_entries_of_none (h : m i = none) : i ∉ entries m p := by
  simp [h]

/-- A map with no value in `p` has a count of zero. -/
theorem count_eq_zero (h : ∀ i b, m i = some b → ¬ p b) : count m p = 0 := by
  rw [count, Set.encard_eq_zero, Set.eq_empty_iff_forall_notMem]
  rintro i ⟨b, hb, hp⟩
  exact h i b hb hp

/-- The count of the empty map. -/
theorem count_eq_zero_of_none (h : ∀ i, m i = none) : count m p = 0 :=
  count_eq_zero fun i b hb => by simp [h i] at hb

variable [DecidableEq ι]

theorem entries_update_some (hb : p b) :
    entries (Function.update m j (some b)) p = insert j (entries m p) := by
  ext i
  by_cases hij : i = j
  · subst hij
    simp [hb]
  · simp [hij]

theorem entries_update_of_not (hv : ∀ b, v = some b → ¬ p b) :
    entries (Function.update m j v) p = entries m p \ {j} := by
  ext i
  by_cases hij : i = j
  · subst hij
    simp only [mem_entries, Function.update_self, Set.mem_sdiff, Set.mem_singleton_iff,
      not_true_eq_false, and_false, iff_false, not_exists, not_and]
    exact hv
  · simp [hij]

/-- Writing a new entry adds one to the count. -/
theorem count_update_some_of_not_mem (hj : j ∉ entries m p) (hb : p b) :
    count (Function.update m j (some b)) p = count m p + 1 := by
  rw [count, entries_update_some hb, Set.encard_insert_of_notMem hj, count]

/-- Removing an entry, or overwriting it with a value outside `p`, takes one off the count. -/
theorem count_update_of_mem_of_not (hj : j ∈ entries m p) (hv : ∀ b, v = some b → ¬ p b) :
    count (Function.update m j v) p + 1 = count m p := by
  rw [count, entries_update_of_not hv, Set.encard_sdiff_singleton_add_one hj, count]

/-- Writing a key that is not an entry, with a value outside `p`, keeps the count. -/
theorem count_update_of_not_mem_of_not (hj : j ∉ entries m p) (hv : ∀ b, v = some b → ¬ p b) :
    count (Function.update m j v) p = count m p := by
  rw [count, entries_update_of_not hv, Set.sdiff_singleton_eq_self hj, count]

/-- One write adds at most one entry. -/
theorem count_update_le : count (Function.update m j v) p ≤ count m p + 1 := by
  have hsub : entries (Function.update m j v) p ⊆ insert j (entries m p) := by
    intro i hi
    by_cases hij : i = j
    · exact Or.inl hij
    · simpa [hij] using hi
  calc count (Function.update m j v) p ≤ (insert j (entries m p)).encard :=
        Set.encard_le_encard hsub
    _ ≤ count m p + 1 := Set.encard_insert_le _ _

/-- Removing a key adds no entry. -/
theorem count_update_none_le : count (Function.update m j none) p ≤ count m p := by
  rw [count, entries_update_of_not (v := none) (fun _ h => nomatch h)]
  exact Set.encard_le_encard Set.sdiff_subset

/-- Overwriting an entry with another value in `p` keeps the count. -/
theorem count_update_some_of_mem (hj : j ∈ entries m p) (hb : p b) :
    count (Function.update m j (some b)) p = count m p := by
  rw [count, entries_update_some hb, Set.insert_eq_of_mem hj, count]

/-- A number that is one more than a count is that count plus one: the count is finite, and
is the number minus one. -/
theorem natCast_sub_one_of_eq_add_one {n : ℕ} {c : ℕ∞} (h : (n : ℕ∞) = c + 1) :
    ((n - 1 : ℕ) : ℕ∞) = c := by
  have hc : c ≠ ⊤ := fun htop => by simp [htop] at h
  obtain ⟨m, rfl⟩ := ENat.ne_top_iff_exists.1 hc
  have hn : n = m + 1 := by exact_mod_cast h
  simp [hn]

/-! ## Maps keyed by pairs -/

variable {α : Type*}

/-- The row of a pair-keyed map at first component `a`. -/
def row (m : α × ι → Option β) (a : α) : ι → Option β :=
  fun i => m (a, i)

omit [DecidableEq ι] in
@[simp] theorem row_apply (m : α × ι → Option β) (a : α) (i : ι) : row m a i = m (a, i) := rfl

variable [DecidableEq α]

theorem row_update_self (m : α × ι → Option β) (a : α) (j : ι) (v : Option β) :
    row (Function.update m (a, j) v) a = Function.update (row m a) j v := by
  ext1 i
  by_cases hij : i = j
  · subst hij
    simp
  · simp [hij]

theorem row_update_of_ne (m : α × ι → Option β) {a a' : α} (h : a' ≠ a) (j : ι)
    (v : Option β) : row (Function.update m (a', j) v) a = row m a := by
  ext1 i
  have hne : (a, i) ≠ (a', j) := fun he => h (Prod.mk.inj he).1.symm
  simp [Function.update_of_ne hne]

end PartialMap
