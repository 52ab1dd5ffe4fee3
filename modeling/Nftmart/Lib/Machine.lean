import Mathlib

/-!
# Runs of a deterministic state machine

A system is a step function `step : σ → α → σ`, total: an action the system refuses leaves the
state as it was. `run step s as` is the state after the actions `as` from `s`, and `Reachable`
is the set of states some run reaches from an initial state.

Two induction rules cover the properties proved about such systems here.

* `Reachable.induction` — an invariant that holds initially and is kept by every step (from a
  state where the invariant already holds) holds in every reachable state.
* `run_keeps_while` — a property `R` that one step keeps whenever a side condition `Q` holds
  before and after the step, holds at the end of any run along which `Q` never fails. This is
  the shape of "as long as the order exists, its owner keeps the token".

## Main results

* `reachable_run` — a run from a reachable state ends in a reachable state.
* `Reachable.induction`, `run_keeps_while`, `rel_run`.
* `run_le_add_length` — a quantity no step raises by more than `c` grows by at most `c` a step.
* `foldlM_preserves` — the same for a run in `Option`, which may stop.
-/

namespace Machine

variable {σ α : Type}

/-- The state after the actions `as`, from `s`. -/
def run (step : σ → α → σ) (s : σ) (as : List α) : σ := as.foldl step s

@[simp] theorem run_nil (step : σ → α → σ) (s : σ) : run step s [] = s := rfl

@[simp] theorem run_cons (step : σ → α → σ) (s : σ) (a : α) (as : List α) :
    run step s (a :: as) = run step (step s a) as := rfl

theorem run_append (step : σ → α → σ) (s : σ) (as bs : List α) :
    run step s (as ++ bs) = run step (run step s as) bs := by
  simp [run, List.foldl_append]

/-- The states a run from an initial state can reach. -/
inductive Reachable (init : σ → Prop) (step : σ → α → σ) : σ → Prop where
  | init {s : σ} : init s → Reachable init step s
  | step {s : σ} (a : α) : Reachable init step s → Reachable init step (step s a)

section Reachable

variable {init : σ → Prop} {step : σ → α → σ}

/-- A run from a reachable state ends in a reachable state. -/
theorem reachable_run {s : σ} (hs : Reachable init step s) (as : List α) :
    Reachable init step (run step s as) := by
  induction as generalizing s with
  | nil => exact hs
  | cons a as ih => exact ih (Reachable.step a hs)

/-- A run from an initial state ends in a reachable state. -/
theorem reachable_of_init {s : σ} (hs : init s) (as : List α) :
    Reachable init step (run step s as) :=
  reachable_run (Reachable.init hs) as

/-- The invariant rule: what holds initially and is kept by every step holds in every
reachable state. -/
theorem Reachable.induction {I : σ → Prop} (hinit : ∀ s, init s → I s)
    (hstep : ∀ s a, I s → I (step s a)) {s : σ} (hs : Reachable init step s) : I s := by
  induction hs with
  | init h => exact hinit _ h
  | step a _ ih => exact hstep _ a ih

end Reachable

/-- A property that every step keeps holds at the end of a run that may stop, a `foldlM` in
`Option`, when it reaches one. -/
theorem foldlM_preserves {step : σ → α → Option σ} {P : σ → Prop}
    (hstep : ∀ s a s', P s → step s a = some s' → P s') :
    ∀ (as : List α) (s s' : σ), P s → as.foldlM step s = some s' → P s'
  | [], s, s', hs, h => by
    obtain rfl := Option.some.inj h
    exact hs
  | a :: as, s, s', hs, h => by
    rw [List.foldlM_cons] at h
    obtain ⟨s₁, h₁, h₂⟩ := Option.bind_eq_some_iff.1 h
    exact foldlM_preserves hstep as s₁ s' (hstep s a s₁ hs h₁) h₂

/-- A reflexive, transitive relation that relates every state to its successors relates every
state to the end of every run from it. -/
theorem rel_run {step : σ → α → σ} {R : σ → σ → Prop} [Std.Refl R] [IsTrans σ R]
    (hstep : ∀ s a, R s (step s a)) : ∀ (as : List α) (s : σ), R s (run step s as) := by
  intro as
  induction as with
  | nil => exact fun s => refl_of R s
  | cons a as ih => exact fun s => trans_of R (hstep s a) (ih (step s a))

/-- A property `R` that one step keeps, from a state satisfying `Inv`, whenever `Q` holds
before and after the step, holds at the end of every run along which `Q` holds throughout. -/
theorem run_keeps_while {step : σ → α → σ} {Inv Q R : σ → Prop}
    (hinv : ∀ s a, Inv s → Inv (step s a))
    (hkeep : ∀ s a, Inv s → Q s → Q (step s a) → R s → R (step s a)) :
    ∀ (as : List α) (s : σ), Inv s → R s →
      (∀ n, n ≤ as.length → Q (run step s (as.take n))) → R (run step s as) := by
  intro as
  induction as with
  | nil => intro s _ hR _; exact hR
  | cons a as ih =>
      intro s hI hR hQ
      have hQ₀ : Q s := by simpa using hQ 0 (Nat.zero_le _)
      have hQ₁ : Q (step s a) := by simpa using hQ 1 (by simp)
      have hQrest : ∀ n, n ≤ as.length → Q (run step (step s a) (as.take n)) := by
        intro n hn
        simpa using hQ (n + 1) (by simp; omega)
      exact ih (step s a) (hinv s a hI) (hkeep s a hI hQ₀ hQ₁ hR) hQrest

/-- A quantity that no step raises by more than `c` is, at the end of a run, at most its start
plus `c` for each action. -/
theorem run_le_add_length {M : Type} [AddCommMonoid M] [PartialOrder M] [IsOrderedAddMonoid M]
    {step : σ → α → σ} {f : σ → M} {c : M} (hstep : ∀ s a, f (step s a) ≤ f s + c) :
    ∀ (as : List α) (s : σ), f (run step s as) ≤ f s + as.length • c := by
  intro as
  induction as with
  | nil => intro s; simp
  | cons a as ih =>
    intro s
    calc f (run step s (a :: as)) ≤ f (step s a) + as.length • c := ih (step s a)
      _ ≤ f s + c + as.length • c := by gcongr; exact hstep s a
      _ = f s + (a :: as).length • c := by rw [List.length_cons, succ_nsmul', add_assoc]

end Machine
