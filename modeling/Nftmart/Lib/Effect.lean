import Mathlib

/-!
# Effects of code that writes a store and can fail

Code that reads and writes a store, and can stop with an error, is modelled in `EStateM ε σ`.
An error carries the state reached so far: a write that happened before the failure stays in
the store, as it does in a key-value store written in place. The combinators below give the
other shapes such code takes.

* `transactional m` undoes every write of `m` when `m` fails.
* `zoom get set m` runs `m`, written against one part of the state, inside the whole state.
* `ensure` and `okOr` are the guard forms: fail unless a condition holds or a value is present.
* `iterate n m` runs `m` `n` times, stopping at the first error.

Proofs about such code go one bind at a time. `run_bind_eq_ok` inverts a successful bind into
its two halves, so a proof about a long `do` block is a chain of `obtain`s, one per step, with
the lemma of each step's operation applied by name, and no unfolding of the whole block.

## Main results

* `run_bind_eq_ok`, `run_bind_eq_error` — inversion of a bind that succeeded or failed.
* `run_transactional_eq_error` — a failed transaction leaves the state as it found it.
* `run_zoom_eq_ok` — a zoomed computation changes only its own part.
* `Keeps.bind`, `Keeps.zoom`, `Keeps.zoom_of` — frame conditions follow the program, one rule per
  combinator.
-/

namespace Effect

open EStateM (Result)

variable {ε σ τ α β : Type}

/-! ## Combinators -/

/-- Fail with `e` unless `c` holds. -/
def ensure (c : Bool) (e : ε) : EStateM ε σ Unit :=
  if c then pure () else throw e

/-- The value inside `o`, or fail with `e` when there is none. -/
def okOr (o : Option α) (e : ε) : EStateM ε σ α :=
  match o with
  | some a => pure a
  | none => throw e

/-- Run a computation that can fail but does not touch the state. -/
def ofExcept (x : Except ε α) : EStateM ε σ α := fun s =>
  match x with
  | .ok a => .ok a s
  | .error e => .error e s

/-- Run `m` as one transaction: on error, every write it made is undone. -/
def transactional (m : EStateM ε σ α) : EStateM ε σ α := fun s =>
  match m s with
  | .ok a s' => .ok a s'
  | .error e _ => .error e s

/-- Run `m`, written against the part `get s` of the state, and write the part back with
`set`, on success and on error alike. -/
def zoom (get : σ → τ) (set : τ → σ → σ) (m : EStateM ε τ α) : EStateM ε σ α := fun s =>
  match m (get s) with
  | .ok a t => .ok a (set t s)
  | .error e t => .error e (set t s)

/-- `let _ = m;`: run `m` and drop its error. The writes it made before failing stay. -/
def attempt (m : EStateM ε σ α) : EStateM ε σ Unit := fun s =>
  match m s with
  | .ok _ s' => .ok () s'
  | .error _ s' => .ok () s'

/-- The state a run ends in, whether it succeeded or failed. -/
def stateOf : Result ε σ α → σ
  | .ok _ s => s
  | .error _ s => s

/-- The error a run stopped with, or `none` when it succeeded. -/
def errorOf : Result ε σ α → Option ε
  | .ok _ _ => none
  | .error e _ => some e

/-- Run `m` `n` times in sequence, stopping at the first error. -/
def iterate : Nat → EStateM ε σ α → EStateM ε σ Unit
  | 0, _ => pure ()
  | n + 1, m => m >>= fun _ => iterate n m

/-! ## Inversion of binds -/

theorem run_bind_eq_ok {x : EStateM ε σ α} {f : α → EStateM ε σ β} {s s'' : σ} {b : β} :
    (x >>= f).run s = .ok b s'' ↔ ∃ a s', x.run s = .ok a s' ∧ (f a).run s' = .ok b s'' := by
  rw [EStateM.run_bind]
  cases h : x.run s with
  | ok a s' => simp
  | error e s' => simp

theorem run_bind_eq_error {x : EStateM ε σ α} {f : α → EStateM ε σ β} {s s'' : σ} {e : ε} :
    (x >>= f).run s = .error e s'' ↔
      x.run s = .error e s'' ∨ ∃ a s', x.run s = .ok a s' ∧ (f a).run s' = .error e s'' := by
  rw [EStateM.run_bind]
  cases h : x.run s with
  | ok a s' => simp
  | error e' s' => simp

/-! ## Guards and reads -/

theorem run_ensure (c : Bool) (e : ε) (s : σ) :
    (ensure c e : EStateM ε σ Unit).run s = if c then .ok () s else .error e s := by
  cases c <;> rfl

theorem run_ensure_eq_ok {c : Bool} {e : ε} {s s' : σ} {u : Unit} :
    (ensure c e : EStateM ε σ Unit).run s = .ok u s' ↔ c = true ∧ s = s' := by
  rw [run_ensure]
  cases c <;> simp [eq_comm]

theorem run_ensure_eq_error {c : Bool} {e e' : ε} {s s' : σ} :
    (ensure c e : EStateM ε σ Unit).run s = .error e' s' ↔ c = false ∧ e' = e ∧ s' = s := by
  rw [run_ensure]
  cases c <;> simp [eq_comm]

theorem run_okOr (o : Option α) (e : ε) (s : σ) :
    (okOr o e : EStateM ε σ α).run s =
      match o with
      | some a => .ok a s
      | none => .error e s := by
  cases o <;> rfl

theorem run_okOr_eq_ok {o : Option α} {e : ε} {s s' : σ} {a : α} :
    (okOr o e : EStateM ε σ α).run s = .ok a s' ↔ o = some a ∧ s = s' := by
  rw [run_okOr]
  cases o <;> simp [eq_comm]

theorem run_okOr_eq_error {o : Option α} {e e' : ε} {s s' : σ} :
    (okOr o e : EStateM ε σ α).run s = .error e' s' ↔ o = none ∧ e' = e ∧ s' = s := by
  rw [run_okOr]
  cases o <;> simp [eq_comm]

theorem run_ofExcept_eq_ok {x : Except ε α} {s s' : σ} {a : α} :
    (ofExcept x : EStateM ε σ α).run s = .ok a s' ↔ x = .ok a ∧ s = s' := by
  show (match x with | .ok a => Result.ok a s | .error e => .error e s) = _ ↔ _
  cases x <;> simp [eq_comm]

theorem run_ofExcept_eq_error {x : Except ε α} {s s' : σ} {e : ε} :
    (ofExcept x : EStateM ε σ α).run s = .error e s' ↔ x = .error e ∧ s' = s := by
  show (match x with | .ok a => Result.ok a s | .error e => .error e s) = _ ↔ _
  cases x <;> simp [eq_comm]

@[simp] theorem run_throw (e : ε) (s : σ) :
    (throw e : EStateM ε σ α).run s = .error e s := rfl

theorem run_get_eq_ok {s s' a : σ} :
    (get : EStateM ε σ σ).run s = .ok a s' ↔ s = a ∧ s = s' := by
  simp [EStateM.run_get]

theorem run_pure_eq_ok {a b : α} {s s' : σ} :
    (pure a : EStateM ε σ α).run s = .ok b s' ↔ b = a ∧ s = s' := by
  simp [eq_comm]

theorem run_modify_eq_ok {f : σ → σ} {s s' : σ} {u : PUnit} :
    (modify f : EStateM ε σ PUnit).run s = .ok u s' ↔ s' = f s := by
  simp [eq_comm]

/-! ## Transactions -/

theorem run_transactional_eq_ok {m : EStateM ε σ α} {s s' : σ} {a : α} :
    (transactional m).run s = .ok a s' ↔ m.run s = .ok a s' := by
  show (match m s with | .ok a s' => Result.ok a s' | .error e _ => .error e s) = _ ↔ _
  cases h : m s <;> simp [EStateM.run, h]

/-- A failed transaction leaves the state as it found it. -/
theorem run_transactional_eq_error {m : EStateM ε σ α} {s s' : σ} {e : ε} :
    (transactional m).run s = .error e s' ↔ (∃ t, m.run s = .error e t) ∧ s' = s := by
  show (match m s with | .ok a s' => Result.ok a s' | .error e _ => .error e s) = _ ↔ _
  cases h : m s <;> simp [EStateM.run, h, eq_comm]

/-! ## Zooming into a part of the state -/

theorem run_zoom (get : σ → τ) (set : τ → σ → σ) (m : EStateM ε τ α) (s : σ) :
    (zoom get set m).run s =
      match m.run (get s) with
      | .ok a t => .ok a (set t s)
      | .error e t => .error e (set t s) := rfl

theorem run_zoom_eq_ok {get : σ → τ} {set : τ → σ → σ} {m : EStateM ε τ α} {s s' : σ} {a : α} :
    (zoom get set m).run s = .ok a s' ↔ ∃ t, m.run (get s) = .ok a t ∧ s' = set t s := by
  show (match m (get s) with | .ok a t => Result.ok a (set t s) | .error e t => .error e (set t s))
    = _ ↔ _
  cases h : m (get s) <;> simp [EStateM.run, h, eq_comm]

/-! ## Dropped errors -/

/-- `attempt m` always succeeds, in the state `m` ends in. -/
theorem run_attempt (m : EStateM ε σ α) (s : σ) :
    (attempt m).run s = .ok () (stateOf (m.run s)) := by
  show (match m s with | .ok _ s' => Result.ok () s' | .error _ s' => .ok () s') = _
  cases h : m s <;> simp [EStateM.run, h, stateOf]

@[simp] theorem stateOf_ok (a : α) (s : σ) : stateOf (.ok a s : Result ε σ α) = s := rfl

@[simp] theorem stateOf_error (e : ε) (s : σ) : stateOf (.error e s : Result ε σ α) = s := rfl

/-- A run of a `Unit` computation that stopped with no error succeeded, in the state it ended
in. -/
theorem eq_ok_of_errorOf {r : Result ε σ Unit} (h : errorOf r = none) :
    r = .ok () (stateOf r) := by
  cases r with
  | ok u s => rfl
  | error e s => cases h

/-- A run that stopped with `e` is that error, in the state it ended in. -/
theorem eq_error_of_errorOf {r : Result ε σ α} {e : ε} (h : errorOf r = some e) :
    r = .error e (stateOf r) := by
  cases r with
  | ok a s => cases h
  | error e' s =>
    obtain rfl := Option.some.inj h
    rfl

/-! ## Repetition -/

theorem iterate_zero (m : EStateM ε σ α) : iterate 0 m = pure () := rfl

theorem iterate_succ (n : Nat) (m : EStateM ε σ α) :
    iterate (n + 1) m = m >>= fun _ => iterate n m := rfl

theorem run_iterate_zero_eq_ok {m : EStateM ε σ α} {s s' : σ} {u : Unit} :
    (iterate 0 m).run s = .ok u s' ↔ s = s' := by
  simp [iterate_zero, eq_comm]

theorem run_iterate_succ_eq_ok {n : Nat} {m : EStateM ε σ α} {s s'' : σ} {u : Unit} :
    (iterate (n + 1) m).run s = .ok u s'' ↔
      ∃ a s', m.run s = .ok a s' ∧ (iterate n m).run s' = .ok u s'' := by
  rw [iterate_succ, run_bind_eq_ok]

/-- A property of the state that every successful run of `m` keeps is kept by every successful
run of `iterate n m`. -/
theorem iterate_preserves {P : σ → Prop} {m : EStateM ε σ α}
    (hm : ∀ s a s', P s → m.run s = .ok a s' → P s') :
    ∀ n s s' (u : Unit), P s → (iterate n m).run s = .ok u s' → P s' := by
  intro n
  induction n with
  | zero =>
    intro s s' u hs h
    rw [run_iterate_zero_eq_ok] at h
    exact h ▸ hs
  | succ n ih =>
    intro s s'' u hs h
    obtain ⟨a, s', h₁, h₂⟩ := run_iterate_succ_eq_ok.1 h
    exact ih s' s'' u (hm s a s' hs h₁) h₂

/-! ## Frames

`Keeps r m` says that every run of `m`, successful or not, ends in a state that `r` relates to
the state it started from. With `r` reflexive and transitive it is a frame condition ("`m`
changes at most what `r` allows"), and it is built up along the program: the rules below follow
the combinators, so a frame lemma for a `do` block is one rule per step. -/

/-- Every run of `m` ends in a state related by `r` to the one it started from. -/
def Keeps (r : σ → σ → Prop) (m : EStateM ε σ α) : Prop :=
  ∀ s, r s (stateOf (m.run s))

/-- `P` holds after whenever it held before: `Keeps (Preserves P) m` says that `m` keeps the
invariant `P`. -/
def Preserves (P : σ → Prop) (s s' : σ) : Prop :=
  P s → P s'

instance (P : σ → Prop) : Std.Refl (Preserves P) := ⟨fun _ h => h⟩

instance (P : σ → Prop) : IsTrans σ (Preserves P) := ⟨fun _ _ _ h₁ h₂ h => h₂ (h₁ h)⟩

namespace Keeps

variable {r : σ → σ → Prop}

theorem of_ok {m : EStateM ε σ α} (h : Keeps r m) {s s' : σ} {a : α}
    (hrun : m.run s = .ok a s') : r s s' := by
  simpa [hrun] using h s

theorem of_error {m : EStateM ε σ α} (h : Keeps r m) {s s' : σ} {e : ε}
    (hrun : m.run s = .error e s') : r s s' := by
  simpa [hrun] using h s

theorem pure [Std.Refl r] (a : α) : Keeps r (Pure.pure a : EStateM ε σ α) :=
  fun s => refl_of r s

theorem throw [Std.Refl r] (e : ε) : Keeps r (MonadExcept.throw e : EStateM ε σ α) :=
  fun s => refl_of r s

theorem get [Std.Refl r] : Keeps r (MonadState.get : EStateM ε σ σ) :=
  fun s => refl_of r s

theorem modify {f : σ → σ} (h : ∀ s, r s (f s)) :
    Keeps r (modify f : EStateM ε σ PUnit) :=
  h

theorem bind [IsTrans σ r] {x : EStateM ε σ α} {f : α → EStateM ε σ β} (hx : Keeps r x)
    (hf : ∀ a, Keeps r (f a)) : Keeps r (x >>= f) := by
  intro s
  rw [EStateM.run_bind]
  cases hrun : x.run s with
  | ok a s₁ => exact trans_of r (hx.of_ok hrun) (hf a s₁)
  | error e s₁ => exact hx.of_error hrun

theorem ite {c : Prop} [Decidable c] {x y : EStateM ε σ α} (hx : Keeps r x)
    (hy : Keeps r y) :
    Keeps r (if c then x else y) := by
  split
  · exact hx
  · exact hy

theorem ensure [Std.Refl r] (c : Bool) (e : ε) :
    Keeps r (Effect.ensure c e : EStateM ε σ Unit) := by
  cases c
  · exact Keeps.throw e
  · exact Keeps.pure ()

theorem okOr [Std.Refl r] (o : Option α) (e : ε) :
    Keeps r (Effect.okOr o e : EStateM ε σ α) := by
  cases o
  · exact Keeps.throw e
  · exact Keeps.pure _

theorem ofExcept [Std.Refl r] (x : Except ε α) : Keeps r (Effect.ofExcept x : EStateM ε σ α) := by
  intro s
  cases x <;> exact refl_of r s

theorem attempt {m : EStateM ε σ α} (h : Keeps r m) : Keeps r (Effect.attempt m) := by
  intro s
  rw [run_attempt]
  exact h s

theorem zoom {get : σ → τ} {set : τ → σ → σ} (hset : ∀ t s, r s (set t s))
    (m : EStateM ε τ α) : Keeps r (Effect.zoom get set m) := by
  intro s
  show r s (stateOf (match m (get s) with
    | .ok a t => Result.ok a (set t s) | .error e t => .error e (set t s)))
  cases m (get s) <;> exact hset _ _

/-- A zoomed computation keeps `r` when what it may do to its part, `r'`, gives `r` of the whole
once written back. -/
theorem zoom_of {r' : τ → τ → Prop} {get : σ → τ} {set : τ → σ → σ} {m : EStateM ε τ α}
    (hm : Keeps r' m) (hset : ∀ s t, r' (get s) t → r s (set t s)) :
    Keeps r (Effect.zoom get set m) := by
  intro s
  have hpart := hm (get s)
  show r s (stateOf (match m (get s) with
    | .ok a t => Result.ok a (set t s) | .error e t => .error e (set t s)))
  change r' (get s) (stateOf (m (get s))) at hpart
  cases h : m (get s) with
  | ok a t => exact hset s t (by rw [h] at hpart; exact hpart)
  | error e t => exact hset s t (by rw [h] at hpart; exact hpart)

end Keeps

/-! ## Code that cannot fail

`NoFail m` says that every run of `m` succeeds. A helper that cannot fail is one whose
writes can never be left half done, which is what the callers that drop errors rely on. -/

/-- Every run of `m` succeeds. -/
def NoFail (m : EStateM ε σ α) : Prop :=
  ∀ s, ∃ a s', m.run s = .ok a s'

namespace NoFail

theorem ne_error {m : EStateM ε σ α} (h : NoFail m) (s s' : σ) (e : ε) :
    m.run s ≠ .error e s' := by
  obtain ⟨a, t, ht⟩ := h s
  rw [ht]
  exact fun h => nomatch h

theorem pure (a : α) : NoFail (Pure.pure a : EStateM ε σ α) :=
  fun s => ⟨a, s, rfl⟩

theorem get : NoFail (MonadState.get : EStateM ε σ σ) :=
  fun s => ⟨s, s, rfl⟩

theorem modify (f : σ → σ) : NoFail (modify f : EStateM ε σ PUnit) :=
  fun s => ⟨⟨⟩, f s, rfl⟩

theorem ofExcept_ok (a : α) : NoFail (ofExcept (.ok a) : EStateM ε σ α) :=
  fun s => ⟨a, s, rfl⟩

theorem bind {x : EStateM ε σ α} {f : α → EStateM ε σ β} (hx : NoFail x)
    (hf : ∀ a, NoFail (f a)) : NoFail (x >>= f) := by
  intro s
  obtain ⟨a, s₁, h₁⟩ := hx s
  obtain ⟨b, s₂, h₂⟩ := hf a s₁
  exact ⟨b, s₂, run_bind_eq_ok.2 ⟨a, s₁, h₁, h₂⟩⟩

theorem ite {c : Prop} [Decidable c] {x y : EStateM ε σ α} (hx : NoFail x) (hy : NoFail y) :
    NoFail (if c then x else y) := by
  split
  · exact hx
  · exact hy

theorem zoom {get : σ → τ} {set : τ → σ → σ} {m : EStateM ε τ α} (h : NoFail m) :
    NoFail (Effect.zoom get set m) := by
  intro s
  obtain ⟨a, t, ht⟩ := h (get s)
  exact ⟨a, set t s, run_zoom_eq_ok.2 ⟨t, ht, rfl⟩⟩

end NoFail

end Effect
