import Mathlib
import Nftmart.Lib.Effect
import Nftmart.Model.Runtime

/-!
# The currency back-ends: what `reserve`, `unreserve` and `transfer` do

Specifications of the money operations the NFT pallet calls, on the back-ends' own stores.

`unreserve` never fails, in either back-end: it moves what it can and returns the rest. This is
what makes `delete_order` all-or-nothing, since its only possible failure comes before the
first `unreserve`.

`pallet_balances` writes every account through `post_mutation`, which removes an account whose
total is below the existential deposit. So no account it has written holds dust (`NoDust`), and
on such balances `reserve` moves exactly the amount asked from free to reserved.

## Main results

* `Balances.unreserve_noFail`, `Tokens.unreserve_noFail`, `MultiCurrency.unreserve_noFail` —
  releasing reserved funds cannot fail.
* `Balances.reserve_noDust`, `Balances.unreserve_noDust`, `Balances.transfer_noDust` — no
  operation leaves dust.
* `Balances.reserve_ok` — a successful `reserve` on balances without dust moves `value`.
-/

namespace Nftmart

open Effect

variable {AccountId : Type} [DecidableEq AccountId]

namespace Balances

theorem tryMutateAccount_noFail {α : Type} (ed : Balance) (who : AccountId)
    (f : AccountData → AccountData × α) :
    NoFail (tryMutateAccount ed who fun account => .ok (f account)) := by
  unfold tryMutateAccount writeAccount
  exact NoFail.bind NoFail.get fun _ =>
    NoFail.bind (NoFail.ofExcept_ok _) fun _ => NoFail.bind (NoFail.modify _) fun _ => NoFail.pure _

theorem unreserve_noFail (ed : Balance) (who : AccountId) (value : Balance) :
    NoFail (unreserve ed who value) := by
  unfold unreserve
  -- the two early returns, then the mutation, whose closure always succeeds
  refine NoFail.ite (NoFail.pure _) (NoFail.bind NoFail.get fun _ => ?_)
  exact NoFail.ite (NoFail.pure _)
    (NoFail.bind (tryMutateAccount_noFail _ _ _) fun _ => NoFail.pure _)

/-- Every account is either empty or holds at least the existential deposit. -/
def NoDust (ed : Balance) (b : Store AccountId) : Prop :=
  ∀ who, (b.account who).total = 0 ∨ ed ≤ (b.account who).total

theorem postMutation_of_le {ed : Balance} {new : AccountData} (h : ed ≤ new.total) :
    postMutation ed new = new :=
  if_neg (not_lt.2 h)

/-- `post_mutation` writes no dust: a record it keeps holds the existential deposit. -/
theorem postMutation_noDust (ed : Balance) (new : AccountData) :
    (postMutation ed new).total = 0 ∨ ed ≤ (postMutation ed new).total := by
  unfold postMutation
  split
  · exact .inl rfl
  · exact .inr (not_lt.1 ‹_›)

section NoDust

variable {ed : Balance}

/-- Every record is written through `post_mutation`, so no write leaves dust. -/
theorem writeAccount_noDust (who : AccountId) (new : AccountData) :
    Keeps (Preserves (NoDust ed)) (writeAccount ed who new) :=
  Keeps.modify fun b hb a => by
    by_cases ha : a = who
    · subst ha
      simpa using postMutation_noDust ed new
    · simpa [Function.update_of_ne ha] using hb a

theorem tryMutateAccount_noDust {α : Type} (who : AccountId)
    (f : AccountData → Except DispatchError (AccountData × α)) :
    Keeps (Preserves (NoDust ed)) (tryMutateAccount ed who f) := by
  unfold tryMutateAccount
  refine Keeps.bind Keeps.get fun b => Keeps.bind (Keeps.ofExcept _) fun ⟨account, result⟩ => ?_
  exact Keeps.bind (writeAccount_noDust who account) fun _ => Keeps.pure result

theorem reserve_noDust (who : AccountId) (value : Balance) :
    Keeps (Preserves (NoDust ed)) (reserve ed who value) :=
  Keeps.ite (Keeps.pure _) (tryMutateAccount_noDust _ _)

theorem unreserve_noDust (who : AccountId) (value : Balance) :
    Keeps (Preserves (NoDust ed)) (unreserve ed who value) := by
  unfold unreserve
  -- the two early returns, then the mutation
  refine Keeps.ite (Keeps.pure _) (Keeps.bind Keeps.get fun _ => ?_)
  exact Keeps.ite (Keeps.pure _) (Keeps.bind (tryMutateAccount_noDust _ _) fun _ => Keeps.pure _)

theorem transfer_noDust (transactor dest : AccountId) (value : Balance)
    (req : ExistenceRequirement) :
    Keeps (Preserves (NoDust ed)) (transfer ed transactor dest value req) := by
  unfold transfer
  refine Keeps.ite (Keeps.pure _) (Keeps.bind Keeps.get fun b => ?_)
  -- the two closures, then the sender's record and the receiver's
  refine Keeps.bind (Keeps.ofExcept _) fun ⟨fromAccount, toAccount⟩ => ?_
  exact Keeps.bind (writeAccount_noDust _ _) fun _ => writeAccount_noDust _ _

end NoDust

omit [DecidableEq AccountId] in
@[simp] theorem val_total (account : AccountData) :
    account.total.val = min (account.free.val + account.reserved.val) (2 ^ 128 - 1) := by
  simp [AccountData.total]

/-- A successful `reserve` on balances without dust moves `value` from the free to the reserved
balance of `who`: the account holds at least `value`, so it is not dust, and its total is
unchanged, so `post_mutation` keeps it. -/
theorem reserve_ok {ed : Balance} {who : AccountId} {value : Balance} {b b' : Store AccountId}
    {u : Unit} (h : (reserve ed who value).run b = .ok u b') (hdust : NoDust ed b) :
    (b'.account who).free.val + value.val = (b.account who).free.val ∧
    (b'.account who).reserved.val = (b.account who).reserved.val + value.val ∧
    (∀ a, a ≠ who → b'.account a = b.account a) ∧ b'.consumers = b.consumers := by
  unfold reserve at h
  split at h
  · rename_i hv
    obtain ⟨-, rfl⟩ := run_pure_eq_ok.1 h
    subst hv
    simp
  · rename_i hv
    simp only [tryMutateAccount, writeAccount, run_bind_eq_ok, run_get_eq_ok, run_ofExcept_eq_ok,
      run_modify_eq_ok, run_pure_eq_ok] at h
    obtain ⟨_, _, ⟨rfl, rfl⟩, ⟨account, _⟩, _, ⟨hf, rfl⟩, _, _, rfl, -, rfl⟩ := h
    -- the closure: `checked_sub` of the free balance, `checked_add` of the reserved one, and the
    -- lock check
    split at hf
    · rename_i free hfree
      split at hf
      · rename_i reserved hreserved
        simp only [bind, Except.bind] at hf
        split at hf
        · cases hf
        · simp only [pure, Except.pure, Except.ok.injEq, Prod.mk.injEq] at hf
          obtain ⟨rfl, -⟩ := hf
          obtain ⟨hle, hfreeVal⟩ := UWord.checkedSub_eq_some.1 hfree
          obtain ⟨hlt, hreservedVal⟩ := UWord.checkedAdd_eq_some.1 hreserved
          have hpos : 0 < value.val := Nat.pos_of_ne_zero fun h0 => hv (Fin.ext h0)
          have hed : ed ≤ (b.account who).total := by
            refine (hdust who).resolve_left fun h0 => ?_
            have := congrArg Fin.val h0
            simp only [val_total, Fin.val_zero] at this
            omega
          have hkeep : ed ≤ ({ free, reserved, frozen := (b.account who).frozen } :
              AccountData).total := by
            refine le_trans hed (Fin.le_def.2 ?_)
            simp only [val_total, hfreeVal, hreservedVal]
            omega
          refine ⟨?_, ?_, fun a ha => Function.update_of_ne ha _ _, rfl⟩
          · simp only [Function.update_self, postMutation_of_le hkeep, hfreeVal]
            omega
          · simp only [Function.update_self, postMutation_of_le hkeep, hreservedVal]
      · cases hf
    · cases hf

end Balances

namespace Tokens

theorem unreserve_noFail (currencyId : CurrencyId) (who : AccountId) (value : Balance) :
    NoFail (unreserve currencyId who value) := by
  unfold unreserve setReservedBalance setFreeBalance mutateAccount
  refine NoFail.ite (NoFail.pure _) (NoFail.bind NoFail.get fun _ => ?_)
  exact NoFail.bind (NoFail.modify _) fun _ =>
    NoFail.bind (NoFail.modify _) fun _ => NoFail.pure _

end Tokens

variable (cfg : Config AccountId)

theorem MultiCurrency.unreserve_noFail (currencyId : CurrencyId) (who : AccountId)
    (value : Balance) : NoFail (MultiCurrency.unreserve cfg currencyId who value) :=
  NoFail.ite (NoFail.zoom (Balances.unreserve_noFail _ _ _))
    (NoFail.zoom (Tokens.unreserve_noFail _ _ _))

end Nftmart
