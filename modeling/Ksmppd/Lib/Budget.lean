import Mathlib.Algebra.Order.BigOperators.Group.Finset
import Mathlib.Data.Fintype.Basic
import Mathlib.Tactic.Abel

/-!
# Budget — a limit from which several parties take

A party is allotted what is not in use, and takes it unit by unit.  The limit holds as long as nothing
is allotted to a party while another one may still take.
-/

namespace Ksmppd
namespace Lib

open Finset

universe u v

section Sums

variable {P : Type u} [Fintype P] [DecidableEq P] {α : Type v} {M : Type*} [AddCommMonoid M]

/-- The sum of a measure after one party has changed. -/
theorem sum_measure_update (f : α → M) (x : P → α) (p : P) (a : α) :
    ∑ q, f (Function.update x p a q) + f (x p) = ∑ q, f (x q) + f a := by
  have hrest : ∑ q ∈ univ.erase p, f (Function.update x p a q) = ∑ q ∈ univ.erase p, f (x q) := by
    apply sum_congr rfl
    intro q hq
    rw [Function.update_of_ne (ne_of_mem_erase hq)]
  rw [← add_sum_erase univ (fun q => f (Function.update x p a q)) (mem_univ p),
    ← add_sum_erase univ (fun q => f (x q)) (mem_univ p), hrest, Function.update_self]
  abel

end Sums

/-- What is in use, and what each party may still take. -/
structure Budget (P : Type u) where
  inUse : Nat
  allotted : P → Nat

variable {P : Type u} [DecidableEq P]

def Budget.allot (b : Budget P) (p : P) (units : Nat) : Budget P :=
  { b with allotted := Function.update b.allotted p units }

theorem Budget.allot_self (b : Budget P) (p : P) : b.allot p (b.allotted p) = b := by
  rw [allot, Function.update_eq_self]

/-- What can happen to a budget. -/
inductive BudgetMove (limit : Nat) (b : Budget P) : Budget P → Prop
  | rest : BudgetMove limit b b
  /-- One party gets what is not in use, and no other has anything left. -/
  | allot (p : P) (halone : ∀ q, q ≠ p → b.allotted q = 0) :
      BudgetMove limit b (b.allot p (limit - b.inUse))
  | take (p : P) {units : Nat} (hunits : b.allotted p = units + 1) :
      BudgetMove limit b { b.allot p units with inUse := b.inUse + 1 }
  | waive (p : P) : BudgetMove limit b (b.allot p 0)
  | giveBack : BudgetMove limit b { b with inUse := b.inUse - 1 }

/-- What is in use, with all that may still be taken. -/
def Budget.committed [Fintype P] (b : Budget P) : Nat := b.inUse + ∑ p, b.allotted p

variable [Fintype P] {limit : Nat} {b b' : Budget P}

theorem Budget.committed_allot (p : P) (units : Nat) :
    (b.allot p units).committed + b.allotted p = b.committed + units := by
  have hsum := sum_measure_update id b.allotted p units
  simp only [id] at hsum
  simp only [committed, allot]
  omega

/-- The limit is kept by every move. -/
theorem BudgetMove.committed_le (h : BudgetMove limit b b') (hb : b.committed ≤ limit) :
    b'.committed ≤ limit := by
  cases h with
  | rest =>
      exact hb
  | allot p halone =>
      have hallot := Budget.committed_allot (b := b) p (limit - b.inUse)
      have hsum := sum_eq_single p (fun q _ => halone q) (absurd (mem_univ p))
      simp only [Budget.committed] at hallot hb ⊢
      omega
  | take p hunits =>
      rename_i units
      have hallot := Budget.committed_allot (b := b) p units
      have hinUse : (b.allot p units).inUse = b.inUse := rfl
      simp only [Budget.committed] at hallot hb ⊢
      omega
  | waive p =>
      have hallot := Budget.committed_allot (b := b) p 0
      omega
  | giveBack =>
      simp only [Budget.committed] at hb ⊢
      omega

end Lib
end Ksmppd
