import Mathlib.Algebra.BigOperators.Group.Multiset.Basic
import Mathlib.Tactic.Abel
import Ksmppd.Lib.Transition

/-!
# Pool — calls that take turns on a shared state

Any number of calls work on one shared state.  A call is entered, and then makes one atomic step
after the other; between two of its steps the others may make as many as they like.  What a call
knows is part of the call, so a lemma about the pool is about the calls it has and about the state
they share.
-/

namespace Ksmppd
namespace Lib

universe u v w

/-- The shared state, and the calls in the order in which they were entered. -/
structure Pool (σ : Type u) (τ : Type v) where
  shared : σ
  calls : List τ

inductive PoolLabel (α : Type w)
  /-- A call is entered with its arguments. -/
  | enter (a : α)
  /-- The call with this number makes its next step. -/
  | advance (i : Nat)
  deriving DecidableEq, Repr

variable {σ : Type u} {τ : Type v} {α : Type w}

/-- One step of the pool; `none` from `enter` or `advance` is a call that cannot go on. -/
def poolStep (enter : Pool σ τ → α → Option τ) (advance : σ → τ → Option (σ × τ))
    (p : Pool σ τ) : PoolLabel α → Option (Pool σ τ)
  | .enter a => (enter p a).map (fun t => { p with calls := p.calls ++ [t] })
  | .advance i =>
      match p.calls[i]? with
      | none => none
      | some t =>
          (advance p.shared t).map (fun r => { shared := r.1, calls := p.calls.set i r.2 })

variable {enter : Pool σ τ → α → Option τ} {advance : σ → τ → Option (σ × τ)} {p p' : Pool σ τ}
  {l : PoolLabel α} {i : Nat} {t t' u : τ}

/-- What a step of the pool can be. -/
inductive PoolMove (enter : Pool σ τ → α → Option τ) (advance : σ → τ → Option (σ × τ))
    (p : Pool σ τ) : PoolLabel α → Pool σ τ → Prop
  | enter {a : α} {t : τ} (henter : enter p a = some t) :
      PoolMove enter advance p (.enter a) { p with calls := p.calls ++ [t] }
  | advance {i : Nat} {t t' : τ} {s : σ} (hi : p.calls[i]? = some t)
      (hadvance : advance p.shared t = some (s, t')) :
      PoolMove enter advance p (.advance i) { shared := s, calls := p.calls.set i t' }

theorem poolStep_move (h : poolStep enter advance p l = some p') :
    PoolMove enter advance p l p' := by
  cases l with
  | enter a =>
      rcases Option.map_eq_some_iff.mp h with ⟨t, ht, rfl⟩
      exact .enter ht
  | advance i =>
      cases hi : p.calls[i]? with
      | none => simp [poolStep, hi] at h
      | some t =>
          simp only [poolStep, hi] at h
          rcases Option.map_eq_some_iff.mp h with ⟨⟨s, t'⟩, hadvance, rfl⟩
          exact .advance hi hadvance

/-- A call other than the one that moves is still there. -/
theorem mem_calls_set (hi : p.calls[i]? = some t) (hu : u ∈ p.calls) (hne : u ≠ t) :
    u ∈ p.calls.set i t' := by
  rcases List.mem_iff_getElem?.mp hu with ⟨j, hj⟩
  refine List.mem_iff_getElem?.mpr ⟨j, ?_⟩
  have hij : i ≠ j := by
    rintro rfl
    exact hne (Option.some.inj (hj.symm.trans hi))
  rw [List.getElem?_set_ne hij]
  exact hj

theorem mem_calls_set_self (hi : p.calls[i]? = some t) : t' ∈ p.calls.set i t' := by
  rcases List.getElem?_eq_some_iff.mp hi with ⟨hlt, _⟩
  exact List.mem_iff_getElem?.mpr ⟨i, List.getElem?_set_self hlt⟩

/-- The calls of a kind, before and after the step of one. -/
theorem countP_calls_set (f : τ → Bool) (hi : p.calls[i]? = some t) (t' : τ) :
    (p.calls.set i t').countP f + (f t).toNat = p.calls.countP f + (f t').toNat := by
  rcases List.getElem?_eq_some_iff.mp hi with ⟨hlt, hget⟩
  have hite : ∀ b : Bool, (if b = true then 1 else 0) = b.toNat := by decide
  have hle : (f t).toNat ≤ p.calls.countP f := by
    cases hf : f t with
    | false => exact Nat.zero_le _
    | true => exact List.countP_pos_iff.mpr ⟨t, List.mem_of_getElem? hi, hf⟩
  rw [List.countP_set hlt, hget, hite, hite]
  omega

/-- A condition on the calls, where the step of one leaves it to the others. -/
theorem forall_calls_set {J J' : τ → Prop} (h : ∀ u ∈ p.calls, J u) (ht' : J' t')
    (hstable : ∀ u ∈ p.calls, J u → J' u) : ∀ u ∈ p.calls.set i t', J' u := by
  intro u hu
  rcases List.mem_or_eq_of_mem_set hu with hu | rfl
  · exact hstable u hu (h u hu)
  · exact ht'

theorem forall_calls_append {J : τ → Prop} (h : ∀ u ∈ p.calls, J u) (ht : J t) :
    ∀ u ∈ p.calls ++ [t], J u := by
  intro u hu
  rcases List.mem_append.mp hu with hu | hu
  · exact h u hu
  · rw [List.mem_singleton.mp hu]
    exact ht

/-! ## Totals -/

section

variable {M : Type*} [AddCommMonoid M]

theorem sum_map_set (f : τ → M) {l : List τ} {i : Nat} {t : τ} (hi : l[i]? = some t) (t' : τ) :
    ((l.set i t').map f).sum + f t = (l.map f).sum + f t' := by
  induction l generalizing i with
  | nil => cases hi
  | cons u l ih =>
      cases i with
      | zero =>
          obtain rfl : u = t := by simpa using hi
          simp only [List.set_cons_zero, List.map_cons, List.sum_cons]
          abel
      | succ i =>
          have hrest := ih (i := i) (by simpa using hi)
          simp only [List.set_cons_succ, List.map_cons, List.sum_cons, add_assoc, hrest]

/-- What the calls have, taken together. -/
def Pool.total (f : τ → M) (p : Pool σ τ) : M := (p.calls.map f).sum

/-- A call that has nothing when it is entered. -/
theorem Pool.total_enter {f : τ → M} (p : Pool σ τ) (h : f t = 0) :
    Pool.total f { p with calls := p.calls ++ [t] } = p.total f := by
  simp [Pool.total, h]

theorem Pool.total_advance (f : τ → M) (hi : p.calls[i]? = some t) (s : σ) (t' : τ) :
    Pool.total f { shared := s, calls := p.calls.set i t' } + f t = p.total f + f t' :=
  sum_map_set f hi t'

/-- One call, and the others. -/
theorem Pool.total_eq_add (f : τ → M) (ht : t ∈ p.calls) : ∃ rest, p.total f = f t + rest := by
  rcases List.append_of_mem ht with ⟨before, behind, hsplit⟩
  refine ⟨(before.map f).sum + (behind.map f).sum, ?_⟩
  simp only [Pool.total, hsplit, List.map_append, List.map_cons, List.sum_append, List.sum_cons]
  abel

theorem Pool.mem_total {β : Type*} {f : τ → Multiset β} {x : β} :
    x ∈ p.total f ↔ ∃ t ∈ p.calls, x ∈ f t := by
  unfold Pool.total
  induction p.calls with
  | nil => simp
  | cons t l ih => simp [ih]

end

end Lib
end Ksmppd
