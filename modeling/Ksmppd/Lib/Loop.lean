import Mathlib.Order.Basic

/-!
# Loop — while loops with a body that may say stop

`loop body n s` repeats `body` from `s` until it gives `none`, for at most `n` rounds.  A loop whose
every round lowers a measure stops within as many rounds as the measure says; what every round
keeps then holds where it stops.
-/

namespace Ksmppd
namespace Lib

universe u

variable {σ : Type u} {body : σ → Option σ} {s t : σ} {n : Nat}

/-- The state the loop stops in; `none` if it has not stopped after `n` rounds. -/
def loop (body : σ → Option σ) : Nat → σ → Option σ
  | 0, s =>
      match body s with
      | none => some s
      | some _ => none
  | n + 1, s =>
      match body s with
      | none => some s
      | some t => loop body n t

theorem loop_of_none (h : body s = none) : loop body n s = some s := by
  cases n with
  | zero => simp [loop, h]
  | succ n => simp [loop, h]

theorem loop_of_some (h : body s = some t) : loop body (n + 1) s = loop body n t := by
  simp [loop, h]

/-- Total correctness: the invariant holds where the loop stops, and it stops in time. -/
theorem loop_total (I : σ → Prop) (μ : σ → Nat)
    (hround : ∀ s t, I s → body s = some t → I t ∧ μ t < μ s) (hs : I s) (hn : μ s ≤ n) :
    ∃ t, loop body n s = some t ∧ I t ∧ body t = none := by
  induction n generalizing s with
  | zero =>
      cases hbody : body s with
      | none => exact ⟨s, loop_of_none hbody, hs, hbody⟩
      | some t =>
          have hlt := (hround s t hs hbody).2
          omega
  | succ n ih =>
      cases hbody : body s with
      | none => exact ⟨s, loop_of_none hbody, hs, hbody⟩
      | some t =>
          rcases hround s t hs hbody with ⟨ht, hlt⟩
          rcases ih ht (by omega) with ⟨u, hu, hI, hstop⟩
          exact ⟨u, (loop_of_some hbody).trans hu, hI, hstop⟩

end Lib
end Ksmppd
