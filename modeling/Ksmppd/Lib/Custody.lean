import Mathlib.Algebra.Order.BigOperators.Group.Finset
import Mathlib.Data.Fintype.Basic

/-!
# Custody — tokens held at places

A holding says how often each place holds each token.  Two moves are distinguished: an *exchange*
passes tokens between two places and leaves every other place alone, an *intake* brings one
token in.  Exchanges keep the total of every token, an intake raises one total by one, and a
token whose total is one is held at exactly one place, once.
-/

namespace Ksmppd
namespace Lib

open Finset

universe u v

variable {P : Type u} {T : Type v}

/-- How often each place holds each token. -/
abbrev Holding (P : Type u) (T : Type v) := P → T → Nat

/-- The token `t` is held at `p`, once, and nowhere else. -/
def HeldOnce (occ : Holding P T) (t : T) (p : P) : Prop :=
  occ p t = 1 ∧ ∀ q, q ≠ p → occ q t = 0

/-- Tokens pass between `p` and `q`; nothing is lost or doubled, and no other place changes. -/
structure Exchange (occ occ' : Holding P T) (p q : P) : Prop where
  ne : p ≠ q
  between : ∀ t, occ' p t + occ' q t = occ p t + occ q t
  elsewhere : ∀ r t, r ≠ p → r ≠ q → occ' r t = occ r t

/-- The token `t₀` is brought in at `p`. -/
structure Intake [DecidableEq T] (occ occ' : Holding P T) (p : P) (t₀ : T) : Prop where
  there : ∀ t, occ' p t = occ p t + if t = t₀ then 1 else 0
  elsewhere : ∀ r t, r ≠ p → occ' r t = occ r t

section Total

variable [Fintype P] [DecidableEq P]

/-- How often a token is held over all places. -/
def total (occ : Holding P T) (t : T) : Nat := ∑ p, occ p t

theorem total_eq_add_erase (occ : Holding P T) (t : T) (p : P) :
    total occ t = occ p t + ∑ r ∈ univ.erase p, occ r t :=
  (add_sum_erase univ (fun r => occ r t) (mem_univ p)).symm

theorem Exchange.total_eq {occ occ' : Holding P T} {p q : P} (h : Exchange occ occ' p q)
    (t : T) : total occ' t = total occ t := by
  have hq : q ∈ univ.erase p := mem_erase.mpr ⟨h.ne.symm, mem_univ q⟩
  have hsplit : ∀ o : Holding P T,
      total o t = o p t + o q t + ∑ r ∈ (univ.erase p).erase q, o r t := by
    intro o
    rw [total_eq_add_erase o t p, ← add_sum_erase _ (fun r => o r t) hq, Nat.add_assoc]
  have hrest : ∑ r ∈ (univ.erase p).erase q, occ' r t = ∑ r ∈ (univ.erase p).erase q, occ r t := by
    apply sum_congr rfl
    intro r hr
    rcases mem_erase.mp hr with ⟨hrq, hr'⟩
    exact h.elsewhere r t (mem_erase.mp hr').1 hrq
  rw [hsplit occ', hsplit occ, h.between t, hrest]

theorem Intake.total_eq [DecidableEq T] {occ occ' : Holding P T} {p : P} {t₀ : T}
    (h : Intake occ occ' p t₀) (t : T) :
    total occ' t = total occ t + if t = t₀ then 1 else 0 := by
  have hrest : ∑ r ∈ univ.erase p, occ' r t = ∑ r ∈ univ.erase p, occ r t := by
    apply sum_congr rfl
    intro r hr
    exact h.elsewhere r t (mem_erase.mp hr).1
  rw [total_eq_add_erase occ' t p, total_eq_add_erase occ t p, h.there t, hrest]
  exact Nat.add_right_comm _ _ _

theorem le_total (occ : Holding P T) (t : T) (p : P) : occ p t ≤ total occ t := by
  rw [total_eq_add_erase occ t p]
  exact Nat.le_add_right _ _

/-- Two places hold together at most the total. -/
theorem add_le_total (occ : Holding P T) (t : T) {p q : P} (hpq : p ≠ q) :
    occ p t + occ q t ≤ total occ t := by
  have hq : q ∈ univ.erase p := mem_erase.mpr ⟨hpq.symm, mem_univ q⟩
  rw [total_eq_add_erase occ t p]
  exact Nat.add_le_add_left (single_le_sum (fun r _ => Nat.zero_le (occ r t)) hq) _

theorem exists_heldOnce_of_total_eq_one {occ : Holding P T} {t : T} (h : total occ t = 1) :
    ∃ p, HeldOnce occ t p := by
  have hpos : ∃ p ∈ univ, occ p t ≠ 0 := by
    apply exists_ne_zero_of_sum_ne_zero
    have hne : total occ t ≠ 0 := by simp [h]
    exact hne
  rcases hpos with ⟨p, _, hp⟩
  refine ⟨p, ?_, ?_⟩
  · have hle := le_total occ t p
    omega
  · intro q hq
    have hle := add_le_total occ t hq.symm
    omega

end Total

end Lib
end Ksmppd
