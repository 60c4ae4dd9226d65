import Mathlib.Data.List.Nodup

/-!
# Counting — how often something stands in a list

A list has at most one entry of a kind exactly if no entry of the kind occurs twice and all of them
are equal; a list put together from lists without duplicates has an entry as often as there are lists
with it.
-/

namespace Ksmppd
namespace Lib

universe u

variable {α : Type u} [BEq α] [LawfulBEq α] {p : α → Bool} {l : List α}

theorem countP_le_one_iff :
    l.countP p ≤ 1 ↔
      (∀ a, p a = true → l.count a ≤ 1) ∧ ∀ a ∈ l, ∀ b ∈ l, p a = true → p b = true → a = b := by
  constructor
  · intro hone
    constructor
    · intro a ha
      have hmono : l.count a ≤ l.countP p := by
        refine List.countP_mono_left ?_
        intro x _ hx
        rw [beq_iff_eq.mp hx]
        exact ha
      exact Nat.le_trans hmono hone
    · intro a hmem b hmem' ha hb
      -- two different entries would be two of the filtered list
      rw [List.countP_eq_length_filter] at hone
      have hfirst : a ∈ l.filter p := List.mem_filter.mpr ⟨hmem, ha⟩
      have hsecond : b ∈ l.filter p := List.mem_filter.mpr ⟨hmem', hb⟩
      have hlength : (l.filter p).length = 1 :=
        Nat.le_antisymm hone (List.length_pos_of_mem hfirst)
      rcases List.length_eq_one_iff.mp hlength with ⟨c, hc⟩
      rw [hc, List.mem_singleton] at hfirst hsecond
      exact hfirst.trans hsecond.symm
  · rintro ⟨hcount, hequal⟩
    by_cases hany : ∃ a ∈ l, p a = true
    · rcases hany with ⟨a, hmem, ha⟩
      have hmono : l.countP p ≤ l.count a := by
        refine List.countP_mono_left ?_
        intro x hx hpx
        exact beq_iff_eq.mpr (hequal x hx a hmem hpx ha)
      exact Nat.le_trans hmono (hcount a ha)
    · have hnone : l.countP p = 0 := by
        refine List.countP_eq_zero.mpr ?_
        intro a hmem ha
        exact hany ⟨a, hmem, ha⟩
      omega

/-- Lists without duplicates, one behind the other. -/
theorem count_flatten_of_nodup {ls : List (List α)} (h : ∀ l ∈ ls, l.Nodup) (a : α) :
    ls.flatten.count a = ls.countP (·.contains a) := by
  induction ls with
  | nil => rfl
  | cons l ls ih =>
      have hrest := ih (fun l' hl' => h l' (List.mem_cons_of_mem l hl'))
      rw [List.flatten_cons, List.count_append, hrest, List.countP_cons]
      by_cases hmem : a ∈ l
      · rw [List.count_eq_one_of_mem (h l List.mem_cons_self) hmem]
        simp [hmem, Nat.add_comm]
      · simp [hmem, List.count_eq_zero_of_not_mem hmem]

end Lib
end Ksmppd
