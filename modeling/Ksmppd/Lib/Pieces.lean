import Mathlib.Data.List.Basic

/-!
# Pieces — texts that are cut at every separator

Cutting joined pieces gives the pieces back exactly when the separator is in none of them, and a text
without the separator stands in one of two joined texts or in neither.
-/

namespace Ksmppd
namespace Lib

universe u

variable {α : Type u} [DecidableEq α] {sep : α} {l w : List α} {ws : List (List α)}

/-- Cut at every separator; an empty piece at the end does not count. -/
def pieces (sep : α) (l : List α) : List (List α) :=
  if (l.splitOn sep).getLast? = some [] then (l.splitOn sep).dropLast else l.splitOn sep

theorem length_splitOn : (l.splitOn sep).length = l.count sep + 1 := by
  induction l with
  | nil => simp
  | cons c l ih =>
      rw [List.splitOn_cons_eq_if_modifyHead]
      split
      · rename_i hc
        have heq : c = sep := by simpa using hc
        simp [heq, ih]
      · rename_i hc
        have hne : c ≠ sep := by simpa using hc
        simp [hne, ih]

/-- A piece holds nothing that the text does not hold. -/
theorem subset_of_mem_splitOn (hw : w ∈ l.splitOn sep) : w ⊆ l := by
  induction l generalizing w with
  | nil =>
      rw [List.splitOn_nil] at hw
      rw [List.mem_singleton.mp hw]
      exact List.Subset.refl []
  | cons c l ih =>
      rw [List.splitOn_cons_eq_if_modifyHead] at hw
      split at hw
      · rcases List.mem_cons.mp hw with rfl | hw
        · exact List.nil_subset _
        · exact List.subset_cons_of_subset c (ih hw)
      · cases hsplit : l.splitOn sep with
        | nil =>
            rw [hsplit] at hw
            cases hw
        | cons first rest =>
            rw [hsplit, List.modifyHead_cons] at hw
            rcases List.mem_cons.mp hw with rfl | hw
            · exact List.cons_subset_cons c (ih (hsplit ▸ List.mem_cons_self))
            · exact List.subset_cons_of_subset c (ih (hsplit ▸ List.mem_cons_of_mem first hw))

/-- Nothing is left out where the text goes on behind its last separator. -/
theorem pieces_append (hw : w ≠ []) (hsep : sep ∉ w) (l : List α) :
    pieces sep (l ++ sep :: w) = l.splitOn sep ++ [w] := by
  have hcut : (l ++ sep :: w).splitOn sep = l.splitOn sep ++ [w] := by
    rw [List.splitOn_append_cons_self, List.splitOn_eq_singleton hsep]
  rw [pieces, hcut]
  simp [hw]

theorem pieces_eq_singleton (hw : w ≠ []) (hsep : sep ∉ w) : pieces sep w = [w] := by
  rw [pieces, List.splitOn_eq_singleton hsep]
  simp [hw]

/-- Only an empty piece can be left out. -/
theorem mem_pieces_iff (hw : w ≠ []) : w ∈ pieces sep l ↔ w ∈ l.splitOn sep := by
  unfold pieces
  split
  · rename_i hlast
    have hsplit : l.splitOn sep = (l.splitOn sep).dropLast ++ [[]] :=
      (List.dropLast_append_getLast? _ hlast).symm
    constructor
    · exact fun hmem => List.dropLast_subset _ hmem
    · intro hmem
      rw [hsplit, List.mem_append] at hmem
      rcases hmem with hmem | hempty
      · exact hmem
      · exact absurd (List.mem_singleton.mp hempty) hw
  · rfl

/-! ## Texts without the separator -/

omit [DecidableEq α] in
/-- A text without the separator does not reach across it. -/
theorem prefix_append_sep_iff (hsep : sep ∉ w) {m : List α} :
    w <+: l ++ sep :: m ↔ w <+: l := by
  induction l generalizing w with
  | nil =>
      cases w with
      | nil => simp
      | cons c w =>
          have hc : c ≠ sep := fun h => hsep (h ▸ List.mem_cons_self)
          simp [List.cons_prefix_cons, hc]
  | cons d l ih =>
      cases w with
      | nil => simp
      | cons c w =>
          have hrest : sep ∉ w := fun h => hsep (List.mem_cons_of_mem c h)
          rw [List.cons_append, List.cons_prefix_cons, List.cons_prefix_cons, ih hrest]

omit [DecidableEq α] in
theorem infix_append_sep_iff (hsep : sep ∉ w) {m : List α} :
    w <:+: l ++ sep :: m ↔ w <:+: l ∨ w <:+: m := by
  induction l with
  | nil =>
      have hfirst := prefix_append_sep_iff (l := []) (m := m) hsep
      rw [List.nil_append] at hfirst ⊢
      rw [List.infix_cons_iff, hfirst, List.prefix_nil, List.infix_nil]
  | cons d l ih =>
      have hfirst := prefix_append_sep_iff (l := d :: l) (m := m) hsep
      rw [List.cons_append] at hfirst ⊢
      rw [List.infix_cons_iff, hfirst, ih, List.infix_cons_iff, or_assoc]

end Lib
end Ksmppd
