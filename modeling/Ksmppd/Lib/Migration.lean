import Mathlib.Data.Int.Order.Basic
import Mathlib.Data.List.Basic

/-!
# Migration — a store brought up to date, version by version

A store has a running version.  A *migration* leads to a version of its own; it is applied if that
version is newer than the running one, which it then is.
-/

namespace Ksmppd
namespace Lib

universe u

structure Migration (σ : Type u) where
  version : Int
  apply : σ → σ

variable {σ : Type u} {ms : List (Migration σ)} {m : Migration σ} {r : Int × σ}

/-- Apply the migration if the running version is older. -/
def Migration.run (r : Int × σ) (m : Migration σ) : Int × σ :=
  if r.1 < m.version then (m.version, m.apply r.2) else r

/-- Apply the migrations in their order. -/
def migrate (ms : List (Migration σ)) (r : Int × σ) : Int × σ := ms.foldl Migration.run r

/-- A preorder that every migration respects is respected by all of them together. -/
theorem migrate_relation {R : σ → σ → Prop} (hrefl : ∀ s, R s s)
    (htrans : ∀ s t u, R s t → R t u → R s u) (happly : ∀ m ∈ ms, ∀ s, R s (m.apply s))
    (r : Int × σ) : R r.2 (migrate ms r).2 := by
  induction ms generalizing r with
  | nil => exact hrefl r.2
  | cons m ms ih =>
      have hrest := ih (fun m' hm' => happly m' (List.mem_cons_of_mem m hm')) (m.run r)
      have hfirst : R r.2 (m.run r).2 := by
        unfold Migration.run
        split
        · exact happly m List.mem_cons_self r.2
        · exact hrefl r.2
      exact htrans _ _ _ hfirst hrest

/-! ## Versions -/

theorem Migration.le_run (m : Migration σ) (r : Int × σ) :
    r.1 ≤ (m.run r).1 ∧ m.version ≤ (m.run r).1 := by
  unfold Migration.run
  split
  · rename_i hlt
    exact ⟨Int.le_of_lt hlt, Int.le_refl _⟩
  · rename_i hge
    exact ⟨Int.le_refl _, Int.not_lt.mp hge⟩

theorem le_migrate (ms : List (Migration σ)) (r : Int × σ) : r.1 ≤ (migrate ms r).1 := by
  induction ms generalizing r with
  | nil => exact Int.le_refl _
  | cons m ms ih => exact Int.le_trans (m.le_run r).1 (ih (m.run r))

theorem version_le_migrate (hm : m ∈ ms) (r : Int × σ) : m.version ≤ (migrate ms r).1 := by
  induction ms generalizing r with
  | nil => cases hm
  | cons m' ms ih =>
      rcases List.mem_cons.mp hm with rfl | hrest
      · exact Int.le_trans (m.le_run r).2 (le_migrate ms _)
      · exact ih hrest (m'.run r)

/-! ## What migrations bring about -/

/-- What every migration newer than the running version keeps is kept. -/
theorem migrate_keeps {P : σ → Prop} (h : ∀ m ∈ ms, r.1 < m.version → ∀ s, P s → P (m.apply s))
    (hr : P r.2) : P (migrate ms r).2 := by
  induction ms generalizing r with
  | nil => exact hr
  | cons m ms ih =>
      refine ih (r := m.run r) (fun m' hm' hlt => ?_) ?_
      · exact h m' (List.mem_cons_of_mem m hm') (Int.lt_of_le_of_lt (m.le_run r).1 hlt)
      · unfold Migration.run
        split
        · rename_i hlt
          exact h m List.mem_cons_self hlt r.2 hr
        · exact hr

/-- Each migration brings about something that the others keep.  If what the running version stands
for was there before, then all of it is there in the end. -/
theorem migrate_ensures {ι : Type*} {f : ι → Migration σ} {l : List ι} {P : ι → σ → Prop}
    (hsorted : l.Pairwise (fun x y => (f x).version < (f y).version))
    (hmade : ∀ x ∈ l, ∀ s, P x ((f x).apply s))
    (hkept : ∀ x ∈ l, ∀ y ∈ l, ∀ s, P x s → P x ((f y).apply s))
    (hbefore : ∀ x ∈ l, (f x).version ≤ r.1 → P x r.2) :
    ∀ x ∈ l, P x (migrate (l.map f) r).2 := by
  induction l generalizing r with
  | nil =>
      intro x hx
      cases hx
  | cons y l ih =>
      have htail : ∀ x ∈ l, x ∈ y :: l := fun x hx => List.mem_cons_of_mem y hx
      have hself : y ∈ y :: l := List.mem_cons_self
      rcases List.pairwise_cons.mp hsorted with ⟨hfirst, hrest⟩
      have hrun : P y ((f y).run r).2 := by
        unfold Migration.run
        split
        · exact hmade y hself r.2
        · rename_i hge
          exact hbefore y hself (Int.not_lt.mp hge)
      intro x hx
      rcases List.mem_cons.mp hx with rfl | hlater
      · refine migrate_keeps (r := (f x).run r) ?_ hrun
        intro m hm _ s hs
        rcases List.mem_map.mp hm with ⟨z, hz, rfl⟩
        exact hkept x hself z (htail z hz) s hs
      · refine ih (r := (f y).run r) hrest (fun z hz => hmade z (htail z hz))
          (fun z hz w hw => hkept z (htail z hz) w (htail w hw)) ?_ x hlater
        intro z hz hversion
        unfold Migration.run at hversion ⊢
        split at hversion
        · -- a later migration is newer than the version just reached
          exact absurd (hfirst z hz) (Int.not_lt.mpr hversion)
        · rename_i hge
          rw [if_neg hge]
          exact hbefore z (htail z hz) hversion

end Lib
end Ksmppd
