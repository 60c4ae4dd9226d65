import Mathlib.Algebra.BigOperators.Group.List.Basic
import Mathlib.Algebra.BigOperators.Group.Multiset.Basic
import Mathlib.Data.List.Nodup
import Mathlib.Data.List.Count
import Mathlib.Tactic.Abel

/-!
# Keyed — dictionaries of records that carry their own key

A dictionary whose key is a field of the record stored under it.  No key occurs twice, and no
record stands under a key that is not its own: the first is a field of the structure, the second
holds because keys are read off the records.  As in a hash table, storing a record replaces the
one stored under the same key before.
-/

namespace Ksmppd
namespace Lib

universe u v

/-- Of records with pairwise distinct keys, only one is found under its key. -/
theorem findSome?_key_eq {V : Type u} {K : Type v} [DecidableEq K] {key : V → K} {β : Type*}
    (f : V → Option β) {l : List V} (hnodup : (l.map key).Nodup) {v : V} (hv : v ∈ l) :
    l.findSome? (fun w => if key w = key v then f w else none) = f v := by
  induction l with
  | nil => cases hv
  | cons w l ih =>
      rcases List.nodup_cons.mp hnodup with ⟨hw, hl⟩
      rcases List.mem_cons.mp hv with rfl | hv
      · rw [List.findSome?_cons, if_pos rfl]
        cases hvalue : f v with
        | some b => rfl
        | none =>
            -- it has no value, and no other record has its key
            refine List.findSome?_eq_none_iff.mpr ?_
            intro x hx
            exact if_neg (fun heq => hw (List.mem_map.mpr ⟨x, hx, heq⟩))
      · have hne : key w ≠ key v := fun heq => hw (List.mem_map.mpr ⟨v, hv, heq.symm⟩)
        rw [List.findSome?_cons, if_neg hne]
        exact ih hl hv

/-- Records with pairwise distinct keys. -/
structure Keyed {V : Type u} {K : Type v} (key : V → K) where
  entries : List V
  nodup : (entries.map key).Nodup

namespace Keyed

variable {V : Type u} {K : Type v} {key : V → K}

/-- The dictionary without records. -/
def empty : Keyed key where
  entries := []
  nodup := by simp

instance : Inhabited (Keyed key) := ⟨empty⟩

@[simp] theorem entries_empty : (empty : Keyed key).entries = [] := rfl

theorem eq_of_key_eq {d : Keyed key} {v w : V} (hv : v ∈ d.entries) (hw : w ∈ d.entries)
    (h : key v = key w) : v = w :=
  List.inj_on_of_nodup_map d.nodup hv hw h

/-- How often the key `k` occurs; at most once. -/
def held [BEq K] (d : Keyed key) (k : K) : Nat := (d.entries.map key).count k

@[simp] theorem held_empty [BEq K] (k : K) : (empty : Keyed key).held k = 0 := rfl

variable {M : Type*} [AddCommMonoid M]

/-- The sum of a measure over the records. -/
def weight (f : V → M) (d : Keyed key) : M := (d.entries.map f).sum

@[simp] theorem weight_empty (f : V → M) : (empty : Keyed key).weight f = 0 := rfl

/-- The sum of multisets has the elements of each of them. -/
theorem mem_weight {α : Type*} {f : V → Multiset α} {d : Keyed key} {x : α} :
    x ∈ d.weight f ↔ ∃ v ∈ d.entries, x ∈ f v := by
  unfold weight
  induction d.entries with
  | nil => simp
  | cons v vs ih => simp [ih]

theorem weight_singleton (d : Keyed key) :
    d.weight (fun v => ({v} : Multiset V)) = (d.entries : Multiset V) := by
  unfold weight
  induction d.entries with
  | nil => rfl
  | cons v vs ih => simp [ih]

/-- A measure that only looks at part of the records is a sum over these parts. -/
theorem weight_comp {α : Type*} (g : V → α) (f : α → M) (d : Keyed key) :
    d.weight (fun v => f (g v)) = ((d.weight (fun v => ({g v} : Multiset α))).map f).sum := by
  unfold weight
  induction d.entries with
  | nil => simp
  | cons v vs ih => simp [ih]

variable [BEq K] [LawfulBEq K]

/-- The record under key `k`. -/
def find? (d : Keyed key) (k : K) : Option V :=
  d.entries.find? (fun v => key v == k)

/-- Take the record under key `k` out. -/
def remove (d : Keyed key) (k : K) : Keyed key where
  entries := d.entries.filter (fun v => key v != k)
  nodup := d.nodup.sublist (List.filter_sublist.map key)

/-- Store `v` under its key, in place of the record that was there. -/
def put (d : Keyed key) (v : V) : Keyed key where
  entries := v :: (d.remove (key v)).entries
  nodup := by
    have hnot : key v ∉ (d.remove (key v)).entries.map key := by
      simp [remove]
    simpa using List.nodup_cons.mpr ⟨hnot, (d.remove (key v)).nodup⟩

@[simp] theorem mem_remove {d : Keyed key} {k : K} {v : V} :
    v ∈ (d.remove k).entries ↔ v ∈ d.entries ∧ key v ≠ k := by
  simp [remove]

@[simp] theorem mem_put {d : Keyed key} {v w : V} :
    w ∈ (d.put v).entries ↔ w = v ∨ (w ∈ d.entries ∧ key w ≠ key v) := by
  simp [put]

theorem find?_eq_some_iff {d : Keyed key} {k : K} {v : V} :
    d.find? k = some v ↔ v ∈ d.entries ∧ key v = k := by
  constructor
  · intro h
    exact ⟨List.mem_of_find?_eq_some h, by simpa using List.find?_some h⟩
  · rintro ⟨hv, hk⟩
    cases hf : d.find? k with
    | none =>
        have hne := List.find?_eq_none.mp hf v hv
        simp [hk] at hne
    | some w =>
        have hw : key w = k := by simpa using List.find?_some hf
        have hwv : w = v :=
          eq_of_key_eq (List.mem_of_find?_eq_some hf) hv (hw.trans hk.symm)
        rw [hwv]

theorem key_of_find? {d : Keyed key} {k : K} {v : V} (h : d.find? k = some v) : key v = k :=
  (find?_eq_some_iff.mp h).2

/-- A record that is found stands under the key it carries. -/
theorem find?_key {d : Keyed key} {k : K} {v : V} (h : d.find? k = some v) :
    d.find? (key v) = some v := by
  rw [key_of_find? h]
  exact h

theorem find?_eq_none_iff {d : Keyed key} {k : K} :
    d.find? k = none ↔ ∀ v ∈ d.entries, key v ≠ k := by
  simp [find?, List.find?_eq_none]

omit [LawfulBEq K] in
@[simp] theorem find?_empty (k : K) : (empty : Keyed key).find? k = none := rfl

theorem find?_put_self {d : Keyed key} {v : V} {k : K} (h : key v = k) :
    (d.put v).find? k = some v :=
  find?_eq_some_iff.mpr ⟨by simp, h⟩

theorem find?_put_of_ne {d : Keyed key} {v : V} {k : K} (h : k ≠ key v) :
    (d.put v).find? k = d.find? k := by
  cases hf : d.find? k with
  | none =>
      refine find?_eq_none_iff.mpr ?_
      intro w hw
      rcases mem_put.mp hw with rfl | ⟨hw, _⟩
      · exact Ne.symm h
      · exact find?_eq_none_iff.mp hf w hw
  | some w =>
      rcases find?_eq_some_iff.mp hf with ⟨hw, hkw⟩
      refine find?_eq_some_iff.mpr ⟨mem_put.mpr (Or.inr ⟨hw, ?_⟩), hkw⟩
      rw [hkw]
      exact h

/-- Of two records stored under one key the second counts. -/
theorem find?_put_put {d : Keyed key} {v w : V} (h : key v = key w) (k : K) :
    ((d.put v).put w).find? k = (d.put w).find? k := by
  by_cases hk : k = key w
  · rw [find?_put_self hk.symm, find?_put_self hk.symm]
  · rw [find?_put_of_ne hk, find?_put_of_ne hk, find?_put_of_ne (h ▸ hk)]

theorem find?_remove_self (d : Keyed key) (k : K) : (d.remove k).find? k = none :=
  find?_eq_none_iff.mpr (fun _ hv => (mem_remove.mp hv).2)

theorem find?_remove_of_ne {d : Keyed key} {k k' : K} (h : k' ≠ k) :
    (d.remove k).find? k' = d.find? k' := by
  cases hf : d.find? k' with
  | none =>
      refine find?_eq_none_iff.mpr ?_
      intro w hw
      exact find?_eq_none_iff.mp hf w (mem_remove.mp hw).1
  | some w =>
      rcases find?_eq_some_iff.mp hf with ⟨hw, hkw⟩
      refine find?_eq_some_iff.mpr ⟨mem_remove.mpr ⟨hw, ?_⟩, hkw⟩
      rw [hkw]
      exact h

/-- What is still there after a key was taken out. -/
theorem find?_of_remove {d : Keyed key} {k k' : K} {v : V} (h : (d.remove k').find? k = some v) :
    k ≠ k' ∧ d.find? k = some v := by
  by_cases hk : k = k'
  · rw [hk, find?_remove_self] at h
    cases h
  · rw [find?_remove_of_ne hk] at h
    exact ⟨hk, h⟩

theorem find?_of_foldl_remove {ks : List K} {d : Keyed key} {k : K} {v : V}
    (h : (ks.foldl remove d).find? k = some v) : k ∉ ks ∧ d.find? k = some v := by
  induction ks generalizing d with
  | nil => exact ⟨by simp, h⟩
  | cons k' ks ih =>
      rcases ih h with ⟨hks, hrest⟩
      rcases find?_of_remove hrest with ⟨hk, hfind⟩
      exact ⟨by simp [hk, hks], hfind⟩

/-! ## How often a key is held -/

theorem held_eq_zero_iff {d : Keyed key} {k : K} :
    d.held k = 0 ↔ ∀ v ∈ d.entries, key v ≠ k := by
  simp [held, List.count_eq_zero]

theorem held_of_find?_eq_some {d : Keyed key} {k : K} {v : V} (h : d.find? k = some v) :
    d.held k = 1 := by
  rcases find?_eq_some_iff.mp h with ⟨hv, rfl⟩
  exact List.count_eq_one_of_mem d.nodup (List.mem_map_of_mem hv)

theorem held_remove (d : Keyed key) (k k' : K) :
    (d.remove k).held k' = if k' == k then 0 else d.held k' := by
  by_cases hk : k' = k
  · have hnone : ∀ v ∈ (d.remove k).entries, key v ≠ k' := by
      intro v hv
      rw [hk]
      exact (mem_remove.mp hv).2
    simpa [hk] using held_eq_zero_iff.mpr hnone
  · have hfilter : (d.remove k).entries.map key =
        (d.entries.map key).filter (fun x => x != k) := by
      rw [List.filter_map]
      rfl
    have hcount : (d.remove k).held k' = d.held k' := by
      rw [held, held, hfilter]
      exact List.count_filter (by simpa using hk)
    simpa [hk] using hcount

theorem held_put (d : Keyed key) (v : V) (k : K) :
    (d.put v).held k = if k == key v then 1 else d.held k := by
  have hcons : (d.put v).held k = (d.remove (key v)).held k + if key v == k then 1 else 0 := by
    simp [held, put, List.count_cons]
  rw [hcons, held_remove]
  by_cases hk : k = key v
  · simp [hk]
  · simp [hk, Ne.symm hk]

/-! ## Weights -/

theorem remove_of_find?_eq_none {d : Keyed key} {k : K} (h : d.find? k = none) :
    (d.remove k).entries = d.entries := by
  apply List.filter_eq_self.mpr
  intro v hv
  simpa using find?_eq_none_iff.mp h v hv

/-- Taking out the record that comes first leaves the others. -/
theorem entries_remove_head {d : Keyed key} {v : V} {vs : List V} (h : d.entries = v :: vs) :
    (d.remove (key v)).entries = vs := by
  have hnodup := d.nodup
  rw [h] at hnodup
  have hnot : key v ∉ vs.map key := (List.nodup_cons.mp hnodup).1
  have hvs : vs.filter (fun w => key w != key v) = vs := by
    apply List.filter_eq_self.mpr
    intro w hw
    have hne : key w ≠ key v := fun hk => hnot (hk ▸ List.mem_map_of_mem hw)
    simpa using hne
  simp [remove, h, hvs]

theorem weight_put (f : V → M) (d : Keyed key) (v : V) :
    (d.put v).weight f = f v + (d.remove (key v)).weight f := by
  simp [weight, put]

theorem weight_remove_of_none (f : V → M) {d : Keyed key} {k : K} (h : d.find? k = none) :
    (d.remove k).weight f = d.weight f := by
  simp [weight, remove_of_find?_eq_none h]

theorem sum_filter_key {f : V → M} {l : List V} (hnodup : (l.map key).Nodup) {v : V}
    (hv : v ∈ l) : ((l.filter (fun w => key w != key v)).map f).sum + f v = (l.map f).sum := by
  induction l with
  | nil =>
      cases hv
  | cons w l ih =>
      rcases List.nodup_cons.mp hnodup with ⟨hw, hl⟩
      rcases List.mem_cons.mp hv with rfl | hv
      · have hrest : l.filter (fun w => key w != key v) = l := by
          apply List.filter_eq_self.mpr
          intro u hu
          have hne : key u ≠ key v := fun h => hw (h ▸ List.mem_map_of_mem hu)
          simpa using hne
        simp [hrest, add_comm]
      · have hne : key w ≠ key v := fun h => hw (h ▸ List.mem_map_of_mem hv)
        simpa [hne, add_assoc] using congrArg (f w + ·) (ih hl hv)

/-- What is taken out is what the sum loses. -/
theorem weight_remove (f : V → M) {d : Keyed key} {k : K} {v : V} (h : d.find? k = some v) :
    (d.remove k).weight f + f v = d.weight f := by
  rcases find?_eq_some_iff.mp h with ⟨hv, rfl⟩
  exact sum_filter_key d.nodup hv

/-- A record replaced by one with the same key. -/
theorem weight_put_of_find (f : V → M) {d : Keyed key} {v w : V} (h : d.find? (key w) = some v) :
    (d.put w).weight f + f v = d.weight f + f w := by
  rw [weight_put, ← weight_remove f h]
  abel

theorem weight_put_of_eq [IsCancelAdd M] (f : V → M) {d : Keyed key} {v w : V}
    (h : d.find? (key w) = some v) (hf : f w = f v) : (d.put w).weight f = d.weight f := by
  have hput := weight_put_of_find f h
  rw [hf] at hput
  exact add_right_cancel hput

theorem coe_entries_put {d : Keyed key} {v : V} (h : d.find? (key v) = none) :
    ((d.put v).entries : Multiset V) = v ::ₘ (d.entries : Multiset V) := by
  simp [put, remove_of_find?_eq_none h]

theorem coe_entries_remove {d : Keyed key} {k : K} {v : V} (h : d.find? k = some v) :
    v ::ₘ ((d.remove k).entries : Multiset V) = (d.entries : Multiset V) := by
  have hweight := weight_remove (fun w => ({w} : Multiset V)) h
  rw [weight_singleton, weight_singleton] at hweight
  rw [← hweight, add_comm, Multiset.singleton_add]

omit [LawfulBEq K] in
theorem length_remove_le (d : Keyed key) (k : K) :
    (d.remove k).entries.length ≤ d.entries.length := List.length_filter_le _ _

theorem length_put_le (d : Keyed key) (v : V) :
    (d.put v).entries.length ≤ d.entries.length + 1 :=
  Nat.succ_le_succ (length_remove_le d (key v))

/-- Replacing a record keeps their number. -/
theorem length_put_of_find {d : Keyed key} {v w : V} (h : d.find? (key w) = some v) :
    (d.put w).entries.length = d.entries.length := by
  have hcard := congrArg Multiset.card (coe_entries_remove h)
  simpa [put] using hcard

end Keyed

end Lib
end Ksmppd
