import Mathlib.Data.List.Basic

/-!
# LeftJoin — queries that join a second table

`leftJoin rel l r` pairs every row of `l` with each row of `r` it is related to, and with nothing
where there is none.  `select` is the query with a condition on such pairs, as far as it names rows
of `l`: one that joins several times is named several times.
-/

namespace Ksmppd
namespace Lib

universe u v

variable {α : Type u} {β : Type v} {rel : α → β → Bool} {l : List α} {r : List β} {a : α}
  {p : α → Option β → Bool}

/-- The rows of `r` that `a` joins. -/
def joined (rel : α → β → Bool) (r : List β) (a : α) : List (Option β) :=
  match r.filter (rel a) with
  | [] => [none]
  | b :: bs => (b :: bs).map some

def leftJoin (rel : α → β → Bool) (l : List α) (r : List β) : List (α × Option β) :=
  l.flatMap (fun a => (joined rel r a).map (fun o => (a, o)))

def select (rel : α → β → Bool) (p : α → Option β → Bool) (l : List α) (r : List β) : List α :=
  ((leftJoin rel l r).filter (fun x => p x.1 x.2)).map Prod.fst

theorem exists_mem_joined (rel : α → β → Bool) (r : List β) (a : α) : ∃ o, o ∈ joined rel r a := by
  unfold joined
  cases r.filter (rel a) with
  | nil => exact ⟨none, by simp⟩
  | cons b bs => exact ⟨some b, by simp⟩

/-- A row is selected exactly if it joins something, or nothing, with which the condition holds. -/
theorem mem_select : a ∈ select rel p l r ↔ a ∈ l ∧ ∃ o ∈ joined rel r a, p a o = true := by
  unfold select leftJoin
  constructor
  · intro h
    rcases List.mem_map.mp h with ⟨⟨x, o⟩, hx, rfl⟩
    rcases List.mem_filter.mp hx with ⟨hjoin, hp⟩
    rcases List.mem_flatMap.mp hjoin with ⟨y, hy, hpair⟩
    rcases List.mem_map.mp hpair with ⟨o', ho', heq⟩
    cases heq
    exact ⟨hy, o, ho', hp⟩
  · rintro ⟨ha, o, ho, hp⟩
    refine List.mem_map.mpr ⟨(a, o), List.mem_filter.mpr ⟨?_, hp⟩, rfl⟩
    exact List.mem_flatMap.mpr ⟨a, ha, List.mem_map.mpr ⟨o, ho, rfl⟩⟩

/-- Where all that a row joins has one verdict, that verdict decides. -/
theorem mem_select_of_agree {verdict : Bool}
    (hagree : ∀ o ∈ joined rel r a, p a o = verdict) :
    a ∈ select rel p l r ↔ a ∈ l ∧ verdict = true := by
  rw [mem_select]
  apply and_congr Iff.rfl
  constructor
  · rintro ⟨o, ho, hp⟩
    rw [← hagree o ho]
    exact hp
  · intro hverdict
    rcases exists_mem_joined rel r a with ⟨o, ho⟩
    exact ⟨o, ho, (hagree o ho).trans hverdict⟩

end Lib
end Ksmppd
