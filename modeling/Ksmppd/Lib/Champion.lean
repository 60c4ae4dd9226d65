import Mathlib.Order.Basic

/-!
# Champion — the last one standing of a list

Challengers come in turn and the champion stays against those it holds off.  Where holding off is
transitive, the one that stands at the end is the first element of the list that holds off all that
come after it.  It need not hold off those before it.
-/

namespace Ksmppd
namespace Lib

universe u

variable {α : Type u} (holds : α → α → Prop) [DecidableRel holds] {beats : α → α → Prop}
  {es pre post : List α} {a b : α}

/-- The champion after one more challenge. -/
def challenge : Option α → α → Option α
  | none, e => some e
  | some b, e => if holds b e then some b else some e

/-- The champion at the end of the list. -/
def champion (es : List α) : Option α := es.foldl (challenge holds) none

/-- The first element that holds off all that come after it. -/
def firstLasting : List α → Option α
  | [] => none
  | e :: es => if ∀ z ∈ es, holds e z then some e else firstLasting es

/-- `b` stands between `pre` and `post`, holds off `post`, and nobody in `pre` holds off all that
come after itself. -/
structure LastsFirst (pre : List α) (b : α) (post : List α) : Prop where
  lasts : ∀ z ∈ post, holds b z
  first : ∀ pre' w post', pre = pre' ++ w :: post' → ¬ ∀ z ∈ post' ++ b :: post, holds w z

variable {holds}

theorem champion_cons_cons_of_holds (h : holds a b) :
    champion holds (a :: b :: es) = champion holds (a :: es) := by
  simp [champion, challenge, h]

theorem champion_cons_cons_of_not_holds (h : ¬ holds a b) :
    champion holds (a :: b :: es) = champion holds (b :: es) := by
  simp [champion, challenge, h]

/-- The one that stands at the end is the first that holds off all after it. -/
theorem champion_eq_firstLasting (htrans : ∀ a b c, holds a b → holds b c → holds a c) :
    champion holds es = firstLasting holds es := by
  cases es with
  | nil => rfl
  | cons b es =>
      induction es generalizing b with
      | nil => simp [champion, challenge, firstLasting]
      | cons e es ih =>
          by_cases hbe : holds b e
          · rw [champion_cons_cons_of_holds hbe, ih b]
            by_cases hb : ∀ z ∈ es, holds b z
            · have hall : ∀ z ∈ e :: es, holds b z := List.forall_mem_cons.mpr ⟨hbe, hb⟩
              simp only [firstLasting, if_pos hb, if_pos hall]
            · -- what `e` holds off, `b` would hold off too
              have he : ¬ ∀ z ∈ es, holds e z := by
                intro he
                exact hb (fun z hz => htrans b e z hbe (he z hz))
              have hall : ¬ ∀ z ∈ e :: es, holds b z := by
                intro hall
                exact hb (fun z hz => hall z (List.mem_cons_of_mem e hz))
              simp only [firstLasting, if_neg hb, if_neg he, if_neg hall]
          · have hall : ¬ ∀ z ∈ e :: es, holds b z := by
              intro hall
              exact hbe (hall e List.mem_cons_self)
            calc
              champion holds (b :: e :: es) = champion holds (e :: es) :=
                champion_cons_cons_of_not_holds hbe
              _ = firstLasting holds (e :: es) := ih e
              _ = firstLasting holds (b :: e :: es) := by
                simp only [firstLasting, if_neg hall]

theorem firstLasting_append (h : LastsFirst holds pre b post) :
    firstLasting holds (pre ++ b :: post) = some b := by
  induction pre with
  | nil => simp only [List.nil_append, firstLasting, if_pos h.lasts]
  | cons e pre ih =>
      have he : ¬ ∀ z ∈ pre ++ b :: post, holds e z := h.first [] e pre rfl
      simp only [List.cons_append, firstLasting, if_neg he]
      apply ih
      refine ⟨h.lasts, ?_⟩
      intro pre' w post' hpre
      exact h.first (e :: pre') w post' (by simp [hpre])

theorem exists_of_firstLasting (h : firstLasting holds es = some b) :
    ∃ pre post, es = pre ++ b :: post ∧ LastsFirst holds pre b post := by
  induction es with
  | nil => cases h
  | cons e es ih =>
      by_cases he : ∀ z ∈ es, holds e z
      · simp only [firstLasting, if_pos he, Option.some.injEq] at h
        subst h
        refine ⟨[], es, rfl, he, ?_⟩
        intro pre' w post' hnil
        simp at hnil
      · simp only [firstLasting, if_neg he] at h
        rcases ih h with ⟨pre, post, rfl, hfirst⟩
        refine ⟨e :: pre, post, rfl, hfirst.lasts, ?_⟩
        intro pre' w post' hpre
        cases pre' with
        | nil =>
            rcases List.cons.inj hpre with ⟨rfl, rfl⟩
            exact he
        | cons e' pre' => exact hfirst.first pre' w post' (List.cons.inj hpre).2

/-- Where the champion is found in the list. -/
theorem champion_eq_some_iff (htrans : ∀ a b c, holds a b → holds b c → holds a c) :
    champion holds es = some b ↔
      ∃ pre post, es = pre ++ b :: post ∧ LastsFirst holds pre b post := by
  rw [champion_eq_firstLasting htrans]
  constructor
  · exact exists_of_firstLasting
  · rintro ⟨pre, post, rfl, hfirst⟩
    exact firstLasting_append hfirst

theorem champion_eq_none_iff : champion holds es = none ↔ es = [] := by
  have hsome : ∀ (es : List α) (b : α), es.foldl (challenge holds) (some b) ≠ none := by
    intro es
    induction es with
    | nil => simp
    | cons e es ih =>
        intro b
        by_cases hbe : holds b e
        · simpa [challenge, hbe] using ih b
        · simpa [challenge, hbe] using ih e
  cases es with
  | nil => simp [champion]
  | cons e es => simpa [champion, challenge] using hsome es e

/-- No one beats the champion exactly when whoever is beaten by one before it, and holds off all
after it, has before it one that holds off all after itself. -/
theorem champion_unbeaten_iff (hrefl : ∀ a, holds a a)
    (htrans : ∀ a b c, holds a b → holds b c → holds a c)
    (hbeats : ∀ a b, holds a b → ¬ beats b a) :
    (∀ b, champion holds es = some b → ∀ x ∈ es, ¬ beats x b) ↔
      ∀ pre b post, es = pre ++ b :: post → (∀ z ∈ post, holds b z) → (∃ x ∈ pre, beats x b) →
        ∃ pre' w post', pre = pre' ++ w :: post' ∧ ∀ z ∈ post' ++ b :: post, holds w z := by
  constructor
  · rintro hunbeaten pre b post rfl hlasts ⟨x, hx, hxb⟩
    by_contra hnone
    have hchampion : champion holds (pre ++ b :: post) = some b := by
      refine (champion_eq_some_iff htrans).mpr ⟨pre, post, rfl, hlasts, ?_⟩
      intro pre' w post' hpre hw
      exact hnone ⟨pre', w, post', hpre, hw⟩
    exact hunbeaten b hchampion x (List.mem_append_left _ hx) hxb
  · intro hovertaken b hb x hx hxb
    rcases (champion_eq_some_iff htrans).mp hb with ⟨pre, post, rfl, hfirst⟩
    have hpre : x ∈ pre := by
      rcases List.mem_append.mp hx with hpre | hrest
      · exact hpre
      · rcases List.mem_cons.mp hrest with rfl | hpost
        · exact absurd hxb (hbeats x x (hrefl x))
        · exact absurd hxb (hbeats b x (hfirst.lasts x hpost))
    rcases hovertaken pre b post rfl hfirst.lasts ⟨x, hpre, hxb⟩ with ⟨pre', w, post', hsplit, hw⟩
    exact hfirst.first pre' w post' hsplit hw

end Lib
end Ksmppd
