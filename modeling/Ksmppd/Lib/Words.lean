import Mathlib.Data.List.Basic
import Mathlib.Data.List.Count

/-!
# Words — texts that are split at separators

A text is split into words at each separator, and a doubled escape symbol stands for one; a single
escape symbol is an error.  Joining words and splitting again gives the words back exactly when
none of them has a separator or an escape symbol: splitting can only shorten, and what the words
themselves must not lose is all there is.
-/

namespace Ksmppd
namespace Lib

universe u

variable {α : Type u} {sep esc : α}

/-- Neither separator nor escape symbol. -/
def Plain (sep esc : α) (l : List α) : Prop := ∀ c ∈ l, c ≠ sep ∧ c ≠ esc

theorem plain_append {l l' : List α} :
    Plain sep esc (l ++ l') ↔ Plain sep esc l ∧ Plain sep esc l' := by
  simp only [Plain, List.mem_append]
  constructor
  · intro h
    exact ⟨fun c hc => h c (Or.inl hc), fun c hc => h c (Or.inr hc)⟩
  · rintro ⟨h, h'⟩ c (hc | hc)
    · exact h c hc
    · exact h' c hc

theorem plain_flatMap {β : Type*} {f : β → List α} {bs : List β} :
    Plain sep esc (bs.flatMap f) ↔ ∀ b ∈ bs, Plain sep esc (f b) := by
  simp only [Plain, List.mem_flatMap]
  constructor
  · intro h b hb c hc
    exact h c ⟨b, hb, hc⟩
  · rintro h c ⟨b, hb, hc⟩
    exact h b hb c hc

theorem plain_flatten {ws : List (List α)} :
    Plain sep esc ws.flatten ↔ ∀ w ∈ ws, Plain sep esc w := by
  rw [← List.flatMap_id]
  exact plain_flatMap

theorem plain_intercalate {d : List α} (hd : Plain sep esc d) {ws : List (List α)} :
    Plain sep esc (List.intercalate d ws) ↔ ∀ w ∈ ws, Plain sep esc w := by
  induction ws with
  | nil => simp [List.intercalate, Plain]
  | cons w ws ih =>
      cases ws with
      | nil => simp [List.intercalate]
      | cons v ws =>
          have hcons : List.intercalate d (w :: v :: ws) = w ++ d ++ List.intercalate d (v :: ws) := by
            simp [List.intercalate, List.intersperse]
          rw [hcons, plain_append, plain_append, ih]
          simp [hd]

/-- Put the words behind each other with one separator between two. -/
def joinWords (sep : α) (ws : List (List α)) : List α := List.intercalate [sep] ws

theorem joinWords_cons (w v : List α) (ws : List (List α)) :
    joinWords sep (w :: v :: ws) = w ++ sep :: joinWords sep (v :: ws) := by
  simp [joinWords, List.intercalate, List.intersperse]

variable [DecidableEq α]

instance (l : List α) : Decidable (Plain sep esc l) :=
  List.decidableBAll (fun c => c ≠ sep ∧ c ≠ esc) l

variable {c : α} {l word : List α} {ws : List (List α)}

/-- Split the text, whose first word has begun with `word`.  Empty words do not count. -/
def splitWords (sep esc : α) : List α → List α → Option (List (List α))
  | [], word => some (if word = [] then [] else [word])
  | c :: rest, word =>
      if c = esc then
        match rest with
        | [] => none
        | d :: rest' => if d = esc then splitWords sep esc rest' (word ++ [esc]) else none
      else if c = sep then
        if word = [] then splitWords sep esc rest []
        else (splitWords sep esc rest []).map (fun ws => word :: ws)
      else splitWords sep esc rest (word ++ [c])

theorem splitWords_symbol (hsep : c ≠ sep) (hesc : c ≠ esc) :
    splitWords sep esc (c :: l) word = splitWords sep esc l (word ++ [c]) := by
  rw [splitWords.eq_def]
  simp [hsep, hesc]

theorem splitWords_sep (hne : sep ≠ esc) (hword : word ≠ []) :
    splitWords sep esc (sep :: l) word =
      (splitWords sep esc l []).map (fun ws => word :: ws) := by
  rw [splitWords.eq_def]
  simp [hne, hword]

/-- A plain word is read as it stands. -/
theorem splitWords_append {w : List α} (hw : Plain sep esc w) (rest word : List α) :
    splitWords sep esc (w ++ rest) word = splitWords sep esc rest (word ++ w) := by
  induction w generalizing word with
  | nil => simp
  | cons c w ih =>
      have hc := hw c (by simp)
      have hrest := ih (fun d hd => hw d (by simp [hd])) (word ++ [c])
      rw [List.cons_append, splitWords_symbol hc.1 hc.2, hrest]
      simp

theorem splitWords_join (hne : sep ≠ esc) (hws : ∀ w ∈ ws, w ≠ [])
    (hplain : ∀ w ∈ ws, Plain sep esc w) : splitWords sep esc (joinWords sep ws) [] = some ws := by
  induction ws with
  | nil => rfl
  | cons w ws ih =>
      have hw : w ≠ [] := hws w (by simp)
      have hrest := ih (fun v hv => hws v (by simp [hv])) (fun v hv => hplain v (by simp [hv]))
      cases ws with
      | nil =>
          have hsplit := splitWords_append (hplain w (by simp)) [] []
          simpa [joinWords, splitWords, hw] using hsplit
      | cons v ws =>
          have hsplit := splitWords_append (hplain w (by simp)) (sep :: joinWords sep (v :: ws)) []
          rw [joinWords_cons, hsplit, List.nil_append, splitWords_sep hne hw, hrest]
          rfl

/-- Each separator and each escape symbol costs the words some of the text's length. -/
theorem splitWords_length (hne : sep ≠ esc) (h : splitWords sep esc l word = some ws) :
    2 * (ws.flatten.length + l.count sep) + l.count esc = 2 * (word.length + l.length) := by
  fun_induction splitWords sep esc l word generalizing ws with
  | case1 word =>
      -- the text is over, and its last word counts if it is not empty
      by_cases hword : word = []
      · simp [← Option.some.inj h, hword]
      · simp [← Option.some.inj h, hword]
  | case2 => cases h
  | case3 word rest ih =>
      have hrest := ih h
      simp only [List.count_cons, List.length_cons, List.length_append, List.length_nil,
        beq_iff_eq, hne.symm, if_true, if_false] at hrest ⊢
      omega
  | case4 => cases h
  | case5 rest hsep ih =>
      have hrest := ih h
      simp only [List.count_cons, List.length_cons, List.length_nil, beq_iff_eq, hne, if_true,
        if_false] at hrest ⊢
      omega
  | case6 rest word hword hsep ih =>
      rcases Option.map_eq_some_iff.mp h with ⟨vs, hvs, rfl⟩
      have hrest := ih hvs
      simp only [List.count_cons, List.length_cons, List.length_nil, List.flatten_cons,
        List.length_append, beq_iff_eq, hne, if_true, if_false] at hrest ⊢
      omega
  | case7 c rest word hesc hsep ih =>
      have hrest := ih h
      simp only [List.count_cons, List.length_cons, List.length_append, List.length_nil,
        beq_iff_eq, hesc, hsep, if_false] at hrest ⊢
      omega

theorem count_joinWords (hne : c ≠ sep) : (joinWords sep ws).count c = ws.flatten.count c := by
  induction ws with
  | nil => rfl
  | cons w ws ih =>
      cases ws with
      | nil => simp [joinWords]
      | cons v ws =>
          rw [joinWords_cons, List.count_append, List.count_cons, ih]
          simp [hne.symm]

theorem length_joinWords : (joinWords sep ws).length + ws.flatten.count sep =
    ws.flatten.length + (joinWords sep ws).count sep := by
  induction ws with
  | nil => rfl
  | cons w ws ih =>
      cases ws with
      | nil => simp [joinWords]
      | cons v ws =>
          rw [joinWords_cons]
          simp only [List.length_append, List.length_cons, List.count_append, List.count_cons_self,
            List.flatten_cons] at ih ⊢
          omega

/-- The words come back exactly when they are plain. -/
theorem splitWords_join_iff (hne : sep ≠ esc) (hws : ∀ w ∈ ws, w ≠ []) :
    splitWords sep esc (joinWords sep ws) [] = some ws ↔ ∀ w ∈ ws, Plain sep esc w := by
  constructor
  · intro hsplit
    have hsum := splitWords_length hne hsplit
    have hlength := @length_joinWords _ sep _ ws
    have hescapes := @count_joinWords _ sep _ esc ws hne.symm
    simp only [List.length_nil] at hsum
    have hsep : ws.flatten.count sep = 0 := by omega
    have hesc : ws.flatten.count esc = 0 := by omega
    refine plain_flatten.mp (fun c hc => ⟨?_, ?_⟩)
    · rintro rfl
      exact List.count_eq_zero.mp hsep hc
    · rintro rfl
      exact List.count_eq_zero.mp hesc hc
  · exact splitWords_join hne hws

end Lib
end Ksmppd
