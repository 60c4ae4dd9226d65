import Ksmppd.Lib.Lexer

/-!
# Columns — which column a placeholder stands for

In a comparison or an assignment a placeholder stands for the column left of the equals sign.  In an
insertion it stands for the column with the same place in the list of names.
-/

namespace Ksmppd
namespace Lib

universe u

/-- The signs a reader of columns goes by, and the word an insertion starts with. -/
structure Clauses (α : Type u) where
  mark : α
  equals : α
  comma : α
  opening : α
  closing : α
  insert : List α
  distinct : [mark, equals, comma, opening, closing].Nodup

inductive ColumnReader (α : Type u)
  /-- The last word, and the word left of the last equals sign. -/
  | comparing (last left : Option (List α))
  /-- In an insertion, before the names. -/
  | inserting
  | naming (names : List (List α))
  /-- The columns of the values that are to come. -/
  | values (names : List (List α))
  deriving DecidableEq, Repr

variable {α : Type u}

/-- The column of a placeholder that comes now. -/
def ColumnReader.column : ColumnReader α → Option (List α)
  | .comparing _ left => left
  | .inserting => none
  | .naming _ => none
  | .values names => names.head?

namespace Clauses

variable [DecidableEq α] (k : Clauses α)

def read : ColumnReader α → Token α → ColumnReader α
  | .comparing last left, .word w =>
      if last = none ∧ w = k.insert then .inserting else .comparing (some w) left
  | .comparing last left, .sign c =>
      if c = k.equals then .comparing last last else .comparing last left
  | .inserting, .sign c => if c = k.opening then .naming [] else .inserting
  | .naming names, .word w => .naming (names ++ [w])
  | .naming names, .sign c => if c = k.closing then .values names else .naming names
  | .values names, .sign c => if c = k.comma then .values names.tail else .values names
  | r, _ => r

def columnsFrom : ColumnReader α → List (Token α) → List (Option (List α))
  | _, [] => []
  | r, t :: ts =>
      if t = .sign k.mark then r.column :: columnsFrom (k.read r t) ts
      else columnsFrom (k.read r t) ts

/-- The columns of the placeholders of a statement, from left to right. -/
def columns (ts : List (Token α)) : List (Option (List α)) :=
  k.columnsFrom (.comparing none none) ts

variable {k} {r : ColumnReader α} {ts us : List (Token α)} {names : List (List α)}

/-- There is one entry for each placeholder. -/
theorem length_columnsFrom : (k.columnsFrom r ts).length = ts.count (.sign k.mark) := by
  induction ts generalizing r with
  | nil => rfl
  | cons t ts ih =>
      by_cases ht : t = .sign k.mark
      · simp [columnsFrom, ht, ih]
      · simp [columnsFrom, ht, ih]

theorem columnsFrom_append :
    k.columnsFrom r (ts ++ us) = k.columnsFrom r ts ++ k.columnsFrom (ts.foldl k.read r) us := by
  induction ts generalizing r with
  | nil => rfl
  | cons t ts ih =>
      by_cases ht : t = .sign k.mark
      · simp [columnsFrom, ht, ih]
      · simp [columnsFrom, ht, ih]

theorem columnsFrom_of_not_mem (h : .sign k.mark ∉ ts) : k.columnsFrom r ts = [] := by
  apply List.eq_nil_of_length_eq_zero
  rw [length_columnsFrom]
  exact List.count_eq_zero_of_not_mem h

/-! ## Comparisons -/

/-- Some word has been read, and it has not begun an insertion. -/
def Comparing (r : ColumnReader α) : Prop := ∃ w left, r = .comparing (some w) left

instance instDecidableComparing : (r : ColumnReader α) → Decidable (Comparing r)
  | .comparing (some w) left => isTrue ⟨w, left, rfl⟩
  | .comparing none _ => isFalse (fun ⟨_, _, h⟩ => nomatch h)
  | .inserting => isFalse (fun ⟨_, _, h⟩ => nomatch h)
  | .naming _ => isFalse (fun ⟨_, _, h⟩ => nomatch h)
  | .values _ => isFalse (fun ⟨_, _, h⟩ => nomatch h)

theorem comparing_read (h : Comparing r) (t : Token α) : Comparing (k.read r t) := by
  rcases h with ⟨w, left, rfl⟩
  cases t with
  | word v => exact ⟨v, left, by simp [read]⟩
  | literal v => exact ⟨w, left, rfl⟩
  | unclosed v => exact ⟨w, left, rfl⟩
  | sign c =>
      by_cases hc : c = k.equals
      · exact ⟨w, some w, by simp [read, hc]⟩
      · exact ⟨w, left, by simp [read, hc]⟩

theorem comparing_foldl (h : Comparing r) : Comparing (ts.foldl k.read r) := by
  induction ts generalizing r with
  | nil => exact h
  | cons t ts ih => exact ih (comparing_read h t)

/-- Behind a word that begins no insertion, the placeholders of the text stand for these columns. -/
def Yields (k : Clauses α) (a : Alphabet α) (l : List α) (names : List (List α)) : Prop :=
  ∀ r, Comparing r → k.columnsFrom r (a.lex l) = names.map some

variable {a : Alphabet α} {l p : List α} {names' : List (List α)}

theorem sign_not_mem_lex {c : α} (hquote : a.quote ∉ p) (hc : c ∉ p) : .sign c ∉ a.lex p := by
  intro hmem
  rcases Alphabet.plainly_of_mem_lex hquote hmem with ⟨w, heq⟩ | ⟨d, hd, heq⟩
  · cases heq
  · exact hc (Token.sign.inj heq ▸ hd)

theorem yields_of_quiet (hquote : a.quote ∉ p) (hmark : k.mark ∉ p) : k.Yields a p [] :=
  fun _ _ => columnsFrom_of_not_mem (sign_not_mem_lex hquote hmark)

theorem Yields.quiet_append (h : k.Yields a l names) (hquote : a.quote ∉ p) (hmark : k.mark ∉ p)
    (hnext : ∀ c ∈ l.head?, a.letter c = false) : k.Yields a (p ++ l) names := by
  intro r hr
  calc
    k.columnsFrom r (a.lex (p ++ l))
        = k.columnsFrom r (a.lex p) ++ k.columnsFrom ((a.lex p).foldl k.read r) (a.lex l) := by
          rw [Alphabet.lex_append_of_unquoted hquote hnext, columnsFrom_append]
    _ = [] ++ names.map some :=
          congrArg₂ (· ++ ·) (yields_of_quiet hquote hmark r hr) (h _ (comparing_foldl hr))

theorem Yields.append (h : k.Yields a l names') (hp : k.Yields a p names)
    (hbetween : a.stateAfter .between p = .between) : k.Yields a (p ++ l) (names ++ names') := by
  intro r hr
  calc
    k.columnsFrom r (a.lex (p ++ l))
        = k.columnsFrom r (a.lex p) ++ k.columnsFrom ((a.lex p).foldl k.read r) (a.lex l) := by
          rw [Alphabet.lex_append_of_between hbetween, columnsFrom_append]
    _ = names.map some ++ names'.map some :=
          congrArg₂ (· ++ ·) (hp r hr) (h _ (comparing_foldl hr))
    _ = (names ++ names').map some := List.map_append.symm

/-- A statement that starts with a text of words other than that of an insertion. -/
theorem columns_of_yields (h : k.Yields a l names) (hbetween : a.stateAfter .between p = .between)
    (hmark : .sign k.mark ∉ a.lex p)
    (hcomparing : Comparing ((a.lex p).foldl k.read (.comparing none none))) :
    k.columns (a.lex (p ++ l)) = names.map some := by
  rw [Alphabet.lex_append_of_between hbetween, columns, columnsFrom_append,
    columnsFrom_of_not_mem hmark]
  exact h _ hcomparing

/-! ## Insertions -/

theorem foldl_inserting (hquote : a.quote ∉ p) (hopening : k.opening ∉ p) :
    (a.lex p).foldl k.read .inserting = .inserting := by
  have hall : ∀ t ∈ a.lex p, k.read .inserting t = .inserting := by
    intro t ht
    rcases Alphabet.plainly_of_mem_lex hquote ht with ⟨w, rfl⟩ | ⟨c, hc, rfl⟩
    · rfl
    · have hne : c ≠ k.opening := fun heq => hopening (heq ▸ hc)
      simp [read, hne]
  generalize a.lex p = ts at hall
  induction ts with
  | nil => rfl
  | cons t ts ih =>
      rw [List.foldl_cons, hall t List.mem_cons_self]
      exact ih (fun u hu => hall u (List.mem_cons_of_mem t hu))

omit [DecidableEq α] in
theorem mark_ne (k : Clauses α) : k.mark ≠ k.comma ∧ k.mark ≠ k.opening ∧ k.mark ≠ k.closing := by
  have hdistinct := (List.nodup_cons.mp k.distinct).1
  simp only [List.mem_cons, not_or] at hdistinct
  exact ⟨hdistinct.2.1, hdistinct.2.2.1, hdistinct.2.2.2.1⟩

omit [DecidableEq α] in
theorem comma_ne (k : Clauses α) : k.comma ≠ k.opening ∧ k.comma ≠ k.closing := by
  have hdistinct := k.distinct
  simp only [List.nodup_cons, List.mem_cons, not_or] at hdistinct
  exact ⟨hdistinct.2.2.1.1, hdistinct.2.2.1.2.1⟩

/-- The names, with commas between them. -/
def namesOf (k : Clauses α) (names : List (List α)) : List (Token α) :=
  List.intercalate [.sign k.comma] (names.map (fun w => [Token.word w]))

/-- One placeholder for each name, with commas between them. -/
def marksOf (k : Clauses α) (names : List (List α)) : List (Token α) :=
  List.intercalate [.sign k.comma] (names.map (fun _ => [Token.sign k.mark]))

omit [DecidableEq α] in
theorem namesOf_cons (w v : List α) (ws : List (List α)) :
    k.namesOf (w :: v :: ws) = [.word w, .sign k.comma] ++ k.namesOf (v :: ws) :=
  List.intercalate_cons_of_ne_nil (by simp)

omit [DecidableEq α] in
theorem marksOf_cons (w v : List α) (ws : List (List α)) :
    k.marksOf (w :: v :: ws) = [.sign k.mark, .sign k.comma] ++ k.marksOf (v :: ws) :=
  List.intercalate_cons_of_ne_nil (by simp)

theorem foldl_namesOf (ws : List (List α)) :
    (k.namesOf ws).foldl k.read (.naming names) = .naming (names ++ ws) := by
  induction ws generalizing names with
  | nil => simp [namesOf]
  | cons w ws ih =>
      cases ws with
      | nil => simp [namesOf, read]
      | cons v ws =>
          rw [namesOf_cons, List.foldl_append]
          simpa [read, k.comma_ne.2] using @ih (names ++ [w])

omit [DecidableEq α] in
theorem mark_not_mem_namesOf (ws : List (List α)) : .sign k.mark ∉ k.namesOf ws := by
  induction ws with
  | nil => simp [namesOf]
  | cons w ws ih =>
      cases ws with
      | nil => simp [namesOf]
      | cons v ws =>
          rw [namesOf_cons]
          simpa [k.mark_ne.1] using ih

theorem columnsFrom_marksOf (names : List (List α)) :
    k.columnsFrom (.values names) (k.marksOf names) = names.map some := by
  induction names with
  | nil => rfl
  | cons n names ih =>
      cases names with
      | nil => simp [marksOf, columnsFrom, ColumnReader.column]
      | cons m names =>
          rw [marksOf_cons, columnsFrom_append]
          simpa [columnsFrom, ColumnReader.column, read, k.mark_ne.1, k.mark_ne.1.symm] using ih

/-- Each placeholder of an insertion stands for the name at its place. -/
theorem columnsFrom_insertion (names : List (List α)) (w : List α) (h : .sign k.mark ∉ ts) :
    k.columnsFrom .inserting ([.sign k.opening] ++ (k.namesOf names ++
      ([.sign k.closing, .word w, .sign k.opening] ++ (k.marksOf names ++ ts)))) =
        names.map some := by
  rcases k.mark_ne with ⟨-, hopening, hclosing⟩
  have hfirst : k.columnsFrom .inserting [.sign k.opening] = [] := by
    simp [columnsFrom, hopening.symm]
  have hmiddle : k.columnsFrom (.naming names)
      [.sign k.closing, .word w, .sign k.opening] = [] := by
    simp [columnsFrom, hopening.symm, hclosing.symm]
  have hnaming : [Token.sign k.opening].foldl k.read .inserting = .naming [] := by simp [read]
  have hnames : (k.namesOf names).foldl k.read (.naming []) = .naming names := foldl_namesOf names
  have hvalues : [.sign k.closing, .word w, .sign k.opening].foldl k.read (.naming names) =
      .values names := by
    simp [read, k.comma_ne.1.symm]
  -- the parts from left to right; only the marks have placeholders
  rw [columnsFrom_append, columnsFrom_append, columnsFrom_append, columnsFrom_append, hfirst,
    hnaming, hnames, hmiddle, hvalues, columnsFrom_marksOf,
    columnsFrom_of_not_mem (mark_not_mem_namesOf names), columnsFrom_of_not_mem h]
  simp

end Clauses

end Lib
end Ksmppd
