import Mathlib.Data.List.Basic

/-!
# Lexer — words, signs and quoted literals

A text is read symbol by symbol into tokens.  A run of letters is a word; a literal stands between
two quotes, and a doubled quote inside it stands for one.  What is read next depends on the rest of
the text only where a token may still go on: the tokens of two texts put together are the tokens of
both, once the first is done.
-/

namespace Ksmppd
namespace Lib

universe u

/-- What the lexer tells apart. -/
structure Alphabet (α : Type u) where
  quote : α
  letter : α → Bool
  blank : α → Bool
  quote_not_letter : letter quote = false

inductive Token (α : Type u)
  | word (text : List α)
  | literal (value : List α)
  | sign (c : α)
  /-- A literal the text ends in. -/
  | unclosed (value : List α)
  deriving DecidableEq, Repr

/-- How far the lexer is in a token. -/
inductive LexState (α : Type u)
  | between
  | word (read : List α)
  | literal (read : List α)
  /-- Behind a quote that ends the literal or is doubled. -/
  | quoted (read : List α)
  deriving DecidableEq, Repr

variable {α : Type u}

/-- The token that ends here. -/
def LexState.finish : LexState α → List (Token α)
  | .between => []
  | .word w => [.word w]
  | .literal v => [.unclosed v]
  | .quoted v => [.literal v]

/-- Neither in a literal nor behind one. -/
def Unquoted (s : LexState α) : Prop := s = .between ∨ ∃ w, s = .word w

theorem unquoted_between : Unquoted (.between : LexState α) := Or.inl rfl

/-- A word, or a sign that stands in the text. -/
def Plainly (l : List α) (t : Token α) : Prop := (∃ w, t = .word w) ∨ ∃ c ∈ l, t = .sign c

theorem Plainly.mono {l l' : List α} {t : Token α} (h : Plainly l t)
    (hsub : l ⊆ l') : Plainly l' t := by
  rcases h with ⟨w, rfl⟩ | ⟨c, hc, rfl⟩
  · exact Or.inl ⟨w, rfl⟩
  · exact Or.inr ⟨c, hsub hc, rfl⟩

namespace Alphabet

variable [DecidableEq α] (a : Alphabet α)

/-- Read a symbol that no token goes on with. -/
def first (c : α) : List (Token α) × LexState α :=
  if c = a.quote then ([], .literal [])
  else if a.letter c then ([], .word [c])
  else if a.blank c then ([], .between)
  else ([.sign c], .between)

/-- Read one symbol. -/
def read : LexState α → α → List (Token α) × LexState α
  | .between, c => a.first c
  | .word w, c =>
      if a.letter c then ([], .word (w ++ [c])) else (.word w :: (a.first c).1, (a.first c).2)
  | .literal v, c => if c = a.quote then ([], .quoted v) else ([], .literal (v ++ [c]))
  | .quoted v, c =>
      if c = a.quote then ([], .literal (v ++ [c]))
      else (.literal v :: (a.first c).1, (a.first c).2)

def lexFrom : LexState α → List α → List (Token α)
  | s, [] => s.finish
  | s, c :: cs => (a.read s c).1 ++ lexFrom (a.read s c).2 cs

/-- The tokens of a text. -/
def lex (l : List α) : List (Token α) := a.lexFrom .between l

/-- The state behind a text. -/
def stateAfter (s : LexState α) (l : List α) : LexState α := l.foldl (fun s c => (a.read s c).2) s

/-- No token goes on with the text. -/
def Done : LexState α → List α → Prop
  | .between, _ => True
  | .word _, l => ∀ c ∈ l.head?, a.letter c = false
  | .literal _, _ => False
  | .quoted _, l => ∀ c ∈ l.head?, c ≠ a.quote

/-- A value between quotes, with every quote in it doubled. -/
def quoted (v : List α) : List α :=
  a.quote :: v.flatMap (fun c => if c = a.quote then [c, c] else [c]) ++ [a.quote]

variable {a} {s : LexState α} {l l' v w : List α} {t : Token α}

/-! ## Texts put together -/

theorem lexFrom_of_done (h : a.Done s l) : a.lexFrom s l = s.finish ++ a.lex l := by
  cases l with
  | nil => cases s <;> simp [lexFrom, lex, LexState.finish]
  | cons c l =>
      cases s with
      | between => rfl
      | word w =>
          have hletter : a.letter c = false := h c (by simp)
          simp [lexFrom, lex, read, hletter, LexState.finish]
      | literal v => exact absurd h id
      | quoted v =>
          have hquote : c ≠ a.quote := h c (by simp)
          simp [lexFrom, lex, read, hquote, LexState.finish]

theorem lexFrom_append (h : a.Done (a.stateAfter s l) l') :
    a.lexFrom s (l ++ l') = a.lexFrom s l ++ a.lex l' := by
  induction l generalizing s with
  | nil => exact lexFrom_of_done h
  | cons c l ih =>
      have hrest := ih (s := (a.read s c).2) h
      simp [lexFrom, hrest]

theorem stateAfter_append : a.stateAfter s (l ++ l') = a.stateAfter (a.stateAfter s l) l' :=
  List.foldl_append

theorem stateAfter_cons (c : α) (l : List α) :
    a.stateAfter s (c :: l) = a.stateAfter (a.read s c).2 l := rfl

/-- Behind a blank or a sign a token starts anew. -/
theorem lex_append_of_between (h : a.stateAfter .between l = .between) (l' : List α) :
    a.lex (l ++ l') = a.lex l ++ a.lex l' := by
  apply lexFrom_append
  rw [h]
  trivial

/-- A symbol that is a token of its own. -/
def IsSign (a : Alphabet α) (c : α) : Prop := c ≠ a.quote ∧ a.letter c = false ∧ a.blank c = false

theorem lex_sign {c : α} (hc : a.IsSign c) (l : List α) : a.lex (c :: l) = .sign c :: a.lex l := by
  rcases hc with ⟨hquote, hletter, hblank⟩
  simp [lex, lexFrom, read, first, hquote, hletter, hblank]

/-! ## Texts without quotes -/

theorem unquoted_first {c : α} (hc : c ≠ a.quote) : Unquoted (a.first c).2 := by
  simp only [first, if_neg hc]
  split_ifs
  · exact Or.inr ⟨[c], rfl⟩
  · exact Or.inl rfl
  · exact Or.inl rfl

theorem unquoted_read {c : α} (hs : Unquoted s) (hc : c ≠ a.quote) : Unquoted (a.read s c).2 := by
  rcases hs with rfl | ⟨w, rfl⟩
  · exact unquoted_first hc
  · simp only [read]
    split_ifs
    · exact Or.inr ⟨w ++ [c], rfl⟩
    · exact unquoted_first hc

theorem unquoted_stateAfter (hs : Unquoted s) (hl : a.quote ∉ l) :
    Unquoted (a.stateAfter s l) := by
  induction l generalizing s with
  | nil => exact hs
  | cons c l ih =>
      have hc : c ≠ a.quote := Ne.symm (List.ne_of_not_mem_cons hl)
      exact ih (unquoted_read hs hc) (List.not_mem_of_not_mem_cons hl)

/-- A text without quotes is done where no letter follows. -/
theorem lex_append_of_unquoted (hl : a.quote ∉ l) (hnext : ∀ c ∈ l'.head?, a.letter c = false) :
    a.lex (l ++ l') = a.lex l ++ a.lex l' := by
  apply lexFrom_append
  rcases unquoted_stateAfter (a := a) unquoted_between hl with hs | ⟨w, hs⟩
  · rw [hs]
    trivial
  · rw [hs]
    exact hnext

/-- Texts with a sign between each two of them. -/
theorem lex_intercalate {c : α} (hc : a.IsSign c) {ws : List (List α)}
    (hws : ∀ w ∈ ws, a.quote ∉ w) :
    a.lex (List.intercalate [c] ws) = List.intercalate [.sign c] (ws.map a.lex) := by
  induction ws with
  | nil => rfl
  | cons w ws ih =>
      have hrest := ih (fun v hv => hws v (List.mem_cons_of_mem w hv))
      cases ws with
      | nil => simp [List.intercalate_singleton]
      | cons v ws =>
          have hnext : ∀ d ∈ (c :: List.intercalate [c] (v :: ws)).head?, a.letter d = false := by
            intro d hd
            rw [← Option.mem_some_iff.mp hd]
            exact hc.2.1
          calc
            a.lex (List.intercalate [c] (w :: v :: ws))
                = a.lex (w ++ c :: List.intercalate [c] (v :: ws)) := by
                  simp [List.intercalate_cons_cons]
            _ = a.lex w ++ a.lex (c :: List.intercalate [c] (v :: ws)) :=
                  lex_append_of_unquoted (hws w List.mem_cons_self) hnext
            _ = List.intercalate [.sign c] ((w :: v :: ws).map a.lex) := by
                  simp [lex_sign hc, hrest, List.intercalate_cons_cons]

theorem plainly_of_mem_first {c : α} (hc : c ≠ a.quote) (ht : t ∈ (a.first c).1) :
    Plainly [c] t := by
  simp only [first, if_neg hc] at ht
  split_ifs at ht
  · cases ht
  · cases ht
  · exact Or.inr ⟨c, List.mem_singleton_self c, List.mem_singleton.mp ht⟩

theorem plainly_of_mem_read {c : α} (hs : Unquoted s) (hc : c ≠ a.quote)
    (ht : t ∈ (a.read s c).1) : Plainly [c] t := by
  rcases hs with rfl | ⟨w, rfl⟩
  · exact plainly_of_mem_first hc ht
  · simp only [read] at ht
    split_ifs at ht
    · cases ht
    · rcases List.mem_cons.mp ht with rfl | ht
      · exact Or.inl ⟨w, rfl⟩
      · exact plainly_of_mem_first hc ht

theorem plainly_of_mem_lexFrom (hs : Unquoted s) (hl : a.quote ∉ l) (ht : t ∈ a.lexFrom s l) :
    Plainly l t := by
  induction l generalizing s with
  | nil =>
      rcases hs with rfl | ⟨w, rfl⟩
      · cases ht
      · exact Or.inl ⟨w, List.mem_singleton.mp ht⟩
  | cons c l ih =>
      have hc : c ≠ a.quote := Ne.symm (List.ne_of_not_mem_cons hl)
      rcases List.mem_append.mp ht with hnow | hlater
      · exact (plainly_of_mem_read hs hc hnow).mono (by simp)
      · exact (ih (unquoted_read hs hc) (List.not_mem_of_not_mem_cons hl) hlater).mono (by simp)

theorem plainly_of_mem_lex (hl : a.quote ∉ l) (ht : t ∈ a.lex l) : Plainly l t :=
  plainly_of_mem_lexFrom unquoted_between hl ht

/-! ## Words -/

theorem lexFrom_word (hw : ∀ c ∈ w, a.letter c = true) :
    a.lexFrom (.word v) w = [.word (v ++ w)] := by
  induction w generalizing v with
  | nil => simp [lexFrom, LexState.finish]
  | cons c w ih =>
      have hletter : a.letter c = true := hw c (by simp)
      have hrest := ih (v := v ++ [c]) (fun d hd => hw d (by simp [hd]))
      simp [lexFrom, read, hletter, hrest]

omit [DecidableEq α] in
theorem quote_not_mem_of_letters (hw : ∀ c ∈ w, a.letter c = true) : a.quote ∉ w := by
  intro hmem
  have hletter := hw a.quote hmem
  rw [a.quote_not_letter] at hletter
  cases hletter

theorem lex_word (hw : ∀ c ∈ w, a.letter c = true) (hne : w ≠ []) : a.lex w = [.word w] := by
  cases w with
  | nil => exact absurd rfl hne
  | cons c w =>
      have hletter : a.letter c = true := hw c (by simp)
      have hquote : c ≠ a.quote := by
        rintro rfl
        exact quote_not_mem_of_letters hw List.mem_cons_self
      have hrest := lexFrom_word (a := a) (v := [c]) (w := w)
        (fun d hd => hw d (List.mem_cons_of_mem c hd))
      simpa [lex, lexFrom, read, first, hquote, hletter] using hrest

/-! ## Literals -/

/-- Behind a value whose quotes are doubled the lexer is still in the literal. -/
theorem stateAfter_doubled (v w : List α) :
    a.stateAfter (.literal w) (v.flatMap (fun c => if c = a.quote then [c, c] else [c])) =
      .literal (w ++ v) := by
  induction v generalizing w with
  | nil => simp [stateAfter]
  | cons c v ih =>
      have hfirst : a.stateAfter (.literal w) (if c = a.quote then [c, c] else [c]) =
          .literal (w ++ [c]) := by
        by_cases hc : c = a.quote
        · simp [hc, stateAfter, read]
        · simp [hc, stateAfter, read]
      rw [List.flatMap_cons, stateAfter_append, hfirst, ih]
      simp

theorem lexFrom_doubled (v w : List α) :
    a.lexFrom (.literal w) (v.flatMap (fun c => if c = a.quote then [c, c] else [c]) ++ [a.quote]) =
      [.literal (w ++ v)] := by
  induction v generalizing w with
  | nil => simp [lexFrom, read, LexState.finish]
  | cons c v ih =>
      by_cases hc : c = a.quote
      · simpa [hc, lexFrom, read] using ih (w ++ [c])
      · simpa [hc, lexFrom, read] using ih (w ++ [c])

/-- A quoted value is one token, whatever it holds. -/
theorem lex_quoted (v : List α) : a.lex (a.quoted v) = [.literal v] := by
  simpa [lex, quoted, lexFrom, read, first] using lexFrom_doubled (a := a) v []

theorem stateAfter_quoted (v : List α) : a.stateAfter .between (a.quoted v) = .quoted v := by
  have hopened : a.read .between a.quote = ([], .literal []) := by simp [read, first]
  have hclosed : a.read (.literal v) a.quote = ([], .quoted v) := by simp [read]
  have hvalue := stateAfter_doubled (a := a) v []
  rw [quoted, List.cons_append, stateAfter_cons, hopened, stateAfter_append, hvalue,
    stateAfter_cons, List.nil_append, hclosed]
  rfl

/-- Only a further quote would be read on. -/
theorem lex_quoted_append (v : List α) (hnext : ∀ c ∈ l'.head?, c ≠ a.quote) :
    a.lex (a.quoted v ++ l') = .literal v :: a.lex l' := by
  have hdone : a.Done (a.stateAfter .between (a.quoted v)) l' := by
    rw [stateAfter_quoted]
    exact hnext
  calc
    a.lex (a.quoted v ++ l') = a.lex (a.quoted v) ++ a.lex l' := lexFrom_append hdone
    _ = .literal v :: a.lex l' := congrArg (· ++ a.lex l') (lex_quoted v)

/-- A quote ends whatever is read before it. -/
theorem done_quoted (hs : Unquoted s) (v l : List α) : a.Done s (a.quoted v ++ l) := by
  rcases hs with rfl | ⟨w, rfl⟩
  · trivial
  · intro d hd
    have hquote : d = a.quote := by simpa [quoted, eq_comm] using hd
    rw [hquote]
    exact a.quote_not_letter

/-! ## Signs outside literals -/

/-- Read from outside literals, the text has none of the signs in `bad`. -/
def FreeOf (a : Alphabet α) (bad l : List α) : Prop :=
  ∀ s, Unquoted s → ∀ t ∈ a.lexFrom s l, ∀ c ∈ bad, t ≠ .sign c

variable {bad : List α}

omit [DecidableEq α] in
theorem finish_ne_sign (hs : Unquoted s) (ht : t ∈ s.finish) (c : α) : t ≠ .sign c := by
  rcases hs with rfl | ⟨w, rfl⟩
  · cases ht
  · rintro rfl
    cases List.mem_singleton.mp ht

theorem freeOf_nil : a.FreeOf bad [] := fun _ hs _ ht c _ => finish_ne_sign hs ht c

/-- Outside literals only the symbols themselves can be signs. -/
theorem FreeOf.append (h : a.FreeOf bad l) (hw : ∀ c ∈ w, c ≠ a.quote ∧ c ∉ bad) :
    a.FreeOf bad (w ++ l) := by
  induction w with
  | nil => exact h
  | cons c w ih =>
      intro s hs t ht d hd
      rcases hw c List.mem_cons_self with ⟨hquote, hbad⟩
      have hrest := ih (fun e he => hw e (List.mem_cons_of_mem c he))
      rcases List.mem_append.mp ht with hnow | hlater
      · rcases plainly_of_mem_read hs hquote hnow with ⟨v, rfl⟩ | ⟨e, he, rfl⟩
        · intro heq
          cases heq
        · intro heq
          have hsame : e = d := Token.sign.inj heq
          exact hbad (List.mem_singleton.mp he ▸ hsame ▸ hd)
      · exact hrest _ (unquoted_read hs hquote) t hlater d hd

/-- Inside a literal nothing counts. -/
theorem FreeOf.quoted_append (h : a.FreeOf bad l) (hnext : ∀ c ∈ l.head?, c ≠ a.quote)
    (v : List α) : a.FreeOf bad (a.quoted v ++ l) := by
  intro s hs t ht c hc
  rw [lexFrom_of_done (done_quoted hs v l), lex_quoted_append v hnext] at ht
  rcases List.mem_append.mp ht with hfirst | hrest
  · exact finish_ne_sign hs hfirst c
  · rcases List.mem_cons.mp hrest with rfl | hlater
    · intro heq
      cases heq
    · exact h .between unquoted_between t hlater c hc

end Alphabet

/-! ## Reading one literal -/

/-- Read on behind the quote a literal starts with: its value, and what is left of the text. -/
def readValue [DecidableEq α] (quote : α) : List α → Option (List α × List α)
  | [] => none
  | [c] => if c = quote then some ([], []) else none
  | c :: d :: l =>
      if c = quote then
        -- a doubled quote stands for one
        if d = quote then (readValue quote l).map (fun r => (quote :: r.1, r.2))
        else some ([], d :: l)
      else (readValue quote (d :: l)).map (fun r => (c :: r.1, r.2))

/-- The value of the literal a text starts with, and what is left of the text. -/
def readLiteral [DecidableEq α] (quote : α) : List α → Option (List α × List α)
  | [] => none
  | c :: l => if c = quote then readValue quote l else none

section Literals

variable [DecidableEq α] {quote c : α} {l t v : List α}

theorem readValue_cons (hc : c ≠ quote) (hne : l ≠ []) :
    readValue quote (c :: l) = (readValue quote l).map (fun r => (c :: r.1, r.2)) := by
  cases l with
  | nil => exact absurd rfl hne
  | cons d l => rw [readValue, if_neg hc]

theorem readValue_doubled (v : List α) (ht : ∀ c ∈ t.head?, c ≠ quote) :
    readValue quote (v.flatMap (fun c => if c = quote then [c, c] else [c]) ++ quote :: t) =
      some (v, t) := by
  induction v with
  | nil =>
      cases t with
      | nil => simp [readValue]
      | cons d t =>
          have hd : d ≠ quote := ht d (by simp)
          simp [readValue, hd]
  | cons c v ih =>
      by_cases hc : c = quote
      · subst hc
        simp only [List.flatMap_cons, if_true, List.cons_append, List.nil_append]
        rw [readValue, if_pos rfl, if_pos rfl, ih]
        rfl
      · simp only [List.flatMap_cons, if_neg hc, List.cons_append, List.nil_append]
        rw [readValue_cons hc (by simp), ih]
        rfl

end Literals

/-- A quoted value is read back, and nothing behind it. -/
theorem readLiteral_quoted [DecidableEq α] (a : Alphabet α) (v : List α) {t : List α}
    (ht : ∀ c ∈ t.head?, c ≠ a.quote) : readLiteral a.quote (a.quoted v ++ t) = some (v, t) := by
  have hquoted : a.quoted v ++ t =
      a.quote :: (v.flatMap (fun c => if c = a.quote then [c, c] else [c]) ++ a.quote :: t) := by
    simp [Alphabet.quoted]
  rw [hquoted, readLiteral, if_pos rfl]
  exact readValue_doubled v ht

/-! ## Texts with values in them -/

/-- A token without the value it has as a literal. -/
def Token.shape : Token α → Token α
  | .literal _ => .literal []
  | t => t

/-- A part of a text: fixed, or a value that is quoted. -/
inductive Piece (α : Type u)
  | fixed (l : List α)
  | value (v : List α)

/-- The same fixed parts around other values. -/
inductive SameFixed : List (Piece α) → List (Piece α) → Prop
  | nil : SameFixed [] []
  | fixed {l : List α} {ps qs : List (Piece α)} (h : SameFixed ps qs) :
      SameFixed (.fixed l :: ps) (.fixed l :: qs)
  | value {v w : List α} {ps qs : List (Piece α)} (h : SameFixed ps qs) :
      SameFixed (.value v :: ps) (.value w :: qs)

theorem SameFixed.append {ps qs ps' qs' : List (Piece α)} (h : SameFixed ps qs)
    (h' : SameFixed ps' qs') : SameFixed (ps ++ ps') (qs ++ qs') := by
  induction h with
  | nil => exact h'
  | fixed _ ih => exact .fixed ih
  | value _ ih => exact .value ih

namespace Alphabet

variable [DecidableEq α] (a : Alphabet α)

def render : List (Piece α) → List α
  | [] => []
  | .fixed l :: ps => l ++ render ps
  | .value v :: ps => a.quoted v ++ render ps

/-- The fixed parts have no quotes, and one stands behind each value but the last. -/
def Apart : List (Piece α) → Prop
  | [] => True
  | .fixed l :: ps => a.quote ∉ l ∧ Apart ps
  | .value _ :: ps => (ps = [] ∨ ∃ c l qs, ps = .fixed (c :: l) :: qs) ∧ Apart ps

variable {a} {s : LexState α} {ps qs : List (Piece α)} {l : List α}

theorem render_append (ps qs : List (Piece α)) :
    a.render (ps ++ qs) = a.render ps ++ a.render qs := by
  induction ps with
  | nil => rfl
  | cons p ps ih => cases p <;> simp [render, ih]

/-- What is read of a text before the rest of it does not depend on the rest. -/
theorem exists_lexFrom_append (s : LexState α) (l : List α) :
    ∃ ts, ∀ rest, a.lexFrom s (l ++ rest) = ts ++ a.lexFrom (a.stateAfter s l) rest := by
  induction l generalizing s with
  | nil => exact ⟨[], fun rest => rfl⟩
  | cons c l ih =>
      rcases ih (a.read s c).2 with ⟨ts, hts⟩
      refine ⟨(a.read s c).1 ++ ts, ?_⟩
      intro rest
      simp [lexFrom, hts, stateAfter_cons]

theorem head_render (h : ps = [] ∨ ∃ c l qs, ps = .fixed (c :: l) :: qs) (hps : a.Apart ps) :
    ∀ c ∈ (a.render ps).head?, c ≠ a.quote := by
  rcases h with rfl | ⟨c, l, qs, rfl⟩
  · intro c hc
    cases hc
  · intro d hd
    have hsame : d = c := by simpa [render, eq_comm] using hd
    rw [hsame]
    exact Ne.symm (List.ne_of_not_mem_cons hps.1)

omit [DecidableEq α] in
theorem SameFixed.starts (h : SameFixed ps qs)
    (hps : ps = [] ∨ ∃ c l rs, ps = .fixed (c :: l) :: rs) :
    qs = [] ∨ ∃ c l rs, qs = .fixed (c :: l) :: rs := by
  cases h with
  | nil => exact Or.inl rfl
  | @fixed l ps qs h =>
      rcases hps with hnil | ⟨c, l', rs, heq⟩
      · cases hnil
      · cases heq
        exact Or.inr ⟨c, l', qs, rfl⟩
  | value h =>
      rcases hps with hnil | ⟨c, l', rs, heq⟩
      · cases hnil
      · cases heq

omit [DecidableEq α] in
theorem SameFixed.apart (h : SameFixed ps qs) (hps : a.Apart ps) : a.Apart qs := by
  induction h with
  | nil => trivial
  | fixed _ ih => exact ⟨hps.1, ih hps.2⟩
  | value h ih => exact ⟨SameFixed.starts h hps.1, ih hps.2⟩

/-- Whatever the values are, the tokens are the same but for them. -/
theorem shape_lexFrom_render (h : SameFixed ps qs) (hps : a.Apart ps) (hs : Unquoted s) :
    (a.lexFrom s (a.render ps)).map Token.shape = (a.lexFrom s (a.render qs)).map Token.shape := by
  induction h generalizing s with
  | nil => rfl
  | @fixed l ps qs h ih =>
      rcases exists_lexFrom_append (a := a) s l with ⟨ts, hts⟩
      have hrest := ih hps.2 (unquoted_stateAfter (a := a) hs hps.1)
      simp only [render, hts, List.map_append, hrest]
  | @value v w ps qs h ih =>
      have hrest := ih hps.2 unquoted_between
      have hhead := head_render hps.1 hps.2
      have hhead' := head_render (SameFixed.starts h hps.1) (SameFixed.apart h hps.2)
      simp only [render, lexFrom_of_done (done_quoted hs v _), lexFrom_of_done (done_quoted hs w _),
        lex_quoted_append v hhead, lex_quoted_append w hhead', List.map_append, List.map_cons]
      exact congrArg (s.finish.map Token.shape ++ ·) (congrArg (Token.literal [] :: ·) hrest)

end Alphabet

end Lib
end Ksmppd
