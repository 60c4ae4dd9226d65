import Mathlib.Data.List.Basic

/-!
# Transition — labelled runs of a partial step function

A system is a function `step : σ → ι → Option σ`: from a state and a label it gives the next
state, or `none` where the label is not enabled.  A *run* is a list of labels with its two end
states; `ok` restricts the runs to those whose every step meets a condition on the state before
it and on its label.  The rules below are the inductions over runs, stated once.
-/

namespace Ksmppd
namespace Lib

universe u v

variable {σ : Type u} {ι : Type v}

/-- `Run step ok s ls t`: the labels `ls`, taken in this order, lead from `s` to `t`, and each
step meets `ok`. -/
inductive Run (step : σ → ι → Option σ) (ok : σ → ι → Prop) (s : σ) : List ι → σ → Prop
  | nil : Run step ok s [] s
  | snoc {ls : List ι} {t u : σ} {l : ι} :
      Run step ok s ls t → ok t l → step t l = some u → Run step ok s (ls ++ [l]) u

/-- No restriction on the steps of a run. -/
def anyStep (_ : σ) (_ : ι) : Prop := True

/-- `Reach step ok s t`: some run of steps that meet `ok` leads from `s` to `t`. -/
def Reach (step : σ → ι → Option σ) (ok : σ → ι → Prop) (s t : σ) : Prop :=
  ∃ ls, Run step ok s ls t

namespace Run

variable {step : σ → ι → Option σ} {ok : σ → ι → Prop} {s t u : σ} {ls ms : List ι}

theorem single {l : ι} (hok : ok s l) (hstep : step s l = some t) : Run step ok s [l] t := by
  simpa using Run.snoc Run.nil hok hstep

theorem append (h : Run step ok s ls t) (h' : Run step ok t ms u) :
    Run step ok s (ls ++ ms) u := by
  induction h' with
  | nil =>
      simpa using h
  | snoc _ hok hstep ih =>
      simpa [List.append_assoc] using Run.snoc ih hok hstep

theorem cons {l : ι} (hok : ok s l) (hstep : step s l = some t) (h : Run step ok t ls u) :
    Run step ok s (l :: ls) u := by
  simpa using (single hok hstep).append h

/-- A condition that holds of the start and is kept by every step holds at the end of a run. -/
theorem invariant (I : σ → Prop)
    (hstep : ∀ t l u, I t → ok t l → step t l = some u → I u)
    (h : Run step ok s ls t) (hs : I s) : I t := by
  induction h with
  | nil =>
      exact hs
  | snoc _ hok hst ih =>
      exact hstep _ _ _ ih hok hst

/-- A run that meets a condition meets every weaker one. -/
theorem mono {ok' : σ → ι → Prop} (hok : ∀ s l, ok s l → ok' s l) (h : Run step ok s ls t) :
    Run step ok' s ls t := by
  induction h with
  | nil =>
      exact Run.nil
  | snoc _ hl hst ih =>
      exact Run.snoc ih (hok _ _ hl) hst

/-- The same for a condition that also speaks about the labels taken so far. -/
theorem invariant_labels (I : List ι → σ → Prop) (hs : I [] s)
    (hstep : ∀ ks t l u, I ks t → ok t l → step t l = some u → I (ks ++ [l]) u)
    (h : Run step ok s ls t) : I ls t := by
  induction h with
  | nil =>
      exact hs
  | snoc _ hok hst ih =>
      exact hstep _ _ _ _ ih hok hst

/-- A second system follows a run label for label, where each step of the first has one there. -/
theorem simulate {τ : Type*} {κ : Type*} {step' : τ → κ → Option τ} {f : ι → κ}
    (R : σ → τ → Prop)
    (hstep : ∀ s t l s', R s t → ok s l → step s l = some s' →
      ∃ t', step' t (f l) = some t' ∧ R s' t')
    {s' : σ} {t : τ} (h : Run step ok s ls s') (hs : R s t) :
    ∃ t', Run step' (fun _ _ => True) t (ls.map f) t' ∧ R s' t' := by
  induction h with
  | nil =>
      exact ⟨t, Run.nil, hs⟩
  | snoc _ hok hst ih =>
      rcases ih with ⟨u, hrun, hu⟩
      rcases hstep _ _ _ _ hu hok hst with ⟨u', hstep', hu'⟩
      exact ⟨u', by simpa using Run.snoc hrun trivial hstep', hu'⟩

/-- The same where a step of the first is matched by any number of steps of the second, none of
them included. -/
theorem simulate_lists {τ : Type*} {κ : Type*} {step' : τ → κ → Option τ} {f : ι → List κ}
    (R : σ → τ → Prop)
    (hstep : ∀ s t l s', R s t → ok s l → step s l = some s' →
      ∃ t', Run step' (fun _ _ => True) t (f l) t' ∧ R s' t')
    {s' : σ} {t : τ} (h : Run step ok s ls s') (hs : R s t) :
    ∃ t', Run step' (fun _ _ => True) t (ls.flatMap f) t' ∧ R s' t' := by
  induction h with
  | nil =>
      exact ⟨t, Run.nil, hs⟩
  | snoc _ hok hst ih =>
      rcases ih with ⟨u, hrun, hu⟩
      rcases hstep _ _ _ _ hu hok hst with ⟨u', hmore, hu'⟩
      exact ⟨u', by simpa using hrun.append hmore, hu'⟩

end Run

/-! ## Runs by evaluation -/

/-- Take the labels one after the other; `none` where one is not enabled or does not meet `ok`. -/
def execute (step : σ → ι → Option σ) (ok : σ → ι → Prop) [∀ s l, Decidable (ok s l)] :
    σ → List ι → Option σ
  | s, [] => some s
  | s, l :: ls =>
      if ok s l then
        match step s l with
        | none => none
        | some t => execute step ok t ls
      else none

theorem run_of_execute {step : σ → ι → Option σ} {ok : σ → ι → Prop}
    [∀ s l, Decidable (ok s l)] {s t : σ} {ls : List ι}
    (h : execute step ok s ls = some t) : Run step ok s ls t := by
  induction ls generalizing s with
  | nil =>
      have hst : s = t := by simpa [execute] using h
      subst hst
      exact Run.nil
  | cons l ls ih =>
      by_cases hok : ok s l
      · cases hstep : step s l with
        | none =>
            simp [execute, hok, hstep] at h
        | some u =>
            have hrest : execute step ok u ls = some t := by
              simpa [execute, hok, hstep] using h
            exact Run.cons hok hstep (ih hrest)
      · simp [execute, hok] at h

/-- A run whose end is only known by a test it passes. -/
theorem exists_run_of_execute {step : σ → ι → Option σ} {ok : σ → ι → Prop}
    [∀ s l, Decidable (ok s l)] {s : σ} {ls : List ι} {p : σ → Bool}
    (h : (execute step ok s ls).any p = true) : ∃ t, Run step ok s ls t ∧ p t = true := by
  rcases (Option.any_eq_true_iff_get _ _).mp h with ⟨hsome, ht⟩
  exact ⟨_, run_of_execute (Option.some_get hsome).symm, ht⟩

instance (s : σ) (l : ι) : Decidable (anyStep s l) := isTrue trivial

end Lib
end Ksmppd
