import Mathlib.Data.List.Basic

/-!
# Trace — traces in which every event is backed by what came before

`Backed evidence trace` says that each event of a trace stands behind a prefix that justifies it.
It is the shape of "this happens only after that": the evidence for an event names the earlier
events it needs.
-/

namespace Ksmppd
namespace Lib

universe u

variable {ε : Type u} {evidence evidence' : List ε → ε → Prop} {e : ε} {es fs : List ε}

/-- Every event of the trace has its evidence in the events before it. -/
def Backed (evidence : List ε → ε → Prop) (trace : List ε) : Prop :=
  ∀ before e after, trace = before ++ e :: after → evidence before e

theorem backed_nil : Backed evidence [] := by
  intro before e after h
  simp at h

theorem backed_cons :
    Backed evidence (e :: es) ↔
      evidence [] e ∧ Backed (fun before => evidence (e :: before)) es := by
  constructor
  · intro h
    refine ⟨h [] e es rfl, ?_⟩
    intro before f after hes
    exact h (e :: before) f after (by simp [hes])
  · rintro ⟨hhead, htail⟩ before f after hes
    cases before with
    | nil =>
        have hef : e = f := by simpa using (List.cons.inj hes).1
        simpa [hef] using hhead
    | cons g before =>
        rcases List.cons.inj hes with ⟨hg, hrest⟩
        simpa [hg] using htail before f after hrest

/-- The events of a longer trace look back over the whole of the first part. -/
theorem backed_append :
    Backed evidence (es ++ fs) ↔
      Backed evidence es ∧ Backed (fun before => evidence (es ++ before)) fs := by
  induction es generalizing evidence with
  | nil =>
      simp [backed_nil]
  | cons e es ih =>
      simp [backed_cons, ih, and_assoc]

theorem backed_singleton : Backed evidence [e] ↔ evidence [] e := by
  simp [backed_cons, backed_nil]

/-- Events whose evidence does not depend on what came before. -/
theorem backed_of_mem (h : ∀ e ∈ es, ∀ before, evidence before e) : Backed evidence es := by
  intro before e after hes
  exact h e (by simp [hes]) before

theorem Backed.mono (hle : ∀ before e, evidence before e → evidence' before e)
    (h : Backed evidence es) : Backed evidence' es :=
  fun before e after hes => hle before e (h before e after hes)

end Lib
end Ksmppd
