import Mathlib.Algebra.Order.BigOperators.Group.List
import Mathlib.Algebra.Order.Ring.Rat
import Mathlib.Tactic.Ring
import Ksmppd.Lib.Transition

/-!
# Credit — prepaid credit under concurrent deductions

`smpp_database_mysql_deduct_credit` reads the credit of an account with one statement and lowers it
with another; nothing is locked in between.  Each statement is one step here, and any number of
calls for one account may be on their way at once.
-/

namespace Ksmppd
namespace Database

open Lib

/-! ## Data -/

/-- How far a call has come. -/
inductive DeductPhase
  /-- The `SELECT` has not run. -/
  | called
  /-- The `SELECT` has read `balance`, which covers the cost, after `seen` deductions in all. -/
  | balanceOk (balance : Rat) (seen : Nat)
  | returned (balanceOk : Bool)
  deriving DecidableEq, Repr

structure DeductCall where
  cost : Rat
  phase : DeductPhase
  deriving DecidableEq, Repr

/-- The `credit` of an account, the calls made for it, and the costs its `UPDATE`s have deducted. -/
structure CreditState where
  credit : Rat
  calls : List DeductCall
  deducted : List Rat

/-! ## Steps -/

/-- `smpp_database_mysql_deduct_credit` from the answer to its `SELECT` on: it returns at once if the
credit is too low or the cost is zero. -/
def afterSelect (cost balance : Rat) (seen : Nat) : DeductPhase :=
  if balance ≥ cost then
    if cost ≠ 0 then .balanceOk balance seen else .returned true
  else .returned false

def CreditState.setPhase (s : CreditState) (i : Nat) (c : DeductCall) (phase : DeductPhase) :
    CreditState :=
  { s with calls := s.calls.set i { c with phase := phase } }

inductive CreditLabel
  /-- A thread calls `smpp_database_mysql_deduct_credit`. -/
  | call (cost : Rat)
  /-- The `SELECT` of call `i`; `found` is whether it gives a row with a number in it. -/
  | select (i : Nat) (found : Bool)
  /-- The `UPDATE` of call `i`; `updated` is whether it changes the row. -/
  | update (i : Nat) (updated : Bool)
  deriving DecidableEq, Repr

def creditStep (s : CreditState) : CreditLabel → Option CreditState
  | .call cost =>
      if 0 ≤ cost then some { s with calls := s.calls ++ [{ cost := cost, phase := .called }] }
      else none
  | .select i found =>
      match s.calls[i]? with
      | some c =>
          match c.phase with
          | .called =>
              some (s.setPhase i c
                (if found then afterSelect c.cost s.credit s.deducted.length
                  else .returned false))
          | _ => none
      | none => none
  | .update i updated =>
      match s.calls[i]? with
      | some c =>
          match c.phase with
          | .balanceOk _ _ =>
              -- the statement does not look at the credit again
              if updated then
                some { s.setPhase i c (.returned true) with
                  credit := s.credit - c.cost
                  deducted := s.deducted ++ [c.cost] }
              else some (s.setPhase i c (.returned false))
          | _ => none
      | none => none

def creditInit (credit : Rat) : CreditState where
  credit := credit
  calls := []
  deducted := []

/-- The costs of the calls that returned success. -/
def DeductCall.charged (c : DeductCall) : Rat :=
  if c.phase = .returned true then c.cost else 0

def CreditState.charged (s : CreditState) : Rat := (s.calls.map DeductCall.charged).sum

/-- What other calls have deducted since the `SELECT` leaves enough of the balance it read. -/
def StillCovered (s : CreditState) : CreditLabel → Prop
  | .update i true =>
      ∀ c ∈ s.calls[i]?, ∀ balance seen, c.phase = .balanceOk balance seen →
        (s.deducted.drop seen).sum + c.cost ≤ balance
  | _ => True

variable {s s' : CreditState} {i : Nat} {c : DeductCall} {phase : DeductPhase} {credit : Rat}

/-! ## What a step does -/

theorem mem_setPhase {d : DeductCall} (hd : d ∈ (s.setPhase i c phase).calls) :
    d ∈ s.calls ∨ d = { c with phase := phase } :=
  List.mem_or_eq_of_mem_set hd

/-- One call changes its phase; all other calls are charged what they were charged. -/
theorem charged_setPhase (hc : s.calls[i]? = some c) :
    (s.setPhase i c phase).charged =
      s.charged - c.charged + ({ c with phase := phase } : DeductCall).charged := by
  rcases List.getElem?_eq_some_iff.mp hc with ⟨hi, hget⟩
  have hset : (s.setPhase i c phase).calls.map DeductCall.charged =
      (s.calls.map DeductCall.charged).set i
        ({ c with phase := phase } : DeductCall).charged := by
    simp [CreditState.setPhase]
  have hi' : i < (s.calls.map DeductCall.charged).length := by simpa using hi
  calc
    (s.setPhase i c phase).charged
        = (s.calls.map DeductCall.charged).sum +
            (-c.charged + ({ c with phase := phase } : DeductCall).charged) := by
          rw [CreditState.charged, hset, List.sum_set', dif_pos hi']
          simp [hget]
    _ = s.charged - c.charged + ({ c with phase := phase } : DeductCall).charged := by
          rw [CreditState.charged]
          ring

/-- A call begins, or moves on without a deduction, or deducts its cost. -/
inductive CreditMove (s : CreditState) : CreditLabel → CreditState → Prop
  | call {cost : Rat} (hcost : 0 ≤ cost) :
      CreditMove s (.call cost) { s with calls := s.calls ++ [{ cost := cost, phase := .called }] }
  | pass {l : CreditLabel} {i : Nat} {c : DeductCall} {phase : DeductPhase}
      (hl : ∀ j, l ≠ .update j true) (hc : s.calls[i]? = some c) (hcharged : c.charged = 0)
      (hfree : ({ c with phase := phase } : DeductCall).charged = 0)
      (hread : ∀ balance seen, phase = .balanceOk balance seen →
        balance = s.credit ∧ seen = s.deducted.length) :
      CreditMove s l (s.setPhase i c phase)
  | deduct {i : Nat} {c : DeductCall} {balance : Rat} {seen : Nat} (hc : s.calls[i]? = some c)
      (hphase : c.phase = .balanceOk balance seen) :
      CreditMove s (.update i true) { s.setPhase i c (.returned true) with
        credit := s.credit - c.cost
        deducted := s.deducted ++ [c.cost] }

theorem afterSelect_free (cost balance : Rat) (seen : Nat) :
    ({ cost := cost, phase := afterSelect cost balance seen } : DeductCall).charged = 0 := by
  by_cases hok : balance ≥ cost
  · by_cases hzero : cost = 0
    · simp [DeductCall.charged, hzero]
    · simp [DeductCall.charged, afterSelect, hok, hzero]
  · simp [DeductCall.charged, afterSelect, hok]

theorem afterSelect_read {cost balance balance' : Rat} {seen seen' : Nat}
    (h : afterSelect cost balance seen = .balanceOk balance' seen') :
    balance' = balance ∧ seen' = seen := by
  unfold afterSelect at h
  split at h
  · split at h
    · rcases DeductPhase.balanceOk.inj h with ⟨hbalance, hseen⟩
      exact ⟨hbalance.symm, hseen.symm⟩
    · cases h
  · cases h

theorem creditStep_move {l : CreditLabel} (h : creditStep s l = some s') : CreditMove s l s' := by
  cases l with
  | call cost =>
      by_cases hcost : 0 ≤ cost
      · simp only [creditStep, hcost, if_true, Option.some.injEq] at h
        subst h
        exact .call hcost
      · simp [creditStep, hcost] at h
  | select i found =>
      cases hc : s.calls[i]? with
      | none => simp [creditStep, hc] at h
      | some c =>
          cases hphase : c.phase with
          | called =>
              have hcharged : c.charged = 0 := by simp [DeductCall.charged, hphase]
              simp only [creditStep, hc, hphase, Option.some.injEq] at h
              subst h
              cases found with
              | true =>
                  exact .pass (by simp) hc hcharged (afterSelect_free _ _ _)
                    (fun _ _ => afterSelect_read)
              | false =>
                  exact .pass (by simp) hc hcharged (by simp [DeductCall.charged]) (by simp)
          | balanceOk balance seen => simp [creditStep, hc, hphase] at h
          | returned result => simp [creditStep, hc, hphase] at h
  | update i updated =>
      cases hc : s.calls[i]? with
      | none => simp [creditStep, hc] at h
      | some c =>
          cases hphase : c.phase with
          | called => simp [creditStep, hc, hphase] at h
          | balanceOk balance seen =>
              simp only [creditStep, hc, hphase] at h
              cases updated with
              | true =>
                  simp only [if_true, Option.some.injEq] at h
                  subst h
                  exact .deduct hc hphase
              | false =>
                  simp only [Bool.false_eq_true, if_false, Option.some.injEq] at h
                  subst h
                  exact .pass (by simp) hc (by simp [DeductCall.charged, hphase])
                    (by simp [DeductCall.charged]) (by simp)
          | returned result => simp [creditStep, hc, hphase] at h

/-! ## The ledger of an account -/

/-- What has been deducted is what the calls that returned success were charged, and a balance
read earlier is the credit at that time. -/
structure CreditLedger (credit : Rat) (s : CreditState) : Prop where
  credit_eq : s.credit = credit - s.deducted.sum
  charged_eq : s.charged = s.deducted.sum
  read : ∀ c ∈ s.calls, ∀ balance seen, c.phase = .balanceOk balance seen →
    seen ≤ s.deducted.length ∧ balance = credit - (s.deducted.take seen).sum

theorem creditLedger_init (credit : Rat) : CreditLedger credit (creditInit credit) where
  credit_eq := by simp [creditInit]
  charged_eq := by simp [creditInit, CreditState.charged]
  read := by simp [creditInit]

theorem creditLedger_move {l : CreditLabel} (h : CreditLedger credit s)
    (hmove : CreditMove s l s') :
    CreditLedger credit s' := by
  cases hmove with
  | call hcost =>
      refine ⟨h.credit_eq, ?_, ?_⟩
      · simpa [CreditState.charged, DeductCall.charged] using h.charged_eq
      · intro c hc balance seen hphase
        rcases List.mem_append.mp hc with hc | hc
        · exact h.read c hc balance seen hphase
        · -- the new call has read nothing yet
          simp [List.mem_singleton.mp hc] at hphase
  | @pass l i c phase hl hc hcharged hfree hread =>
      refine ⟨h.credit_eq, ?_, ?_⟩
      · calc
          (s.setPhase i c phase).charged = s.charged := by
            rw [charged_setPhase hc, hcharged, hfree]
            ring
          _ = s.deducted.sum := h.charged_eq
      · intro d hd balance seen hphase
        rcases mem_setPhase hd with hd | rfl
        · exact h.read d hd balance seen hphase
        · -- a `SELECT` reads the credit as it stands
          rcases hread balance seen hphase with ⟨rfl, rfl⟩
          refine ⟨Nat.le_refl _, ?_⟩
          simpa [CreditState.setPhase] using h.credit_eq
  | @deduct i c balance seen hc hphase =>
      have hnone : c.charged = 0 := by simp [DeductCall.charged, hphase]
      refine ⟨?_, ?_, ?_⟩
      · simp only [List.sum_append, List.sum_singleton, h.credit_eq]
        ring
      · have hmoved := @charged_setPhase s i c (.returned true) hc
        calc
          (s.setPhase i c (.returned true)).charged = s.charged + c.cost := by
            rw [hmoved, hnone]
            simp [DeductCall.charged]
          _ = (s.deducted ++ [c.cost]).sum := by simp [h.charged_eq]
      · intro d hd balance' seen' hphase'
        rcases mem_setPhase hd with hd | rfl
        · -- the new deduction comes after all that was deducted before the read
          rcases h.read d hd balance' seen' hphase' with ⟨hle, hbalance⟩
          refine ⟨?_, ?_⟩
          · simp only [List.length_append, List.length_singleton]
            omega
          · simpa [List.take_append_of_le_length hle] using hbalance
        · cases hphase'

theorem creditLedger_run {ok : CreditState → CreditLabel → Prop} {ls : List CreditLabel}
    (h : Run creditStep ok (creditInit credit) ls s) : CreditLedger credit s :=
  h.invariant (CreditLedger credit)
    (fun _ _ _ hledger _ hstep => creditLedger_move hledger (creditStep_move hstep))
    (creditLedger_init credit)

/-! ## When the credit stays non-negative -/

/-- An `UPDATE` leaves the balance its call has read, less what others have deducted since and less
its own cost. -/
theorem credit_after_deduct (h : CreditLedger credit s) (hc : s.calls[i]? = some c)
    {balance : Rat} {seen : Nat} (hphase : c.phase = .balanceOk balance seen) :
    s.credit - c.cost = balance - ((s.deducted.drop seen).sum + c.cost) := by
  rcases h.read c (List.mem_of_getElem? hc) balance seen hphase with ⟨_, hbalance⟩
  have hsplit : s.deducted.sum = (s.deducted.take seen).sum + (s.deducted.drop seen).sum :=
    (List.sum_take_add_sum_drop s.deducted seen).symm
  calc
    s.credit - c.cost
        = credit - (s.deducted.take seen).sum - ((s.deducted.drop seen).sum + c.cost) := by
          rw [h.credit_eq, hsplit]
          ring
    _ = balance - ((s.deducted.drop seen).sum + c.cost) := by rw [hbalance]

/-- The credit after an `UPDATE` is non-negative exactly if the balance still covers it. -/
theorem credit_nonneg_iff (h : CreditLedger credit s)
    (hstep : creditStep s (.update i true) = some s') :
    0 ≤ s'.credit ↔ StillCovered s (.update i true) := by
  cases creditStep_move hstep with
  | pass hl => exact absurd rfl (hl i)
  | @deduct i c balance seen hc hphase =>
      have hcredit := credit_after_deduct h hc hphase
      simp only [hcredit, sub_nonneg]
      constructor
      · intro hle d hd balance' seen' hphase'
        obtain rfl : d = c := by simpa [hc, eq_comm] using hd
        rw [hphase] at hphase'
        rcases DeductPhase.balanceOk.inj hphase' with ⟨rfl, rfl⟩
        exact hle
      · intro hcovered
        exact hcovered c (by simp [hc]) balance seen hphase

theorem credit_nonneg_step {l : CreditLabel} (h : CreditLedger credit s) (hs : 0 ≤ s.credit)
    (hok : StillCovered s l) (hstep : creditStep s l = some s') : 0 ≤ s'.credit := by
  cases creditStep_move hstep with
  | call hcost => exact hs
  | pass hl => exact hs
  | deduct hc hphase => exact (credit_nonneg_iff h hstep).mpr hok

/-- Where no `UPDATE` runs after others have used up the balance its call has read, the credit
never becomes negative, and it has been lowered by what the successful calls were charged. -/
theorem deduct_credit_covered {ls : List CreditLabel} (hcredit : 0 ≤ credit)
    (h : Run creditStep StillCovered (creditInit credit) ls s) :
    0 ≤ s.credit ∧ s.charged = credit - s.credit := by
  have hboth : CreditLedger credit s ∧ 0 ≤ s.credit := by
    refine h.invariant (fun t => CreditLedger credit t ∧ 0 ≤ t.credit) ?_
      ⟨creditLedger_init credit, hcredit⟩
    rintro t l u ⟨hledger, ht⟩ hok hstep
    exact ⟨creditLedger_move hledger (creditStep_move hstep),
      credit_nonneg_step hledger ht hok hstep⟩
  refine ⟨hboth.2, ?_⟩
  rw [hboth.1.charged_eq, hboth.1.credit_eq]
  ring

instance (s : CreditState) (l : CreditLabel) : Decidable (StillCovered s l) :=
  match l with
  | .update i true =>
      match hc : s.calls[i]? with
      | some { cost := cost, phase := .balanceOk balance seen } =>
          decidable_of_iff ((s.deducted.drop seen).sum + cost ≤ balance) (by
            simp [StillCovered, hc])
      | some { cost := _, phase := .called } => isTrue (by simp [StillCovered, hc])
      | some { cost := _, phase := .returned _ } => isTrue (by simp [StillCovered, hc])
      | none => isTrue (by simp [StillCovered, hc])
  | .update _ false => isTrue trivial
  | .call _ => isTrue trivial
  | .select _ _ => isTrue trivial

/-- Two calls of cost 6 on a credit of 10, one after the other: the second one is refused. -/
def sampleDeductions : List CreditLabel :=
  [.call 6, .call 6, .select 0 true, .update 0 true, .select 1 true]

theorem deduct_credit_covered_sample :
    ∃ s, Run creditStep StillCovered (creditInit 10) sampleDeductions s ∧ 0 ≤ s.credit ∧
      s.charged = 10 - s.credit := by
  have hrun : (execute creditStep StillCovered (creditInit 10) sampleDeductions).isSome = true := by
    decide +kernel
  rcases Option.isSome_iff_exists.mp hrun with ⟨s, hs⟩
  have hreach := run_of_execute hs
  exact ⟨s, hreach, deduct_credit_covered (by decide) hreach⟩

/-- The same calls with both `SELECT`s first. -/
def sampleOverdraft : List CreditLabel :=
  [.call 6, .call 6, .select 0 true, .select 1 true, .update 0 true, .update 1 true]

/-- Both calls succeed, and the credit is negative. -/
theorem deduct_credit_overdrawn :
    ∃ s, Run creditStep anyStep (creditInit 10) sampleOverdraft s ∧ ¬ 0 ≤ s.credit := by
  have hrun : ((execute creditStep anyStep (creditInit 10) sampleOverdraft).any
      (fun s => decide (s.credit < 0))) = true := by
    decide +kernel
  rcases exists_run_of_execute hrun with ⟨s, hs, hcredit⟩
  exact ⟨s, hs, not_le.mpr (of_decide_eq_true hcredit)⟩

end Database
end Ksmppd
