import Ksmppd.Bearerbox.Custody
import Ksmppd.Lib.Budget

/-!
# Contexts — what the messages of the bearerbox threads stand for

A message carries the context it was handed over with, and its callback is called with that
context.  What the contexts stand for is a measure with values in multisets; a step neither loses
nor doubles any of it, as long as no message is written under the id of an open ack and none is
acked while it is still being written.
-/

namespace Ksmppd
namespace Bearerbox

open Lib

variable {n : Nat} {κ α : Type} {f : κ → Multiset α} {s t : SmppBearerboxState n κ}

/-! ## Measures -/

def contextOf (f : κ → Multiset α) (m : SmppBearerboxMsg κ) : Multiset α := f m.context

/-- What one connection has: in `open_acks`, and in the hands of its writer. -/
def SmppBearerbox.carried (f : κ → Multiset α) (box : SmppBearerbox κ) : Multiset α :=
  box.openAcks.weight (contextOf f) + (box.writer.held.map (contextOf f)).sum

/-- What all messages carry that wait for their callback. -/
def carried (f : κ → Multiset α) (s : SmppBearerboxState n κ) : Multiset α :=
  (s.outboundQueue.map (contextOf f)).sum + ∑ b, (s.bearerboxes b).carried f

def calledBack (f : κ → Multiset α) : Event n κ → Multiset α
  | .callback m _ => contextOf f m
  | _ => 0

/-- What the callbacks were called with. -/
def answered (f : κ → Multiset α) (es : List (Event n κ)) : Multiset α :=
  (es.map (calledBack f)).sum

def handedContexts (f : κ → Multiset α) : Label n κ → Multiset α
  | .addMessage _ context _ => f context
  | _ => 0

/-- A message being written stands in the `open_acks` of its connection. -/
def WritingOpen (s : SmppBearerboxState n κ) : Prop :=
  ∀ b m, (s.bearerboxes b).writer = .writing m → m ∈ (s.bearerboxes b).openAcks.entries

/-- No message is written under the id of an open ack of the connection. -/
def FreshIds (s : SmppBearerboxState n κ) : Label n κ → Prop
  | .beginWrite b => ∀ m ∈ (s.bearerboxes b).writer.held,
      ((s.bearerboxes b).openAcks.find? m.id).isNone
  | _ => True

instance (s : SmppBearerboxState n κ) (l : Label n κ) : Decidable (FreshIds s l) :=
  match l with
  | .beginWrite b => inferInstanceAs (Decidable (∀ m ∈ (s.bearerboxes b).writer.held,
      ((s.bearerboxes b).openAcks.find? m.id).isNone))
  | .addMessage _ _ _ | .consume _ _ | .endWrite _ _ | .requeue _ _ | .ack _ _ _ | .lose _
  | .reconnect _ _ _ => isTrue trivial

/-! ## Operations -/

@[simp] theorem contextOf_withBoxcId (box : SmppBearerbox κ) (m : SmppBearerboxMsg κ) :
    contextOf f (withBoxcId box m) = contextOf f m := rfl

@[simp] theorem answered_nil : answered f ([] : List (Event n κ)) = 0 := rfl

@[simp] theorem answered_append (es fs : List (Event n κ)) :
    answered f (es ++ fs) = answered f es + answered f fs := by
  simp [answered]

@[simp] theorem answered_cons (e : Event n κ) (es : List (Event n κ)) :
    answered f (e :: es) = calledBack f e + answered f es := by
  simp [answered]

@[simp] theorem carried_record (es : List (Event n κ)) : carried f (s.record es) = carried f s :=
  rfl

@[simp] theorem log_setBox (b : Fin n) (box : SmppBearerbox κ) : (s.setBox b box).log = s.log :=
  rfl

@[simp] theorem log_record (es : List (Event n κ)) : (s.record es).log = s.log ++ es := rfl

/-- Only what one connection has changes with its record. -/
theorem carried_setBox (b : Fin n) (box : SmppBearerbox κ) :
    carried f (s.setBox b box) + (s.bearerboxes b).carried f = carried f s + box.carried f := by
  have hsum := sum_measure_update (SmppBearerbox.carried f) s.bearerboxes b box
  unfold carried
  rw [add_assoc, add_assoc, ← hsum]
  rfl

/-- The record of a connection changes, and what it has less its callbacks were called with. -/
theorem carried_record_setBox {b : Fin n} {box : SmppBearerbox κ} {es : List (Event n κ)}
    (h : box.carried f + answered f es = (s.bearerboxes b).carried f) :
    carried f ((s.setBox b box).record es) + answered f ((s.setBox b box).record es).log =
      carried f s + answered f s.log := by
  have hset := carried_setBox (f := f) (s := s) b box
  rw [← h, ← add_assoc, add_right_comm] at hset
  have hboth := add_right_cancel hset
  simp only [carried_record, log_record, log_setBox, answered_append]
  rw [← hboth]
  abel

theorem carried_setBox_same {b : Fin n} {box : SmppBearerbox κ}
    (h : box.carried f = (s.bearerboxes b).carried f) :
    carried f (s.setBox b box) = carried f s := by
  have hset := carried_setBox (f := f) (s := s) b box
  rw [← h] at hset
  exact add_right_cancel hset

/-- A message given to the shared queue waits there, or its callback is called at once. -/
theorem carried_addToQueue (m : SmppBearerboxMsg κ) (inserted : Bool) :
    carried f (smppBearerboxAddToQueue s m inserted) +
        answered f (smppBearerboxAddToQueue s m inserted).log =
      carried f s + answered f s.log + contextOf f m := by
  unfold smppBearerboxAddToQueue
  split
  · simp only [carried, List.map_append, List.sum_append, List.map_cons, List.map_nil,
      List.sum_cons, List.sum_nil, add_zero]
    abel
  · split
    · simp [calledBack, add_assoc]
    · simp [calledBack, add_assoc]

theorem answered_ackCleanup (acks : List (SmppBearerboxMsg κ)) :
    answered f (ackCleanup acks : List (Event n κ)) = (acks.map (contextOf f)).sum := by
  induction acks with
  | nil => rfl
  | cons m acks ih =>
      have hcons : (ackCleanup (m :: acks) : List (Event n κ)) =
          [.callback m smppEsmeRsyserr, .destroyed m] ++ ackCleanup acks := rfl
      rw [hcons, answered_append, ih]
      simp [calledBack]

theorem carried_consume {b : Fin n} {i : Nat} {m : SmppBearerboxMsg κ}
    (hidle : (s.bearerboxes b).writer = .idle) (hget : s.outboundQueue[i]? = some m) :
    carried f (({ s with outboundQueue := s.outboundQueue.eraseIdx i } :
        SmppBearerboxState n κ).setBox b { s.bearerboxes b with writer := .consumed m }) =
      carried f s := by
  rcases List.getElem?_eq_some_iff.mp hget with ⟨hi, hm⟩
  have hperm : (m :: s.outboundQueue.eraseIdx i).Perm s.outboundQueue := by
    simpa [hm] using List.getElem_cons_eraseIdx_perm hi
  have hqueue : (s.outboundQueue.map (contextOf f)).sum =
      contextOf f m + ((s.outboundQueue.eraseIdx i).map (contextOf f)).sum := by
    rw [← (hperm.map (contextOf f)).sum_eq, List.map_cons, List.sum_cons]
  have hset := carried_setBox (f := f)
    (s := { s with outboundQueue := s.outboundQueue.eraseIdx i }) b
    { s.bearerboxes b with writer := .consumed m }
  -- what the queue has less, the writer has in its hands
  have hbox : ({ s.bearerboxes b with writer := .consumed m } : SmppBearerbox κ).carried f =
      (s.bearerboxes b).carried f + contextOf f m := by
    simp [SmppBearerbox.carried, Writer.held, hidle]
  rw [hbox, ← add_assoc, add_right_comm] at hset
  rw [add_right_cancel hset]
  unfold carried
  rw [hqueue]
  abel

theorem carried_beginWrite {box : SmppBearerbox κ} {m : SmppBearerboxMsg κ}
    (hm : box.writer = .consumed m) (hfresh : (box.openAcks.find? m.id).isNone) :
    ({ box with
        openAcks := box.openAcks.put (withBoxcId box m)
        writer := .writing (withBoxcId box m) } : SmppBearerbox κ).carried f =
      box.carried f := by
  have hnone : box.openAcks.find? (withBoxcId box m).id = none := Option.isNone_iff_eq_none.mp hfresh
  have hput : (box.openAcks.put (withBoxcId box m)).weight (contextOf f) =
      contextOf f m + box.openAcks.weight (contextOf f) := by
    rw [Keyed.weight_put, Keyed.weight_remove_of_none _ hnone, contextOf_withBoxcId]
  simp [SmppBearerbox.carried, Writer.held, hm, hput, add_comm]

theorem carried_notWritten {box : SmppBearerbox κ} {m : SmppBearerboxMsg κ}
    (hm : box.writer = .writing m) (hopen : m ∈ box.openAcks.entries) :
    ({ box with
        openAcks := box.openAcks.remove m.id
        alive := false
        writer := .requeue m } : SmppBearerbox κ).carried f = box.carried f := by
  have hfind : box.openAcks.find? m.id = some m := Keyed.find?_eq_some_iff.mpr ⟨hopen, rfl⟩
  simp [SmppBearerbox.carried, Writer.held, hm, Keyed.weight_remove (contextOf f) hfind]

/-! ## Steps -/

/-- The condition on the writers only looks at the connection that has changed. -/
theorem WritingOpen.setBox (h : WritingOpen s) {b : Fin n} {box : SmppBearerbox κ}
    (hbox : ∀ m, box.writer = .writing m → m ∈ box.openAcks.entries) :
    WritingOpen (s.setBox b box) := by
  intro c m hm
  by_cases hc : c = b
  · subst hc
    simp only [bearerboxes_setBox_self] at hm ⊢
    exact hbox m hm
  · rw [bearerboxes_setBox_of_ne s hc] at hm ⊢
    exact h c m hm

theorem WritingOpen.record (h : WritingOpen s) (es : List (Event n κ)) :
    WritingOpen (s.record es) := h

theorem WritingOpen.addToQueue (h : WritingOpen s) (m : SmppBearerboxMsg κ) (inserted : Bool) :
    WritingOpen (smppBearerboxAddToQueue s m inserted) := by
  intro b m' hm'
  rw [bearerboxes_addToQueue] at hm' ⊢
  exact h b m' hm'

theorem writingOpen_step {l : Label n κ} (h : WritingOpen s) (hok : AcksWritten s l)
    (hstep : step s l = some t) : WritingOpen t := by
  cases l with
  | addMessage msg context inserted =>
      cases hstep
      exact h.addToQueue _ inserted
  | consume b i =>
      simp only [step] at hstep
      split at hstep
      · cases hstep
        refine WritingOpen.setBox (s := { s with outboundQueue := s.outboundQueue.eraseIdx i }) h ?_
        intro m hm
        cases hm
      · cases hstep
  | beginWrite b =>
      simp only [step] at hstep
      split at hstep
      · split at hstep
        · cases hstep
          refine h.setBox ?_
          intro m hm
          cases hm
          simp
        · cases hstep
          refine h.setBox ?_
          intro m hm
          cases hm
      · cases hstep
  | endWrite b written =>
      simp only [step] at hstep
      split at hstep
      · split at hstep
        · cases hstep
          refine WritingOpen.record (h.setBox ?_) _
          intro m hm
          cases hm
        · cases hstep
          refine h.setBox ?_
          intro m hm
          cases hm
      · cases hstep
  | requeue b inserted =>
      simp only [step] at hstep
      split at hstep
      · cases hstep
        refine WritingOpen.addToQueue (h.setBox ?_) _ inserted
        intro m hm
        cases hm
      · cases hstep
  | ack b id nack =>
      simp only [step] at hstep
      split at hstep
      · cases hstep
        refine WritingOpen.record (h.setBox ?_) _
        intro m hm
        -- a message that is being written is not the one that is acked
        have hne : m.id ≠ id := by
          simp only at hm
          simpa [AcksWritten, hm, Writer.writingId?] using hok
        exact Keyed.mem_remove.mpr ⟨h b m hm, hne⟩
      · cases hstep
        exact h
  | lose b =>
      simp only [step] at hstep
      split at hstep
      · cases hstep
      · cases hstep
        exact h.setBox (h b)
  | reconnect b connected identified =>
      simp only [step] at hstep
      split at hstep
      · cases hstep
      · rename_i hfree
        cases hstep
        refine WritingOpen.record (h.setBox ?_) _
        intro m hm
        simp only at hm
        simp [hm, Writer.locked] at hfree

/-- No step loses or doubles what the contexts stand for. -/
theorem carried_step {l : Label n κ} (h : WritingOpen s) (hfresh : FreshIds s l)
    (hstep : step s l = some t) :
    carried f t + answered f t.log = carried f s + answered f s.log + handedContexts f l := by
  cases l with
  | addMessage msg context inserted =>
      cases hstep
      exact carried_addToQueue _ inserted
  | consume b i =>
      simp only [step] at hstep
      split at hstep
      · rename_i m hidle hget
        cases hstep
        rw [carried_consume hidle hget]
        exact (add_zero _).symm
      · cases hstep
  | beginWrite b =>
      simp only [step] at hstep
      split at hstep
      · rename_i m hm
        have hnone : ((s.bearerboxes b).openAcks.find? m.id).isNone :=
          hfresh m (by simp [hm, Writer.held])
        split at hstep
        · cases hstep
          rw [carried_setBox_same (carried_beginWrite hm hnone)]
          exact (add_zero _).symm
        · cases hstep
          rw [carried_setBox_same (by simp [SmppBearerbox.carried, Writer.held, hm])]
          exact (add_zero _).symm
      · cases hstep
  | endWrite b written =>
      simp only [step] at hstep
      split at hstep
      · rename_i m hm
        split at hstep
        · cases hstep
          rw [carried_record_setBox (by simp [SmppBearerbox.carried, Writer.held, hm, calledBack])]
          exact (add_zero _).symm
        · cases hstep
          rw [carried_setBox_same (carried_notWritten hm (h b m hm))]
          exact (add_zero _).symm
      · cases hstep
  | requeue b inserted =>
      simp only [step] at hstep
      split at hstep
      · rename_i m hm
        cases hstep
        rw [carried_addToQueue]
        have hset := carried_setBox (f := f) (s := s) b { s.bearerboxes b with writer := .idle }
        -- out of the writer's hands, then in at the queue
        have hbox : (s.bearerboxes b).carried f =
            ({ s.bearerboxes b with writer := .idle } : SmppBearerbox κ).carried f +
              contextOf f m := by
          simp [SmppBearerbox.carried, Writer.held, hm]
        rw [hbox, ← add_assoc, add_right_comm] at hset
        rw [log_setBox, add_right_comm, add_right_cancel hset]
        exact (add_zero _).symm
      · cases hstep
  | ack b id nack =>
      simp only [step] at hstep
      split at hstep
      · rename_i m hm
        cases hstep
        refine (carried_record_setBox ?_).trans (add_zero _).symm
        have hremove := Keyed.weight_remove (contextOf f) hm
        simp only [SmppBearerbox.carried, answered_cons, answered_nil, calledBack, ← hremove]
        abel
      · cases hstep
        simp [calledBack, handedContexts]
  | lose b =>
      simp only [step] at hstep
      split at hstep
      · cases hstep
      · cases hstep
        have hsame : carried f (s.setBox b { s.bearerboxes b with alive := false }) = carried f s :=
          carried_setBox_same rfl
        rw [hsame]
        exact (add_zero _).symm
  | reconnect b connected identified =>
      simp only [step] at hstep
      split at hstep
      · cases hstep
      · cases hstep
        refine (carried_record_setBox ?_).trans (add_zero _).symm
        rw [answered_ackCleanup]
        simp only [SmppBearerbox.carried, Keyed.weight_empty, zero_add]
        exact add_comm _ _

end Bearerbox
end Ksmppd
