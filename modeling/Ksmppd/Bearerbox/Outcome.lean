import Ksmppd.Lib.Trace
import Ksmppd.Bearerbox.Model

/-!
# Outcome — what the status given to a callback stands for

A callback is called with status zero only right after the message was inserted into the queue
table, or after a bearerbox acked its id with success or as buffered.  And a callback is called
only for a message that somebody handed over: what holds of every message handed over holds of
every message the threads have.
-/

namespace Ksmppd
namespace Bearerbox

open Lib

variable {n : Nat} {κ : Type} {P : SmppBearerboxMsg κ → Prop} {s t : SmppBearerboxState n κ}

/-! ## Messages the threads have -/

/-- The message a writer is busy with. -/
def Writer.messages : Writer κ → List (SmppBearerboxMsg κ)
  | .idle => []
  | .consumed m => [m]
  | .writing m => [m]
  | .requeue m => [m]

structure Everywhere (P : SmppBearerboxMsg κ → Prop) (s : SmppBearerboxState n κ) : Prop where
  outboundQueue : ∀ m ∈ s.outboundQueue, P m
  openAcks : ∀ b, ∀ m ∈ (s.bearerboxes b).openAcks.entries, P m
  writer : ∀ b, ∀ m ∈ (s.bearerboxes b).writer.messages, P m

theorem Everywhere.imp {Q : SmppBearerboxMsg κ → Prop} (hPQ : ∀ m, P m → Q m)
    (h : Everywhere P s) : Everywhere Q s where
  outboundQueue := fun m hm => hPQ m (h.outboundQueue m hm)
  openAcks := fun b m hm => hPQ m (h.openAcks b m hm)
  writer := fun b m hm => hPQ m (h.writer b m hm)

theorem everywhere_init (databaseEnableQueue : Bool) (ids : Fin n → Option Octstr) :
    Everywhere P (smppBearerboxInit databaseEnableQueue ids) where
  outboundQueue := by simp [smppBearerboxInit]
  openAcks := by simp [smppBearerboxInit, Keyed.empty]
  writer := by simp [smppBearerboxInit, Writer.messages]

/-- The log is not looked at. -/
theorem everywhere_record (h : Everywhere P s) (es : List (Event n κ)) :
    Everywhere P (s.record es) := ⟨h.outboundQueue, h.openAcks, h.writer⟩

theorem everywhere_setBox (h : Everywhere P s) (b : Fin n) {box : SmppBearerbox κ}
    (hacks : ∀ m ∈ box.openAcks.entries, P m) (hwriter : ∀ m ∈ box.writer.messages, P m) :
    Everywhere P (s.setBox b box) := by
  refine ⟨h.outboundQueue, ?_, ?_⟩
  · intro c m hm
    by_cases hc : c = b
    · subst hc
      exact hacks m (by simpa [SmppBearerboxState.setBox] using hm)
    · exact h.openAcks c m (by simpa [SmppBearerboxState.setBox, hc] using hm)
  · intro c m hm
    by_cases hc : c = b
    · subst hc
      exact hwriter m (by simpa [SmppBearerboxState.setBox] using hm)
    · exact h.writer c m (by simpa [SmppBearerboxState.setBox, hc] using hm)

theorem everywhere_addToQueue (h : Everywhere P s) {m : SmppBearerboxMsg κ} (hm : P m)
    (inserted : Bool) : Everywhere P (smppBearerboxAddToQueue s m inserted) := by
  unfold smppBearerboxAddToQueue
  split
  · refine ⟨?_, h.openAcks, h.writer⟩
    intro m' hm'
    cases List.mem_append.mp hm' with
    | inl hold => exact h.outboundQueue m' hold
    | inr hnew => simpa [List.mem_singleton.mp hnew] using hm
  · split
    · exact everywhere_record h _
    · exact everywhere_record h _

/-- The messages after a step are those before it and the one handed over, up to the `boxc_id`. -/
theorem everywhere_step (hbox : ∀ box m, P m → P (withBoxcId box m)) {l : Label n κ}
    (h : Everywhere P s) (hhanded : ∀ msg context inserted, l = .addMessage msg context inserted →
      P { msg := msg, context := context })
    (hstep : step s l = some t) : Everywhere P t := by
  cases l with
  | addMessage msg context inserted =>
      cases hstep
      exact everywhere_addToQueue h (hhanded msg context inserted rfl) inserted
  | consume b i =>
      simp only [step] at hstep
      split at hstep
      · rename_i m hidle hget
        cases hstep
        have hqueue : Everywhere P { s with outboundQueue := s.outboundQueue.eraseIdx i } :=
          ⟨fun m' hm' => h.outboundQueue m' (List.mem_of_mem_eraseIdx hm'), h.openAcks, h.writer⟩
        refine everywhere_setBox hqueue b (h.openAcks b) ?_
        simpa [Writer.messages] using h.outboundQueue m (List.mem_of_getElem? hget)
      · cases hstep
  | beginWrite b =>
      simp only [step] at hstep
      split at hstep
      · rename_i m hm
        have hPm : P m := h.writer b m (by simp [hm, Writer.messages])
        split at hstep
        · cases hstep
          refine everywhere_setBox h b ?_ (by simpa [Writer.messages] using hbox _ m hPm)
          intro m' hm'
          rcases Keyed.mem_put.mp hm' with rfl | ⟨hold, -⟩
          · exact hbox _ m hPm
          · exact h.openAcks b m' hold
        · cases hstep
          exact everywhere_setBox h b (h.openAcks b) (by simpa [Writer.messages] using hPm)
      · cases hstep
  | endWrite b written =>
      simp only [step] at hstep
      split at hstep
      · rename_i m hm
        have hPm : P m := h.writer b m (by simp [hm, Writer.messages])
        split at hstep
        · cases hstep
          refine everywhere_record (everywhere_setBox h b ?_ ?_) _
          · exact h.openAcks b
          · simp [Writer.messages]
        · cases hstep
          refine everywhere_setBox h b ?_ (by simpa [Writer.messages] using hPm)
          exact fun m' hm' => h.openAcks b m' (Keyed.mem_remove.mp hm').1
      · cases hstep
  | requeue b inserted =>
      simp only [step] at hstep
      split at hstep
      · rename_i m hm
        cases hstep
        refine everywhere_addToQueue ?_ (h.writer b m (by simp [hm, Writer.messages])) inserted
        exact everywhere_setBox h b (h.openAcks b) (by simp [Writer.messages])
      · cases hstep
  | ack b id nack =>
      simp only [step] at hstep
      split at hstep
      · cases hstep
        refine everywhere_record (everywhere_setBox h b ?_ ?_) _
        · exact fun m' hm' => h.openAcks b m' (Keyed.mem_remove.mp hm').1
        · exact h.writer b
      · cases hstep
        exact everywhere_record h _
  | lose b =>
      simp only [step] at hstep
      split at hstep
      · cases hstep
      · cases hstep
        exact everywhere_setBox h b (h.openAcks b) (h.writer b)
  | reconnect b connected identified =>
      simp only [step] at hstep
      split at hstep
      · cases hstep
      · cases hstep
        refine everywhere_record (everywhere_setBox h b ?_ ?_) _
        · simp [Keyed.empty]
        · exact h.writer b

/-! ## Callbacks -/

/-- The message was inserted into the queue table, or a bearerbox took it. -/
def Confirmed (before : List (Event n κ)) (m : SmppBearerboxMsg κ) : Prop :=
  .addQueueMessage m true ∈ before ∨
    ∃ b nack, .ack b m.id nack ∈ before ∧ (nack = ackSuccess ∨ nack = ackBuffered)

/-- What stands behind an event, where the messages that were handed over satisfy `P`. -/
def CallbackBacked (P : SmppBearerboxMsg κ → Prop) (before : List (Event n κ)) :
    Event n κ → Prop
  | .callback m status => P m ∧ (status = smppEsmeRok → Confirmed before m)
  | _ => True

theorem ackStatus_eq_rok {nack : Int} (h : ackStatus nack = smppEsmeRok) :
    nack = ackSuccess ∨ nack = ackBuffered := by
  unfold ackStatus at h
  split at h
  · rename_i hnack
    exact hnack.symm
  · split at h
    · exact absurd h (by decide)
    · exact absurd h (by decide)

theorem backed_addToQueue (hlog : s.log = []) {m : SmppBearerboxMsg κ} (hm : P m)
    (inserted : Bool) : Backed (CallbackBacked P) (smppBearerboxAddToQueue s m inserted).log := by
  unfold smppBearerboxAddToQueue
  split
  · simpa [hlog] using backed_nil
  · split
    · have hrok : (if inserted then 0 else smppEsmeRsyserr) = smppEsmeRok → inserted = true := by
        cases inserted with
        | true => simp
        | false => decide
      simpa [SmppBearerboxState.record, hlog, backed_cons, backed_nil, CallbackBacked, hm,
        Confirmed] using hrok
    · have hrok : smppEsmeRsyserr ≠ smppEsmeRok := by decide
      simp [SmppBearerboxState.record, hlog, backed_cons, backed_nil, CallbackBacked, hm, hrok]

theorem backed_ackCleanup {acks : List (SmppBearerboxMsg κ)} (h : ∀ m ∈ acks, P m) :
    Backed (CallbackBacked P) (ackCleanup acks : List (Event n κ)) := by
  have hrok : smppEsmeRsyserr ≠ smppEsmeRok := by decide
  refine backed_of_mem ?_
  intro e he before
  rcases List.mem_flatMap.mp he with ⟨m, hm, hem⟩
  rcases List.mem_pair.mp hem with rfl | rfl
  · exact ⟨h m hm, fun hst => absurd hst hrok⟩
  · trivial

/-- Every callback a step calls is for a message that was handed over, and is told zero only when
the message was inserted or taken. -/
theorem backed_step {l : Label n κ} (h : Everywhere P s) (hlog : s.log = [])
    (hhanded : ∀ msg context inserted, l = .addMessage msg context inserted →
      P { msg := msg, context := context })
    (hstep : step s l = some t) : Backed (CallbackBacked P) t.log := by
  cases l with
  | addMessage msg context inserted =>
      cases hstep
      exact backed_addToQueue hlog (hhanded msg context inserted rfl) inserted
  | consume b i =>
      simp only [step] at hstep
      split at hstep
      · cases hstep
        simpa [SmppBearerboxState.setBox, hlog] using backed_nil
      · cases hstep
  | beginWrite b =>
      simp only [step] at hstep
      split at hstep
      · split at hstep
        · cases hstep
          simpa [SmppBearerboxState.setBox, hlog] using backed_nil
        · cases hstep
          simpa [SmppBearerboxState.setBox, hlog] using backed_nil
      · cases hstep
  | endWrite b written =>
      simp only [step] at hstep
      split at hstep
      · split at hstep
        · cases hstep
          simp [SmppBearerboxState.setBox, SmppBearerboxState.record, hlog, backed_singleton,
            CallbackBacked]
        · cases hstep
          simpa [SmppBearerboxState.setBox, hlog] using backed_nil
      · cases hstep
  | requeue b inserted =>
      simp only [step] at hstep
      split at hstep
      · rename_i m hm
        cases hstep
        refine backed_addToQueue ?_ (h.writer b m (by simp [hm, Writer.messages])) inserted
        simpa [SmppBearerboxState.setBox] using hlog
      · cases hstep
  | ack b id nack =>
      simp only [step] at hstep
      split at hstep
      · rename_i m hm
        rcases Keyed.find?_eq_some_iff.mp hm with ⟨hmem, hid⟩
        cases hstep
        have hconfirmed : ackStatus nack = smppEsmeRok →
            Confirmed [(.ack b id nack : Event n κ)] m := by
          intro hrok
          exact Or.inr ⟨b, nack, by simp [hid], ackStatus_eq_rok hrok⟩
        simpa [SmppBearerboxState.setBox, SmppBearerboxState.record, hlog, backed_cons, backed_nil,
          CallbackBacked, h.openAcks b m hmem] using hconfirmed
      · cases hstep
        simp [SmppBearerboxState.record, hlog, backed_singleton, CallbackBacked]
  | lose b =>
      simp only [step] at hstep
      split at hstep
      · cases hstep
      · cases hstep
        simpa [SmppBearerboxState.setBox, hlog] using backed_nil
  | reconnect b connected identified =>
      simp only [step] at hstep
      split at hstep
      · cases hstep
      · cases hstep
        simpa [SmppBearerboxState.setBox, SmppBearerboxState.record, hlog] using
          backed_ackCleanup (h.openAcks b)

end Bearerbox
end Ksmppd
