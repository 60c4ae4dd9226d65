import Ksmppd.Dispatch.Effects

/-!
# AckLimit — no more open acks than a session may have

`smpp_esme_find_best_receiver` chooses a session that has room, and what was chosen once gets all
parts of a message.  The limit is kept as long as no message has more parts than the session it goes
to has room for.
-/

namespace Ksmppd
namespace Dispatch

open Lib
open Delivery (Origin)

variable {s t : DispatchState} {e e' : SmppEsme} {q : SmppQueuedPdu} {qs : List SmppQueuedPdu}
  {F : SmppQueuedPdu → Prop} {l : Label} {ls : List Label}

/-- No session has more open acks than its limit. -/
def WithinLimit (s : DispatchState) : Prop :=
  ∀ e ∈ s.data.sessions.entries, (e.openAcks.entries.length : Int) ≤ e.maxOpenAcks

/-- A message that is dispatched has no more parts than the chosen session has room for. -/
def FewParts (s : DispatchState) : Label → Prop
  | .deliver _ systemId parts => ∀ e, smppEsmeFindBestReceiver s.data systemId = some e →
      (parts.length : Int) ≤ e.window
  | _ => True

/-- The limit is kept, and new sessions get one that is not below zero. -/
structure Limited (s : DispatchState) : Prop where
  within : WithinLimit s
  default : 0 ≤ s.smppServer.defaultMaxOpenAcks

/-! ## What the effects keep -/

theorem limited_quiet (h : Limited s) (hquiet : Quiet F s t) : Limited t where
  within := by
    intro e' he'
    rcases hquiet.sessions e' he' with ⟨e, he, hsame⟩ | ⟨hnew, -⟩
    · rw [hsame.openAcks, hsame.maxOpenAcks]
      exact h.within e he
    · -- a session that is bound has no open acks yet
      rw [hnew.2.1, hnew.2.2.2]
      exact h.default
  default := by
    rw [hquiet.smppServer]
    exact h.default

theorem within_setSession (h : WithinLimit s)
    (hlimit : (e'.openAcks.entries.length : Int) ≤ e'.maxOpenAcks) :
    WithinLimit (s.setSession e') := by
  intro x hx
  rcases Keyed.mem_put.mp hx with rfl | ⟨hold, -⟩
  · exact hlimit
  · exact h x hold

theorem within_close (h : WithinLimit s) (hfind : s.data.sessions.find? e.id = some e)
    (id : Option Int) : WithinLimit (s.setSession (closeAck e id)) := by
  apply within_setSession h
  have hold := h e (Keyed.find?_eq_some_iff.mp hfind).1
  have hfewer := Keyed.length_remove_le e.openAcks id
  simp only [closeAck]
  omega

theorem length_stampAck (e : SmppEsme) (id : Option Int) (now : Int) :
    (stampAck e id now).openAcks.entries.length = e.openAcks.entries.length := by
  unfold stampAck
  split
  · rename_i q hq
    have hid : q.id = id := Keyed.key_of_find? hq
    subst hid
    -- the PDU replaces itself
    exact Keyed.length_put_of_find (w := { q with timeSent := now }) hq
  · rfl

theorem maxOpenAcks_stampAck (e : SmppEsme) (id : Option Int) (now : Int) :
    (stampAck e id now).maxOpenAcks = e.maxOpenAcks := by
  unfold stampAck
  split
  · rfl
  · rfl

theorem within_stamp (h : WithinLimit s) (hfind : s.data.sessions.find? e.id = some e)
    (id : Option Int) (now : Int) : WithinLimit (s.setSession (stampAck (unqueueOne e) id now)) := by
  apply within_setSession h
  rw [length_stampAck, maxOpenAcks_stampAck]
  exact h e (Keyed.find?_eq_some_iff.mp hfind).1

/-- One PDU takes one place. -/
theorem within_send (h : WithinLimit s) (hroom : (e.openAcks.entries.length : Int) < e.maxOpenAcks)
    (q : SmppQueuedPdu) : WithinLimit (s.send e q) := by
  have hlimit : ((queueFor e (Delivery.numberPdu e q)).openAcks.entries.length : Int) ≤
      (queueFor e (Delivery.numberPdu e q)).maxOpenAcks := by
    have hput := Keyed.length_put_le e.openAcks (Delivery.numberPdu e q)
    simp only [queueFor]
    omega
  exact within_setSession h hlimit

/-- As many PDUs may be sent as there is room for; the room is less by one after each. -/
theorem limited_sendAll {esme : EsmeRef} (h : Limited s)
    (hroom : ∀ e, s.data.sessions.find? esme = some e →
      (e.openAcks.entries.length : Int) + qs.length ≤ e.maxOpenAcks)
    (hsend : s.sendAll esme qs = some t) : Limited t := by
  refine (sendAll_rule (I := fun s qs => Limited s ∧ ∀ e, s.data.sessions.find? esme = some e →
    (e.openAcks.entries.length : Int) + qs.length ≤ e.maxOpenAcks) ?_ ⟨h, hroom⟩ hsend).1
  rintro s e q qs ⟨h, hroom⟩ hfind rfl
  have hfirst := hroom e hfind
  rw [List.length_cons] at hfirst
  refine ⟨⟨within_send h.within (by omega) q, h.default⟩, ?_⟩
  intro e' he'
  -- after the first PDU there is room for one less
  rw [find?_send] at he'
  cases he'
  have hput := Keyed.length_put_le e.openAcks (Delivery.numberPdu e q)
  simp only [queueFor]
  omega

/-! ## Runs -/

theorem limited_step (h : Limited s) (hfew : FewParts s l) (hstep : step s l = some t) :
    Limited t := by
  cases step_effect hstep with
  | quiet hquiet => exact limited_quiet h hquiet
  | closes hfind hquiet =>
      rename_i e id
      have hclosed : Limited (s.setSession (closeAck e id)) :=
        ⟨within_close h.within hfind id, h.default⟩
      exact limited_quiet hclosed hquiet
  | stamps hqueue hcallback hesme hfind ht =>
      rw [ht]
      exact ⟨within_stamp h.within hfind _ _, h.default⟩
  | transmits hq ht =>
      rw [ht]
      exact ⟨h.within, h.default⟩
  | sends hstored hchosen hcount hfrom hsend =>
      rename_i stored e qs
      rcases bestReceiver_of_chosen hchosen with ⟨systemId, hbest⟩
      rcases bestReceiver_spec hbest with ⟨hroom, -, hmem⟩
      -- the search has found that there is room for one
      have hone : 0 < e.window := by
        simp only [SmppEsme.hasRoom, Bool.and_eq_true, decide_eq_true_eq] at hroom
        exact hroom.2
      -- only a message has more than one part
      have hwindow : (qs.length : Int) ≤ e.window := by
        rw [hcount]
        cases l with
        | deliver origin systemId parts => exact hfew e hchosen
        | _ =>
            simp only [sentBy]
            omega
      have hshorter : Limited { s with stored := stored } := ⟨h.within, h.default⟩
      refine limited_sendAll hshorter ?_ hsend
      intro e' he'
      -- the session that is sent to is the one whose window was looked at
      have heq : e' = e := Option.some.inj (he'.symm.trans hmem)
      subst heq
      unfold SmppEsme.window at hwindow
      omega

/-- If no message has more parts than the chosen session has room for, no session ever has more open
acks than it may have. -/
theorem open_acks_limited {smppServer : SmppServer} {backend : Backend}
    {store : Delivery.PduStore} {times : Octstr → Int}
    (hdefault : 0 ≤ smppServer.defaultMaxOpenAcks)
    (hrun : Run step FewParts (dispatchInit smppServer backend store times) ls s)
    (he : e ∈ s.data.sessions.entries) :
    (e.openAcks.entries.length : Int) ≤ e.maxOpenAcks := by
  have hinit : Limited (dispatchInit smppServer backend store times) := by
    refine ⟨?_, hdefault⟩
    intro e he
    simp [dispatchInit, smppEsmeInit] at he
  have hlimited : Limited s :=
    hrun.invariant Limited (fun _ _ _ h hok hstep => limited_step h hok hstep) hinit
  exact hlimited.within e he

/-! ## A message of two parts -/

/-- A server whose sessions may have one open ack. -/
def sampleServer : SmppServer where
  databaseEnableQueue := true
  databaseStorePrimary := false
  waitAckAction := smppWaitackDrop
  defaultMaxOpenAcks := 1

/-- A receiver of the account "test". -/
def sampleEsme : SmppEsme :=
  { smppEsmeCreate 0 with
    systemId := some (octstrImm "test")
    connected := true
    bindType := smppEsmeReceive
    maxOpenAcks := 1 }

def samplePart : DeliverSm where
  sequenceNumber := 0
  esmClass := 0

def emptyStore : Delivery.PduStore where
  rows := Keyed.empty
  globalIds := []
  pendingPdu := []

def sampleInit (backend : Backend) : DispatchState :=
  dispatchInit sampleServer backend emptyStore (fun _ => 0)

/-- A MO for the account, in as many parts. -/
def sampleDeliver (parts : Nat) : Label :=
  .deliver (.bearerbox 0 (octstrImm "id")) (some (octstrImm "test"))
    (List.replicate parts samplePart)

instance (s : DispatchState) : (l : Label) → Decidable (FewParts s l)
  | .deliver _ systemId parts =>
      inferInstanceAs (Decidable
        (∀ e ∈ smppEsmeFindBestReceiver s.data systemId, (parts.length : Int) ≤ e.window))
  | .bind _ | .rebind .. | .disconnect _ | .cleanup _ | .destroy .. | .getQueued .. |
    .dispatch _ | .simulate .. | .addOutbound .. | .consume _ | .transmit _ | .ack .. |
    .examine .. | .decide _ => isTrue trivial

def ackCounts (s : DispatchState) : List Nat :=
  s.data.sessions.entries.map (fun e => e.openAcks.entries.length)

theorem open_acks_limited_sample :
    ∃ s, Run step FewParts (sampleInit .mysql) [.bind sampleEsme, sampleDeliver 1] s ∧
      ackCounts s = [1] ∧
      ∀ e ∈ s.data.sessions.entries, (e.openAcks.entries.length : Int) ≤ e.maxOpenAcks := by
  have hexec : (execute step FewParts (sampleInit .mysql)
      [.bind sampleEsme, sampleDeliver 1]).any (fun s => ackCounts s == [1]) = true := by
    decide +kernel
  rcases exists_run_of_execute hexec with ⟨s, hrun, hcounts⟩
  refine ⟨s, hrun, by simpa using hcounts, ?_⟩
  intro e he
  exact open_acks_limited (by decide) hrun he

/-- The session has room for one open ack and gets two. -/
theorem open_acks_exceeded :
    ∃ s, Run step anyStep (sampleInit .mysql) [.bind sampleEsme, sampleDeliver 2] s ∧
      ∃ e ∈ s.data.sessions.entries, ¬ (e.openAcks.entries.length : Int) ≤ e.maxOpenAcks := by
  have hexec : (execute step anyStep (sampleInit .mysql)
      [.bind sampleEsme, sampleDeliver 2]).any (fun s => s.data.sessions.entries.any
        (fun e => !decide ((e.openAcks.entries.length : Int) ≤ e.maxOpenAcks))) = true := by
    decide +kernel
  rcases exists_run_of_execute hexec with ⟨s, hrun, hany⟩
  rcases List.any_eq_true.mp hany with ⟨e, he, hexceeds⟩
  exact ⟨s, hrun, e, he, by simpa using hexceeds⟩

end Dispatch
end Ksmppd
