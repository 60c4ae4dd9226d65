import Ksmppd.Submit.Accepted
import Ksmppd.Sessions.Model

/-!
# Unbound — what a client can do before it has bound

Until a bind succeeds a session has no account.  The handlers of submit_sm and data_sm refuse it
before they look at the account; `smpp_queues_process_ack` does not check.
-/

namespace Ksmppd
namespace Sessions

open Lib
open Submit (Session Env)

/-! ## PDUs of one connection -/

/-- A PDU that is taken from the inbound queue, and the answers while it is handled. -/
structure Arrival where
  pdu : SmppPdu
  now : Nat
  data : SmppEsmeData
  link : BearerboxLink
  kannel : Kannel
  env : Env
  /-- What the authentication backend says, if the PDU is a bind. -/
  denied : Bool
  authResult : Option SmppEsmeAuthResult
  /-- What other threads have done to the session since its last PDU. -/
  meanwhile : SmppEsme → SmppEsme
  meanwhile_bindType : ∀ e, (meanwhile e).bindType = e.bindType
  meanwhile_smppEsmeGlobal : ∀ e, (meanwhile e).smppEsmeGlobal = e.smppEsmeGlobal

/-- What `smpp_esme_auth` answers to a bind. -/
def Arrival.auth (a : Arrival) (p : Bind) : Option SmppEsmeAuthResult :=
  smppEsmeAuth a.data (p.systemId.getD []) a.denied a.authResult

/-- The session after `smpp_queues_inbound_thread` has handled a PDU of it; `none` if it has used
the account while there is none. -/
def serve (smppServer : SmppServer) (e : SmppEsme) (a : Arrival) : Option SmppEsme :=
  let e' := consumed a.now (a.meanwhile e)
  match a.pdu with
  | .bind p =>
      (smppQueuesHandleBindPdu smppServer a.data e' p (a.auth p)).bind (fun r =>
        r.1.sessions.find? e'.id)
  | pdu =>
      (handlePdu smppServer a.link a.kannel a.env (sessionOf a.data e') pdu).map
        (fun h => h.session.esme)

/-- The PDU is no bind that succeeds. -/
def Arrival.Unsuccessful (a : Arrival) : Prop := ∀ p, a.pdu = .bind p → a.auth p = none

def Arrival.isDeliverSmResp (a : Arrival) : Bool :=
  match a.pdu with
  | .deliverSmResp _ _ => true
  | _ => false

/-- No bind of the session has succeeded. -/
structure Unbound (e : SmppEsme) : Prop where
  bindType : e.bindType = 0
  smppEsmeGlobal : e.smppEsmeGlobal = none

variable {smppServer : SmppServer} {e e' : SmppEsme} {a : Arrival} {s : Session}

/-! ## One PDU -/

theorem unbound_consumed (h : Unbound e) (a : Arrival) :
    Unbound (consumed a.now (a.meanwhile e)) :=
  ⟨(a.meanwhile_bindType e).trans h.bindType,
    (a.meanwhile_smppEsmeGlobal e).trans h.smppEsmeGlobal⟩

/-- A session without the transmit bit is refused at once. -/
theorem handleSm_unbound {kind : Submit.SmKind} {env : Env} {sequenceNumber : Int}
    {converted : Submit.Conversion} (h : Unbound s.esme) :
    ∃ calls, Submit.handleSm kind env s sequenceNumber converted = some (s.addOutbound, calls) := by
  cases kind with
  | submitSm =>
      exact ⟨_, by simp [Submit.handleSm, Submit.smppQueuesHandleSubmitSm, Submit.admitSm,
        h.bindType, Submit.respond]; rfl⟩
  | dataSm =>
      exact ⟨_, by simp [Submit.handleSm, Submit.smppQueuesHandleDataSm, Submit.admitSm,
        h.bindType, Submit.respond]; rfl⟩

theorem unbound_addOutbound (h : Unbound s.esme) : Unbound s.addOutbound.esme :=
  ⟨h.bindType, h.smppEsmeGlobal⟩

theorem serve_unbound (h : Unbound e) (hbind : a.Unsuccessful) (hresp : a.isDeliverSmResp = false) :
    ∃ e', serve smppServer e a = some e' ∧ Unbound e' := by
  have hconsumed := unbound_consumed h a
  have hsession : Unbound (sessionOf a.data (consumed a.now (a.meanwhile e))).esme := hconsumed
  unfold serve
  cases hpdu : a.pdu with
  | bind p =>
      -- refused, so nothing is registered
      have hauth := hbind p hpdu
      refine ⟨queued { consumed a.now (a.meanwhile e) with pendingDisconnect := true }, ?_,
        ⟨hconsumed.bindType, hconsumed.smppEsmeGlobal⟩⟩
      simp only [hauth, smppQueuesHandleBindPdu, Option.bind_some]
      exact Keyed.find?_put_self rfl
  | submitSm p =>
      rcases @handleSm_unbound _ .submitSm a.env p.sequenceNumber
        (smppSubmitSmToMsg a.kannel (consumed a.now (a.meanwhile e)) p) hsession with
        ⟨calls, hcalls⟩
      refine ⟨_, ?_, unbound_addOutbound hsession⟩
      simp only [handlePdu, sessionOf] at hcalls ⊢
      simp [hcalls, ofSubmit]
  | dataSm p =>
      rcases @handleSm_unbound _ .dataSm a.env p.sequenceNumber
        (smppDataSmToMsg a.kannel (consumed a.now (a.meanwhile e)) p) hsession with
        ⟨calls, hcalls⟩
      refine ⟨_, ?_, unbound_addOutbound hsession⟩
      simp only [handlePdu, sessionOf] at hcalls ⊢
      simp [hcalls, ofSubmit]
  | enquireLink sequenceNumber => exact ⟨_, rfl, unbound_addOutbound hsession⟩
  | unbind sequenceNumber => exact ⟨_, rfl, unbound_addOutbound hsession⟩
  | deliverSmResp sequenceNumber commandStatus => simp [Arrival.isDeliverSmResp, hpdu] at hresp
  -- the rest is not supported, and nothing is queued for it
  | submitSmResp r => exact ⟨_, rfl, hconsumed⟩
  | dataSmResp r => exact ⟨_, rfl, hconsumed⟩
  | deliverSm p => exact ⟨_, rfl, hconsumed⟩
  | enquireLinkResp sequenceNumber => exact ⟨_, rfl, hconsumed⟩
  | unbindResp sequenceNumber => exact ⟨_, rfl, hconsumed⟩
  | bindResp p => exact ⟨_, rfl, hconsumed⟩
  | other => exact ⟨_, rfl, hconsumed⟩

/-- A deliver_sm_resp increases a load of the account before anything else. -/
theorem serve_deliverSmResp (h : Unbound e) (hresp : a.isDeliverSmResp = true) :
    serve smppServer e a = none := by
  have hglobal := (unbound_consumed h a).smppEsmeGlobal
  unfold serve
  cases hpdu : a.pdu with
  | deliverSmResp sequenceNumber commandStatus =>
      simp [handlePdu, smppEsmeOutboundLoadIncrease, sessionOf, hglobal]
  | _ => simp [Arrival.isDeliverSmResp, hpdu] at hresp

/-! ## All PDUs -/

theorem serveAll_unbound_iff (h : Unbound e) {arrivals : List Arrival}
    (hbinds : ∀ a ∈ arrivals, a.Unsuccessful) :
    (arrivals.foldlM (serve smppServer) e).isSome ↔
      ∀ a ∈ arrivals, a.isDeliverSmResp = false := by
  induction arrivals generalizing e with
  | nil => simp
  | cons a arrivals ih =>
      rw [List.foldlM_cons]
      cases hresp : a.isDeliverSmResp with
      | true =>
          -- the server is down, and no later PDU is served
          have hnone : serve smppServer e a = none := serve_deliverSmResp h hresp
          simp [hnone, hresp]
      | false =>
          rcases @serve_unbound smppServer e a h (hbinds a (by simp)) hresp with ⟨e', he', h'⟩
          simpa [he', hresp] using ih h' (fun b hb => hbinds b (by simp [hb]))

/-- Before a bind succeeds, no PDU makes a handler use the missing account, except a
deliver_sm_resp. -/
theorem unbound_pdus_served_iff (smppServer : SmppServer) (id : EsmeRef)
    {arrivals : List Arrival} (hbinds : ∀ a ∈ arrivals, a.Unsuccessful) :
    (arrivals.foldlM (serve smppServer) (accepted smppServer id)).isSome ↔
      ∀ a ∈ arrivals, a.isDeliverSmResp = false :=
  serveAll_unbound_iff ⟨rfl, rfl⟩ hbinds

def sampleArrival (pdu : SmppPdu) : Arrival where
  pdu := pdu
  now := 0
  data := smppEsmeInit
  link := { alive := true, written := true }
  kannel := Submit.sampleKannel
  env := Submit.sampleEnv
  denied := false
  authResult := none
  meanwhile := fun e => e
  meanwhile_bindType := fun _ => rfl
  meanwhile_smppEsmeGlobal := fun _ => rfl

/-- A submit_sm, a bind that is refused, and an unbind. -/
theorem unbound_pdus_served_iff_sample :
    ([sampleArrival (.submitSm Submit.sampleSubmitSm),
      sampleArrival (.bind (sampleBind (octstrImm "test"))),
      sampleArrival (.unbind 3)].foldlM (serve sampleSettings) (accepted sampleSettings 0)).isSome := by
  refine (unbound_pdus_served_iff sampleSettings 0 ?_).mpr ?_
  · intro a ha p _
    simp only [List.mem_cons, List.not_mem_nil, or_false] at ha
    rcases ha with rfl | rfl | rfl
    · rfl
    · rfl
    · rfl
  · simp [sampleArrival, Arrival.isDeliverSmResp]

/-- A deliver_sm_resp as the first PDU of a connection. -/
theorem deliver_sm_resp_uses_absent_account :
    (∀ a ∈ [sampleArrival (.deliverSmResp 1 0)], a.Unsuccessful) ∧
      ¬ ([sampleArrival (.deliverSmResp 1 0)].foldlM (serve sampleSettings)
        (accepted sampleSettings 0)).isSome := by
  refine ⟨?_, by decide⟩
  intro a ha p hp
  rw [List.mem_singleton.mp ha] at hp
  cases hp

end Sessions
end Ksmppd
