import Ksmppd.Sessions.References

/-!
# Depth — what the cleanup thread adds up

The queue depth of a session is the sum of its three counters.  An entry of the outbound queue is a
pointer, and its session is read through it when the entry is taken; the PDU behind it is also an open
ack, and whoever takes the open ack out destroys it.  A `deliver_sm_resp` that comes before its
`deliver_sm` was sent so leaves a pointer to memory that may be another PDU by then.
-/

namespace Ksmppd
namespace Sessions

open Lib

variable {n : Nat}

/-! ## Steps -/

/-- The cleanup thread finds an open ack expired, takes it out and calls its callback. -/
def ServerState.expireAck (s : ServerState n) (link : BearerboxLink) (esme : EsmeRef)
    (id : Option Int) : Option (ServerState n) :=
  if s.cleaning then
    (s.find? esme).bind (fun e => (e.openAcks.find? id).bind (fun q => q.callback.bind (fun cb =>
      if e.connected then
        -- `queued_ack->smpp_server` is set for the callback
        (runCallback s.smppServer link { q with smppServer := true }
          smppEsmeCommandStatusWaitAckTimeout cb).map (fun calls =>
            calls.foldl ServerState.settle (s.put { e with openAcks := e.openAcks.remove id }))
      else none)))
  else none

/-- An outbound thread takes the entry at position `i` and finds the PDU `q` behind it. -/
def ServerState.outboundAs (s : ServerState n) (i : Nat) (q : SmppQueuedPdu) :
    Option (ServerState n) :=
  q.smppEsme.bind (fun esme => (s.find? esme).map (fun e =>
    let s' := { s with outboundQueue := s.outboundQueue.eraseIdx i }
    if e.connected && q.disconnect then s'.hangUp (dequeued s.now e)
    else s'.put (dequeued s.now e)))

/-- An outbound thread finds what was queued, as long as nobody destroys it. -/
theorem step_outbound_eq (s : ServerState n) (i : Nat) :
    step s (.outbound i) = (s.outboundQueue[i]?).bind (s.outboundAs i) := by
  simp only [step]
  cases s.outboundQueue[i]? with
  | none => rfl
  | some q => rfl

/-- The server, and the entries of its outbound queue whose PDU was destroyed. -/
structure DepthState (n : Nat) where
  server : ServerState n
  freed : List SmppQueuedPdu

inductive DepthLabel (n : Nat)
  | server (l : Label n)
  /-- The cleanup thread gives an open ack up. -/
  | expire (esme : EsmeRef) (id : Option Int) (link : BearerboxLink)
  /-- An outbound thread takes an entry whose PDU was destroyed; its memory holds `q` by then. -/
  | outboundFreed (i : Nat) (q : SmppQueuedPdu)

/-- The open ack a step takes out of the `open_acks` of a session. -/
def takenOut (s : ServerState n) : DepthLabel n → Option SmppQueuedPdu
  | .server (.inbound i _ _ _ _) =>
      match s.inboundQueue[i]? with
      | some (esme, .deliverSmResp sequenceNumber _) =>
          (s.find? esme).bind (fun e => e.openAcks.find? (some sequenceNumber))
      | _ => none
  -- `dict_put` destroys the one it replaces
  | .server (.addOutbound esme q) =>
      if q.callback.isSome then (s.find? esme).bind (fun e => e.openAcks.find? q.id) else none
  | .expire esme id _ => (s.find? esme).bind (fun e => e.openAcks.find? id)
  | _ => none

/-- What a step leaves of the server; an entry that was destroyed is not taken as if it was not. -/
def nextServer (s : DepthState n) : DepthLabel n → Option (ServerState n)
  | .server (.outbound i) =>
      if (s.server.outboundQueue[i]?).any (fun q => decide (q ∈ s.freed)) then none
      else step s.server (.outbound i)
  | .server l => step s.server l
  | .expire esme id link => s.server.expireAck link esme id
  | .outboundFreed i q =>
      if (s.server.outboundQueue[i]?).any (fun q => decide (q ∈ s.freed)) then
        s.server.outboundAs i q
      else none

/-- The entries that are destroyed after a step. -/
def nextFreed (s : DepthState n) (l : DepthLabel n) : List SmppQueuedPdu :=
  s.freed ++ (takenOut s.server l).toList.filter (fun q => decide (q ∈ s.server.outboundQueue))

def depthStep (s : DepthState n) (l : DepthLabel n) : Option (DepthState n) :=
  (nextServer s l).map (fun t => { server := t, freed := nextFreed s l })

def depthInit (smppServer : SmppServer) (ids : Fin n → Option Octstr) : DepthState n where
  server := serverInit smppServer ids
  freed := []

/-- No open ack is taken out while its PDU waits in the outbound queue. -/
def KeepsQueued (s : DepthState n) (l : DepthLabel n) : Prop :=
  ∀ q ∈ (takenOut s.server l).toList, q ∉ s.server.outboundQueue

instance (s : DepthState n) (l : DepthLabel n) : Decidable (KeepsQueued s l) :=
  inferInstanceAs (Decidable (∀ q ∈ (takenOut s.server l).toList, q ∉ s.server.outboundQueue))

/-! ## Depth -/

/-- `queue_depth`. -/
def queueDepth (e : SmppEsme) : Nat := e.inboundQueued + e.outboundQueued + e.pendingRouting

/-- The counters of all sessions count, their sum with them, and whatever an entry of a queue will
decrease is not zero. -/
structure DepthExact (s : ServerState n) : Prop where
  counts : ∀ id e, s.find? id = some e → counters e = references s id
  depth : ∀ id e, s.find? id = some e → queueDepth e =
    references s id .inboundQueued + references s id .outboundQueued +
      references s id .pendingRouting
  inboundPositive : ∀ x ∈ s.inboundQueue, ∀ e, s.find? x.1 = some e → 0 < e.inboundQueued
  outboundPositive : ∀ q ∈ s.outboundQueue, ∀ esme e, q.smppEsme = some esme →
    s.find? esme = some e → 0 < e.outboundQueued
  routingPositive : ∀ r ∈ s.routing, ∀ esme e, r.2.smppEsme = some esme →
    s.find? esme = some e → 0 < e.pendingRouting

variable {s t : ServerState n} {d d' : DepthState n} {l : DepthLabel n} {link : BearerboxLink}
  {esme : EsmeRef} {id : Option Int}

theorem Counted.depthExact (h : Counted s) : DepthExact s where
  counts := h.counts
  depth := by
    intro id e he
    rw [← h.counts id e he]
    rfl
  inboundPositive := by
    intro x hx e he
    have hcount : e.inboundQueued = _ := congrFun (h.counts x.1 e he) .inboundQueued
    rw [hcount]
    exact List.countP_pos_iff.mpr ⟨x, hx, by simp⟩
  outboundPositive := by
    intro q hq esme e howner he
    have hcount : e.outboundQueued = _ := congrFun (h.counts esme e he) .outboundQueued
    rw [hcount]
    exact List.countP_pos_iff.mpr ⟨q, hq, by simp [howner]⟩
  routingPositive := by
    intro r hr esme e howner he
    have hcount : e.pendingRouting = _ := congrFun (h.counts esme e he) .pendingRouting
    rw [hcount]
    exact List.countP_pos_iff.mpr ⟨r, hr, by simp [howner]⟩

theorem counted_expireAck (h : Counted s) (ht : s.expireAck link esme id = some t) :
    Counted t := by
  unfold ServerState.expireAck at ht
  split at ht
  · rcases Option.bind_eq_some_iff.mp ht with ⟨e, hfind, hrest⟩
    rcases Option.bind_eq_some_iff.mp hrest with ⟨q, -, hrest⟩
    rcases Option.bind_eq_some_iff.mp hrest with ⟨cb, -, hrest⟩
    split at hrest
    · rcases Option.map_eq_some_iff.mp hrest with ⟨calls, -, rfl⟩
      -- an open ack is not counted anywhere
      have hput : Counted (s.put { e with openAcks := e.openAcks.remove id }) :=
        h.put (d := e) (find?_id hfind) rfl
      exact steady_counted.settleAll hput calls
    · cases hrest
  · cases ht

/-- Nothing is destroyed, and the counters count. -/
structure DepthInv (d : DepthState n) : Prop where
  counted : Counted d.server
  freed : d.freed = []

theorem depthInv_init (smppServer : SmppServer) (ids : Fin n → Option Octstr) :
    DepthInv (depthInit smppServer ids) where
  counted := counted_init smppServer ids
  freed := rfl

/-- A step of the server is that step, where the outbound thread may take it at all. -/
theorem step_of_nextServer {l : Label n} (h : nextServer d (.server l) = some t) :
    step d.server l = some t := by
  cases l with
  | outbound i =>
      simp only [nextServer] at h
      split at h
      · cases h
      · exact h
  | _ => exact h

theorem counted_nextServer (h : DepthInv d) (ht : nextServer d l = some t) : Counted t := by
  cases l with
  | server l =>
      have hstep : step d.server l = some t := by
        cases l with
        | outbound i =>
            simp only [nextServer] at ht
            split at ht
            · cases ht
            · exact ht
        | _ => exact ht
      exact counted_step h.counted hstep
  | expire esme id link =>
      exact counted_expireAck h.counted ht
  | outboundFreed i q =>
      -- there is no such entry
      simp only [nextServer, h.freed] at ht
      split at ht
      · rename_i hany
        rcases (Option.any_eq_true _ _).mp hany with ⟨q', -, hmem⟩
        cases of_decide_eq_true hmem
      · cases ht

theorem depthInv_step (h : DepthInv d) (hok : KeepsQueued d l) (hstep : depthStep d l = some d') :
    DepthInv d' := by
  rcases Option.map_eq_some_iff.mp hstep with ⟨t, ht, rfl⟩
  refine ⟨counted_nextServer h ht, ?_⟩
  -- whatever is taken out is not in the queue
  have hnone : (takenOut d.server l).toList.filter
      (fun q => decide (q ∈ d.server.outboundQueue)) = [] := by
    rw [List.filter_eq_nil_iff]
    intro q hq
    simpa using hok q hq
  simp only [nextFreed, h.freed, hnone, List.append_nil]

/-- As long as no open ack is taken out while its PDU waits in the outbound queue, the counters of all
sessions count their entries, and none is decreased at zero. -/
theorem depth_exact {smppServer : SmppServer} {ids : Fin n → Option Octstr}
    {ls : List (DepthLabel n)} (h : Run depthStep KeepsQueued (depthInit smppServer ids) ls d) :
    DepthExact d.server := by
  have hinv := h.invariant DepthInv (fun _ _ _ ht hok hstep => depthInv_step ht hok hstep)
    (depthInv_init smppServer ids)
  exact hinv.counted.depthExact

/-! ## Samples -/

/-- A `deliver_sm` for the first session. -/
def sampleDeliver : SmppQueuedPdu :=
  { smppQueuedPduCreateQuick 0 (some (octstrImm "test")) (.deliverSm
      { sequenceNumber := 1, esmClass := 0 }) with
    id := some 1
    callback := some .deliverSmResp }

/-- A client binds, and a second one connects. -/
def sampleConnected : List (DepthLabel 0) :=
  [.server .accept, .server .accept, .server (.receive 0 (.bind (sampleBind (octstrImm "test")))),
    .server (.bindCheck 0 false (some { maxBinds := 0 })), .server (.bindFinish 0),
    .server (.outbound 0), .server (.addOutbound 0 sampleDeliver)]

def sampleInbound : DepthLabel 0 :=
  .server (.inbound 0 { alive := false, written := false } Submit.sampleKannel Submit.sampleEnv true)

/-- The `deliver_sm` is sent, and then acknowledged. -/
def sampleAcked : List (DepthLabel 0) :=
  [.server (.outbound 0), .server (.receive 0 (.deliverSmResp 1 smppEsmeRok)), sampleInbound]

theorem depth_exact_sample :
    ∃ d, Run depthStep KeepsQueued (depthInit sampleSettings (fun _ => none))
      (sampleConnected ++ sampleAcked) d ∧ DepthExact d.server := by
  have hexec : (execute depthStep KeepsQueued (depthInit sampleSettings (fun _ => none))
      (sampleConnected ++ sampleAcked)).any (fun d => d.freed.isEmpty) = true := by
    decide +kernel
  rcases exists_run_of_execute hexec with ⟨d, hrun, -⟩
  exact ⟨d, hrun, depth_exact hrun⟩

/-- It is acknowledged before it is sent, and a response to the second client takes its memory. -/
def sampleAckedEarly : List (DepthLabel 0) :=
  [.server (.receive 0 (.deliverSmResp 1 smppEsmeRok)), sampleInbound,
    .server (.receive 1 (.enquireLink 7)), sampleInbound,
    .outboundFreed 0 { smppQueuedPduCreate with
      pdu := some (.enquireLinkResp 7)
      smppEsme := some 1 }]

/-- One session keeps a count that nothing in the queue stands for, the other one counts nothing and
has an entry. -/
theorem depth_astray :
    ∃ d, Run depthStep anyStep (depthInit sampleSettings (fun _ => none))
      (sampleConnected ++ sampleAckedEarly) d ∧ ¬ DepthExact d.server := by
  have hexec : (execute depthStep anyStep (depthInit sampleSettings (fun _ => none))
      (sampleConnected ++ sampleAckedEarly)).any (fun d =>
        (d.server.find? 0).any (fun e => e.outboundQueued == 1 &&
          references d.server 0 .outboundQueued == 0) &&
        (d.server.find? 1).any (fun e => e.outboundQueued == 0 &&
          references d.server 1 .outboundQueued == 1)) = true := by
    decide +kernel
  rcases exists_run_of_execute hexec with ⟨d, hrun, hboth⟩
  rcases Bool.and_eq_true_iff.mp hboth with ⟨hfirst, -⟩
  rcases (Option.any_eq_true _ _).mp hfirst with ⟨e, hfind, hcounts⟩
  rcases Bool.and_eq_true_iff.mp hcounts with ⟨hone, hzero⟩
  refine ⟨d, hrun, ?_⟩
  intro h
  have hcount : e.outboundQueued = _ := congrFun (h.counts 0 e hfind) .outboundQueued
  rw [beq_iff_eq.mp hone, beq_iff_eq.mp hzero] at hcount
  cases hcount

end Sessions
end Ksmppd
