import Ksmppd.Bearerbox.Contexts
import Ksmppd.Sessions.Depth
import Ksmppd.Submit.Requests

/-!
# Answers — every request is answered once

A request a client has made is in the inbound queue, in the bind handler, with the router or with
the bearerbox threads, or its response is queued, or an outbound thread has taken its response.
The sum over these places only grows when the listener reads a request.
-/

namespace Ksmppd
namespace Sessions

open Lib
open Submit (SmKind Session SubmitCall ClientRequest requestOf? answeredBy? respondsTo? promised
  Fulfils responsesOf routesOf handoversOf)
open Bearerbox (carried answered WritingOpen FreshIds AcksWritten handedContexts)

variable {n : Nat}

/-! ## Where a request can be -/

/-- What the callback of a message in the bearerbox threads will answer. -/
def Waiting.request : Waiting → Multiset ClientRequest
  | .response _ q => (respondsTo? q).toList
  | .requeueResult => 0

def Binding.request (b : Binding) : ClientRequest :=
  ⟨b.esme, .bind b.pdu.kind, b.pdu.sequenceNumber⟩

def inboundRequests (l : List (EsmeRef × SmppPdu)) : Multiset ClientRequest :=
  l.filterMap (fun x => requestOf? x.1 x.2)

def routedRequests (l : List (SmKind × SmppQueuedPdu)) : Multiset ClientRequest :=
  l.filterMap (fun x => respondsTo? x.2)

def answersIn (l : List SmppQueuedPdu) : Multiset ClientRequest := l.filterMap respondsTo?

/-- Requests that were read, and no response queued yet. -/
def underWay (s : ServerState n) : Multiset ClientRequest :=
  inboundRequests s.inboundQueue + (s.binding.map Binding.request : Multiset ClientRequest) +
    routedRequests s.routing + carried Waiting.request s.bearerbox

/-- And those whose response waits in the outbound queue. -/
def accounted (s : ServerState n) : Multiset ClientRequest := underWay s + answersIn s.outboundQueue

/-- The server with what its clients have asked, and the PDUs its outbound threads have taken. -/
structure AnswerState (n : Nat) where
  depth : DepthState n
  requested : List ClientRequest
  written : List SmppQueuedPdu
  /-- The connection was closed when they were taken. -/
  dropped : List SmppQueuedPdu

/-- The request a step reads. -/
def requestsRead : DepthLabel n → List ClientRequest
  | .server (.receive esme pdu) => (requestOf? esme pdu).toList
  | _ => []

/-- The PDU a step takes from the outbound queue. -/
def takenFrom (s : ServerState n) : DepthLabel n → List SmppQueuedPdu
  | .server (.outbound i) => s.outboundQueue[i]?.toList
  -- the thread reads an entry that was destroyed meanwhile
  | .outboundFreed _ q => [q]
  | _ => []

/-- The connection a PDU is for is open. -/
def isOpen (s : ServerState n) (q : SmppQueuedPdu) : Bool :=
  (q.smppEsme.bind s.find?).any (fun e => e.connected)

def answerStep (s : AnswerState n) (l : DepthLabel n) : Option (AnswerState n) :=
  (depthStep s.depth l).map (fun d =>
    let taken := takenFrom s.depth.server l
    -- a response is taken whether its connection is open or not
    { depth := d
      requested := s.requested ++ requestsRead l
      written := s.written ++ taken.filter (isOpen s.depth.server)
      dropped := s.dropped ++ taken.filter (fun q => !isOpen s.depth.server q) })

def answerInit (smppServer : SmppServer) (ids : Fin n → Option Octstr) : AnswerState n where
  depth := depthInit smppServer ids
  requested := []
  written := []
  dropped := []

/-- What the server queues of its own is no response, and the bearerbox threads get their ids
right. -/
def Orderly (s : ServerState n) : DepthLabel n → Prop
  | .server (.addOutbound _ q) => respondsTo? q = none
  | .server (.bearerbox l) => AcksWritten s.bearerbox l ∧ FreshIds s.bearerbox l
  | _ => True

instance (s : ServerState n) : (l : DepthLabel n) → Decidable (Orderly s l)
  | .server (.addOutbound _ q) => inferInstanceAs (Decidable (respondsTo? q = none))
  | .server (.bearerbox l) =>
      inferInstanceAs (Decidable (AcksWritten s.bearerbox l ∧ FreshIds s.bearerbox l))
  | .server .accept | .server (.receive _ _) | .server (.hangUp _) | .server (.inbound _ _ _ _ _)
  | .server (.bindCheck _ _ _) | .server (.bindFinish _) | .server (.routingDone _ _ _ _)
  | .server (.outbound _) | .server (.disconnect _) | .server .passBegin | .server .passEnd
  | .server (.sweep _ _) | .server (.destroy _) | .server (.tick _) | .server .shutdown
  | .expire _ _ _ | .outboundFreed _ _ => isTrue trivial

def AnswersInTurn (s : AnswerState n) (l : DepthLabel n) : Prop :=
  KeepsQueued s.depth l ∧ Orderly s.depth.server l

instance (s : AnswerState n) (l : DepthLabel n) : Decidable (AnswersInTurn s l) :=
  inferInstanceAs (Decidable (KeepsQueued s.depth l ∧ Orderly s.depth.server l))

/-! ## Queues -/

variable {s t : ServerState n} {e : SmppEsme} {kind : SmKind} {inserted : Bool} {session : Session}
  {calls : List SubmitCall} {rs : Multiset ClientRequest} {esme : EsmeRef}

/-- An entry taken out of a queue takes what it stands for with it. -/
theorem filterMap_eraseIdx {α β : Type*} (f : α → Option β) {l : List α} {i : Nat} {x : α}
    (h : l[i]? = some x) :
    (l.filterMap f : Multiset β) =
      ((f x).toList : Multiset β) + ((l.eraseIdx i).filterMap f : Multiset β) := by
  have hperm := (perm_eraseIdx h).filterMap f
  rw [Multiset.coe_eq_coe.mpr hperm]
  cases hx : f x with
  | none => simp [hx]
  | some y => simp [hx]

@[simp] theorem answersIn_append (l l' : List SmppQueuedPdu) :
    answersIn (l ++ l') = answersIn l + answersIn l' := by
  simp [answersIn]

theorem answersIn_singleton (q : SmppQueuedPdu) :
    answersIn [q] = ((respondsTo? q).toList : Multiset ClientRequest) := by
  cases h : respondsTo? q <;> simp [answersIn, h]

theorem inboundRequests_receive (l : List (EsmeRef × SmppPdu)) (esme : EsmeRef) (pdu : SmppPdu) :
    inboundRequests (l ++ [(esme, pdu)]) =
      inboundRequests l + ((requestOf? esme pdu).toList : Multiset ClientRequest) := by
  rw [inboundRequests, List.filterMap_append, ← Multiset.coe_add]
  cases h : requestOf? esme pdu <;> simp [inboundRequests, h]

@[simp] theorem routedRequests_append (l l' : List (SmKind × SmppQueuedPdu)) :
    routedRequests (l ++ l') = routedRequests l + routedRequests l' := by
  simp [routedRequests]

theorem answersIn_partition (p : SmppQueuedPdu → Bool) (l : List SmppQueuedPdu) :
    answersIn (l.filter p) + answersIn (l.filter (fun q => !p q)) = answersIn l := by
  rw [← answersIn_append]
  exact Multiset.coe_eq_coe.mpr ((List.filter_append_perm p l).filterMap respondsTo?)

/-- Neither the queues nor the threads are touched. -/
structure SameQueues (s t : ServerState n) : Prop where
  inboundQueue : t.inboundQueue = s.inboundQueue
  binding : t.binding = s.binding
  routing : t.routing = s.routing
  bearerbox : t.bearerbox = s.bearerbox
  outboundQueue : t.outboundQueue = s.outboundQueue

theorem SameQueues.refl (s : ServerState n) : SameQueues s s := ⟨rfl, rfl, rfl, rfl, rfl⟩

theorem SameQueues.trans {u : ServerState n} (h : SameQueues s t) (h' : SameQueues t u) :
    SameQueues s u where
  inboundQueue := h'.inboundQueue.trans h.inboundQueue
  binding := h'.binding.trans h.binding
  routing := h'.routing.trans h.routing
  bearerbox := h'.bearerbox.trans h.bearerbox
  outboundQueue := h'.outboundQueue.trans h.outboundQueue

theorem SameQueues.accounted (h : SameQueues s t) : accounted t = accounted s := by
  unfold Sessions.accounted underWay
  rw [h.inboundQueue, h.binding, h.routing, h.bearerbox, h.outboundQueue]

theorem sameQueues_hangUp (s : ServerState n) (e : SmppEsme) : SameQueues s (s.hangUp e) := by
  unfold ServerState.hangUp
  split
  · exact ⟨rfl, rfl, rfl, rfl, rfl⟩
  · exact ⟨rfl, rfl, rfl, rfl, rfl⟩

theorem sameQueues_settle (s : ServerState n) (c : Call) : SameQueues s (s.settle c) := by
  cases c with
  | esmeDisconnect esme =>
      cases hfind : s.find? esme with
      | none => simpa [ServerState.settle, hfind] using SameQueues.refl s
      | some e =>
          have hsettle : s.settle (.esmeDisconnect esme) = s.stopListening e := by
            simp [ServerState.settle, hfind]
          rw [hsettle]
          exact ⟨rfl, rfl, rfl, rfl, rfl⟩
  | _ => exact SameQueues.refl s

theorem sameQueues_settleAll (s : ServerState n) (cs : List Call) :
    SameQueues s (cs.foldl ServerState.settle s) := by
  induction cs generalizing s with
  | nil => exact SameQueues.refl s
  -- each call of a callback leaves the queues as they are
  | cons c cs ih => exact (sameQueues_settle s c).trans (ih (s.settle c))

theorem sameQueues_expireAck {link : BearerboxLink} {id : Option Int}
    (ht : s.expireAck link esme id = some t) : SameQueues s t := by
  unfold ServerState.expireAck at ht
  split at ht
  · rcases Option.bind_eq_some_iff.mp ht with ⟨e, -, hrest⟩
    rcases Option.bind_eq_some_iff.mp hrest with ⟨q, -, hrest⟩
    rcases Option.bind_eq_some_iff.mp hrest with ⟨cb, -, hrest⟩
    split at hrest
    · rcases Option.map_eq_some_iff.mp hrest with ⟨calls, -, rfl⟩
      have hput : SameQueues s (s.put { e with openAcks := e.openAcks.remove id }) :=
        ⟨rfl, rfl, rfl, rfl, rfl⟩
      exact hput.trans (sameQueues_settleAll _ calls)
    · cases hrest
  · cases ht

/-! ## Calls -/

/-- What is not with the bearerbox threads. -/
def elsewhere (s : ServerState n) : Multiset ClientRequest :=
  inboundRequests s.inboundQueue + (s.binding.map Binding.request : Multiset ClientRequest) +
    routedRequests s.routing + answersIn s.outboundQueue

theorem accounted_eq (s : ServerState n) :
    accounted s = elsewhere s + carried Waiting.request s.bearerbox := by
  unfold accounted underWay elsewhere
  abel

/-- The events of the bearerbox threads were taken over, and a message that is being written is an
open ack. -/
structure BoxInv (s : ServerState n) : Prop where
  log : s.bearerbox.log = []
  writing : WritingOpen s.bearerbox

theorem BoxInv.of_eq (h : BoxInv s) (hbox : t.bearerbox = s.bearerbox) : BoxInv t :=
  ⟨by rw [hbox]; exact h.log, by rw [hbox]; exact h.writing⟩

def handedOver (l : List (Sms × SmppQueuedPdu)) : Multiset ClientRequest :=
  l.filterMap (fun x => respondsTo? x.2)

theorem elsewhere_make :
    elsewhere (s.make kind session calls) + handedOver (handoversOf calls) =
      elsewhere s + promised calls := by
  have hroutes : routedRequests ((routesOf calls).map (fun r => (kind, r.2))) =
      ((routesOf calls).filterMap (fun x => respondsTo? x.2) : Multiset ClientRequest) := by
    unfold routedRequests
    rw [List.filterMap_map]
    rfl
  rw [Submit.promised_eq]
  simp only [elsewhere, ServerState.make, answersIn_append, routedRequests_append, hroutes]
  simp only [answersIn, handedOver]
  abel

theorem elsewhere_deliver {event : Bearerbox.Event n Waiting} (ht : s.deliver event = some t) :
    elsewhere t = elsewhere s + Bearerbox.calledBack Waiting.request event ∧
      t.bearerbox = s.bearerbox := by
  unfold ServerState.deliver at ht
  split at ht
  -- only a callback answers; the other events are of the store and of a connection
  · rename_i m status
    split at ht
    · rename_i kind q hctx
      rcases Option.bind_eq_some_iff.mp ht with ⟨esme, hq, hrest⟩
      rcases Option.bind_eq_some_iff.mp hrest with ⟨e, hfind, hcall⟩
      rcases Option.map_eq_some_iff.mp hcall with ⟨⟨session, calls⟩, hresult, rfl⟩
      rcases Submit.callbackOf_calls hresult with ⟨q', rfl, hq'⟩
      refine ⟨?_, rfl⟩
      have hmake := @elsewhere_make n s kind session [.addOutbound q']
      rw [Submit.promised_singleton] at hmake
      simpa [handedOver, handoversOf, Submit.promise?, hq', Bearerbox.calledBack,
        Bearerbox.contextOf, hctx, Waiting.request] using hmake
    -- a requeue result has no client
    · rename_i hctx
      cases ht
      simp [Bearerbox.calledBack, Bearerbox.contextOf, hctx, Waiting.request]
  · rename_i hother
    cases ht
    refine ⟨?_, rfl⟩
    cases event with
    | callback m status => exact absurd rfl (hother m status)
    | _ => exact (add_zero _).symm

theorem elsewhere_deliverAll {events : List (Bearerbox.Event n Waiting)}
    (ht : s.deliverAll events = some t) :
    elsewhere t = elsewhere s + answered Waiting.request events ∧ t.bearerbox = s.bearerbox := by
  -- the log in its order: what each callback answers adds up
  induction events generalizing s with
  | nil =>
      cases ht
      simp
  | cons event events ih =>
      rcases Option.bind_eq_some_iff.mp ht with ⟨s', hfirst, hrest⟩
      rcases elsewhere_deliver hfirst with ⟨hevent, hbox⟩
      rcases ih hrest with ⟨hevents, hbox'⟩
      refine ⟨?_, hbox'.trans hbox⟩
      rw [hevents, hevent, Bearerbox.answered_cons, add_assoc]

/-- Taking over a step of the bearerbox threads moves what its callbacks were called with. -/
theorem accounted_absorb {b : Bearerbox.SmppBearerboxState n Waiting} (hwriting : WritingOpen b)
    (ht : s.absorb b = some t) :
    BoxInv t ∧ accounted t =
      elsewhere s + (carried Waiting.request b + answered Waiting.request b.log) := by
  rcases elsewhere_deliverAll ht with ⟨hevents, hbox⟩
  refine ⟨⟨by rw [hbox], by rw [hbox]; exact hwriting⟩, ?_⟩
  have hcarried : carried Waiting.request t.bearerbox = carried Waiting.request b := by
    rw [hbox]
    rfl
  have hsame : elsewhere { s with bearerbox := { b with log := [] } } = elsewhere s := rfl
  rw [accounted_eq, hevents, hcarried, hsame]
  abel

theorem accounted_handOver {handed : List (Sms × SmppQueuedPdu)} (h : BoxInv s)
    (ht : s.handOver kind inserted handed = some t) :
    BoxInv t ∧ accounted t = accounted s + handedOver handed := by
  -- a message is carried from then on, or its callback is called at once if there is no room for
  -- it; the log is empty again before the next one
  induction handed generalizing s with
  | nil =>
      cases ht
      exact ⟨h, (add_zero _).symm⟩
  | cons x handed ih =>
      rcases x with ⟨msg, q⟩
      rcases Option.bind_eq_some_iff.mp ht with ⟨s', hfirst, hrest⟩
      have hadd := Bearerbox.carried_addToQueue (f := Waiting.request) (s := s.bearerbox)
        { msg := msg, context := .response kind q } inserted
      rw [h.log, Bearerbox.answered_nil, add_zero] at hadd
      rcases accounted_absorb (h.writing.addToQueue _ inserted) hfirst with ⟨hs', haccounted⟩
      rcases ih hs' hrest with ⟨ht', hrest'⟩
      refine ⟨ht', ?_⟩
      have hcons : handedOver ((msg, q) :: handed) =
          ((respondsTo? q).toList : Multiset ClientRequest) + handedOver handed := by
        cases hq : respondsTo? q <;> simp [handedOver, hq]
      rw [hrest', haccounted, hadd, hcons, accounted_eq s]
      simp only [Bearerbox.contextOf, Waiting.request]
      abel

/-- The calls of a handler answer what it was to answer, or leave it with the router or with the
bearerbox. -/
theorem accounted_finish {r : Submit.Result} (h : BoxInv s) (hr : Fulfils rs r)
    (ht : s.finish kind inserted r = some t) : BoxInv t ∧ accounted t = accounted s + rs := by
  rcases Option.bind_eq_some_iff.mp ht with ⟨⟨session, calls⟩, hresult, hover⟩
  -- first the calls that stay on this side, then the messages that go to the bearerbox
  have hmade : BoxInv (s.make kind session calls) := ⟨h.log, h.writing⟩
  rcases accounted_handOver hmade hover with ⟨hbox, haccounted⟩
  refine ⟨hbox, ?_⟩
  have hmake := @elsewhere_make n s kind session calls
  rw [hr session calls hresult] at hmake
  have hsame : carried Waiting.request (s.make kind session calls).bearerbox =
      carried Waiting.request s.bearerbox := rfl
  rw [haccounted, accounted_eq, accounted_eq, hsame, add_right_comm, hmake]
  abel

/-! ## Steps -/

/-- What handling a PDU is to answer. -/
theorem promised_handlePdu {smppServer : SmppServer} {link : BearerboxLink} {kannel : Kannel}
    {env : Submit.Env} {s₀ : Session} {pdu : SmppPdu} {handled : Handled}
    (hbind : ∀ p, pdu ≠ .bind p)
    (h : handlePdu smppServer link kannel env s₀ pdu = some handled) :
    promised handled.calls = ((requestOf? s₀.esme.id pdu).toList : Multiset ClientRequest) := by
  have hsubmit : ∀ {rs : Multiset ClientRequest} {r : Submit.Result}, Fulfils rs r →
      ofSubmit r = some handled → promised handled.calls = rs := by
    intro rs r hr hsome
    rcases Option.map_eq_some_iff.mp hsome with ⟨⟨session, calls⟩, hresult, rfl⟩
    exact hr session calls hresult
  cases pdu with
  | bind p => exact absurd rfl (hbind p)
  | enquireLink sequenceNumber =>
      cases h
      rfl
  | unbind sequenceNumber =>
      cases h
      rfl
  | submitSm p => exact hsubmit (Submit.fulfils_handleSm _) h
  | dataSm p => exact hsubmit (Submit.fulfils_handleSm _) h
  -- an ack of the client is no request: its callback only settles the stored message
  | deliverSmResp sequenceNumber commandStatus =>
      rcases Option.bind_eq_some_iff.mp h with ⟨s₁, -, hacked⟩
      rcases Option.map_eq_some_iff.mp hacked with ⟨settled, -, rfl⟩
      rfl
  | _ =>
      cases h
      rfl

variable {i : Nat}

/-- A request taken from the inbound queue is answered, or goes to the router. -/
theorem accounted_inbound {link : BearerboxLink} {kannel : Kannel} {env : Submit.Env}
    {pdu : SmppPdu} (h : BoxInv s) (hget : s.inboundQueue[i]? = some (esme, pdu))
    (hbind : ∀ p, pdu ≠ .bind p)
    (ht : s.inbound i link kannel env inserted esme pdu = some t) :
    BoxInv t ∧ accounted t = accounted s := by
  rcases Option.bind_eq_some_iff.mp ht with ⟨e, hfind, hrest⟩
  rcases Option.bind_eq_some_iff.mp hrest with ⟨handled, hhandle, hfinish⟩
  rcases Option.map_eq_some_iff.mp hfinish with ⟨s', hs', rfl⟩
  have hpromised := promised_handlePdu hbind hhandle
  have hid : e.id = esme := id_of_find? hfind
  -- the entry leaves the queue, and the handler is to answer it
  have hfulfils : Fulfils ((requestOf? esme pdu).toList : Multiset ClientRequest)
      (some (handled.session, handled.calls)) := by
    intro session calls hr
    cases hr
    rw [hpromised, ← hid]
    rfl
  have htaken : BoxInv { s with inboundQueue := s.inboundQueue.eraseIdx i } :=
    ⟨h.log, h.writing⟩
  rcases accounted_finish htaken hfulfils hs' with ⟨hbox, haccounted⟩
  have hsame := sameQueues_settleAll s' handled.settled
  refine ⟨hbox.of_eq hsame.bearerbox, ?_⟩
  have herase := filterMap_eraseIdx (fun x : EsmeRef × SmppPdu => requestOf? x.1 x.2) hget
  rw [hsame.accounted, haccounted]
  simp only [accounted, underWay, inboundRequests]
  rw [herase]
  abel

theorem accounted_bindCheck {denied : Bool} {authResult : Option SmppEsmeAuthResult}
    (ht : step s (.bindCheck i denied authResult) = some t) :
    SameQueues s { t with inboundQueue := s.inboundQueue, binding := s.binding } ∧
      accounted t = accounted s := by
  rcases bindCheck_cases ht with ⟨esme, p, e, -, hget, -, rfl⟩
  refine ⟨⟨rfl, rfl, rfl, rfl, rfl⟩, ?_⟩
  have herase := filterMap_eraseIdx (fun x : EsmeRef × SmppPdu => requestOf? x.1 x.2) hget
  simp only [accounted, underWay, inboundRequests, ServerState.put]
  rw [herase, List.map_append, ← Multiset.coe_add]
  simp only [requestOf?, Option.toList_some, List.map_cons, List.map_nil, Binding.request]
  abel

/-- The response, refusal or not, is one to this bind. -/
theorem respondsTo_handleBind {smppServer : SmppServer} {data data' : SmppEsmeData} {p : Bind}
    {authResult : Option SmppEsmeAuthResult} {q : SmppQueuedPdu}
    (h : smppQueuesHandleBindPdu smppServer data e p authResult = some (data', q)) :
    respondsTo? q = some ⟨e.id, .bind p.kind, p.sequenceNumber⟩ := by
  unfold smppQueuesHandleBindPdu at h
  split at h
  -- `smpp_esme_auth` refused it
  · cases h
    rfl
  · cases h
  · rcases Option.map_eq_some_iff.mp h with ⟨data'', -, heq⟩
    cases heq
    rfl

theorem accounted_bindFinish (ht : step s (.bindFinish i) = some t) :
    t.bearerbox = s.bearerbox ∧ accounted t = accounted s := by
  rcases bindFinish_cases ht with ⟨b, e, data', q, hget, hfind, hhandle, rfl⟩
  refine ⟨rfl, ?_⟩
  have herase := (perm_eraseIdx hget).map Binding.request
  have hq : respondsTo? q = some b.request := by
    rw [respondsTo_handleBind hhandle, id_of_find? hfind]
    rfl
  simp only [accounted, underWay, answersIn_append, answersIn_singleton, hq]
  rw [Multiset.coe_eq_coe.mpr herase, List.map_cons, ← Multiset.cons_coe, Option.toList_some,
    Multiset.coe_singleton, ← Multiset.singleton_add]
  abel

theorem accounted_routingDone {routeStatus : Submit.SmppRouteStatus} {env : Submit.Env}
    (h : BoxInv s) (ht : step s (.routingDone i routeStatus env inserted) = some t) :
    BoxInv t ∧ accounted t = accounted s := by
  cases hget : s.routing[i]? with
  | none => simp [step, hget] at ht
  | some r =>
      rcases r with ⟨kind, q⟩
      simp only [step, hget] at ht
      rcases Option.bind_eq_some_iff.mp ht with ⟨esme, -, hrest⟩
      rcases Option.bind_eq_some_iff.mp hrest with ⟨e, -, hfinish⟩
      have htaken : BoxInv { s with routing := s.routing.eraseIdx i } := ⟨h.log, h.writing⟩
      rcases accounted_finish htaken (Submit.fulfils_routingDoneOf routeStatus) hfinish with
        ⟨hbox, haccounted⟩
      refine ⟨hbox, ?_⟩
      have herase := filterMap_eraseIdx (fun x : SmKind × SmppQueuedPdu => respondsTo? x.2) hget
      rw [haccounted]
      simp only [accounted, underWay, routedRequests]
      rw [herase]
      abel

theorem accounted_bearerbox {l : Bearerbox.Label n Waiting} (h : BoxInv s)
    (hok : AcksWritten s.bearerbox l ∧ FreshIds s.bearerbox l)
    (ht : step s (.bearerbox l) = some t) : BoxInv t ∧ accounted t = accounted s := by
  simp only [step] at ht
  split at ht
  · rename_i hdrains
    rcases Option.bind_eq_some_iff.mp ht with ⟨b, hb, habsorb⟩
    have hcarried := Bearerbox.carried_step (f := Waiting.request) h.writing hok.2 hb
    rcases accounted_absorb (Bearerbox.writingOpen_step h.writing hok.1 hb) habsorb with
      ⟨hbox, haccounted⟩
    refine ⟨hbox, ?_⟩
    -- what comes from outside is of the drain, and no client waits for it
    have hhanded : handedContexts Waiting.request l = 0 := by
      cases l with
      | addMessage msg context inserted =>
          cases context with
          | response kind q => cases hdrains
          | requeueResult => rfl
      | _ => rfl
    rw [haccounted, hcarried, hhanded, h.log, Bearerbox.answered_nil, add_zero, add_zero,
      accounted_eq]
  · cases ht

theorem accounted_addOutbound {q : SmppQueuedPdu} (hq : respondsTo? q = none)
    (ht : step s (.addOutbound esme q) = some t) :
    t.bearerbox = s.bearerbox ∧ accounted t = accounted s := by
  simp only [step] at ht
  split at ht
  · rcases Option.map_eq_some_iff.mp ht with ⟨e, -, rfl⟩
    refine ⟨rfl, ?_⟩
    simp only [accounted, answersIn_append, answersIn_singleton, hq]
    exact congrArg (underWay s + ·) (add_zero _)
  · cases ht

theorem accounted_outbound (ht : step s (.outbound i) = some t) :
    t.bearerbox = s.bearerbox ∧
      accounted t + answersIn s.outboundQueue[i]?.toList = accounted s := by
  rcases outbound_cases ht with ⟨q, esme, e, hget, -, -, rfl⟩
  have herase := filterMap_eraseIdx respondsTo? hget
  have htaken : accounted { s with outboundQueue := s.outboundQueue.eraseIdx i } +
      answersIn s.outboundQueue[i]?.toList = accounted s := by
    rw [hget, Option.toList_some, answersIn_singleton]
    simp only [accounted, answersIn]
    rw [herase]
    change underWay s + _ + _ = underWay s + _
    abel
  -- a connection that is open is closed behind a response that asks for it; the queues stay
  split
  · have hsame := sameQueues_hangUp { s with outboundQueue := s.outboundQueue.eraseIdx i }
      (dequeued s.now e)
    exact ⟨hsame.bearerbox, by rw [hsame.accounted]; exact htaken⟩
  · exact ⟨rfl, htaken⟩

/-- What the places hold after a step, and what an outbound thread has taken, is what they held
before it, and what the listener has read. -/
theorem accounted_step {l : Label n} (h : BoxInv s) (hok : Orderly s (.server l))
    (ht : step s l = some t) :
    BoxInv t ∧ accounted t + answersIn (takenFrom s (.server l)) =
      accounted s + (requestsRead (.server l) : Multiset ClientRequest) := by
  -- most steps neither read a request nor take a response
  have hsame : SameQueues s t → BoxInv t ∧ accounted t + 0 = accounted s + 0 := by
    intro hqueues
    exact ⟨h.of_eq hqueues.bearerbox, congrArg (· + 0) hqueues.accounted⟩
  have hmoved : BoxInv t ∧ accounted t = accounted s →
      BoxInv t ∧ accounted t + 0 = accounted s + 0 :=
    fun hinv => ⟨hinv.1, congrArg (· + 0) hinv.2⟩
  cases l with
  | accept =>
      cases ht
      exact hsame ⟨rfl, rfl, rfl, rfl, rfl⟩
  | receive esme pdu =>
      rcases Option.map_eq_some_iff.mp ht with ⟨e, -, rfl⟩
      refine ⟨h.of_eq rfl, ?_⟩
      change accounted _ + 0 = accounted s + ((requestOf? esme pdu).toList : Multiset _)
      simp only [accounted, underWay, inboundRequests_receive, ServerState.put]
      abel
  | hangUp esme =>
      rcases Option.map_eq_some_iff.mp ht with ⟨e, -, rfl⟩
      exact hsame (sameQueues_hangUp s e)
  | inbound i link kannel env inserted =>
      simp only [step] at ht
      split at ht
      · cases ht
      · split at ht
        · cases ht
        · rename_i esme pdu hbind hget
          exact hmoved (accounted_inbound h hget hbind ht)
        · cases ht
  | bindCheck i denied authResult =>
      rcases accounted_bindCheck ht with ⟨hqueues, haccounted⟩
      exact hmoved ⟨h.of_eq hqueues.bearerbox, haccounted⟩
  | bindFinish i =>
      rcases accounted_bindFinish ht with ⟨hbox, haccounted⟩
      exact hmoved ⟨h.of_eq hbox, haccounted⟩
  | routingDone i routeStatus env inserted => exact hmoved (accounted_routingDone h ht)
  | bearerbox l => exact hmoved (accounted_bearerbox h hok ht)
  | addOutbound esme q =>
      rcases accounted_addOutbound hok ht with ⟨hbox, haccounted⟩
      exact hmoved ⟨h.of_eq hbox, haccounted⟩
  | outbound i =>
      rcases accounted_outbound ht with ⟨hbox, haccounted⟩
      exact ⟨h.of_eq hbox, haccounted.trans (add_zero _).symm⟩
  | disconnect esme =>
      rcases Option.map_eq_some_iff.mp ht with ⟨e, -, rfl⟩
      exact hsame ⟨rfl, rfl, rfl, rfl, rfl⟩
  | passBegin =>
      simp only [step] at ht
      split at ht
      · cases ht
      · cases ht
        exact hsame ⟨rfl, rfl, rfl, rfl, rfl⟩
  | passEnd =>
      simp only [step] at ht
      split at ht
      · cases ht
        exact hsame ⟨rfl, rfl, rfl, rfl, rfl⟩
      · cases ht
  | sweep key j =>
      rcases sweep_cases ht with ⟨g, esme, e, -, -, -, -, -, rfl⟩
      exact hsame ⟨rfl, rfl, rfl, rfl, rfl⟩
  | destroy esme =>
      rcases destroy_cases ht with ⟨e, -, -, -, -, rfl⟩
      exact hsame ⟨rfl, rfl, rfl, rfl, rfl⟩
  | tick seconds =>
      cases ht
      exact hsame ⟨rfl, rfl, rfl, rfl, rfl⟩
  | shutdown =>
      simp only [step] at ht
      split at ht
      · cases ht
      · cases ht
        exact hsame ⟨rfl, rfl, rfl, rfl, rfl⟩

/-! ## Runs -/

/-- The balance of requests, and what keeps it. -/
structure AnswerInv (a : AnswerState n) : Prop where
  depth : DepthInv a.depth
  box : BoxInv a.depth.server
  balance : (a.requested : Multiset ClientRequest) =
    accounted a.depth.server + answersIn a.written + answersIn a.dropped

theorem answerInv_init (smppServer : SmppServer) (ids : Fin n → Option Octstr) :
    AnswerInv (answerInit smppServer ids) where
  depth := depthInv_init smppServer ids
  box := ⟨rfl, by intro b m hm; cases hm⟩
  balance := by
    simp [answerInit, depthInit, serverInit, accounted, underWay, inboundRequests, routedRequests,
      answersIn, carried, Bearerbox.smppBearerboxInit, Bearerbox.SmppBearerbox.carried,
      Bearerbox.Writer.held]

theorem accounted_nextServer {d : DepthState n} {l : DepthLabel n} (hdepth : DepthInv d)
    (h : BoxInv d.server) (hok : Orderly d.server l) (ht : nextServer d l = some t) :
    BoxInv t ∧ accounted t + answersIn (takenFrom d.server l) =
      accounted d.server + (requestsRead l : Multiset ClientRequest) := by
  cases l with
  | server l => exact accounted_step h hok (step_of_nextServer ht)
  | expire esme id link =>
      have hqueues := sameQueues_expireAck ht
      exact ⟨h.of_eq hqueues.bearerbox, congrArg (· + 0) hqueues.accounted⟩
  | outboundFreed i q =>
      -- nothing was destroyed that waits in the queue
      simp only [nextServer, hdepth.freed] at ht
      split at ht
      · rename_i hany
        rcases (Option.any_eq_true _ _).mp hany with ⟨q', -, hmem⟩
        cases of_decide_eq_true hmem
      · cases ht

theorem answerInv_step {a b : AnswerState n} {l : DepthLabel n} (h : AnswerInv a)
    (hok : AnswersInTurn a l) (hstep : answerStep a l = some b) : AnswerInv b := by
  rcases Option.map_eq_some_iff.mp hstep with ⟨d, hd, rfl⟩
  have hdepth := depthInv_step h.depth hok.1 hd
  rcases Option.map_eq_some_iff.mp hd with ⟨t, ht, rfl⟩
  rcases accounted_nextServer h.depth h.box hok.2 ht with ⟨hbox, haccounted⟩
  refine ⟨hdepth, hbox, ?_⟩
  have htaken := answersIn_partition (isOpen a.depth.server) (takenFrom a.depth.server l)
  dsimp only
  calc
    -- the requests read before are where the invariant has them
    ((a.requested ++ requestsRead l : List ClientRequest) : Multiset ClientRequest)
        = accounted a.depth.server + (requestsRead l : Multiset ClientRequest) +
            (answersIn a.written + answersIn a.dropped) := by
          rw [← Multiset.coe_add, h.balance]
          abel
    _ = accounted t + answersIn (takenFrom a.depth.server l) +
            (answersIn a.written + answersIn a.dropped) := by rw [haccounted]
    _ = _ := by
          rw [answersIn_append, answersIn_append, ← htaken]
          abel

/-- However the threads interleave, a client's request is counted once among those under way, those
whose response is queued, and those whose response was written or, its connection being closed,
dropped; and there is no response to what was not asked. -/
theorem requests_answered_once {smppServer : SmppServer} {ids : Fin n → Option Octstr}
    {ls : List (DepthLabel n)} {a : AnswerState n}
    (h : Run answerStep AnswersInTurn (answerInit smppServer ids) ls a) (r : ClientRequest) :
    a.requested.count r = (underWay a.depth.server).count r +
      (answersIn a.depth.server.outboundQueue).count r +
      (answersIn a.written).count r + (answersIn a.dropped).count r := by
  have hinv := h.invariant AnswerInv (fun _ _ _ ha hok hstep => answerInv_step ha hok hstep)
    (answerInv_init smppServer ids)
  have hcount := congrArg (Multiset.count r) hinv.balance
  simpa only [accounted, Multiset.count_add, Multiset.coe_count] using hcount

theorem requests_answered_once_sample :
    ∃ a, Run answerStep AnswersInTurn (answerInit sampleSettings (fun _ : Fin 1 => none))
      ((sampleWritten ++ sampleAnswered).map DepthLabel.server) a ∧
      ∀ r, a.requested.count r = (underWay a.depth.server).count r +
        (answersIn a.depth.server.outboundQueue).count r +
        (answersIn a.written).count r + (answersIn a.dropped).count r := by
  have hexec : (execute answerStep AnswersInTurn (answerInit sampleSettings (fun _ => none))
      ((sampleWritten ++ sampleAnswered).map DepthLabel.server)).any (fun a =>
        a.written.length == 2) = true := by
    decide +kernel
  rcases exists_run_of_execute hexec with ⟨a, hrun, -⟩
  exact ⟨a, hrun, fun r => requests_answered_once hrun r⟩

end Sessions
end Ksmppd
