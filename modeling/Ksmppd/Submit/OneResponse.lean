import Ksmppd.Submit.Model

/-!
# OneResponse — every request gets exactly one response

A request ends in one of two ways: a response is queued, or the message is handed to the
bearerbox together with a callback that queues one.  What a request may go through in between is
one question to the router, and while it is asked `pending_routing` is one higher.
-/

namespace Ksmppd
namespace Submit

variable {kind : SmKind} {env : Env} {s t : Session} {sequenceNumber : Int}

/-! ## Responses and hand-overs among the calls -/

def responsesOf (calls : List SubmitCall) : List SmppQueuedPdu :=
  calls.filterMap (fun c => match c with
    | .addOutbound q => some q
    | _ => none)

def handoversOf (calls : List SubmitCall) : List (Sms × SmppQueuedPdu) :=
  calls.filterMap (fun c => match c with
    | .bearerboxAddMessage msg q => some (msg, q)
    | _ => none)

def routesOf (calls : List SubmitCall) : List (Sms × SmppQueuedPdu) :=
  calls.filterMap (fun c => match c with
    | .routeMessage msg q => some (msg, q)
    | _ => none)

/-- A response of the matching type with the sequence number of the request. -/
def IsResponse (kind : SmKind) (sequenceNumber : Int) (q : SmppQueuedPdu) : Prop :=
  ∃ r, q.pdu = some (kind.resp r) ∧ r.sequenceNumber = sequenceNumber

/-- A session that has passed the bind check keeps its system id and its account. -/
structure Session.Registered (s : Session) : Prop where
  systemId : s.esme.systemId.isSome
  account : s.account.isSome

/-- Exactly one response is queued, and nothing is left with the bearerbox or the router. -/
structure Answers (kind : SmKind) (sequenceNumber : Int) (calls : List SubmitCall) : Prop where
  response : ∃ q, responsesOf calls = [q] ∧ IsResponse kind sequenceNumber q
  handovers : handoversOf calls = []
  routes : routesOf calls = []

/-- Exactly one message is handed to the bearerbox, with a callback that queues exactly one
response whatever status it is called with. -/
structure HandsOver (kind : SmKind) (sequenceNumber : Int) (calls : List SubmitCall) : Prop where
  response : responsesOf calls = []
  handover : ∃ msg q, handoversOf calls = [(msg, q)] ∧
    ∀ (t : Session) (status : Int), t.Registered →
      ∃ t' cs, callbackOf kind t q status = some (t', cs) ∧ Answers kind sequenceNumber cs ∧
        t'.esme.pendingRouting = t.esme.pendingRouting
  routes : routesOf calls = []

/-- The request is over: it was answered, or handed over. -/
def Ends (kind : SmKind) (sequenceNumber : Int) (pendingRouting : Nat) (r : Result) : Prop :=
  ∃ s' calls, r = some (s', calls) ∧ s'.esme.pendingRouting = pendingRouting ∧
    (Answers kind sequenceNumber calls ∨ HandsOver kind sequenceNumber calls)

/-! ## Responses stay responses -/

theorem isResponse_createResponse :
    IsResponse kind sequenceNumber (createResponse kind s sequenceNumber) :=
  ⟨_, rfl, rfl⟩

theorem isResponse_editResp {q : SmppQueuedPdu} {f : SmResp → SmResp}
    (hf : ∀ r, (f r).sequenceNumber = r.sequenceNumber) (h : IsResponse kind sequenceNumber q) :
    IsResponse kind sequenceNumber (editResp f q) := by
  rcases h with ⟨r, hpdu, hseq⟩
  refine ⟨f r, ?_, (hf r).trans hseq⟩
  cases kind with
  | submitSm => simp [editResp, hpdu, mapResp, SmKind.resp]
  | dataSm => simp [editResp, hpdu, mapResp, SmKind.resp]

theorem isResponse_setStatus {q : SmppQueuedPdu} {status : Int}
    (h : IsResponse kind sequenceNumber q) : IsResponse kind sequenceNumber (setStatus status q) :=
  isResponse_editResp (fun _ => rfl) h

theorem isResponse_setMessageId {q : SmppQueuedPdu} {messageId : Option Octstr}
    (h : IsResponse kind sequenceNumber q) :
    IsResponse kind sequenceNumber (setMessageId messageId q) :=
  isResponse_editResp (fun _ => rfl) h

theorem isResponse_withMsg {q : SmppQueuedPdu} {msg : Option Sms}
    (h : IsResponse kind sequenceNumber q) :
    IsResponse kind sequenceNumber { q with msg := msg } := h

/-! ## The ends of a request -/

theorem answers_respond {q : SmppQueuedPdu} (h : IsResponse kind sequenceNumber q) :
    Answers kind sequenceNumber [.addOutbound q] where
  response := ⟨q, rfl, h⟩
  handovers := rfl
  routes := rfl

theorem ends_respond {q : SmppQueuedPdu} (h : IsResponse kind sequenceNumber q) :
    Ends kind sequenceNumber s.esme.pendingRouting (some (respond s q)) :=
  ⟨s.addOutbound, [.addOutbound q], rfl, rfl, Or.inl (answers_respond h)⟩

/-- A call that is neither a response nor a hand-over nor a question to the router. -/
def IsQuiet : SubmitCall → Prop
  | .databaseDeductCredit _ _ => True
  | .databaseAddMessage _ _ => True
  | .simulate _ => True
  | _ => False

theorem quiet_calls {c : SubmitCall} (hc : IsQuiet c) (calls : List SubmitCall) :
    responsesOf (c :: calls) = responsesOf calls ∧ handoversOf (c :: calls) = handoversOf calls ∧
      routesOf (c :: calls) = routesOf calls := by
  cases c with
  | addOutbound q => cases hc
  | routeMessage msg q => cases hc
  | bearerboxAddMessage msg q => cases hc
  | databaseDeductCredit systemId cost => exact ⟨rfl, rfl, rfl⟩
  | databaseAddMessage msg inserted => exact ⟨rfl, rfl, rfl⟩
  | simulate q => exact ⟨rfl, rfl, rfl⟩

theorem ends_after {c : SubmitCall} (hc : IsQuiet c) {pendingRouting : Nat} {r : Result}
    (h : Ends kind sequenceNumber pendingRouting r) :
    Ends kind sequenceNumber pendingRouting (after [c] r) := by
  rcases h with ⟨s', calls, rfl, hpending, hend⟩
  rcases quiet_calls hc calls with ⟨hresponses, hhandovers, hroutes⟩
  refine ⟨s', c :: calls, rfl, hpending, ?_⟩
  cases hend with
  | inl hanswer =>
      refine Or.inl ⟨?_, hhandovers.trans hanswer.handovers, hroutes.trans hanswer.routes⟩
      simpa [hresponses] using hanswer.response
  | inr hover =>
      refine Or.inr ⟨hresponses.trans hover.response, ?_, hroutes.trans hover.routes⟩
      simpa [hhandovers] using hover.handover

theorem countError_spec (h : s.Registered) : ∃ s', s.countError = some s' ∧
    s'.esme.pendingRouting = s.esme.pendingRouting := by
  rcases Option.isSome_iff_exists.mp h.account with ⟨a, ha⟩
  simp [Session.countError, ha]

theorem countMt_spec (h : s.Registered) : ∃ s', s.countMt = some s' ∧
    s'.esme.pendingRouting = s.esme.pendingRouting := by
  rcases Option.isSome_iff_exists.mp h.account with ⟨a, ha⟩
  simp [Session.countMt, ha]

/-- The callbacks queue one response, whatever they are told. -/
theorem smCallback_answers {q : SmppQueuedPdu} (h : IsResponse kind sequenceNumber q)
    (hs : s.Registered) (status : Int) :
    ∃ s' cs, smCallback s q status = some (s', cs) ∧ Answers kind sequenceNumber cs ∧
      s'.esme.pendingRouting = s.esme.pendingRouting := by
  by_cases hrok : status = smppEsmeRok
  · rcases countMt_spec hs with ⟨s', hs', hpending⟩
    refine ⟨s'.addOutbound, [.addOutbound (setStatus status q)], ?_,
      answers_respond (isResponse_setStatus h), hpending⟩
    simp [smCallback, hrok, hs', respond]
  · rcases countError_spec hs with ⟨s', hs', hpending⟩
    refine ⟨s'.addOutbound, [.addOutbound (setStatus status (setMessageId none q))], ?_,
      answers_respond (isResponse_setStatus (isResponse_setMessageId h)), hpending⟩
    simp [smCallback, hrok, hs', respond]

theorem callbackOf_eq (kind : SmKind) : callbackOf kind = smCallback := by
  cases kind with
  | submitSm => rfl
  | dataSm => rfl

theorem ends_smCallback {q : SmppQueuedPdu} (h : IsResponse kind sequenceNumber q)
    (hs : s.Registered) (status : Int) :
    Ends kind sequenceNumber s.esme.pendingRouting (smCallback s q status) := by
  rcases smCallback_answers h hs status with ⟨s', cs, hcall, hanswers, hpending⟩
  exact ⟨s', cs, hcall, hpending, Or.inl hanswers⟩

/-! ## The answer of the router -/

theorem msgSetDlrUrl_spec (hs : s.Registered) (msg : Sms) :
    ∃ msg', smppQueuesMsgSetDlrUrl env s msg = some msg' := by
  rcases Option.isSome_iff_exists.mp hs.systemId with ⟨systemId, hid⟩
  simp [smppQueuesMsgSetDlrUrl, hid]

theorem refresh_spec {q : SmppQueuedPdu} (h : IsResponse kind sequenceNumber q)
    (hs : s.Registered) (msg : Sms) :
    ∃ q' msg', refresh kind env s q msg = some (q', msg') ∧ IsResponse kind sequenceNumber q' := by
  cases kind with
  | submitSm =>
      rcases @msgSetDlrUrl_spec env s hs msg with ⟨msg', hmsg'⟩
      refine ⟨{ setMessageId (some (smppUuidGet msg.id)) q with msg := some msg' }, msg', ?_,
        isResponse_withMsg (isResponse_setMessageId h)⟩
      simp [refresh, hmsg']
  | dataSm => exact ⟨q, msg, rfl, h⟩

theorem ends_acceptSm {a : SmppEsmeGlobal} {q : SmppQueuedPdu} {msg : Sms}
    (h : IsResponse kind sequenceNumber q) (hs : s.Registered) :
    Ends kind sequenceNumber s.esme.pendingRouting (acceptSm kind env s a q msg) := by
  rcases @refresh_spec kind env s sequenceNumber q h hs msg with ⟨q', msg', hq', hresp⟩
  cases hprimary : a.databaseStorePrimary with
  | true =>
      have hcallback : Ends kind sequenceNumber s.esme.pendingRouting
          (smCallback s { q' with msg := none } (if env.inserted then 0 else smppEsmeRsyserr)) :=
        ends_smCallback (isResponse_withMsg hresp) hs _
      have hstored := ends_after (c := .databaseAddMessage msg' env.inserted) trivial hcallback
      simpa [acceptSm, hq', hprimary] using hstored
  | false =>
      refine ⟨s, [.bearerboxAddMessage msg' q'], ?_, rfl, Or.inr ⟨rfl, ⟨msg', q', rfl, ?_⟩, rfl⟩⟩
      · simp [acceptSm, hq', hprimary]
      · intro t status ht
        rw [callbackOf_eq]
        exact smCallback_answers hresp ht status

theorem ends_rejectSm {q : SmppQueuedPdu} {status : Int} (h : IsResponse kind sequenceNumber q)
    (hs : s.Registered) :
    Ends kind sequenceNumber s.esme.pendingRouting (rejectSm s q status) := by
  rcases countError_spec hs with ⟨s', hs', hpending⟩
  have hq : IsResponse kind sequenceNumber
      (setStatus status (setMessageId none { q with msg := none })) :=
    isResponse_setStatus (isResponse_setMessageId (isResponse_withMsg h))
  simpa [rejectSm, hs', hpending] using @ends_respond kind s' sequenceNumber _ hq

theorem ends_billSm {q : SmppQueuedPdu} {msg : Sms} {cost : Rat}
    (h : IsResponse kind sequenceNumber q) (hs : s.Registered) :
    Ends kind sequenceNumber s.esme.pendingRouting (billSm kind env s q msg cost) := by
  rcases Option.isSome_iff_exists.mp hs.account with ⟨a, ha⟩
  cases hprepaid : a.enablePrepaidBilling with
  | false => simpa [billSm, ha, hprepaid] using ends_acceptSm h hs
  | true =>
      cases hdeducted : env.deducted with
      | true =>
          simpa [billSm, ha, hprepaid, hdeducted] using
            @ends_after kind sequenceNumber (.databaseDeductCredit s.esme.systemId cost) trivial _ _
              (ends_acceptSm h hs)
      | false =>
          simpa [billSm, ha, hprepaid, hdeducted] using
            @ends_after kind sequenceNumber (.databaseDeductCredit s.esme.systemId cost) trivial _ _
              (ends_rejectSm h hs)

@[simp] theorem pendingRouting_routingDone :
    s.routingDone.esme.pendingRouting = s.esme.pendingRouting - 1 := rfl

theorem registered_routingDone (h : s.Registered) : s.routingDone.Registered :=
  ⟨h.systemId, h.account⟩

theorem routingDoneOf_eq (kind : SmKind) : routingDoneOf kind = smRoutingDone kind := by
  cases kind with
  | submitSm => rfl
  | dataSm => rfl

/-- Whatever the router answers, the request ends, and `pending_routing` is one lower. -/
theorem ends_routingDoneOf {q : SmppQueuedPdu} {routeStatus : SmppRouteStatus}
    (h : IsResponse kind sequenceNumber q) (hmsg : q.msg.isSome) (hs : s.Registered) :
    Ends kind sequenceNumber (s.esme.pendingRouting - 1)
      (routingDoneOf kind env s q routeStatus) := by
  rcases Option.isSome_iff_exists.mp hmsg with ⟨msg, hm⟩
  have hs' := registered_routingDone hs
  rw [routingDoneOf_eq, ← pendingRouting_routingDone]
  -- routed, not routed but with a default SMSC, not routed
  by_cases hrok : routeStatus.status = smppEsmeRok
  · simpa only [smRoutingDone, hm, hrok, Option.bind_some, if_true] using ends_billSm h hs'
  · by_cases hdefault : octstrLen msg.smscId = 0
    · simpa only [smRoutingDone, hm, hrok, hdefault, Option.bind_some, if_false, ne_eq,
        not_true_eq_false] using ends_rejectSm h hs'
    · simpa only [smRoutingDone, hm, hrok, hdefault, Option.bind_some, if_false, ne_eq,
        not_false_eq_true, if_true] using ends_billSm h hs'

/-! ## The handlers -/

/-- One question to the router and nothing else; the callback left with it ends the request and
takes `pending_routing` back, in whatever state it finds the session. -/
structure AsksRouter (kind : SmKind) (sequenceNumber : Int) (s s' : Session)
    (calls : List SubmitCall) : Prop where
  response : responsesOf calls = []
  handovers : handoversOf calls = []
  route : ∃ msg q, routesOf calls = [(msg, q)] ∧
    ∀ (env : Env) (t : Session) (routeStatus : SmppRouteStatus), t.Registered →
      Ends kind sequenceNumber (t.esme.pendingRouting - 1) (routingDoneOf kind env t q routeStatus)
  pendingRouting : s'.esme.pendingRouting = s.esme.pendingRouting + 1
  registered : s'.Registered

/-- The request is over, or the router was asked. -/
def Proceeds (kind : SmKind) (sequenceNumber : Int) (s : Session) (r : Result) : Prop :=
  ∃ s' calls, r = some (s', calls) ∧
    ((s'.esme.pendingRouting = s.esme.pendingRouting ∧ Answers kind sequenceNumber calls) ∨
      AsksRouter kind sequenceNumber s s' calls)

theorem proceeds_respond {q : SmppQueuedPdu} (h : IsResponse kind sequenceNumber q) :
    Proceeds kind sequenceNumber s (some (respond s q)) :=
  ⟨s.addOutbound, [.addOutbound q], rfl, Or.inl ⟨rfl, answers_respond h⟩⟩

theorem forwardSm_ok (hs : s.Registered) (msg : Sms) :
    ∃ msg' q, forwardSm kind env s sequenceNumber (some (.ok msg)) =
        some (s.routingStarted, [.routeMessage msg' q]) ∧
      IsResponse kind sequenceNumber q ∧ q.msg.isSome := by
  rcases @msgSetDlrUrl_spec env s hs (withDefaultSmsc s msg) with ⟨msg', hmsg'⟩
  refine ⟨msg', { setMessageId (some (smppUuidGet msg.id)) (createResponse kind s sequenceNumber)
    with msg := some msg' }, ?_, ?_, rfl⟩
  · simp [forwardSm, hmsg']
  · exact isResponse_withMsg (isResponse_setMessageId isResponse_createResponse)

theorem proceeds_forwardSm {converted : Except Int Sms} (hs : s.Registered) :
    Proceeds kind sequenceNumber s (forwardSm kind env s sequenceNumber (some converted)) := by
  cases converted with
  | error reason =>
      exact proceeds_respond (isResponse_setStatus isResponse_createResponse)
  | ok msg =>
      rcases @forwardSm_ok kind env s sequenceNumber hs msg with ⟨msg', q, hforward, hq, hmsg⟩
      refine ⟨s.routingStarted, [.routeMessage msg' q], hforward,
        Or.inr ⟨rfl, rfl, ⟨msg', q, rfl, ?_⟩, rfl, ⟨hs.systemId, hs.account⟩⟩⟩
      intro env' t routeStatus ht
      exact ends_routingDoneOf hq hmsg ht

/-- A refusal by the bind check or the throttle is an answer; after them the session has its
system id and its account. -/
theorem proceeds_admitSm {b : BoundSession} {proceed : SmppEsmeGlobal → Result}
    (h : ∀ a, b.Registered → Proceeds kind sequenceNumber b.toSession (proceed a)) :
    Proceeds kind sequenceNumber b.toSession
      (admitSm kind b.toSession sequenceNumber proceed) := by
  by_cases hbind : b.esme.bindType &&& smppEsmeTransmit = 0
  · simpa [admitSm, hbind] using
      proceeds_respond (isResponse_setStatus isResponse_createResponse)
  · rcases Option.isSome_iff_exists.mp (b.account_isSome hbind) with ⟨a, ha⟩
    by_cases hload : a.throughput > 0 ∧ a.inboundLoad > a.throughput
    · simpa [admitSm, hbind, ha, hload] using
        proceeds_respond (isResponse_setStatus isResponse_createResponse)
    · simpa [admitSm, hbind, ha, hload] using
        h a ⟨b.systemId_isSome hbind, b.account_isSome hbind⟩

theorem proceeds_submitSm (b : BoundSession) (converted : Except Int Sms)
    (hsimulate : b.esme.simulate = false) :
    Proceeds .submitSm sequenceNumber b.toSession
      (smppQueuesHandleSubmitSm env b.toSession sequenceNumber (some converted)) := by
  apply proceeds_admitSm
  intro a hb
  simpa [hsimulate] using proceeds_forwardSm hb

theorem proceeds_dataSm (b : BoundSession) (converted : Except Int Sms) :
    Proceeds .dataSm sequenceNumber b.toSession
      (smppQueuesHandleDataSm env b.toSession sequenceNumber (some converted)) :=
  proceeds_admitSm (fun _ hb => proceeds_forwardSm hb)

/-- A submit_sm or data_sm of a session that does not simulate ends in exactly one response, or in
exactly one message handed to the bearerbox with a callback that queues exactly one, at once or
when the router has answered; and `pending_routing` is then what it was. -/
theorem handleSm_one_response (kind : SmKind) (env : Env) (b : BoundSession) (sequenceNumber : Int)
    (converted : Except Int Sms) (hsimulate : b.esme.simulate = false) :
    Proceeds kind sequenceNumber b.toSession
      (handleSm kind env b.toSession sequenceNumber (some converted)) := by
  cases kind with
  | submitSm => exact proceeds_submitSm b converted hsimulate
  | dataSm => exact proceeds_dataSm b converted

/-- A transmitter of the account "test". -/
def sampleSession : BoundSession where
  esme := { smppEsmeCreate 0 with
    systemId := some (octstrImm "test"), connected := true, bindType := smppEsmeTransmit }
  account := some (smppEsmeGlobalCreate
    { databaseEnableQueue := true, databaseStorePrimary := false, waitAckAction := 0 }
    (octstrImm "test"))
  systemId_isSome := fun _ => rfl
  account_isSome := fun _ => rfl

def sampleEnv : Env where
  time := 0
  deducted := true
  inserted := true
  msgToPdu := fun _ => none
  strftime := fun _ => []

theorem handleSm_one_response_sample :
    sampleSession.esme.simulate = false ∧
      Proceeds .submitSm 7 sampleSession.toSession
        (handleSm .submitSm sampleEnv sampleSession.toSession 7
          (some (.ok (msgCreateSms (Vector.replicate 16 0))))) :=
  ⟨rfl, handleSm_one_response .submitSm sampleEnv sampleSession 7 _ rfl⟩

end Submit
end Ksmppd
