import Mathlib.Data.Multiset.Filter
import Ksmppd.Submit.Counts

/-!
# Requests — which request a response belongs to

A client knows a response by its type and its sequence number.  A handler, the callback it leaves
with the router and the one it leaves with the bearerbox pass the response from hand to hand, and
whatever they fill in, it stays the response to the same request.
-/

namespace Ksmppd
namespace Submit

/-! ## Requests -/

/-- The types of request the server answers. -/
inductive RequestKind
  | bind (kind : BindKind)
  | enquireLink
  | unbind
  | sm (kind : SmKind)
  deriving DecidableEq, Repr

structure ClientRequest where
  esme : EsmeRef
  kind : RequestKind
  sequenceNumber : Int
  deriving DecidableEq, Repr

/-- The request a PDU of a client makes; a response and an unsupported PDU make none. -/
def requestOf? (esme : EsmeRef) : SmppPdu → Option ClientRequest
  | .bind p => some ⟨esme, .bind p.kind, p.sequenceNumber⟩
  | .enquireLink sequenceNumber => some ⟨esme, .enquireLink, sequenceNumber⟩
  | .unbind sequenceNumber => some ⟨esme, .unbind, sequenceNumber⟩
  | .submitSm p => some ⟨esme, .sm .submitSm, p.sequenceNumber⟩
  | .dataSm p => some ⟨esme, .sm .dataSm, p.sequenceNumber⟩
  | _ => none

/-- The request a PDU of the server is the response to. -/
def answeredBy? (esme : EsmeRef) : SmppPdu → Option ClientRequest
  | .bindResp p => some ⟨esme, .bind p.kind, p.sequenceNumber⟩
  | .enquireLinkResp sequenceNumber => some ⟨esme, .enquireLink, sequenceNumber⟩
  | .unbindResp sequenceNumber => some ⟨esme, .unbind, sequenceNumber⟩
  | .submitSmResp p => some ⟨esme, .sm .submitSm, p.sequenceNumber⟩
  | .dataSmResp p => some ⟨esme, .sm .dataSm, p.sequenceNumber⟩
  | _ => none

def respondsTo? (q : SmppQueuedPdu) : Option ClientRequest :=
  q.smppEsme.bind (fun esme => q.pdu.bind (answeredBy? esme))

/-- The request a call answers, or promises to answer. -/
def promise? : SubmitCall → Option ClientRequest
  | .addOutbound q => respondsTo? q
  | .routeMessage _ q => respondsTo? q
  | .bearerboxAddMessage _ q => respondsTo? q
  | _ => none

def promised (calls : List SubmitCall) : Multiset ClientRequest := calls.filterMap promise?

/-- Whatever calls are made, they are to answer these requests. -/
def Fulfils (rs : Multiset ClientRequest) (r : Result) : Prop :=
  ∀ s' calls, r = some (s', calls) → promised calls = rs

/-! ## Promises -/

variable {kind : SmKind} {env : Env} {s s' : Session} {calls calls' : List SubmitCall}
  {q : SmppQueuedPdu} {r : Result} {rs : Multiset ClientRequest} {sequenceNumber : Int}

@[simp] theorem promised_nil : promised [] = 0 := rfl

theorem handoversOf_append (calls calls' : List SubmitCall) :
    handoversOf (calls ++ calls') = handoversOf calls ++ handoversOf calls' :=
  List.filterMap_append

theorem promised_append (calls calls' : List SubmitCall) :
    promised (calls ++ calls') = promised calls + promised calls' := by
  simp [promised]

theorem promised_cons (c : SubmitCall) (calls : List SubmitCall) :
    promised (c :: calls) = ((promise? c).toList : Multiset ClientRequest) + promised calls := by
  cases h : promise? c with
  | none => simp [promised, h]
  | some r => simp [promised, h]

theorem promised_singleton (c : SubmitCall) :
    promised [c] = ((promise? c).toList : Multiset ClientRequest) := by
  rw [promised_cons, promised_nil, add_zero]

/-- What is promised is with the responses, the questions to the router and the messages handed
over. -/
theorem promised_eq (calls : List SubmitCall) :
    promised calls = ((responsesOf calls).filterMap respondsTo? : Multiset ClientRequest) +
      ((routesOf calls).filterMap (fun x => respondsTo? x.2) : Multiset ClientRequest) +
      ((handoversOf calls).filterMap (fun x => respondsTo? x.2) : Multiset ClientRequest) := by
  induction calls with
  | nil => rfl
  | cons c calls ih =>
      have hone : ((promise? c).toList : Multiset ClientRequest) =
          ((responsesOf [c]).filterMap respondsTo? : Multiset ClientRequest) +
          ((routesOf [c]).filterMap (fun x => respondsTo? x.2) : Multiset ClientRequest) +
          ((handoversOf [c]).filterMap (fun x => respondsTo? x.2) : Multiset ClientRequest) := by
        cases c with
        | addOutbound q =>
            cases h : respondsTo? q <;> simp [responsesOf, routesOf, handoversOf, promise?, h]
        | routeMessage msg q =>
            cases h : respondsTo? q <;> simp [responsesOf, routesOf, handoversOf, promise?, h]
        | bearerboxAddMessage msg q =>
            cases h : respondsTo? q <;> simp [responsesOf, routesOf, handoversOf, promise?, h]
        | _ => rfl
      have hresponses : responsesOf (c :: calls) = responsesOf [c] ++ responsesOf calls :=
        responsesOf_append [c] calls
      have hroutes : routesOf (c :: calls) = routesOf [c] ++ routesOf calls :=
        routesOf_append [c] calls
      have hhandovers : handoversOf (c :: calls) = handoversOf [c] ++ handoversOf calls :=
        handoversOf_append [c] calls
      rw [promised_cons, ih, hone, hresponses, hroutes, hhandovers]
      simp only [List.filterMap_append, ← Multiset.coe_add]
      abel

theorem respondsTo_editResp {f : SmResp → SmResp}
    (hf : ∀ r, (f r).sequenceNumber = r.sequenceNumber) (q : SmppQueuedPdu) :
    respondsTo? (editResp f q) = respondsTo? q := by
  unfold respondsTo? editResp
  cases hpdu : q.pdu with
  | none => rfl
  | some pdu => cases pdu <;> simp [mapResp, answeredBy?, hf]

@[simp] theorem respondsTo_setStatus (status : Int) (q : SmppQueuedPdu) :
    respondsTo? (setStatus status q) = respondsTo? q :=
  respondsTo_editResp (f := fun r => { r with commandStatus := status }) (fun _ => rfl) q

@[simp] theorem respondsTo_setMessageId (messageId : Option Octstr) (q : SmppQueuedPdu) :
    respondsTo? (setMessageId messageId q) = respondsTo? q :=
  respondsTo_editResp (f := fun r => { r with messageId := messageId }) (fun _ => rfl) q

@[simp] theorem respondsTo_withMsg (msg : Option Sms) (q : SmppQueuedPdu) :
    respondsTo? { q with msg := msg } = respondsTo? q := rfl

@[simp] theorem respondsTo_createResponse :
    respondsTo? (createResponse kind s sequenceNumber) =
      some ⟨s.esme.id, .sm kind, sequenceNumber⟩ := by
  cases kind with
  | submitSm => rfl
  | dataSm => rfl

/-! ## Callbacks -/

theorem fulfils_respond (s : Session) {q q' : SmppQueuedPdu} (h : respondsTo? q' = respondsTo? q) :
    Fulfils ((respondsTo? q).toList : Multiset ClientRequest) (some (respond s q')) := by
  intro s' calls hr
  cases hr
  rw [promised_singleton, promise?, h]

/-- A response that is counted first. -/
theorem fulfils_counted {o : Option Session} {q' : SmppQueuedPdu}
    (h : respondsTo? q' = respondsTo? q) :
    Fulfils ((respondsTo? q).toList : Multiset ClientRequest) (o.map (fun s' => respond s' q')) := by
  intro s'' calls hr
  rcases Option.map_eq_some_iff.mp hr with ⟨s', -, heq⟩
  exact fulfils_respond s' h s'' calls (congrArg some heq)

theorem fulfils_after {c : SubmitCall} (hc : promise? c = none) (h : Fulfils rs r) :
    Fulfils rs (after [c] r) := by
  intro s' calls hr
  rcases Option.map_eq_some_iff.mp hr with ⟨⟨s₁, cs⟩, hcs, heq⟩
  cases heq
  rw [promised_append, promised_singleton, hc, h _ _ hcs]
  exact zero_add rs

theorem fulfils_smCallback (s : Session) {q q' : SmppQueuedPdu}
    (h : respondsTo? q' = respondsTo? q) (status : Int) :
    Fulfils ((respondsTo? q).toList : Multiset ClientRequest) (smCallback s q' status) := by
  unfold smCallback
  split
  · exact fulfils_counted (by simpa using h)
  · exact fulfils_counted (by simpa using h)

/-- A callback the bearerbox calls queues one response and hands nothing on. -/
theorem callbackOf_calls {status : Int} (h : callbackOf kind s q status = some (s', calls)) :
    ∃ q', calls = [.addOutbound q'] ∧ respondsTo? q' = respondsTo? q := by
  rw [callbackOf_eq] at h
  unfold smCallback at h
  split at h
  · rcases Option.map_eq_some_iff.mp h with ⟨s₁, -, heq⟩
    cases heq
    exact ⟨_, rfl, by simp⟩
  · rcases Option.map_eq_some_iff.mp h with ⟨s₁, -, heq⟩
    cases heq
    exact ⟨_, rfl, by simp⟩

theorem respondsTo_refresh {msg msg' : Sms} {q' : SmppQueuedPdu}
    (h : refresh kind env s q msg = some (q', msg')) : respondsTo? q' = respondsTo? q := by
  cases kind with
  | submitSm =>
      rcases Option.map_eq_some_iff.mp h with ⟨m, -, heq⟩
      cases heq
      simp
  | dataSm =>
      cases h
      rfl

theorem fulfils_acceptSm (a : SmppEsmeGlobal) (msg : Sms) :
    Fulfils ((respondsTo? q).toList : Multiset ClientRequest) (acceptSm kind env s a q msg) := by
  intro s' calls h
  rcases Option.bind_eq_some_iff.mp h with ⟨⟨q', msg'⟩, hrefresh, hrest⟩
  have hq' := respondsTo_refresh hrefresh
  dsimp only at hrest
  split at hrest
  · exact fulfils_after rfl (fulfils_smCallback s (by simpa using hq') _) s' calls hrest
  · cases hrest
    rw [promised_singleton, promise?, hq']

theorem fulfils_rejectSm (status : Int) :
    Fulfils ((respondsTo? q).toList : Multiset ClientRequest) (rejectSm s q status) :=
  fulfils_counted (by simp)

theorem fulfils_billSm (msg : Sms) (cost : Rat) :
    Fulfils ((respondsTo? q).toList : Multiset ClientRequest) (billSm kind env s q msg cost) := by
  intro s' calls h
  rcases Option.bind_eq_some_iff.mp h with ⟨a, -, hrest⟩
  split at hrest
  · -- prepaid: the deduction decides
    split at hrest
    · exact fulfils_after rfl (fulfils_acceptSm a msg) s' calls hrest
    · exact fulfils_after rfl (fulfils_rejectSm _) s' calls hrest
  · exact fulfils_acceptSm a msg s' calls hrest

/-- The callback left with the router answers the request it was left for, or hands it on. -/
theorem fulfils_routingDoneOf (routeStatus : SmppRouteStatus) :
    Fulfils ((respondsTo? q).toList : Multiset ClientRequest)
      (routingDoneOf kind env s q routeStatus) := by
  rw [routingDoneOf_eq]
  intro s' calls h
  rcases Option.bind_eq_some_iff.mp h with ⟨msg, -, hrest⟩
  split at hrest
  · exact fulfils_billSm _ _ s' calls hrest
  · -- no route: the default SMSC stands in, or the message is rejected
    split at hrest
    · exact fulfils_billSm _ _ s' calls hrest
    · exact fulfils_rejectSm _ s' calls hrest

/-! ## Handlers -/

theorem fulfils_created {q' : SmppQueuedPdu}
    (h : respondsTo? q' = respondsTo? (createResponse kind s sequenceNumber)) (t : Session) :
    Fulfils {⟨s.esme.id, .sm kind, sequenceNumber⟩} (some (respond t q')) := by
  have hfulfils := fulfils_respond t h
  rw [respondsTo_createResponse] at hfulfils
  exact hfulfils

theorem fulfils_forwardSm (converted : Conversion) :
    Fulfils {⟨s.esme.id, .sm kind, sequenceNumber⟩}
      (forwardSm kind env s sequenceNumber converted) := by
  intro s' calls h
  unfold forwardSm at h
  split at h
  · cases h
  · exact fulfils_created (by simp) s s' calls h
  · rcases Option.map_eq_some_iff.mp h with ⟨msg', -, heq⟩
    cases heq
    rw [promised_singleton, promise?, respondsTo_withMsg, respondsTo_setMessageId,
      respondsTo_createResponse]
    rfl

theorem promised_simulated {calls : List SubmitCall} (h : ∀ c ∈ calls, ∃ q, c = .simulate q) :
    promised calls = 0 := by
  have hnil : calls.filterMap promise? = [] := by
    apply List.filterMap_eq_nil_iff.mpr
    intro c hc
    rcases h c hc with ⟨q, rfl⟩
    rfl
  rw [promised, hnil]
  rfl

/-- Simulated reports and MOs answer nothing; one response goes with them. -/
theorem fulfils_simulateSubmitSm (converted : Conversion) :
    Fulfils {⟨s.esme.id, .sm .submitSm, sequenceNumber⟩}
      (simulateSubmitSm env s sequenceNumber converted) := by
  have hcreated := @respondsTo_createResponse .submitSm s sequenceNumber
  intro s'' calls h
  unfold simulateSubmitSm at h
  dsimp only at h
  split at h
  · rcases Option.map_eq_some_iff.mp h with ⟨s', -, heq⟩
    exact fulfils_created (by simp) s' s'' calls (congrArg some heq)
  · split at h
    · rcases Option.map_eq_some_iff.mp h with ⟨s', -, heq⟩
      exact fulfils_created (by simp) s' s'' calls (congrArg some heq)
    · split at h
      · cases h
      · exact fulfils_created (by simp) s s'' calls h
      · rcases Option.bind_eq_some_iff.mp h with ⟨s', -, hreport⟩
        rcases Option.bind_eq_some_iff.mp hreport with ⟨⟨msg', report⟩, hreport, hmo⟩
        rcases Option.map_eq_some_iff.mp hmo with ⟨mo, hmo, heq⟩
        have hnone := promised_simulated (simulateReport_calls hreport)
        have hnone' := promised_simulated (simulateMo_calls hmo)
        dsimp only at heq
        split at heq
        · cases heq
          simp only [promised_append, promised_singleton, promise?, respondsTo_setMessageId,
            respondsTo_setStatus, hcreated, hnone, hnone', add_zero]
          rfl
        · cases heq
          simp only [promised_append, promised_singleton, promise?, respondsTo_setMessageId,
            respondsTo_setStatus, hcreated, hnone, hnone', add_zero, zero_add]
          rfl

theorem fulfils_admitSm {proceed : SmppEsmeGlobal → Result}
    (h : ∀ a, Fulfils {⟨s.esme.id, .sm kind, sequenceNumber⟩} (proceed a)) :
    Fulfils {⟨s.esme.id, .sm kind, sequenceNumber⟩}
      (admitSm kind s sequenceNumber proceed) := by
  intro s' calls hr
  unfold admitSm at hr
  split at hr
  · exact fulfils_created (by simp) s s' calls hr
  · rcases Option.bind_eq_some_iff.mp hr with ⟨a, -, hadmit⟩
    split at hadmit
    · exact fulfils_created (by simp) s s' calls hadmit
    · exact h a s' calls hadmit

/-- A submit_sm or data_sm that is handled, simulated ones included, is answered once, or promised
to be by one question to the router. -/
theorem fulfils_handleSm (converted : Conversion) :
    Fulfils {⟨s.esme.id, .sm kind, sequenceNumber⟩}
      (handleSm kind env s sequenceNumber converted) := by
  cases kind with
  | submitSm =>
      apply fulfils_admitSm
      intro a
      split
      · exact fulfils_simulateSubmitSm converted
      · exact fulfils_forwardSm converted
  | dataSm => exact fulfils_admitSm (fun a => fulfils_forwardSm converted)

end Submit
end Ksmppd
