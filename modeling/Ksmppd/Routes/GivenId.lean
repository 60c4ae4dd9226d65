import Ksmppd.Receipts.DlrUrl
import Ksmppd.Routes.Model
import Ksmppd.Submit.Accepted

/-!
# GivenId — the id in the response and the id a receipt will name

A request on its whole way: the handler, the routing method, the routing callback, and the callback
the bearerbox calls.  The id stands in the response and in the `dlr_url` before the router gets the
message, and the router may change it.
-/

namespace Ksmppd
namespace Routes

open Submit Receipts

/-! ## Requests and their ways -/

inductive SmRequest
  | submitSm (p : SubmitSm)
  | dataSm (p : DataSm)
  deriving DecidableEq, Repr

def SmRequest.kind : SmRequest → SmKind
  | .submitSm _ => .submitSm
  | .dataSm _ => .dataSm

def SmRequest.sequenceNumber : SmRequest → Int
  | .submitSm p => p.sequenceNumber
  | .dataSm p => p.sequenceNumber

def SmRequest.convert (k : Kannel) (esme : SmppEsme) : SmRequest → Conversion
  | .submitSm p => smppSubmitSmToMsg k esme p
  | .dataSm p => smppDataSmToMsg k esme p

/-- What a request meets on its way. -/
structure Course where
  kannel : Kannel
  env : Env
  session : Session
  smsSplit : Sms → Nat
  method : RoutingMethod
  -- when the router has answered
  routedEnv : Env
  routedSession : Session
  -- when the bearerbox calls back
  ackSession : Session
  ackStatus : Int

/-- Each call, and behind it the calls it leads to. -/
def followedBy (next : SubmitCall → Option (List SubmitCall)) :
    List SubmitCall → Option (List SubmitCall)
  | [] => some []
  | call :: calls =>
      (next call).bind (fun later =>
        (followedBy next calls).map (fun rest => call :: (later ++ rest)))

variable (c : Course) (kind : SmKind)

/-- The callback a message was handed over with is called. -/
def Course.afterHandover : SubmitCall → Option (List SubmitCall)
  | .bearerboxAddMessage _ q => (callbackOf kind c.ackSession q c.ackStatus).map Prod.snd
  | _ => some []

/-- The router answers, and the routing callback finds the message as the router left it. -/
def Course.afterRouting : SubmitCall → Option (List SubmitCall)
  | .routeMessage msg q =>
      (smppRouteMessage c.smsSplit c.method .outbound none c.session.esme.systemId msg).bind
        (fun (msg', routeStatus) =>
          (routingDoneOf kind c.routedEnv c.routedSession { q with msg := some msg' }
              routeStatus).bind
            (fun (_, calls) => followedBy (c.afterHandover kind) calls))
  | _ => some []

/-- All calls that are made for a request. -/
def Course.serve (request : SmRequest) : Option (List SubmitCall) :=
  (handleSm request.kind c.env c.session request.sequenceNumber
      (request.convert c.kannel c.session.esme)).bind
    (fun (_, calls) => followedBy (c.afterRouting request.kind) calls)

/-! ## Names -/

/-- The message id in a queued response. -/
def messageIdOf (q : SmppQueuedPdu) : Option Octstr :=
  match q.pdu with
  | some (.submitSmResp r) => r.messageId
  | some (.dataSmResp r) => r.messageId
  | _ => none

/-- The responses with ESME_ROK. -/
def okResponses (calls : List SubmitCall) : List SmppQueuedPdu := (responsesOf calls).filter isOk

/-- The messages that were stored or forwarded. -/
def takenOf (calls : List SubmitCall) : List Sms :=
  calls.filterMap (fun call => match call with
    | .databaseAddMessage msg true => some msg
    | .bearerboxAddMessage msg _ => some msg
    | _ => none)

/-- A `dlr_url` of the session with this id. -/
def NamesId (s : Session) (id : Uuid) (url : Option Octstr) : Prop :=
  ∃ (systemId : Octstr) (time : Int), s.esme.systemId = some systemId ∧
    url = some (dlrUrl systemId (octstrFormatLong time) (smppUuidGet id))

/-- One message was stored or forwarded, and the response and the message's `dlr_url` name it. -/
def NamesMessage (c : Course) (calls : List SubmitCall) (response : SmppQueuedPdu) : Prop :=
  ∃ m, takenOf calls = [m] ∧ messageIdOf response = some (smppUuidGet m.id) ∧
    NamesId c.routedSession m.id m.dlrUrl

/-- The message the router is asked about. -/
def Course.given (c : Course) (msg : Sms) : Option Sms :=
  smppQueuesMsgSetDlrUrl c.env c.session (withDefaultSmsc c.session msg)

/-- The session still has the system id it had when the message was given to the router. -/
def Course.SameName (c : Course) : Prop :=
  c.routedSession.esme.systemId = c.session.esme.systemId

/-- What the data path asks of the routing method: it sets no other id, and no `dlr_url` that is not
the session's with this id. -/
def Course.LeavesId (c : Course) (given : Sms) : Prop :=
  match c.method with
  | .database _ => c.SameName
  | .plugin none => c.SameName
  | .http response =>
      match response.routeCost with
      | none => c.SameName
      | some _ =>
          response.uuid "id" given.id = given.id ∧
            match response.header "dlr_url" with
            | none => c.SameName
            | some url => NamesId c.routedSession given.id (some url)
  | .plugin (some routeMessage) =>
      let left := (routeMessage .outbound none c.session.esme.systemId given).1
      left.id = given.id ∧ NamesId c.routedSession given.id left.dlrUrl

variable {c kind} {calls all : List SubmitCall} {s s' : Session} {q q' response : SmppQueuedPdu}
  {m msg given : Sms} {env : Env} {next : SubmitCall → Option (List SubmitCall)}

/-! ## What a routing callback calls -/

/-- The calls of an accepted message: `q` is the response left for it. -/
inductive Takes (q : SmppQueuedPdu) (m : Sms) : List SubmitCall → Prop
  | stored : Takes q m [.databaseAddMessage m true, .addOutbound (setStatus 0 { q with msg := none })]
  | handedOver : Takes q m [.bearerboxAddMessage m q]
  | billed {systemId : Option Octstr} {cost : Rat} {calls : List SubmitCall}
      (h : Takes q m calls) : Takes q m (.databaseDeductCredit systemId cost :: calls)

/-- The request ends here, without ESME_ROK. -/
structure Refused (calls : List SubmitCall) : Prop where
  responses : okResponses calls = []
  handovers : handoversOf calls = []

theorem refused_respond {status : Int} (h : status ≠ smppEsmeRok) :
    Refused [.addOutbound (setStatus status q)] where
  responses := by
    have hnot : isOk (setStatus status q) = false := by
      simpa using not_isOk_setStatus (q := q) h
    simp [okResponses, responsesOf, hnot]
  handovers := rfl

theorem refused_cons {call : SubmitCall} (hquiet : IsQuiet call) (h : Refused calls) :
    Refused (call :: calls) := by
  rcases quiet_calls hquiet calls with ⟨hresponses, hhandovers, -⟩
  refine ⟨?_, hhandovers.trans h.handovers⟩
  rw [okResponses, hresponses]
  exact h.responses

theorem refused_rejectSm {status : Int} (hstatus : status ≠ smppEsmeRok)
    (h : rejectSm s q status = some (s', calls)) : Refused calls := by
  rcases Option.map_eq_some_iff.mp h with ⟨t, -, hresult⟩
  cases hresult
  exact refused_respond hstatus

/-- A message that is paid for is stored or handed over as `refresh` leaves it. -/
theorem acceptSm_cases {a : SmppEsmeGlobal} (h : acceptSm kind env s a q msg = some (s', calls)) :
    Refused calls ∨ ∃ q' m, refresh kind env s q msg = some (q', m) ∧ Takes q' m calls := by
  rcases Option.bind_eq_some_iff.mp h with ⟨⟨q', m⟩, hrefresh, hrest⟩
  simp only at hrest
  split at hrest
  · rcases Option.map_eq_some_iff.mp hrest with ⟨⟨t, cs⟩, hcallback, hresult⟩
    cases hresult
    cases hinserted : env.inserted with
    | false =>
        -- the callback is told that the insert has failed
        left
        simp only [smCallback, hinserted] at hcallback
        rcases Option.map_eq_some_iff.mp hcallback with ⟨t', -, hcalls⟩
        cases hcalls
        exact refused_cons trivial (refused_respond (by decide))
    | true =>
        right
        simp only [smCallback, hinserted] at hcallback
        rcases Option.map_eq_some_iff.mp hcallback with ⟨t', -, hcalls⟩
        cases hcalls
        exact ⟨q', m, hrefresh, .stored⟩
  · cases hrest
    exact Or.inr ⟨q', m, hrefresh, .handedOver⟩

theorem billSm_cases {cost : Rat} (h : billSm kind env s q msg cost = some (s', calls)) :
    Refused calls ∨ ∃ q' m, refresh kind env s q msg = some (q', m) ∧ Takes q' m calls := by
  rcases Option.bind_eq_some_iff.mp h with ⟨a, -, hrest⟩
  split at hrest
  · rcases Option.map_eq_some_iff.mp hrest with ⟨⟨t, cs⟩, hbilled, hresult⟩
    cases hresult
    split at hbilled
    · rcases acceptSm_cases hbilled with hrefused | ⟨q', m, hrefresh, htakes⟩
      · exact Or.inl (refused_cons trivial hrefused)
      · exact Or.inr ⟨q', m, hrefresh, .billed htakes⟩
    · exact Or.inl (refused_cons trivial (refused_rejectSm (by decide) hbilled))
  · exact acceptSm_cases hrest

theorem routingDoneOf_cases {routeStatus : SmppRouteStatus} (hmsg : q.msg = some msg)
    (h : routingDoneOf kind env s q routeStatus = some (s', calls)) :
    Refused calls ∨
      ∃ q' m, refresh kind env s.routingDone q msg = some (q', m) ∧ Takes q' m calls := by
  rw [routingDoneOf_eq] at h
  simp only [smRoutingDone, hmsg, Option.bind_some] at h
  split at h
  · exact billSm_cases h
  · rename_i hfailed
    split at h
    · exact billSm_cases h
    · exact Or.inl (refused_rejectSm hfailed h)

/-! ## What a handler calls -/

/-- The session may not send at all, or it sends too fast, or the handler goes on. -/
theorem admitSm_cases {sequenceNumber : Int} {proceed : SmppEsmeGlobal → Result}
    (h : admitSm kind s sequenceNumber proceed = some (s', calls)) :
    (okResponses calls = [] ∧ routesOf calls = []) ∨ ∃ a, proceed a = some (s', calls) := by
  unfold admitSm at h
  split at h
  · cases h
    exact Or.inl ⟨(refused_respond (by decide)).responses, rfl⟩
  · rcases Option.bind_eq_some_iff.mp h with ⟨a, -, hrest⟩
    split at hrest
    · cases hrest
      exact Or.inl ⟨(refused_respond (by decide)).responses, rfl⟩
    · exact Or.inr ⟨a, hrest⟩

theorem forwardSm_cases {sequenceNumber : Int} {converted : Conversion}
    (hreason : ∀ reason, converted = some (.error reason) → reason ≠ smppEsmeRok)
    (h : forwardSm kind env s sequenceNumber converted = some (s', calls)) :
    (okResponses calls = [] ∧ routesOf calls = []) ∨
      ∃ msg given, converted = some (.ok msg) ∧
        smppQueuesMsgSetDlrUrl env s (withDefaultSmsc s msg) = some given ∧
        calls = [.routeMessage given
          { setMessageId (some (smppUuidGet msg.id)) (createResponse kind s sequenceNumber)
            with msg := some given }] := by
  cases converted with
  | none =>
      cases h
  | some r =>
      cases r with
      | error reason =>
          cases h
          exact Or.inl ⟨(refused_respond (hreason reason rfl)).responses, rfl⟩
      | ok msg =>
          rcases Option.map_eq_some_iff.mp h with ⟨given, hgiven, hresult⟩
          cases hresult
          exact Or.inr ⟨msg, given, rfl, hgiven, rfl⟩

/-- Without simulation a request is refused at once, or its message is given to the router. -/
theorem handleSm_cases {request : SmRequest} (hsimulate : s.esme.simulate = false)
    (h : handleSm request.kind env s request.sequenceNumber (request.convert c.kannel s.esme) =
      some (s', calls)) :
    (okResponses calls = [] ∧ routesOf calls = []) ∨
      ∃ msg given, request.convert c.kannel s.esme = some (.ok msg) ∧
        smppQueuesMsgSetDlrUrl env s (withDefaultSmsc s msg) = some given ∧
        calls = [.routeMessage given
          { setMessageId (some (smppUuidGet msg.id))
              (createResponse request.kind s request.sequenceNumber) with msg := some given }] := by
  cases request with
  | submitSm p =>
      rcases admitSm_cases h with hrefused | ⟨a, hrest⟩
      · exact Or.inl hrefused
      · simp only [hsimulate, Bool.false_eq_true, if_false] at hrest
        exact forwardSm_cases (fun _ hreason => smppSubmitSmToMsg_reason_ne_rok hreason) hrest
  | dataSm p =>
      rcases admitSm_cases h with hrefused | ⟨a, hrest⟩
      · exact Or.inl hrefused
      · exact forwardSm_cases (fun _ hreason => smToMsg_reason_ne_rok hreason) hrest

/-! ## What follows the calls -/

/-- Calls that lead to no other calls stand alone. -/
theorem followedBy_of_quiet (hnext : ∀ call ∈ calls, next call = some []) :
    followedBy next calls = some calls := by
  induction calls with
  | nil => rfl
  | cons call calls ih =>
      have hrest := ih (fun d hd => hnext d (List.mem_cons_of_mem call hd))
      simp [followedBy, hnext call List.mem_cons_self, hrest]

theorem afterHandover_of_no_handover (h : handoversOf calls = []) :
    ∀ call ∈ calls, c.afterHandover kind call = some [] := by
  intro call hcall
  cases call with
  | bearerboxAddMessage msg q =>
      have hmem : (msg, q) ∈ handoversOf calls := List.mem_filterMap.mpr ⟨_, hcall, rfl⟩
      rw [h] at hmem
      exact absurd hmem List.not_mem_nil
  | _ => rfl

theorem afterRouting_of_no_route (h : routesOf calls = []) :
    ∀ call ∈ calls, c.afterRouting kind call = some [] := by
  intro call hcall
  cases call with
  | routeMessage msg q =>
      have hmem : (msg, q) ∈ routesOf calls := List.mem_filterMap.mpr ⟨_, hcall, rfl⟩
      rw [h] at hmem
      exact absurd hmem List.not_mem_nil
  | _ => rfl

theorem messageIdOf_setStatus {status : Int} :
    messageIdOf (setStatus status q) = messageIdOf q := by
  cases hq : q.pdu with
  | none => simp [messageIdOf, setStatus, editResp, hq]
  | some p => cases p <;> simp [messageIdOf, setStatus, editResp, hq, mapResp]

/-- The response with ESME_ROK to an accepted message, if there is one, is the one left for it. -/
theorem takes_followed (htakes : Takes q m calls)
    (h : followedBy (c.afterHandover kind) calls = some all) :
    okResponses all = [] ∨
      (takenOf all = [m] ∧ ∃ r, okResponses all = [r] ∧ messageIdOf r = messageIdOf q) := by
  induction htakes generalizing all with
  | stored =>
      cases h
      cases hok : isOk (setStatus 0 { q with msg := none }) with
      | false =>
          left
          simp [okResponses, responsesOf, hok]
      | true =>
          refine Or.inr ⟨rfl, setStatus 0 { q with msg := none }, ?_, messageIdOf_setStatus⟩
          simp [okResponses, responsesOf, hok]
  | handedOver =>
      simp only [followedBy, Course.afterHandover, callbackOf_eq, Option.map_some,
        Option.bind_eq_some_iff] at h
      rcases h with ⟨later, hlater, hall⟩
      rcases Option.map_eq_some_iff.mp hlater with ⟨⟨t, cs⟩, hcallback, rfl⟩
      cases hall
      -- with any other status than zero the response is a refusal
      unfold smCallback at hcallback
      split at hcallback
      · rename_i hstatus
        rcases Option.map_eq_some_iff.mp hcallback with ⟨t', -, hcalls⟩
        cases hcalls
        exact Or.inl (refused_respond hstatus).responses
      · rename_i hstatus
        rcases Option.map_eq_some_iff.mp hcallback with ⟨t', -, hcalls⟩
        cases hcalls
        cases hok : isOk (setStatus c.ackStatus q) with
        | false =>
            left
            simp [okResponses, responsesOf, hok]
        | true =>
            refine Or.inr ⟨rfl, setStatus c.ackStatus q, ?_, messageIdOf_setStatus⟩
            simp [okResponses, responsesOf, hok]
  | billed htakes ih =>
      simp only [followedBy, Course.afterHandover, Option.bind_some] at h
      rcases Option.map_eq_some_iff.mp h with ⟨rest, hrest, rfl⟩
      have hends := ih hrest
      exact hends

/-! ## The whole way -/

/-- The way of a request that is answered with ESME_ROK: `q` is the response `refresh` has left, `m`
the message. -/
structure Accepts (c : Course) (request : SmRequest) (calls : List SubmitCall)
    (msg given : Sms) (result : RouteResult) (q response : SmppQueuedPdu) (m : Sms) : Prop where
  converted : request.convert c.kannel c.session.esme = some (.ok msg)
  asked : c.given msg = some given
  routed : smppRouteMessage c.smsSplit c.method .outbound none c.session.esme.systemId given =
    some result
  refreshed : refresh request.kind c.routedEnv c.routedSession.routingDone
    { setMessageId (some (smppUuidGet msg.id))
        (createResponse request.kind c.session request.sequenceNumber) with msg := some result.1 }
    result.1 = some (q, m)
  taken : takenOf calls = [m]
  responses : okResponses calls = [response]
  messageId : messageIdOf response = messageIdOf q

theorem serve_cases {request : SmRequest} (hsimulate : c.session.esme.simulate = false)
    (h : c.serve request = some all) :
    okResponses all = [] ∨ ∃ msg given result q response m,
      Accepts c request all msg given result q response m := by
  rcases Option.bind_eq_some_iff.mp h with ⟨⟨s', calls⟩, hhandle, hfollow⟩
  rcases handleSm_cases hsimulate hhandle with ⟨hrefused, hroutes⟩ | ⟨msg, given, hmsg, hgiven, rfl⟩
  · have hall : followedBy (c.afterRouting request.kind) calls = some all := hfollow
    rw [followedBy_of_quiet (afterRouting_of_no_route hroutes)] at hall
    cases hall
    exact Or.inl hrefused
  · simp only [followedBy, Course.afterRouting, Option.map_some, Option.bind_eq_some_iff] at hfollow
    rcases hfollow with ⟨later, ⟨result, hrouted, ⟨s'', cs⟩, hdone, hlater⟩, hall⟩
    cases hall
    rcases routingDoneOf_cases rfl hdone with hrefused | ⟨q, m, hrefresh, htakes⟩
    · rw [followedBy_of_quiet (afterHandover_of_no_handover hrefused.handovers)] at hlater
      cases hlater
      left
      simpa [okResponses, responsesOf] using hrefused.responses
    · rcases takes_followed htakes hlater with hnone | ⟨htaken, response, hresponses, hid⟩
      · left
        simpa [okResponses, responsesOf] using hnone
      · refine Or.inr ⟨msg, given, result, q, response, m, hmsg, hgiven, hrouted, hrefresh, ?_, ?_,
          hid⟩
        · simpa [takenOf] using htaken
        · simpa [okResponses, responsesOf] using hresponses

/-! ## What the router leaves -/

/-- The name a `dlr_url` begins with can be told from it, for times and ids have no '|'. -/
theorem service_of_dlrUrl {service service' id : Octstr} {time time' : Int} (hid : bar ∉ id)
    (hne : id ≠ []) (h : dlrUrl service (octstrFormatLong time) id =
      dlrUrl service' (octstrFormatLong time') id) : service = service' := by
  have hpieces : service.splitOn bar ++ [octstrFormatLong time, id] =
      service'.splitOn bar ++ [octstrFormatLong time', id] := by
    calc
      service.splitOn bar ++ [octstrFormatLong time, id]
          = octstrSplit (dlrUrl service (octstrFormatLong time) id) bar :=
            (octstrSplit_dlrUrl (bar_not_mem_octstrFormatLong time) hid hne).symm
      _ = octstrSplit (dlrUrl service' (octstrFormatLong time') id) bar := by rw [h]
      _ = service'.splitOn bar ++ [octstrFormatLong time', id] :=
            octstrSplit_dlrUrl (bar_not_mem_octstrFormatLong time') hid hne
  have hservices : service.splitOn bar = service'.splitOn bar :=
    (List.append_inj' hpieces rfl).1
  calc
    service = [bar].intercalate (service.splitOn bar) := (List.intercalate_splitOn bar).symm
    _ = [bar].intercalate (service'.splitOn bar) := by rw [hservices]
    _ = service' := List.intercalate_splitOn bar

theorem smppUuidGet_ne_nil (u : Uuid) : smppUuidGet u ≠ [] := by
  intro hnil
  have hlength := length_smppUuidGet u
  rw [hnil] at hlength
  cases hlength

theorem given_spec (h : c.given msg = some given) :
    given.id = msg.id ∧ NamesId c.session given.id given.dlrUrl := by
  have hid : (withDefaultSmsc c.session msg).id = msg.id := by
    unfold withDefaultSmsc
    split
    · rfl
    · rfl
  rcases Option.map_eq_some_iff.mp h with ⟨systemId, hsystemId, -⟩
  rw [Course.given, smppQueuesMsgSetDlrUrl_eq hsystemId] at h
  cases h
  exact ⟨hid, systemId, c.env.time, hsystemId, rfl⟩

/-- A `dlr_url` that was written for the session names it as long as the session keeps its name. -/
theorem namesId_iff_sameName {id : Uuid} {url : Option Octstr} (h : NamesId c.session id url) :
    NamesId c.routedSession id url ↔ c.SameName := by
  rcases h with ⟨systemId, time, hsystemId, rfl⟩
  constructor
  · rintro ⟨systemId', time', hsystemId', hurl⟩
    have hname : systemId = systemId' :=
      service_of_dlrUrl (bar_not_mem_smppUuidGet id) (smppUuidGet_ne_nil id) (Option.some.inj hurl)
    rw [Course.SameName, hsystemId, hsystemId', hname]
  · intro hsame
    exact ⟨systemId, time, hsame.trans hsystemId, rfl⟩

/-- The routes of the database change the SMSC of a message at most. -/
theorem database_leaves {tables : RouteTables} {smsSplit : Sms → Nat} {systemId : Option Octstr}
    {result : RouteResult}
    (h : smppRouteMessageDatabase smsSplit tables .outbound none systemId msg = some result) :
    result.1.id = msg.id ∧ result.1.dlrUrl = msg.dlrUrl := by
  unfold smppRouteMessageDatabase at h
  simp only at h
  split at h
  · rcases Option.map_eq_some_iff.mp h with ⟨⟨route, status⟩, -, rfl⟩
    cases route with
    | none => exact ⟨rfl, rfl⟩
    | some route => exact ⟨rfl, rfl⟩
  · split at h
    · rename_i hinbound
      exact absurd hinbound.1 (by decide)
    · cases h
      exact ⟨rfl, rfl⟩

theorem leavesId_iff {result : RouteResult} (hgiven : NamesId c.session given.id given.dlrUrl)
    (h : smppRouteMessage c.smsSplit c.method .outbound none c.session.esme.systemId given =
      some result) :
    (result.1.id = given.id ∧ NamesId c.routedSession given.id result.1.dlrUrl) ↔
      c.LeavesId given := by
  have hname := namesId_iff_sameName hgiven
  unfold smppRouteMessage at h
  unfold Course.LeavesId
  cases hmethod : c.method with
  | database tables =>
      simp only [hmethod] at h ⊢
      rcases database_leaves h with ⟨hid, hurl⟩
      rw [hid, hurl, hname]
      simp
  | http response =>
      simp only [hmethod, Option.some.injEq] at h ⊢
      subst h
      cases hcost : response.routeCost with
      | none =>
          simp only [smppHttpClientReceiveThread, hcost]
          rw [hname]
          simp
      | some cost =>
          simp only [smppHttpClientReceiveThread, hcost, restore, HttpResponse.overwrite,
            HttpResponse.octstr]
          -- the `dlr_url` is that of the header, or else the one it was
          cases hurl : response.header "dlr_url" with
          | none =>
              simp only [Option.none_or]
              rw [hname]
          | some url =>
              simp only [Option.some_or]
  | plugin routeMessage =>
      cases routeMessage with
      | none =>
          simp only [hmethod, Option.some.injEq] at h ⊢
          subst h
          rw [hname]
          simp
      | some routeMessage =>
          simp only [hmethod, Option.some.injEq] at h ⊢
          rw [h]

/-! ## The id the client is given -/

/-- The submit path repairs the response and the `dlr_url` whatever the router has done. -/
theorem submitSm_names {p : SubmitSm} {result : RouteResult}
    (h : Accepts c (.submitSm p) all msg given result q response m) :
    NamesMessage c all response := by
  rcases Option.map_eq_some_iff.mp h.refreshed with ⟨m', hset, hresult⟩
  rcases Option.map_eq_some_iff.mp hset with ⟨systemId, hsystemId, -⟩
  rw [smppQueuesMsgSetDlrUrl_eq hsystemId] at hset
  cases hset
  cases hresult
  exact ⟨_, h.taken, h.messageId, systemId, c.routedEnv.time, hsystemId, rfl⟩

/-- The data path leaves both as they were before routing. -/
theorem dataSm_names_iff {p : DataSm} {result : RouteResult}
    (h : Accepts c (.dataSm p) all msg given result q response m) :
    NamesMessage c all response ↔ c.LeavesId given := by
  rcases given_spec h.asked with ⟨hid, hgiven⟩
  rw [← leavesId_iff hgiven h.routed]
  have hrefreshed := h.refreshed
  cases hrefreshed
  have hmessageId : messageIdOf response = some (smppUuidGet given.id) := by
    rw [h.messageId, hid]
    rfl
  constructor
  · rintro ⟨m, htaken, hanswered, hnames⟩
    rw [h.taken] at htaken
    cases htaken
    rw [hmessageId] at hanswered
    have hsame : given.id = result.1.id := smppUuidGet_injective (Option.some.inj hanswered)
    exact ⟨hsame.symm, hsame ▸ hnames⟩
  · rintro ⟨hsame, hnames⟩
    refine ⟨_, h.taken, ?_, ?_⟩
    · rw [hmessageId, hsame]
    · rw [hsame]
      exact hnames

/-- A response with ESME_ROK, the message that was stored or forwarded and its `dlr_url` name one id:
always on the submit path, and on the data path exactly if the router leaves the id alone. -/
theorem given_id_iff {request : SmRequest} (hsimulate : c.session.esme.simulate = false)
    (hserve : c.serve request = some all) (hresponse : .addOutbound response ∈ all)
    (hok : isOk response) :
    NamesMessage c all response ↔
      request.kind = .submitSm ∨ ∃ msg given, request.convert c.kannel c.session.esme = some (.ok msg) ∧
        c.given msg = some given ∧ c.LeavesId given := by
  have hmem : response ∈ okResponses all := by
    refine List.mem_filter.mpr ⟨List.mem_filterMap.mpr ⟨_, hresponse, rfl⟩, hok⟩
  rcases serve_cases hsimulate hserve with hnone | ⟨msg, given, result, q, response', m, haccepts⟩
  · rw [hnone] at hmem
    exact absurd hmem List.not_mem_nil
  · have hsame : response = response' := by
      rw [haccepts.responses] at hmem
      exact List.mem_singleton.mp hmem
    subst hsame
    cases request with
    | submitSm p =>
        exact iff_of_true (submitSm_names haccepts) (Or.inl rfl)
    | dataSm p =>
        rw [dataSm_names_iff haccepts]
        constructor
        · intro hleaves
          exact Or.inr ⟨msg, given, haccepts.converted, haccepts.asked, hleaves⟩
        · rintro (hkind | ⟨msg', given', hconverted, hasked, hleaves⟩)
          · cases hkind
          · have hmsg : msg = msg' := by
              have heq := haccepts.converted.symm.trans hconverted
              cases heq
              rfl
            subst hmsg
            have hgiven : given = given' := Option.some.inj (haccepts.asked.symm.trans hasked)
            rw [hgiven]
            exact hleaves

/-! ## A router that sets the id -/

/-- An HTTP router that answers with these headers, at no cost. -/
def sampleResponse (headers : List (Octstr × Octstr)) : HttpResponse where
  headerValue := fun key => headers.lookup key
  parseDouble := fun _ => some 0

/-- The way of a request that is routed by HTTP and acked by the bearerbox. -/
def sampleCourse (headers : List (Octstr × Octstr)) : Course where
  kannel := sampleKannel
  env := sampleEnv
  session := sampleSession.toSession
  smsSplit := fun _ => 1
  method := .http (sampleResponse headers)
  routedEnv := sampleEnv
  routedSession := sampleSession.toSession
  ackSession := sampleSession.toSession
  ackStatus := 0

/-- The message is routed and gets another id. -/
def sampleHeaders : List (Octstr × Octstr) :=
  [(headerKey "Route-Status", octstrImm "1"), (headerKey "Route-Cost", octstrImm "0"),
    (headerKey "id", smppUuidGet (Vector.replicate 16 2))]

def sampleDataSm : DataSm where
  sequenceNumber := 7
  serviceType := none
  sourceAddrTon := 0
  sourceAddrNpi := 0
  sourceAddr := some (octstrImm "1000")
  destAddrTon := 1
  destAddrNpi := 1
  destinationAddr := some (octstrImm "0031600000000")
  esmClass := 0
  registeredDelivery := 1
  dataCoding := 0
  messagePayload := some (octstrImm "hello")
  sarMsgRefNum := -1
  sarSegmentSeqnum := -1
  sarTotalSegments := -1
  tlv := []

theorem mem_of_mem_okResponses (h : response ∈ okResponses all) :
    .addOutbound response ∈ all ∧ isOk response = true := by
  rcases List.mem_filter.mp h with ⟨hresponse, hok⟩
  rcases List.mem_filterMap.mp hresponse with ⟨call, hcall, hq⟩
  cases call with
  | addOutbound q =>
      cases hq
      exact ⟨hcall, hok⟩
  | _ => cases hq

theorem given_id_submitSm_sample :
    ∃ calls response, (sampleCourse sampleHeaders).serve (.submitSm sampleSubmitSm) = some calls ∧
      .addOutbound response ∈ calls ∧ isOk response = true ∧
      NamesMessage (sampleCourse sampleHeaders) calls response := by
  have hexec : ((sampleCourse sampleHeaders).serve (.submitSm sampleSubmitSm)).map
      (fun calls => (okResponses calls).length) = some 1 := by decide +kernel
  rcases Option.map_eq_some_iff.mp hexec with ⟨calls, hserve, hlength⟩
  rcases List.length_eq_one_iff.mp hlength with ⟨response, hone⟩
  rcases mem_of_mem_okResponses (hone ▸ List.mem_singleton_self response) with ⟨hmem, hok⟩
  exact ⟨calls, response, hserve, hmem, hok,
    (given_id_iff rfl hserve hmem hok).mpr (Or.inl rfl)⟩

/-- A data_sm is answered with the id it had; the message that is forwarded has the router's. -/
theorem given_id_dataSm_differs :
    ∃ calls response, (sampleCourse sampleHeaders).session.esme.simulate = false ∧
      (sampleCourse sampleHeaders).serve (.dataSm sampleDataSm) = some calls ∧
      .addOutbound response ∈ calls ∧ isOk response = true ∧
      ¬ NamesMessage (sampleCourse sampleHeaders) calls response := by
  have hexec : ((sampleCourse sampleHeaders).serve (.dataSm sampleDataSm)).map
      (fun calls => ((takenOf calls).map Sms.id, (okResponses calls).map messageIdOf)) =
        some ([Vector.replicate 16 2], [some (smppUuidGet (Vector.replicate 16 1))]) := by
    decide +kernel
  rcases Option.map_eq_some_iff.mp hexec with ⟨calls, hserve, hboth⟩
  rcases Prod.mk.inj hboth with ⟨hids, hanswers⟩
  rcases List.map_eq_singleton_iff.mp hanswers with ⟨response, hone, hanswered⟩
  rcases mem_of_mem_okResponses (hone ▸ List.mem_singleton_self response) with ⟨hmem, hok⟩
  refine ⟨calls, response, rfl, hserve, hmem, hok, ?_⟩
  rintro ⟨m, htaken, hmessageId, -⟩
  have hid : m.id = Vector.replicate 16 2 := by simpa [htaken] using hids
  rw [hanswered, hid] at hmessageId
  exact absurd (Option.some.inj hmessageId) (by decide)

end Routes
end Ksmppd
