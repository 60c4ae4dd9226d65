import Ksmppd.Callbacks
import Ksmppd.Dispatch.FreeWindow

/-!
# Refusals — the callers of smpp_pdu_msg_to_pdu and the messages it refuses

`smpp_pdu_msg_to_pdu` returns `NULL` for a message it refuses, and seven callers consume the list
it returns: the routing callbacks of a MO and of a stored MO, the handling of a report, the polls of
the store and of the DLRs, and the two simulations of a delivery.  Each has an origin of its own to
settle, and they do not all look at what they got.
-/

namespace Ksmppd
namespace Dispatch

open Lib
open Delivery (Origin partPdu)
open Receipts (Converted DeliverSmPdu smppPduMsgToPdu smppPduGetSystemIdFromDlrUrl addressesFit
  header dlrInfo parseDlrShortMessage)
open Submit (SubmitCall everyNth smppQueuesMsgSetDlrUrl simulateReport simulateSubmitSm
  simulatedReceipt)

/-! ## Data -/

inductive CallerCall
  /-- A part gets its number and goes through `smpp_queues_add_outbound`. -/
  | addOutbound (esme : EsmeRef) (q : SmppQueuedPdu)
  /-- A part goes into the list the requeue thread has asked for. -/
  | produce (q : SmppQueuedPdu)
  | databaseAddMessage (msg : Sms) (inserted : Bool)
  | routeMessage (smscId : Option Octstr) (msg : Sms)
  /-- The origin of the message is told. -/
  | origin (c : Call)
  /-- A call of the branch that simulates. -/
  | simulation (c : SubmitCall)
  deriving DecidableEq, Repr

/-- What the callers find around them. -/
structure CallerEnv extends QueueEnv where
  data : SmppEsmeData
  databaseEnableQueue : Bool
  link : BearerboxLink
  submit : Submit.Env

/-! ## The list -/

/-- What `smpp_pdu_msg_to_pdu` returns, where it does: a list, or `NULL`. -/
def returned : Converted → Option (Option (List DeliverSmPdu))
  | .crash => none
  | .refused => some none
  | .pdus ps => some (some ps)

def CallerEnv.msgToPdu (env : CallerEnv) (e : SmppEsme) (msg : Sms) :
    Option (Option (List DeliverSmPdu)) :=
  returned (smppPduMsgToPdu env.kannel e env.catenatedSmsCounter msg)

/-- `while((pdu = gwlist_consume(list)) != NULL)`.  It takes the lock of the list first, and crashes
where there is none. -/
def consumeParts {α : Type} (handOn : DeliverSmPdu → α) (list : Option (List DeliverSmPdu)) :
    Option (List α) :=
  list.map (List.map handOn)

/-- A part for the session that was found, with the origin its callback will settle. -/
def deliverPart (e : SmppEsme) (origin : Origin) (p : DeliverSmPdu) : CallerCall :=
  .addOutbound e.id (partPdu origin e.systemId p.toDeliverSm)

/-- `smpp_bearerbox_acknowledge` with the id of the message. -/
def CallerEnv.acknowledge (env : CallerEnv) (b : BearerboxRef) (msg : Sms) (status : Int) :
    Option (List CallerCall) :=
  (smppBearerboxAcknowledge env.link (some b) (some (smppUuidGet msg.id)) status).map
    (List.map .origin)

/-! ## The bearerbox side -/

/-- `smpp_bearerbox_requeue_routing_done`. -/
def smppBearerboxRequeueRoutingDone (env : CallerEnv) (m : SmppDatabaseMsg) (status : Int) :
    Option (List CallerCall) :=
  if status = smppEsmeRok then
    match smppEsmeFindBestReceiver env.data m.msg.service with
    | some e =>
        -- the list is consumed as it comes
        (env.msgToPdu e m.msg).bind (consumeParts (deliverPart e (.stored m.globalId)))
    | none => some [.origin (.databaseRemove m.globalId true)]
  else some [.origin (.databaseRemove m.globalId false)]

/-- `smpp_bearerbox_routing_done`. -/
def smppBearerboxRoutingDone (env : CallerEnv) (b : BearerboxRef) (msg : Sms) (status : Int) :
    Option (List CallerCall) :=
  if status = smppEsmeRok then
    match smppEsmeFindBestReceiver env.data msg.service with
    | some e =>
        (env.msgToPdu e msg).bind (fun list =>
          match list with
          | some ps => consumeParts (deliverPart e (.bearerbox b (smppUuidGet msg.id))) (some ps)
          -- the loop is left at once, and nothing stands after it
          | none => some [])
    | none =>
        if env.databaseEnableQueue then
          (env.acknowledge b msg (if env.submit.inserted then ackSuccess else ackFailed)).map
            (.databaseAddMessage msg env.submit.inserted :: ·)
        else env.acknowledge b msg ackFailedTmp
  else env.acknowledge b msg ackFailed

/-- What `smpp_bearerbox_inbound_thread` does with a message of type `sms`. -/
def inboundSms (env : CallerEnv) (b : BearerboxRef) (msg : Sms) : Option (List CallerCall) :=
  if msg.smsType = smsTypeReportMo ∧ octstrLen msg.dlrUrl ≠ 0 then
    let systemId := msg.dlrUrl.bind smppPduGetSystemIdFromDlrUrl
    match smppEsmeFindBestReceiver env.data systemId with
    | some e =>
        (env.msgToPdu e msg).bind (fun list =>
          match list with
          | some ps => consumeParts (deliverPart e (.bearerbox b (smppUuidGet msg.id))) (some ps)
          | none => env.acknowledge b msg ackSuccess)
    | none =>
        if env.databaseEnableQueue then
          if octstrLen systemId ≠ 0 then
            (env.acknowledge b msg (if env.submit.inserted then ackSuccess else ackFailed)).map
              (.databaseAddMessage msg env.submit.inserted :: ·)
          else env.acknowledge b msg ackFailed
        else env.acknowledge b msg ackFailedTmp
  else if msg.smsType = smsTypeMo then some [.routeMessage msg.smscId msg]
  else env.acknowledge b msg ackFailed

/-! ## The polls -/

/-- The body of the loops of `smpp_esme_global_get_queued` over `dlr_queue` and `msg_queue`. -/
def pollMsg (env : CallerEnv) (e : SmppEsme) (fromDlrTable : Bool) (m : SmppDatabaseMsg) :
    Option (List CallerCall) :=
  (env.msgToPdu e m.msg).bind (fun list =>
    match list with
    | some ps =>
        consumeParts (fun p => .produce (queuedPart e fromDlrTable m.globalId p)) (some ps)
    | none =>
        -- the message is destroyed before its number is read
        some [.origin (if fromDlrTable then .databaseRemoveDlr (env.freed m.globalId)
          else .databaseRemove (env.freed m.globalId) false)])

/-- What a call of a poll does to the store. -/
def afterPollCall (env : QueueEnv) (s : QueueStore) : CallerCall → QueueStore
  | .origin (.databaseRemoveDlr globalId) => removeRefused env true globalId s
  | .origin (.databaseRemove globalId _) => removeRefused env false globalId s
  | _ => s

/-- What a call of a poll queues. -/
def producedBy : CallerCall → Option SmppQueuedPdu
  | .produce q => some q
  | _ => none

/-! ## The simulations -/

/-- The handler's environment, where the list is consumed as it comes. -/
def CallerEnv.simulation (env : CallerEnv) (e : SmppEsme) : Submit.Env :=
  { env.submit with
    msgToPdu := fun msg =>
      (env.msgToPdu e msg).bind (consumeParts (fun p => .deliverSm p.toDeliverSm)) }

/-- The branch of `smpp_queues_handle_submit_sm` that simulates, with a converted request. -/
def simulateSm (env : CallerEnv) (s : Submit.Session) (sequenceNumber : Int) (msg : Sms) :
    Option (List CallerCall) :=
  (simulateSubmitSm (env.simulation s.esme) s sequenceNumber (some (.ok msg))).map
    (fun r => r.2.map .simulation)

/-- Neither simulated failure is due. -/
def simulatesDelivery (s : Submit.Session) : Bool :=
  !everyNth s.esme.simulateTemporaryFailureEvery s.esme.inboundProcessed &&
    !everyNth s.esme.simulatePermanentFailureEvery s.esme.inboundProcessed

/-- The report that is simulated for a request, if it is due. -/
def simulatedReportMsg (env : CallerEnv) (s : Submit.Session) (msg : Sms) : Option Sms :=
  if simulatesDelivery s && everyNth s.esme.simulateDeliverEvery s.esme.inboundProcessed then
    let mask := if s.esme.simulateDlrFail then dlrFail else dlrSuccess
    (smppQueuesMsgSetDlrUrl env.submit s
        { msg with smsType := smsTypeReportMo, dlrMask := mask }).map (fun msg' =>
      { msg' with msgdata := some (simulatedReceipt env.submit s msg) })
  else none

/-- The MO that is simulated for a request, if it is due. -/
def simulatedMoMsg (env : CallerEnv) (s : Submit.Session) (msg : Sms) : Option Sms :=
  if simulatesDelivery s && everyNth s.esme.simulateMoEvery s.esme.inboundProcessed then
    (simulateReport (env.simulation s.esme) s msg).map (fun (msg', _) =>
      { msg' with smsType := smsTypeMo, receiver := msg'.sender, sender := msg'.receiver })
  else none

/-! ## The callers -/

/-- The calls of `smpp_pdu_msg_to_pdu`, with the message each has in its hands. -/
inductive Caller
  | requeueRoutingDone (m : SmppDatabaseMsg) (status : Int)
  | routingDone (b : BearerboxRef) (msg : Sms) (status : Int)
  | inboundReport (b : BearerboxRef) (msg : Sms)
  | storePoll (e : SmppEsme) (m : SmppDatabaseMsg)
  | dlrPoll (e : SmppEsme) (m : SmppDatabaseMsg)
  | simulatedReport (s : Submit.Session) (sequenceNumber : Int) (msg : Sms)
  | simulatedMo (s : Submit.Session) (sequenceNumber : Int) (msg : Sms)

def Caller.run (env : CallerEnv) : Caller → Option (List CallerCall)
  | .requeueRoutingDone m status => smppBearerboxRequeueRoutingDone env m status
  | .routingDone b msg status => smppBearerboxRoutingDone env b msg status
  | .inboundReport b msg => inboundSms env b msg
  | .storePoll e m => pollMsg env e false m
  | .dlrPoll e m => pollMsg env e true m
  | .simulatedReport s sequenceNumber msg => simulateSm env s sequenceNumber msg
  | .simulatedMo s sequenceNumber msg => simulateSm env s sequenceNumber msg

/-- The session and the message `smpp_pdu_msg_to_pdu` is called with, if the caller gets there. -/
def Caller.converts (env : CallerEnv) : Caller → Option (SmppEsme × Sms)
  | .requeueRoutingDone m status =>
      if status = smppEsmeRok then
        (smppEsmeFindBestReceiver env.data m.msg.service).map (fun e => (e, m.msg))
      else none
  | .routingDone _ msg status =>
      if status = smppEsmeRok then
        (smppEsmeFindBestReceiver env.data msg.service).map (fun e => (e, msg))
      else none
  | .inboundReport _ msg =>
      if msg.smsType = smsTypeReportMo ∧ octstrLen msg.dlrUrl ≠ 0 then
        (smppEsmeFindBestReceiver env.data
          (msg.dlrUrl.bind smppPduGetSystemIdFromDlrUrl)).map (fun e => (e, msg))
      else none
  | .storePoll e m => some (e, m.msg)
  | .dlrPoll e m => some (e, m.msg)
  | .simulatedReport s _ msg => (simulatedReportMsg env s msg).map (fun msg' => (s.esme, msg'))
  | .simulatedMo s _ msg => (simulatedMoMsg env s msg).map (fun msg' => (s.esme, msg'))

/-- The call settles the message the caller has: it acknowledges it to its bearerbox, it removes
its row, or it answers the request. -/
def Caller.settles : Caller → CallerCall → Bool
  | .routingDone b msg _, .origin (.bearerboxAcknowledge b' id _ _) =>
      decide (b' = b ∧ id = smppUuidGet msg.id)
  | .inboundReport b msg, .origin (.bearerboxAcknowledge b' id _ _) =>
      decide (b' = b ∧ id = smppUuidGet msg.id)
  | .requeueRoutingDone m _, .origin (.databaseRemove globalId _) => decide (globalId = m.globalId)
  | .storePoll _ m, .origin (.databaseRemove globalId _) => decide (globalId = m.globalId)
  | .dlrPoll _ m, .origin (.databaseRemoveDlr globalId) => decide (globalId = m.globalId)
  | .simulatedReport _ _ _, .simulation (.addOutbound _) => true
  | .simulatedMo _ _ _, .simulation (.addOutbound _) => true
  | _, _ => false

/-- The caller comes through, and settles its message exactly once. -/
def Caller.HandlesRefusal (env : CallerEnv) (c : Caller) : Prop :=
  ∃ calls, c.run env = some calls ∧ calls.countP c.settles = 1

/-- A report is acknowledged.  A poll removes the row whose number it still finds in the memory it
has freed. -/
def Caller.MeetsRefusal (env : CallerEnv) : Caller → Prop
  | .inboundReport _ _ => True
  | .storePoll _ m => env.freed m.globalId = m.globalId
  | .dlrPoll _ m => env.freed m.globalId = m.globalId
  | .requeueRoutingDone _ _ => False
  | .routingDone _ _ _ => False
  | .simulatedReport _ _ _ => False
  | .simulatedMo _ _ _ => False

variable {env : CallerEnv} {e : SmppEsme} {msg : Sms} {m : SmppDatabaseMsg}

/-! ## What is refused -/

/-- The addresses do not fit, or it is a report with a bad `dlr_url` or a bad receipt. -/
theorem smppPduMsgToPdu_refused_iff {k : Receipts.MsgKannel} {catenatedSmsCounter : Nat} :
    smppPduMsgToPdu k e catenatedSmsCounter msg = .refused ↔
      addressesFit (header k msg) = false ∨
        (msg.smsType = smsTypeReportMo ∧
          (dlrInfo msg.dlrUrl = none ∨
            parseDlrShortMessage k.clock (msg.msgdata.getD []) = none)) := by
  simp only [smppPduMsgToPdu]
  cases hfit : addressesFit (header k msg) with
  | false => simp
  | true =>
      by_cases htype : msg.smsType = smsTypeReportMo
      · cases hinfo : dlrInfo msg.dlrUrl with
        | none => simp [htype, Receipts.reportPdus, hinfo]
        | some info =>
            cases hparse : parseDlrShortMessage k.clock (msg.msgdata.getD []) with
            | none => simp [htype, Receipts.reportPdus, hinfo, hparse]
            | some f => simp [htype, Receipts.reportPdus, hinfo, hparse]
      · simp only [Bool.not_true, Bool.false_eq_true, if_false, htype, Receipts.messagePdus]
        split
        · simp
        · simp

/-- A loop of a poll is its body for each message, one after the other. -/
theorem queueMsgs_cons (fromDlrTable : Bool) (s : QueueStore) (ms : List SmppDatabaseMsg) :
    queueMsgs env.toQueueEnv e fromDlrTable s (m :: ms) =
      (pollMsg env e fromDlrTable m).bind (fun calls =>
        (queueMsgs env.toQueueEnv e fromDlrTable
            (calls.foldl (afterPollCall env.toQueueEnv) s) ms).map (fun (t, qs) =>
          (t, calls.filterMap producedBy ++ qs))) := by
  simp only [queueMsgs, pollMsg, CallerEnv.msgToPdu]
  cases smppPduMsgToPdu env.kannel e env.catenatedSmsCounter m.msg with
  | crash => rfl
  | refused =>
      cases fromDlrTable with
      | true => simp [returned, afterPollCall, List.filterMap_cons, producedBy]
      | false => simp [returned, afterPollCall, List.filterMap_cons, producedBy]
  | pdus ps =>
      have hstore : ∀ s : QueueStore, (ps.map (fun p =>
          CallerCall.produce (queuedPart e fromDlrTable m.globalId p))).foldl
            (afterPollCall env.toQueueEnv) s = s := by
        intro s
        rw [List.foldl_map]
        exact List.foldl_fixed' (fun _ => rfl) ps
      have hqueued : (ps.map (fun p =>
          CallerCall.produce (queuedPart e fromDlrTable m.globalId p))).filterMap producedBy =
            ps.map (queuedPart e fromDlrTable m.globalId) := by
        simp [List.filterMap_map, Function.comp_def, producedBy]
      simp [returned, consumeParts, hstore, hqueued]

/-! ## One caller after the other -/

theorem msgToPdu_refused
    (h : smppPduMsgToPdu env.kannel e env.catenatedSmsCounter msg = .refused) :
    env.msgToPdu e msg = some none := by
  simp [CallerEnv.msgToPdu, h, returned]

theorem requeueRoutingDone_crashes
    (hfound : smppEsmeFindBestReceiver env.data m.msg.service = some e)
    (hrefused : env.msgToPdu e m.msg = some none) :
    smppBearerboxRequeueRoutingDone env m smppEsmeRok = none := by
  simp [smppBearerboxRequeueRoutingDone, hfound, hrefused, consumeParts]

theorem routingDone_forgets {b : BearerboxRef}
    (hfound : smppEsmeFindBestReceiver env.data msg.service = some e)
    (hrefused : env.msgToPdu e msg = some none) :
    smppBearerboxRoutingDone env b msg smppEsmeRok = some [] := by
  simp [smppBearerboxRoutingDone, hfound, hrefused]

theorem acknowledge_eq (b : BearerboxRef) (msg : Sms) (status : Int) :
    env.acknowledge b msg status = some [.origin (.bearerboxAcknowledge b (smppUuidGet msg.id)
      status (env.link.alive && env.link.written))] := by
  have hlen : octstrLen (some (smppUuidGet msg.id)) ≠ 0 := by
    simp [octstrLen, length_smppUuidGet]
  simp [CallerEnv.acknowledge, smppBearerboxAcknowledge, hlen]

/-- The handler comes through a simulated delivery only if both conversions do. -/
theorem simulateSm_some {s : Submit.Session} {sequenceNumber : Int} {calls : List CallerCall}
    (hsimulates : simulatesDelivery s = true)
    (h : simulateSm env s sequenceNumber msg = some calls) :
    ∃ msg' report mo, simulateReport (env.simulation s.esme) s msg = some (msg', report) ∧
      Submit.simulateMo (env.simulation s.esme) s msg' = some mo := by
  simp only [simulatesDelivery, Bool.and_eq_true, Bool.not_eq_true'] at hsimulates
  simp only [simulateSm, simulateSubmitSm, hsimulates.1, hsimulates.2, Bool.false_eq_true,
    if_false] at h
  rcases Option.map_eq_some_iff.mp h with ⟨r, hr, -⟩
  rcases Option.bind_eq_some_iff.mp hr with ⟨counted, -, hcounted⟩
  rcases Option.bind_eq_some_iff.mp hcounted with ⟨⟨msg', report⟩, hreport, hrest⟩
  rcases Option.map_eq_some_iff.mp hrest with ⟨mo, hmo, -⟩
  exact ⟨msg', report, mo, hreport, hmo⟩

theorem simulateDelivery_refused {s : Submit.Session}
    (hrefused : env.msgToPdu s.esme msg = some none) :
    Submit.simulateDelivery (env.simulation s.esme) s msg = none := by
  simp [Submit.simulateDelivery, CallerEnv.simulation, hrefused, consumeParts]

theorem simulatedReport_crashes {s : Submit.Session} {sequenceNumber : Int} {msg' : Sms}
    (hdue : simulatedReportMsg env s msg = some msg')
    (hrefused : env.msgToPdu s.esme msg' = some none) :
    simulateSm env s sequenceNumber msg = none := by
  unfold simulatedReportMsg at hdue
  split at hdue
  · rename_i hnow
    rcases Bool.and_eq_true_iff.mp hnow with ⟨hsimulates, hevery⟩
    rcases Option.map_eq_some_iff.mp hdue with ⟨url, hurl, rfl⟩
    cases hrun : simulateSm env s sequenceNumber msg with
    | none => rfl
    | some calls =>
        rcases simulateSm_some hsimulates hrun with ⟨_, _, _, hreport, _⟩
        have hnone : simulateReport (env.simulation s.esme) s msg = none := by
          simp only [simulateReport, hevery, if_true]
          exact Option.bind_eq_none_iff.mpr (fun url' hurl' => by
            cases hurl.symm.trans hurl'
            exact Option.map_eq_none_iff.mpr (simulateDelivery_refused hrefused))
        rw [hnone] at hreport
        cases hreport
  · cases hdue

theorem simulatedMo_crashes {s : Submit.Session} {sequenceNumber : Int} {msg' : Sms}
    (hdue : simulatedMoMsg env s msg = some msg')
    (hrefused : env.msgToPdu s.esme msg' = some none) :
    simulateSm env s sequenceNumber msg = none := by
  unfold simulatedMoMsg at hdue
  split at hdue
  · rename_i hnow
    rcases Bool.and_eq_true_iff.mp hnow with ⟨hsimulates, hevery⟩
    rcases Option.map_eq_some_iff.mp hdue with ⟨⟨reported, report⟩, hreported, rfl⟩
    cases hrun : simulateSm env s sequenceNumber msg with
    | none => rfl
    | some calls =>
        rcases simulateSm_some hsimulates hrun with ⟨_, _, _, hreport, hmo⟩
        cases hreported.symm.trans hreport
        simp only [Submit.simulateMo, hevery, if_true] at hmo
        rw [simulateDelivery_refused hrefused] at hmo
        cases hmo
  · cases hdue

theorem inboundReport_acknowledges {b : BearerboxRef}
    (hreport : msg.smsType = smsTypeReportMo ∧ octstrLen msg.dlrUrl ≠ 0)
    (hfound : smppEsmeFindBestReceiver env.data
      (msg.dlrUrl.bind smppPduGetSystemIdFromDlrUrl) = some e)
    (hrefused : env.msgToPdu e msg = some none) :
    inboundSms env b msg = some [.origin (.bearerboxAcknowledge b (smppUuidGet msg.id) ackSuccess
      (env.link.alive && env.link.written))] := by
  unfold inboundSms
  rw [if_pos hreport]
  simp [hfound, hrefused, acknowledge_eq]

theorem pollMsg_refused (fromDlrTable : Bool) (hrefused : env.msgToPdu e m.msg = some none) :
    pollMsg env e fromDlrTable m = some [.origin (if fromDlrTable then
      .databaseRemoveDlr (env.freed m.globalId) else .databaseRemove (env.freed m.globalId) false)]
    := by
  simp [pollMsg, hrefused]

/-! ## All callers -/

/-- The receiver a caller has found. -/
theorem found_of_converts {p : Prop} [Decidable p] {found : Option SmppEsme} {given : Sms}
    (h : (if p then found.map (fun e => (e, given)) else none) = some (e, msg)) :
    p ∧ found = some e ∧ given = msg := by
  split at h
  · rename_i hp
    rcases Option.map_eq_some_iff.mp h with ⟨e', hfound, heq⟩
    cases heq
    exact ⟨hp, hfound, rfl⟩
  · cases h

/-- Of the callers that get a message refused, the handling of a report settles it, and the polls do
where the number can still be read; the others crash, or forget the message. -/
theorem refusal_handled_iff {c : Caller} (hconverts : c.converts env = some (e, msg))
    (hrefused : smppPduMsgToPdu env.kannel e env.catenatedSmsCounter msg = .refused) :
    c.HandlesRefusal env ↔ c.MeetsRefusal env := by
  have hnull := msgToPdu_refused hrefused
  cases c with
  | requeueRoutingDone m status =>
      rcases found_of_converts hconverts with ⟨rfl, hfound, rfl⟩
      have hcrash := requeueRoutingDone_crashes hfound hnull
      simp [Caller.HandlesRefusal, Caller.run, hcrash, Caller.MeetsRefusal]
  | routingDone b m status =>
      rcases found_of_converts hconverts with ⟨rfl, hfound, rfl⟩
      have hforgets := @routingDone_forgets env e m b hfound hnull
      simp [Caller.HandlesRefusal, Caller.run, hforgets, Caller.MeetsRefusal]
  | inboundReport b m =>
      rcases found_of_converts hconverts with ⟨hreport, hfound, rfl⟩
      have hacks := @inboundReport_acknowledges env e m b hreport hfound hnull
      simp [Caller.HandlesRefusal, Caller.run, hacks, Caller.MeetsRefusal, Caller.settles]
  | storePoll reader m =>
      cases hconverts
      have hremoves := pollMsg_refused false hnull
      simp [Caller.HandlesRefusal, Caller.run, hremoves, Caller.MeetsRefusal, Caller.settles]
  | dlrPoll reader m =>
      cases hconverts
      have hremoves := pollMsg_refused true hnull
      simp [Caller.HandlesRefusal, Caller.run, hremoves, Caller.MeetsRefusal, Caller.settles]
  | simulatedReport s sequenceNumber request =>
      rcases Option.map_eq_some_iff.mp hconverts with ⟨msg', hdue, heq⟩
      cases heq
      have hcrash := @simulatedReport_crashes env request s sequenceNumber msg hdue hnull
      simp [Caller.HandlesRefusal, Caller.run, hcrash, Caller.MeetsRefusal]
  | simulatedMo s sequenceNumber request =>
      rcases Option.map_eq_some_iff.mp hconverts with ⟨msg', hdue, heq⟩
      cases heq
      have hcrash := @simulatedMo_crashes env request s sequenceNumber msg hdue hnull
      simp [Caller.HandlesRefusal, Caller.run, hcrash, Caller.MeetsRefusal]

def sampleCallerEnv : CallerEnv :=
  { sampleEnv with
    data := sampleData
    databaseEnableQueue := true
    link := { alive := true, written := true }
    submit := { time := 0, deducted := true, inserted := true, msgToPdu := fun _ => none,
                strftime := fun _ => [] } }

/-- A report for the sample session, with a `dlr_url` that is too short. -/
def shortReport : Sms :=
  { msgCreateSms (Vector.replicate 16 0) with
    smsType := smsTypeReportMo
    receiver := some (octstrImm "1234")
    dlrUrl := some (octstrImm "test|1") }

/-- A MO for the sample session, without a destination. -/
def unaddressedMo : Sms :=
  { msgCreateSms (Vector.replicate 16 0) with
    smsType := smsTypeMo
    service := some (octstrImm "test") }

theorem sampleReceiver_found :
    smppEsmeFindBestReceiver sampleCallerEnv.data (some (octstrImm "test")) = some sampleEsme :=
  rfl

theorem shortReport_refused : smppPduMsgToPdu sampleCallerEnv.kannel sampleEsme
    sampleCallerEnv.catenatedSmsCounter shortReport = .refused :=
  smppPduMsgToPdu_refused_iff.mpr (Or.inr ⟨rfl, Or.inl (by decide)⟩)

theorem unaddressedMo_refused : smppPduMsgToPdu sampleCallerEnv.kannel sampleEsme
    sampleCallerEnv.catenatedSmsCounter unaddressedMo = .refused :=
  smppPduMsgToPdu_refused_iff.mpr (Or.inl (by decide))

/-- The short report is acknowledged. -/
theorem refusal_handled_sample :
    (Caller.inboundReport 0 shortReport).converts sampleCallerEnv =
        some (sampleEsme, shortReport) ∧
      (Caller.inboundReport 0 shortReport).HandlesRefusal sampleCallerEnv := by
  have hconverts : (Caller.inboundReport 0 shortReport).converts sampleCallerEnv =
      some (sampleEsme, shortReport) := by
    have hsystemId : shortReport.dlrUrl.bind smppPduGetSystemIdFromDlrUrl =
        some (octstrImm "test") := by decide
    have hreport : shortReport.smsType = smsTypeReportMo ∧ octstrLen shortReport.dlrUrl ≠ 0 := by
      decide
    simp only [Caller.converts, if_pos hreport, hsystemId, sampleReceiver_found, Option.map_some]
  exact ⟨hconverts, (refusal_handled_iff hconverts shortReport_refused).mpr trivial⟩

/-- A MO without a destination crashes the callback for stored messages; the callback for those of
a bearerbox makes no call. -/
theorem refused_mo_not_handled :
    smppPduMsgToPdu sampleCallerEnv.kannel sampleEsme sampleCallerEnv.catenatedSmsCounter
        unaddressedMo = .refused ∧
      (Caller.requeueRoutingDone ⟨1, unaddressedMo⟩ smppEsmeRok).converts sampleCallerEnv =
        some (sampleEsme, unaddressedMo) ∧
      ¬ (Caller.requeueRoutingDone ⟨1, unaddressedMo⟩ smppEsmeRok).HandlesRefusal
        sampleCallerEnv ∧
      smppBearerboxRoutingDone sampleCallerEnv 0 unaddressedMo smppEsmeRok = some [] ∧
      ¬ (Caller.routingDone 0 unaddressedMo smppEsmeRok).HandlesRefusal sampleCallerEnv := by
  have hnull := msgToPdu_refused unaddressedMo_refused
  have hcrash := @requeueRoutingDone_crashes sampleCallerEnv sampleEsme ⟨1, unaddressedMo⟩
    sampleReceiver_found hnull
  have hforgets := @routingDone_forgets sampleCallerEnv sampleEsme unaddressedMo 0
    sampleReceiver_found hnull
  refine ⟨unaddressedMo_refused, ?_, ?_, hforgets, ?_⟩
  · have hservice : unaddressedMo.service = some (octstrImm "test") := rfl
    simp only [Caller.converts, if_pos, hservice, sampleReceiver_found, Option.map_some]
  · rintro ⟨calls, hrun, -⟩
    cases hcrash.symm.trans hrun
  · rintro ⟨calls, hrun, hcount⟩
    cases hforgets.symm.trans hrun
    cases hcount

end Dispatch
end Ksmppd
