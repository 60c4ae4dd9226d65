import Mathlib.Algebra.Order.Ring.Rat
import Ksmppd.Esme

/-!
# Submit — handling submit_sm and data_sm

`smpp_queues_handle_submit_sm` and `smpp_queues_handle_data_sm`, the routing callbacks they leave
with the router, and the callbacks they leave with the bearerbox.  The two paths are near-copies:
what they share is written once, with the type of the request as a parameter.  A function gives
the session after it and the calls it makes; `none` is the crash on a `NULL` pointer.
-/

namespace Ksmppd
namespace Submit

open Lib

/-! ## Data -/

/-- The type of a request, and with it that of its response. -/
inductive SmKind
  | submitSm
  | dataSm
  deriving DecidableEq, Repr

/-- A response PDU of the matching type. -/
def SmKind.resp : SmKind → SmResp → SmppPdu
  | .submitSm, r => .submitSmResp r
  | .dataSm, r => .dataSmResp r

/-- A session with the account it points to. -/
structure Session where
  esme : SmppEsme
  account : Option SmppEsmeGlobal

/-- A session that has the transmit bit is bound: it has a system id and an account. -/
structure BoundSession extends Session where
  systemId_isSome : esme.bindType &&& smppEsmeTransmit ≠ 0 → esme.systemId.isSome
  account_isSome : esme.bindType &&& smppEsmeTransmit ≠ 0 → account.isSome

/-- `SMPPRouteStatus`, the answer of the router. -/
structure SmppRouteStatus where
  status : Int
  parts : Int
  cost : Rat
  deriving DecidableEq, Repr

inductive SubmitCall
  | addOutbound (q : SmppQueuedPdu)
  | routeMessage (msg : Sms) (context : SmppQueuedPdu)
  | databaseDeductCredit (systemId : Option Octstr) (cost : Rat)
  | databaseAddMessage (msg : Sms) (inserted : Bool)
  | bearerboxAddMessage (msg : Sms) (context : SmppQueuedPdu)
  | simulate (q : SmppQueuedPdu)
  deriving DecidableEq, Repr

/-- What the code outside the handlers answers while one of them runs. -/
structure Env where
  /-- `time(NULL)`. -/
  time : Int
  /-- `smpp_database_deduct_credit`. -/
  deducted : Bool
  /-- `smpp_database_add_message`. -/
  inserted : Bool
  /-- `smpp_pdu_msg_to_pdu` for the session. -/
  msgToPdu : Sms → Option (List SmppPdu)
  /-- A time as `%y%m%d%H%M%S`. -/
  strftime : Int → Octstr

abbrev Result := Option (Session × List SubmitCall)

/-! ## Sessions and responses -/

/-- The error counters of the session and of its account. -/
def Session.countError (s : Session) : Option Session :=
  s.account.map (fun a =>
    { esme := { s.esme with errorCounter := s.esme.errorCounter + 1 }
      account := some { a with errorCounter := a.errorCounter + 1 } })

/-- The message counters of the session and of its account. -/
def Session.countMt (s : Session) : Option Session :=
  s.account.map (fun a =>
    { esme := { s.esme with mtCounter := s.esme.mtCounter + 1 }
      account := some { a with mtCounter := a.mtCounter + 1 } })

def Session.routingStarted (s : Session) : Session :=
  { s with esme := { s.esme with pendingRouting := s.esme.pendingRouting + 1 } }

/-- `counter_decrease`, which stops at zero. -/
def Session.routingDone (s : Session) : Session :=
  { s with esme := { s.esme with pendingRouting := s.esme.pendingRouting - 1 } }

/-- `smpp_queues_add_outbound` of a PDU without callback. -/
def Session.addOutbound (s : Session) : Session :=
  { s with esme := { s.esme with outboundQueued := s.esme.outboundQueued + 1 } }

def mapResp (f : SmResp → SmResp) : SmppPdu → SmppPdu
  | .submitSmResp r => .submitSmResp (f r)
  | .dataSmResp r => .dataSmResp (f r)
  | p => p

/-- Change the fields of the response a queued PDU holds. -/
def editResp (f : SmResp → SmResp) (q : SmppQueuedPdu) : SmppQueuedPdu :=
  { q with pdu := q.pdu.map (mapResp f) }

def setStatus (status : Int) : SmppQueuedPdu → SmppQueuedPdu :=
  editResp (fun r => { r with commandStatus := status })

def setMessageId (messageId : Option Octstr) : SmppQueuedPdu → SmppQueuedPdu :=
  editResp (fun r => { r with messageId := messageId })

/-- The response to a request, with status zero and no message id yet. -/
def createResponse (kind : SmKind) (s : Session) (sequenceNumber : Int) : SmppQueuedPdu :=
  smppQueuedPduCreateQuick s.esme.id s.esme.systemId
    (kind.resp { sequenceNumber := sequenceNumber, commandStatus := smppEsmeRok, messageId := none })

/-- Queue a response. -/
def respond (s : Session) (q : SmppQueuedPdu) : Session × List SubmitCall :=
  (s.addOutbound, [.addOutbound q])

/-- Put calls made before in front of a result. -/
def after (calls : List SubmitCall) (r : Result) : Result :=
  r.map (fun x => (x.1, calls ++ x.2))

/-- `smpp_queues_msg_set_dlr_url`. -/
def smppQueuesMsgSetDlrUrl (env : Env) (s : Session) (msg : Sms) : Option Sms :=
  s.esme.systemId.map (fun systemId =>
    { msg with dlrUrl := some (systemId ++ octstrImm "|" ++ octstrFormatLong env.time ++
        octstrImm "|" ++ smppUuidGet msg.id) })

/-! ## Callbacks left with the bearerbox -/

/-- `smpp_queues_callback_submit_sm` and `smpp_queues_callback_data_sm`, which differ in the
response they fill in. -/
def smCallback (s : Session) (q : SmppQueuedPdu) (status : Int) : Result :=
  if status ≠ smppEsmeRok then
    s.countError.map (fun s' => respond s' (setStatus status (setMessageId none q)))
  else
    s.countMt.map (fun s' => respond s' (setStatus status q))

def smppQueuesCallbackSubmitSm : Session → SmppQueuedPdu → Int → Result := smCallback

def smppQueuesCallbackDataSm : Session → SmppQueuedPdu → Int → Result := smCallback

/-! ## Routing callbacks -/

/-- The submit path sets the message id of the response and the `dlr_url` of the message again
once the router has answered; the data path does not. -/
def refresh (kind : SmKind) (env : Env) (s : Session) (q : SmppQueuedPdu) (msg : Sms) :
    Option (SmppQueuedPdu × Sms) :=
  match kind with
  | .submitSm =>
      (smppQueuesMsgSetDlrUrl env s msg).map (fun msg' =>
        ({ setMessageId (some (smppUuidGet msg.id)) q with msg := some msg' }, msg'))
  | .dataSm => some (q, msg)

/-- Store a message, or hand it to the bearerbox, once it is routed and paid for. -/
def acceptSm (kind : SmKind) (env : Env) (s : Session) (a : SmppEsmeGlobal) (q : SmppQueuedPdu)
    (msg : Sms) : Result :=
  (refresh kind env s q msg).bind (fun (q', msg') =>
    if a.databaseStorePrimary then
      after [.databaseAddMessage msg' env.inserted]
        (smCallback s { q' with msg := none } (if env.inserted then 0 else smppEsmeRsyserr))
    else
      some (s, [.bearerboxAddMessage msg' q']))

/-- Reject a message that was not routed, or not paid for. -/
def rejectSm (s : Session) (q : SmppQueuedPdu) (status : Int) : Result :=
  s.countError.map (fun s' =>
    respond s' (setStatus status (setMessageId none { q with msg := none })))

/-- Bill a message that goes to an SMSC. -/
def billSm (kind : SmKind) (env : Env) (s : Session) (q : SmppQueuedPdu) (msg : Sms)
    (cost : Rat) : Result :=
  s.account.bind (fun a =>
    if a.enablePrepaidBilling then
      after [.databaseDeductCredit s.esme.systemId cost]
        (if env.deducted then acceptSm kind env s a q msg
          else rejectSm s q smppEsmeRsubmitfail)
    else acceptSm kind env s a q msg)

/-- What both routing callbacks do with the answer of the router. -/
def smRoutingDone (kind : SmKind) (env : Env) (s : Session) (q : SmppQueuedPdu)
    (routeStatus : SmppRouteStatus) : Result :=
  let s' := s.routingDone
  q.msg.bind (fun msg =>
    if routeStatus.status = smppEsmeRok then
      billSm kind env s' q msg (routeStatus.parts * routeStatus.cost)
    else if octstrLen msg.smscId ≠ 0 then
      -- a default SMSC stands in for the missing route, at the default cost
      billSm kind env s' q msg (routeStatus.parts * s'.esme.defaultCost)
    else
      rejectSm s' q routeStatus.status)

def smppQueuesSubmitRoutingDone :
    Env → Session → SmppQueuedPdu → SmppRouteStatus → Result := smRoutingDone .submitSm

def smppQueuesDataSmRoutingDone :
    Env → Session → SmppQueuedPdu → SmppRouteStatus → Result := smRoutingDone .dataSm

/-! ## Handlers -/

/-- The checks on bind type and throughput that come before anything else. -/
def admitSm (kind : SmKind) (s : Session) (sequenceNumber : Int)
    (proceed : SmppEsmeGlobal → Result) : Result :=
  if s.esme.bindType &&& smppEsmeTransmit = 0 then
    some (respond s (setStatus smppEsmeRinvbndsts (createResponse kind s sequenceNumber)))
  else
    s.account.bind (fun a =>
      if a.throughput > 0 ∧ a.inboundLoad > a.throughput then
        some (respond s (setStatus smppEsmeRthrottled (createResponse kind s sequenceNumber)))
      else proceed a)

/-- The message with the session's default SMSC, if it has one. -/
def withDefaultSmsc (s : Session) (msg : Sms) : Sms :=
  if octstrLen s.esme.defaultSmsc ≠ 0 then { msg with smscId := s.esme.defaultSmsc } else msg

/-- What the conversion of the request gives: a message, or the reason why there is none; `none`
where it crashes. -/
abbrev Conversion := Option (Except Int Sms)

/-- Give a converted message to the router, or answer with the reason why there is none. -/
def forwardSm (kind : SmKind) (env : Env) (s : Session) (sequenceNumber : Int)
    (converted : Conversion) : Result :=
  match converted with
  | none => none
  | some (.error reason) =>
      some (respond s (setStatus reason (createResponse kind s sequenceNumber)))
  | some (.ok msg) =>
      (smppQueuesMsgSetDlrUrl env s (withDefaultSmsc s msg)).map (fun msg' =>
        let q := { setMessageId (some (smppUuidGet msg.id)) (createResponse kind s sequenceNumber)
          with msg := some msg' }
        (s.routingStarted, [.routeMessage msg' q]))

/-- `count % every == 0`, where zero means never. -/
def everyNth (every count : Nat) : Bool := every ≠ 0 && count % every = 0

/-- The text of a simulated receipt. -/
def simulatedReceipt (env : Env) (s : Session) (msg : Sms) : Octstr :=
  let failed := s.esme.simulateDlrFail
  octstrImm "id:" ++ smppUuidGet msg.id ++ octstrImm " sub:001 dlvrd:" ++
    octstrImm (if failed then "000" else "001") ++
    octstrImm " submit date:" ++ env.strftime msg.time ++
    octstrImm " done date:" ++ env.strftime env.time ++
    octstrImm " stat:" ++ octstrImm (if failed then "UNDELIV" else "DELIVRD") ++
    octstrImm " err:" ++ octstrImm (if failed then "001" else "000") ++
    octstrImm " text:" ++ msg.msgdata.getD []

/-- The deliver_sm of a simulated report or MO go to the simulation queue. -/
def simulateDelivery (env : Env) (s : Session) (msg : Sms) : Option (List SubmitCall) :=
  (env.msgToPdu msg).map (fun pdus => pdus.map (fun p =>
    .simulate { smppQueuedPduCreate with pdu := some p, systemId := s.esme.systemId }))

/-- The simulated report, if it is due: the message after it and the calls. -/
def simulateReport (env : Env) (s : Session) (msg : Sms) : Option (Sms × List SubmitCall) :=
  if everyNth s.esme.simulateDeliverEvery s.esme.inboundProcessed then
    let mask := if s.esme.simulateDlrFail then dlrFail else dlrSuccess
    (smppQueuesMsgSetDlrUrl env s { msg with smsType := smsTypeReportMo, dlrMask := mask }).bind
      (fun msg' =>
        (simulateDelivery env s { msg' with msgdata := some (simulatedReceipt env s msg) }).map
          (fun calls => (msg', calls)))
  else some (msg, [])

/-- The simulated MO, if it is due: sender and receiver change places. -/
def simulateMo (env : Env) (s : Session) (msg : Sms) : Option (List SubmitCall) :=
  if everyNth s.esme.simulateMoEvery s.esme.inboundProcessed then
    simulateDelivery env s
      { msg with smsType := smsTypeMo, receiver := msg.sender, sender := msg.receiver }
  else some []

/-- The branch of `smpp_queues_handle_submit_sm` for sessions that only simulate. -/
def simulateSubmitSm (env : Env) (s : Session) (sequenceNumber : Int)
    (converted : Conversion) : Result :=
  let q := createResponse .submitSm s sequenceNumber
  let count := s.esme.inboundProcessed
  if everyNth s.esme.simulateTemporaryFailureEvery count then
    s.countError.map (fun s' => respond s' (setStatus smppEsmeRmsgqful q))
  else if everyNth s.esme.simulatePermanentFailureEvery count then
    s.countError.map (fun s' => respond s' (setStatus smppEsmeRsubmitfail q))
  else
    match converted with
    | none => none
    | some (.error reason) => some (respond s (setStatus reason q))
    | some (.ok msg) =>
        let q' := setMessageId (some (smppUuidGet msg.id)) (setStatus smppEsmeRok q)
        s.countMt.bind (fun s' =>
          (simulateReport env s msg).bind (fun (msg', report) =>
            (simulateMo env s msg').map (fun mo =>
              -- a response that a report follows is queued before the report
              if everyNth s.esme.simulateDeliverEvery count then
                (s'.addOutbound, [.addOutbound q'] ++ report ++ mo)
              else
                (s'.addOutbound, report ++ mo ++ [.addOutbound q']))))

def smppQueuesHandleSubmitSm (env : Env) (s : Session) (sequenceNumber : Int)
    (converted : Conversion) : Result :=
  admitSm .submitSm s sequenceNumber (fun _ =>
    if s.esme.simulate then simulateSubmitSm env s sequenceNumber converted
    else forwardSm .submitSm env s sequenceNumber converted)

def smppQueuesHandleDataSm (env : Env) (s : Session) (sequenceNumber : Int)
    (converted : Conversion) : Result :=
  admitSm .dataSm s sequenceNumber (fun _ => forwardSm .dataSm env s sequenceNumber converted)

/-- The handler `smpp_queues_inbound_thread` calls for a request. -/
def handleSm : SmKind → Env → Session → Int → Conversion → Result
  | .submitSm => smppQueuesHandleSubmitSm
  | .dataSm => smppQueuesHandleDataSm

/-- The callback left with the router. -/
def routingDoneOf : SmKind → Env → Session → SmppQueuedPdu → SmppRouteStatus → Result
  | .submitSm => smppQueuesSubmitRoutingDone
  | .dataSm => smppQueuesDataSmRoutingDone

/-- The callback left with the bearerbox. -/
def callbackOf : SmKind → Session → SmppQueuedPdu → Int → Result
  | .submitSm => smppQueuesCallbackSubmitSm
  | .dataSm => smppQueuesCallbackDataSm

end Submit
end Ksmppd
