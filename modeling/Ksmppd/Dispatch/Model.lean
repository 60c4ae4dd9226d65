import Ksmppd.Delivery.Model

/-!
# Dispatch — from the five producers through `open_acks` to the wire

Every deliver_sm with a callback goes through `smpp_queues_add_outbound`: the parts of a report, of
a MO or of a stored message, the PDUs of the requeue thread, and simulated ones.  It stands in the
`open_acks` of its session from then on, with a `time_sent` that the outbound threads set and that
the cleanup thread looks at.  Here the clock, the PDU store with its times and the two accesses of
the cleanup thread are part of the state; what the callbacks do is taken from `Ksmppd.Callbacks`.
-/

namespace Ksmppd
namespace Dispatch

open Lib
open Delivery (StoredPdu PduStore Origin numberPdu partPdu invoke)

/-! ## Data -/

inductive Event
  /-- A PDU was put into the `open_acks` of its session; the flag says that one was under its key. -/
  | queued (q : SmppQueuedPdu) (collision : Bool)
  /-- An outbound thread has sent a PDU, with the `time_sent` it had set before. -/
  | sent (q : SmppQueuedPdu)
  deriving DecidableEq, Repr

/-- An open ack the cleanup thread looks at: the clock, and the `time_sent` it has read first. -/
structure Examined where
  esme : EsmeRef
  sequenceNumber : Int
  now : Int
  timeSent : Int
  deriving DecidableEq, Repr

def Examined.timediff (x : Examined) : Int := x.now - x.timeSent

/-- A message of the store or of the DLR table, as `smpp_esme_global_get_queued` gets it. -/
structure QueuedMsg where
  globalId : Nat
  fromDlrTable : Bool
  parts : List DeliverSm
  deriving DecidableEq, Repr

/-- What a callback is answered: the connection to the bearerbox, and the id under which the PDU
store takes a PDU. -/
structure Answers where
  link : BearerboxLink
  globalId : Option Octstr
  deriving DecidableEq, Repr

structure DispatchState where
  smppServer : SmppServer
  backend : Backend
  data : SmppEsmeData
  /-- The ids the listener has given to sessions. -/
  esmeIds : List EsmeRef
  cleanupQueue : List EsmeRef
  store : PduStore
  /-- The times stored with the PDUs. -/
  times : Octstr → Int
  /-- The list `stored` of the requeue thread. -/
  stored : List SmppQueuedPdu
  outboundQueue : List SmppQueuedPdu
  /-- What the outbound threads are about to send. -/
  sending : List SmppQueuedPdu
  /-- The open ack the cleanup thread is at. -/
  examined : Option Examined
  log : List Event

/-- `SMPP_ESME_WAIT_ACK_TIME`, the `wait_ack_time` of every session. -/
def smppEsmeWaitAckTime : Int := 60

def DispatchState.setSession (s : DispatchState) (e : SmppEsme) : DispatchState :=
  { s with data := { s.data with sessions := s.data.sessions.put e } }

/-! ## Queueing -/

/-- The session after a deliver_sm with a callback was numbered and queued for it. -/
def queueFor (e : SmppEsme) (q : SmppQueuedPdu) : SmppEsme :=
  { e with
    sequenceNumber := e.sequenceNumber + 1
    openAcks := e.openAcks.put q
    outboundQueued := e.outboundQueued + 1 }

/-- The session after another PDU was queued for it, with a number of its own or without. -/
def queuePlain (e : SmppEsme) (numbered : Bool) : SmppEsme :=
  { e with
    sequenceNumber := if numbered then e.sequenceNumber + 1 else e.sequenceNumber
    outboundQueued := e.outboundQueued + 1 }

def closeAck (e : SmppEsme) (id : Option Int) : SmppEsme :=
  { e with openAcks := e.openAcks.remove id }

/-- Give a deliver_sm with a callback its number and `smpp_queues_add_outbound` it. -/
def DispatchState.send (s : DispatchState) (e : SmppEsme) (q : SmppQueuedPdu) : DispatchState :=
  { s.setSession (queueFor e (numberPdu e q)) with
    outboundQueue := s.outboundQueue ++ [numberPdu e q]
    log := s.log ++ [.queued (numberPdu e q) (e.openAcks.find? (numberPdu e q).id).isSome] }

/-- Send PDUs one after the other to a session that was chosen once. -/
def DispatchState.sendAll (s : DispatchState) (esme : EsmeRef) :
    List SmppQueuedPdu → Option DispatchState
  | [] => some s
  | q :: qs =>
      match s.data.sessions.find? esme with
      | some e => (s.send e q).sendAll esme qs
      | none => none

/-- A PDU that `smpp_esme_global_get_queued` builds from a message, for one session. -/
def queuedMsgPdu (e : SmppEsme) (m : QueuedMsg) (p : DeliverSm) : SmppQueuedPdu :=
  { smppQueuedPduCreate with
    pdu := some (.deliverSm p)
    smppServer := true
    sequence := m.globalId
    fromDlrTable := m.fromDlrTable
    systemId := e.systemId
    bearerboxId := some (octstrFormatLong m.globalId)
    smppEsme := some e.id
    callback := some .dbQueue }

/-- A PDU of the simulation queue, as `smpp_queues_simulation_thread` finds it. -/
def simulationPdu (systemId : Option Octstr) (p : DeliverSm) : SmppQueuedPdu :=
  { smppQueuedPduCreate with
    pdu := some (.deliverSm p)
    systemId := systemId
    callback := some .deliverSmResp }

/-! ## The PDU store -/

/-- `smpp_database_add_pdu`, which stores the `time_sent` of the PDU with it. -/
def DispatchState.addPdu (s : DispatchState) (q : SmppQueuedPdu) (globalId : Option Octstr) :
    DispatchState :=
  match q.pdu, q.systemId, globalId with
  | some (.deliverSm p), some systemId, some g =>
      -- an id is only once in the store
      if g ∉ s.store.globalIds then
        { s with
          store := s.store.add { globalId := g, systemId := systemId, pdu := p }
          times := Function.update s.times g q.timeSent }
      else s
  | _, _, _ => s

/-- A PDU as `get_stored_pdu` builds it; only the Redis backend reads the time. -/
def fetchedPdu (s : DispatchState) (service : Octstr) (row : StoredPdu) : SmppQueuedPdu :=
  { Delivery.storedPdu s.backend service row with
    timeSent := match s.backend with
      | .mysql => 0
      | .redis => s.times row.globalId }

/-- Take a row that is not pending: what `get_stored_pdu` does for each row it returns. -/
def DispatchState.takeRow (s : DispatchState) (service : Octstr) (globalId : Octstr) :
    Option DispatchState :=
  match s.store.rows.find? globalId with
  | some row =>
      -- the query compares the service without regard to case
      if octstrToLower row.systemId = octstrToLower service ∧ globalId ∉ s.store.pendingPdu then
        some { s with
          store := s.store.take s.backend globalId
          stored := s.stored ++ [fetchedPdu s service row] }
      else none
  | none => none

def DispatchState.takeRows (s : DispatchState) (service : Octstr) :
    List Octstr → Option DispatchState
  | [] => some s
  | g :: gs => (s.takeRow service g).bind (fun s' => s'.takeRows service gs)

/-! ## Callbacks -/

def DispatchState.applyCall (answers : Answers) (s : DispatchState) : Call → DispatchState
  | .databaseAddPdu q => s.addPdu q answers.globalId
  | c => { s with store := Delivery.applyCall s.store c }

/-- Run the callback of a PDU; `none` is its crash. -/
def DispatchState.settle (s : DispatchState) (q : SmppQueuedPdu) (status : Int)
    (answers : Answers) : Option DispatchState :=
  (invoke s.smppServer answers.link q status).map (fun calls =>
    calls.foldl (DispatchState.applyCall answers) s)

/-- `smpp_esme_destroy_open_acks`. -/
def DispatchState.settleAll (s : DispatchState) (answers : Answers) :
    List SmppQueuedPdu → Option DispatchState
  | [] => some s
  | q :: qs =>
      (s.settle q smppQueuedPduDestroyed answers).bind (fun s' => s'.settleAll answers qs)

/-! ## Steps -/

inductive Label
  /-- A new session is bound. -/
  | bind (e : SmppEsme)
  /-- A bound session is bound once more. -/
  | rebind (esme : EsmeRef) (systemId : Octstr) (bindType : Nat)
  | disconnect (esme : EsmeRef)
  /-- The cleanup thread takes a session out of its account. -/
  | cleanup (esme : EsmeRef)
  /-- The cleanup thread destroys a session that has nothing queued. -/
  | destroy (esme : EsmeRef) (answers : Answers)
  /-- `smpp_esme_global_get_queued` gets these PDUs and these messages for a session with room. -/
  | getQueued (esme : EsmeRef) (globalIds : List Octstr) (msgs : List QueuedMsg)
  /-- The requeue thread dispatches the next PDU it has. -/
  | dispatch (answers : Answers)
  /-- A message is turned into parts for the best receiver of an account. -/
  | deliver (origin : Origin) (systemId : Option Octstr) (parts : List DeliverSm)
  /-- The simulation thread dispatches a PDU. -/
  | simulate (systemId : Option Octstr) (p : DeliverSm) (answers : Answers)
  /-- A PDU without callback is queued for a session. -/
  | addOutbound (esme : EsmeRef) (q : SmppQueuedPdu) (numbered : Bool)
  /-- An outbound thread takes the next PDU and sets its `time_sent`. -/
  | consume (now : Int)
  /-- An outbound thread sends what it has taken. -/
  | transmit (i : Nat)
  /-- The inbound thread processes a deliver_sm_resp. -/
  | ack (esme : EsmeRef) (sequenceNumber commandStatus : Int) (answers : Answers)
  /-- The cleanup thread reads the clock and the `time_sent` of an open ack. -/
  | examine (esme : EsmeRef) (sequenceNumber now : Int)
  /-- The cleanup thread looks at the `time_sent` again and expires the open ack, or leaves it. -/
  | decide (answers : Answers)

/-- The steps under `esme_data->lock`, which the cleanup thread holds all through its pass. -/
def takesLock : Label → Bool
  | .disconnect _ | .addOutbound _ _ _ | .consume _ | .transmit _ | .decide _ => false
  | _ => true

/-- A session as the listener and its bind leave it. -/
def isNew (s : DispatchState) (e : SmppEsme) : Prop :=
  e.id ∉ s.esmeIds ∧ e.openAcks.entries = [] ∧ e.sequenceNumber = 1 ∧
    e.maxOpenAcks = s.smppServer.defaultMaxOpenAcks

instance (s : DispatchState) (e : SmppEsme) : Decidable (isNew s e) :=
  inferInstanceAs (Decidable (e.id ∉ s.esmeIds ∧ e.openAcks.entries = [] ∧
    e.sequenceNumber = 1 ∧ e.maxOpenAcks = s.smppServer.defaultMaxOpenAcks))

/-- The entry with a new `time_sent`; the queue and the dictionary hold the same PDU. -/
def stampAck (e : SmppEsme) (id : Option Int) (now : Int) : SmppEsme :=
  match e.openAcks.find? id with
  | some q => { e with openAcks := e.openAcks.put { q with timeSent := now } }
  | none => e

/-- An outbound thread holds a PDU that it will send. -/
def DispatchState.hold (s : DispatchState) (q : SmppQueuedPdu) : DispatchState :=
  { s with sending := s.sending ++ [q] }

/-- The session after an outbound thread has taken one of its PDUs. -/
def unqueueOne (e : SmppEsme) : SmppEsme := { e with outboundQueued := e.outboundQueued - 1 }

/-- The PDUs of the messages `smpp_esme_global_get_queued` gets. -/
def msgPdus (e : SmppEsme) (msgs : List QueuedMsg) : List SmppQueuedPdu :=
  msgs.flatMap (fun m => m.parts.map (queuedMsgPdu e m))

/-- The best receiver of an account gets one PDU, if there is a receiver. -/
def DispatchState.dispatchOne (s : DispatchState) (systemId : Option Octstr)
    (pduFor : SmppEsme → SmppQueuedPdu) (refuse : DispatchState → Option DispatchState) :
    Option DispatchState :=
  match smppEsmeFindBestReceiver s.data systemId with
  | some e => s.sendAll e.id [pduFor e]
  | none => refuse s

/-- What the simulation thread does without a receiver. -/
def DispatchState.parkSimulated (s : DispatchState) (q : SmppQueuedPdu) (answers : Answers) :
    Option DispatchState :=
  if s.smppServer.databaseEnableQueue then
    if answers.globalId.isSome then
      (s.addPdu q answers.globalId).settle q smppEsmeCommandStatusQueued answers
    else s.settle q smppEsmeCommandStatusQueueError answers
  else s.settle q smppEsmeRdeliveryfailure answers

def act (s : DispatchState) : Label → Option DispatchState
  | .bind e =>
      if isNew s e then
        (smppEsmeGlobalAdd s.smppServer s.data e).map (fun data =>
          { s with data := data, esmeIds := e.id :: s.esmeIds })
      else none
  | .rebind esme systemId bindType =>
      (s.data.sessions.find? esme).bind (fun e =>
        -- nothing keeps a bound session from binding again
        (smppEsmeGlobalAdd s.smppServer s.data
            { e with systemId := some systemId, bindType := bindType }).map (fun data =>
          { s with data := data }))
  | .disconnect esme =>
      (s.data.sessions.find? esme).map (fun e => s.setSession { e with connected := false })
  | .cleanup esme =>
      (s.data.sessions.find? esme).map (fun e =>
        let s' := s.setSession { e with connected := false }
        { s' with
          data := Delivery.dropBind s'.data e
          cleanupQueue := esme :: s.cleanupQueue })
  | .destroy esme answers =>
      (s.data.sessions.find? esme).bind (fun e =>
        if esme ∈ s.cleanupQueue ∧
            e.inboundQueued + e.outboundQueued + e.pendingRouting = 0 then
          -- what is still open is settled first
          (s.settleAll answers e.openAcks.entries).map (fun t =>
            { t with
              data := { t.data with sessions := t.data.sessions.remove esme }
              cleanupQueue := t.cleanupQueue.filter (fun r => r ≠ esme) })
        else none)
  | .getQueued esme globalIds msgs =>
      (s.data.sessions.find? esme).bind (fun e =>
        -- the limit of the query is the window the session has now
        if e.isReader ∧ (globalIds.length : Int) ≤ e.window then
          e.systemId.bind (fun service =>
            (s.takeRows service globalIds).map (fun t =>
              { t with stored := t.stored ++ msgPdus e msgs }))
        else none)
  | .dispatch answers =>
      match s.stored with
      | [] => none
      | q :: stored =>
          { s with stored := stored }.dispatchOne q.systemId (fun _ => q)
            -- there is no receiver with room any more
            (fun s' => s'.settle q smppEsmeRmsgqful answers)
  | .deliver origin systemId parts =>
      (smppEsmeFindBestReceiver s.data systemId).bind (fun e =>
        -- all parts go to the receiver that was found for the first
        s.sendAll e.id (parts.map (partPdu origin e.systemId)))
  | .simulate systemId p answers =>
      s.dispatchOne systemId
        (fun e => { simulationPdu systemId p with sequence := e.sequenceNumber })
        (fun s' => s'.parkSimulated (simulationPdu systemId p) answers)
  | .addOutbound esme q numbered =>
      (s.data.sessions.find? esme).bind (fun e =>
        if q.callback = none ∧ q.smppEsme = some esme then
          some { s.setSession (queuePlain e numbered) with
            outboundQueue := s.outboundQueue ++ [q] }
        else none)
  | .consume now =>
      match s.outboundQueue with
      | [] => none
      | q :: outboundQueue =>
          (q.smppEsme.bind s.data.sessions.find?).map (fun e =>
            let e' := unqueueOne e
            let s' := { s with outboundQueue := outboundQueue }
            if e.connected then
              if q.callback.isSome then
                -- `time_sent` is set before the PDU is transmitted
                (s'.setSession (stampAck e' q.id now)).hold { q with timeSent := now }
              else (s'.setSession e').hold q
            -- nothing is sent to a session that is no longer connected
            else s'.setSession e')
  | .transmit i =>
      (s.sending[i]?).map (fun q =>
        { s with
          sending := s.sending.eraseIdx i
          log := s.log ++ [.sent q] })
  | .ack esme sequenceNumber commandStatus answers =>
      (s.data.sessions.find? esme).bind (fun e =>
        match e.openAcks.find? (some sequenceNumber) with
        | some q =>
            (s.setSession (closeAck e (some sequenceNumber))).settle q commandStatus answers
        -- a response to nothing that waits
        | none => some s)
  | .examine esme sequenceNumber now =>
      (s.data.sessions.find? esme).bind (fun e =>
        match e.connected, e.openAcks.find? (some sequenceNumber) with
        | true, some q =>
            -- the first of the two accesses
            some { s with examined := some ⟨esme, sequenceNumber, now, q.timeSent⟩ }
        | _, _ => none)
  | .decide answers =>
      s.examined.bind (fun x =>
        let s' := { s with examined := none }
        (s.data.sessions.find? x.esme).bind (fun e =>
          match e.openAcks.find? (some x.sequenceNumber) with
          | some q =>
              -- the second access
              if 0 < q.timeSent ∧ x.timediff > smppEsmeWaitAckTime then
                (s'.setSession (closeAck e (some x.sequenceNumber))).settle
                  { q with smppServer := true } smppEsmeCommandStatusWaitAckTimeout answers
              else some s'
          | none => some s'))

def step (s : DispatchState) (l : Label) : Option DispatchState :=
  if takesLock l ∧ s.examined.isSome then none else act s l

/-- The server before the first session is bound; the PDU store may be that of an earlier run. -/
def dispatchInit (smppServer : SmppServer) (backend : Backend) (store : PduStore)
    (times : Octstr → Int) : DispatchState where
  smppServer := smppServer
  backend := backend
  data := smppEsmeInit
  esmeIds := []
  cleanupQueue := []
  store := store
  times := times
  stored := []
  outboundQueue := []
  sending := []
  examined := none
  log := []

end Dispatch
end Ksmppd
