import Mathlib.Data.List.Basic
import Ksmppd.Lib.Transition
import Ksmppd.Callbacks

/-!
# Delivery — deliver_sm from the queues to the sessions and back

The threads that deliver: the requeue thread, which takes PDUs from the PDU store, the bearerbox
threads, which split a message into parts, the outbound thread, which writes, the inbound thread,
which processes acks, and the cleanup thread, which lets acks expire and sessions go.  A queued
PDU waits in the `open_acks` of its session under its sequence number until its callback is run.
-/

namespace Ksmppd
namespace Delivery

open Lib

/-! ## Data -/

/-- A row of the PDU table or an entry of a PDU list, under the text of its `global_id`. -/
structure StoredPdu where
  globalId : Octstr
  systemId : Octstr
  pdu : DeliverSm
  deriving DecidableEq, Repr

/-- Where a message that is split into parts comes from. -/
inductive Origin
  | bearerbox (bearerbox : BearerboxRef) (id : Octstr)
  | stored (globalId : Nat)
  deriving DecidableEq, Repr

inductive Event
  /-- `get_stored_pdu` has taken a PDU. -/
  | took (globalId : Octstr)
  /-- A PDU with a callback was queued for a session. -/
  | queued (q : SmppQueuedPdu)
  /-- The outbound thread has sent a PDU to a session. -/
  | written (esme : EsmeRef) (id : Option Int)
  /-- The inbound thread has got a deliver_sm_resp from a session. -/
  | answered (esme : EsmeRef) (sequenceNumber commandStatus : Int)
  /-- The callback of a PDU was run and made these calls. -/
  | callback (q : SmppQueuedPdu) (status : Int) (calls : List Call)
  deriving DecidableEq, Repr

/-- The PDUs kept by the database, and the marks of those that are being delivered. -/
structure PduStore where
  rows : Keyed StoredPdu.globalId
  /-- The ids the store has given to PDUs. -/
  globalIds : List Octstr
  pendingPdu : List Octstr

structure DeliveryState where
  smppServer : SmppServer
  backend : Backend
  data : SmppEsmeData
  /-- The ids the listener has given to sessions. -/
  esmeIds : List EsmeRef
  cleanupQueue : List EsmeRef
  store : PduStore
  /-- The list `stored` of the requeue thread. -/
  stored : List SmppQueuedPdu
  outboundQueue : List SmppQueuedPdu
  log : List Event

def DeliveryState.record (s : DeliveryState) (es : List Event) : DeliveryState :=
  { s with log := s.log ++ es }

/-- Put a session record in place of the one with the same id. -/
def DeliveryState.setSession (s : DeliveryState) (e : SmppEsme) : DeliveryState :=
  { s with data := { s.data with sessions := s.data.sessions.put e } }

/-! ## Queueing -/

def SmppEsme.takeNumber (e : SmppEsme) : SmppEsme :=
  { e with sequenceNumber := e.sequenceNumber + 1 }

def SmppEsme.openAck (e : SmppEsme) (q : SmppQueuedPdu) : SmppEsme :=
  { e with openAcks := e.openAcks.put q }

def SmppEsme.closeAck (e : SmppEsme) (id : Option Int) : SmppEsme :=
  { e with openAcks := e.openAcks.remove id }

def SmppEsme.queueOne (e : SmppEsme) : SmppEsme :=
  { e with outboundQueued := e.outboundQueued + 1 }

/-- `counter_decrease`, which stops at zero. -/
def SmppEsme.unqueueOne (e : SmppEsme) : SmppEsme :=
  { e with outboundQueued := e.outboundQueued - 1 }

/-- A deliver_sm for a session, under the session's next sequence number. -/
def numberPdu (e : SmppEsme) (q : SmppQueuedPdu) : SmppQueuedPdu :=
  { q with
    smppEsme := some e.id
    id := some e.sequenceNumber
    pdu := q.pdu.map (fun p => match p with
      | .deliverSm d => .deliverSm { d with sequenceNumber := e.sequenceNumber }
      | _ => p) }

/-- Give a deliver_sm with a callback its number and `smpp_queues_add_outbound` it. -/
def DeliveryState.send (s : DeliveryState) (e : SmppEsme) (q : SmppQueuedPdu) : DeliveryState :=
  let q' := numberPdu e q
  { s.setSession (SmppEsme.queueOne (SmppEsme.openAck (SmppEsme.takeNumber e) q')) with
    outboundQueue := s.outboundQueue ++ [q']
    log := s.log ++ [.queued q'] }

/-- Send the parts of a message to one session. -/
def DeliveryState.sendAll (s : DeliveryState) (esme : EsmeRef) :
    List SmppQueuedPdu → Option DeliveryState
  | [] => some s
  | q :: qs =>
      match s.data.sessions.find? esme with
      | some e => (s.send e q).sendAll esme qs
      | none => none

/-- A part of a message, as the loops over `smpp_pdu_msg_to_pdu` create it. -/
def partPdu (origin : Origin) (systemId : Option Octstr) (p : DeliverSm) : SmppQueuedPdu :=
  let q := { smppQueuedPduCreate with
    pdu := some (.deliverSm p), systemId := systemId, callback := some .deliverSmResp }
  match origin with
  | .bearerbox b id => { q with bearerbox := some b, bearerboxId := some id }
  | .stored globalId => { q with smppServer := true, globalId := globalId }

/-! ## Callbacks -/

/-- What a call of a callback changes in the PDU store. -/
def applyCall (store : PduStore) : Call → PduStore
  | .removeStoredPdu (some globalId) => { store with rows := store.rows.remove globalId }
  | .pendingPduRemove (some globalId) =>
      { store with pendingPdu := store.pendingPdu.filter (fun g => g ≠ globalId) }
  | _ => store

/-- Run the callback of a queued PDU, if it has one. -/
def invoke (smppServer : SmppServer) (link : BearerboxLink) (q : SmppQueuedPdu) (status : Int) :
    Option (List Call) :=
  match q.callback with
  | none => some []
  | some cb => runCallback smppServer link q status cb

/-- Take over the calls the callback of `q` has made; `none` is its crash. -/
def DeliveryState.settle (s : DeliveryState) (q : SmppQueuedPdu) (status : Int)
    (calls : Option (List Call)) : Option DeliveryState :=
  calls.map (fun cs =>
    { s with store := cs.foldl applyCall s.store }.record [.callback q status cs])

/-- `smpp_esme_destroy_open_acks`: each open ack leaves its session and its callback is run. -/
def DeliveryState.destroyOpenAcks (s : DeliveryState) (esme : EsmeRef) (link : BearerboxLink) :
    List SmppQueuedPdu → Option DeliveryState
  | [] => some s
  | q :: qs =>
      match s.data.sessions.find? esme with
      | some e =>
          ((s.setSession (SmppEsme.closeAck e q.id)).settle q smppQueuedPduDestroyed
            (invoke s.smppServer link q smppQueuedPduDestroyed)).bind
              (fun s' => s'.destroyOpenAcks esme link qs)
      | none => none

/-- `smpp_esme_destroy`, once the open acks are gone. -/
def DeliveryState.removeSession (s : DeliveryState) (esme : EsmeRef) : DeliveryState :=
  { s with
    data := { s.data with sessions := s.data.sessions.remove esme }
    cleanupQueue := s.cleanupQueue.filter (fun r => r ≠ esme) }

/-! ## The PDU store -/

/-- A PDU as `get_stored_pdu` builds it from a row. -/
def storedPdu (backend : Backend) (service : Octstr) (row : StoredPdu) : SmppQueuedPdu :=
  { smppQueuedPduCreate with
    pdu := some (.deliverSm row.pdu)
    systemId := some service
    callback := some backend.queuedPduHandler
    bearerboxId := some row.globalId
    smppServer := true }

/-- A row is inserted under a new id. -/
def PduStore.add (store : PduStore) (row : StoredPdu) : PduStore :=
  { store with
    rows := store.rows.put row
    globalIds := row.globalId :: store.globalIds }

/-- A taken row is pending, and popped where the store is a list. -/
def PduStore.take (store : PduStore) (backend : Backend) (globalId : Octstr) : PduStore :=
  { store with
    rows := match backend with
      | .mysql => store.rows
      | .redis => store.rows.remove globalId
    pendingPdu := globalId :: store.pendingPdu }

def DeliveryState.take (s : DeliveryState) (service : Octstr) (row : StoredPdu) : DeliveryState :=
  { s with
    store := s.store.take s.backend row.globalId
    stored := s.stored ++ [storedPdu s.backend service row]
    log := s.log ++ [.took row.globalId] }

/-- Take rows of one account, as many as asked for and none that is pending. -/
def DeliveryState.takeAll (s : DeliveryState) (service : Octstr) : List Octstr → Option DeliveryState
  | [] => some s
  | globalId :: globalIds =>
      match s.store.rows.find? globalId with
      | none => none
      | some row =>
          if octstrToLower row.systemId = octstrToLower service ∧
              globalId ∉ s.store.pendingPdu then
            (s.take service row).takeAll service globalIds
          else none

/-! ## Steps -/

inductive Label
  /-- A session is bound and entered with `smpp_esme_global_add`. -/
  | bind (e : SmppEsme)
  /-- The connection of a session is lost. -/
  | disconnect (esme : EsmeRef)
  /-- The cleanup thread takes a session out of its account. -/
  | cleanup (esme : EsmeRef)
  /-- The cleanup thread destroys a session that has nothing queued. -/
  | destroy (esme : EsmeRef) (link : BearerboxLink)
  /-- `smpp_database_add_pdu`. -/
  | addPdu (row : StoredPdu)
  /-- `get_stored_pdu` for a session with room gives these PDUs. -/
  | getStoredPdu (esme : EsmeRef) (globalIds : List Octstr)
  /-- The requeue thread dispatches the next PDU it has taken. -/
  | dispatch (link : BearerboxLink)
  /-- A message is turned into parts for the best receiver of an account. -/
  | deliver (origin : Origin) (systemId : Option Octstr) (parts : List DeliverSm)
  /-- A PDU without callback is queued for a session. -/
  | addOutbound (esme : EsmeRef) (q : SmppQueuedPdu) (numbered : Bool)
  /-- The outbound thread handles the next PDU. -/
  | write
  /-- The inbound thread processes a deliver_sm_resp. -/
  | ack (esme : EsmeRef) (sequenceNumber commandStatus : Int) (link : BearerboxLink)
  /-- The cleanup thread finds that an ack has not come in time. -/
  | expire (esme : EsmeRef) (sequenceNumber : Int) (link : BearerboxLink)

/-- The account without a session. -/
def SmppEsmeGlobal.dropBind (g : SmppEsmeGlobal) (esme : EsmeRef) : SmppEsmeGlobal :=
  { g with binds := g.binds.filter (fun b => b ≠ esme) }

/-- The accounts, with a session taken out of the one it belongs to. -/
def dropBind (data : SmppEsmeData) (e : SmppEsme) : SmppEsmeData :=
  match e.smppEsmeGlobal.bind data.esmes.find? with
  | some g => { data with esmes := data.esmes.put (SmppEsmeGlobal.dropBind g e.id) }
  | none => data

def step (s : DeliveryState) : Label → Option DeliveryState
  | .bind e =>
      if e.id ∉ s.esmeIds ∧ e.openAcks.entries = [] then
        (smppEsmeGlobalAdd s.smppServer s.data e).map (fun data =>
          { s with data := data, esmeIds := e.id :: s.esmeIds })
      else none
  | .disconnect esme =>
      (s.data.sessions.find? esme).map (fun e => s.setSession { e with connected := false })
  | .cleanup esme =>
      (s.data.sessions.find? esme).map (fun e =>
        { s.setSession { e with connected := false } with
          data := dropBind (s.setSession { e with connected := false }).data e
          cleanupQueue := esme :: s.cleanupQueue })
  | .destroy esme link =>
      match s.data.sessions.find? esme with
      | some e =>
          if esme ∈ s.cleanupQueue ∧ e.outboundQueued + e.pendingRouting = 0 then
            (s.destroyOpenAcks esme link e.openAcks.entries).map (fun t => t.removeSession esme)
          else none
      | none => none
  | .addPdu row =>
      if row.globalId ∉ s.store.globalIds then some { s with store := s.store.add row } else none
  | .getStoredPdu esme globalIds =>
      match s.data.sessions.find? esme with
      | some e =>
          if e.isReader ∧ (globalIds.length : Int) ≤ e.window then
            e.systemId.bind (fun service => s.takeAll service globalIds)
          else none
      | none => none
  | .dispatch link =>
      match s.stored with
      | [] => none
      | q :: stored =>
          let s' := { s with stored := stored }
          match smppEsmeFindBestReceiver s.data q.systemId with
          | some e => some (s'.send e q)
          | none => s'.settle q smppEsmeRmsgqful (invoke s.smppServer link q smppEsmeRmsgqful)
  | .deliver origin systemId parts =>
      match smppEsmeFindBestReceiver s.data systemId with
      | some e => s.sendAll e.id (parts.map (partPdu origin e.systemId))
      | none => none
  | .addOutbound esme q numbered =>
      match s.data.sessions.find? esme with
      | some e =>
          if q.callback = none ∧ q.smppEsme = some esme then
            let e' := if numbered then SmppEsme.takeNumber e else e
            some { s.setSession (SmppEsme.queueOne e') with
              outboundQueue := s.outboundQueue ++ [q] }
          else none
      | none => none
  | .write =>
      match s.outboundQueue with
      | [] => none
      | q :: outboundQueue =>
          match q.smppEsme.bind s.data.sessions.find? with
          | some e =>
              let s' := { s.setSession (SmppEsme.unqueueOne e) with outboundQueue := outboundQueue }
              -- nothing is sent to a session that is no longer connected
              some (if e.connected then s'.record [.written e.id q.id] else s')
          | none => none
  | .ack esme sequenceNumber commandStatus link =>
      match s.data.sessions.find? esme with
      | some e =>
          let s' := s.record [.answered esme sequenceNumber commandStatus]
          match e.openAcks.find? (some sequenceNumber) with
          | some q =>
              (s'.setSession (SmppEsme.closeAck e (some sequenceNumber))).settle q commandStatus
                (invoke s.smppServer link q commandStatus)
          | none => some s'
      | none => none
  | .expire esme sequenceNumber link =>
      match s.data.sessions.find? esme with
      | some e =>
          match e.connected, e.openAcks.find? (some sequenceNumber) with
          | true, some q =>
              (s.setSession (SmppEsme.closeAck e (some sequenceNumber))).settle q
                smppEsmeCommandStatusWaitAckTimeout
                (invoke s.smppServer link { q with smppServer := true }
                  smppEsmeCommandStatusWaitAckTimeout)
          | _, _ => none
      | none => none

/-- The server before the first session is bound and the first PDU is stored. -/
def deliveryInit (smppServer : SmppServer) (backend : Backend) : DeliveryState where
  smppServer := smppServer
  backend := backend
  data := smppEsmeInit
  esmeIds := []
  cleanupQueue := []
  store := { rows := Keyed.empty, globalIds := [], pendingPdu := [] }
  stored := []
  outboundQueue := []
  log := []

/-- The ack step is `smpp_queues_process_ack`. -/
theorem processAck_eq (smppServer : SmppServer) (link : BearerboxLink) (e : SmppEsme)
    (sequenceNumber commandStatus : Int) :
    smppQueuesProcessAck smppServer link e sequenceNumber commandStatus =
      match e.openAcks.find? (some sequenceNumber) with
      | some q =>
          (SmppEsme.closeAck e (some sequenceNumber), invoke smppServer link q commandStatus)
      | none => (e, some []) := by
  unfold smppQueuesProcessAck
  cases e.openAcks.find? (some sequenceNumber) with
  | none => rfl
  | some q => rfl

end Delivery
end Ksmppd
