import Ksmppd.Esme

/-!
# Callbacks — what becomes of a queued PDU

The callbacks a queued `deliver_sm` can carry, and `smpp_queues_process_ack`, which hands the
status of a `deliver_sm_resp` to one of them.  A callback is modelled by the list of calls it
makes, in order; `none` is the crash on a `NULL` pointer.
-/

namespace Ksmppd

open Lib

/-! ## Databases -/

/-- Where the database keeps its queues: in tables, where a row stays until it is deleted, or in
lists, where an entry is gone once it is popped. -/
inductive Backend
  | mysql
  | redis
  deriving DecidableEq, Repr

/-- The callback of a PDU taken from the PDU store. -/
def Backend.queuedPduHandler : Backend → Callback
  | .mysql => .mysqlQueuedPdu
  | .redis => .redisQueuedPdu

/-! ## Calls -/

inductive Call
  -- the `dlr_counter` or `mo_counter` of the session and of its account
  | countDelivery (esme : EsmeRef) (dlr : Bool)
  | bearerboxAcknowledge (bearerbox : BearerboxRef) (id : Octstr) (status : Int) (sent : Bool)
  | databaseRemove (globalId : Nat) (temporary : Bool)
  | databaseRemoveDlr (globalId : Nat)
  | databaseAddPdu (q : SmppQueuedPdu)
  | removeStoredPdu (globalId : Option Octstr)
  | pendingPduRemove (globalId : Option Octstr)
  | esmeDisconnect (esme : EsmeRef)
  | queuedPduDestroy
  deriving DecidableEq, Repr

/-- The bearerbox connection at the moment of an acknowledgement: whether it is up, and whether
`deliver_to_bearerbox_real` can write to it. -/
structure BearerboxLink where
  alive : Bool
  written : Bool
  deriving DecidableEq, Repr

/-- `smpp_bearerbox_acknowledge`. -/
def smppBearerboxAcknowledge (link : BearerboxLink) (bearerbox : Option BearerboxRef)
    (id : Option Octstr) (status : Int) : Option (List Call) :=
  if octstrLen id = 0 then
    -- nothing to acknowledge: an error is logged
    some []
  else
    match bearerbox, id with
    | some b, some os => some [.bearerboxAcknowledge b os status (link.alive && link.written)]
    | _, _ => none

/-- `smpp_database_remove` through the server pointer of a queued PDU. -/
def smppDatabaseRemove (q : SmppQueuedPdu) (globalId : Nat) (temporary : Bool) :
    Option (List Call) :=
  if q.smppServer then some [.databaseRemove globalId temporary] else none

/-- The counters of an accepted `deliver_sm`. -/
def countDelivery (q : SmppQueuedPdu) : Option (List Call) :=
  match q.pdu with
  | some (.deliverSm p) =>
      match q.smppEsme with
      | some esme => some [.countDelivery esme (isDlr p)]
      | none => none
  | _ => some []

/-! ## The callback of live and stored MO -/

/-- Tell the origin of the message that it is done with: the bearerbox it came from, or the
store. -/
def settleOrigin (link : BearerboxLink) (q : SmppQueuedPdu) : Option (List Call) :=
  if q.bearerbox.isSome ∧ q.bearerboxId.isSome then
    smppBearerboxAcknowledge link q.bearerbox q.bearerboxId ackSuccess
  else if q.globalId > 0 then
    smppDatabaseRemove q q.globalId false
  else some []

/-- `smpp_esme_disconnect` after an ack that never came. -/
def disconnectEsme (q : SmppQueuedPdu) : Option (List Call) :=
  match q.pdu, q.smppEsme with
  | some _, some esme => some [.esmeDisconnect esme]
  | _, _ => none

/-- What `smpp_queues_callback_deliver_sm_resp` does before it destroys the queued PDU. -/
def deliverSmRespReaction (smppServer : SmppServer) (link : BearerboxLink) (q : SmppQueuedPdu)
    (status : Int) : Option (List Call) :=
  if status = smppEsmeRok then
    (countDelivery q).bind (fun counted => (settleOrigin link q).map (counted ++ ·))
  else if status = smppEsmeCommandStatusQueued then
    settleOrigin link q
  else if status = smppEsmeCommandStatusWaitAckTimeout then
    if q.smppServer then
      if smppServer.waitAckAction = smppWaitackDisconnect then
        let acked := if q.bearerbox.isSome ∧ q.bearerboxId.isSome then
            smppBearerboxAcknowledge link q.bearerbox q.bearerboxId ackFailedTmp
          else some []
        acked.bind (fun calls => (disconnectEsme q).map (calls ++ ·))
      else if smppServer.waitAckAction = smppWaitackDrop then
        settleOrigin link q
      else some []
    else none
  else if status = smppQueuedPduDestroyed then
    smppBearerboxAcknowledge link q.bearerbox q.bearerboxId ackFailedTmp
  else some []

def smppQueuesCallbackDeliverSmResp (smppServer : SmppServer) (link : BearerboxLink)
    (q : SmppQueuedPdu) (status : Int) : Option (List Call) :=
  (deliverSmRespReaction smppServer link q status).map (· ++ [.queuedPduDestroy])

/-! ## The callbacks of stored rows -/

/-- `smpp_database_remove_dlr` or `smpp_database_remove`, by the table the row came from. -/
def removeSource (q : SmppQueuedPdu) : Call :=
  if q.fromDlrTable then .databaseRemoveDlr q.sequence.toNat
  else .databaseRemove q.sequence.toNat false

/-- `smpp_esme_db_queue_callback`. -/
def smppEsmeDbQueueCallback (q : SmppQueuedPdu) (status : Int) : Option (List Call) :=
  if q.smppServer then
    if status = smppEsmeRok ∨ status = smppEsmeCommandStatusQueued then
      let counted := if status = smppEsmeRok ∧ q.smppEsme.isSome then countDelivery q else some []
      counted.map (· ++ [removeSource q, .queuedPduDestroy])
    else
      -- the PDU moves to the PDU table, so that it is not built again
      some [.databaseAddPdu q, removeSource q, .queuedPduDestroy]
  else none

/-- `smpp_database_mysql_queued_pdu_handler`. -/
def smppDatabaseMysqlQueuedPduHandler (q : SmppQueuedPdu) (status : Int) : Option (List Call) :=
  if q.smppServer then
    if status ≠ smppQueuedPduDestroyed ∧ status ≠ smppEsmeCommandStatusWaitAckTimeout then
      some [.removeStoredPdu q.bearerboxId, .pendingPduRemove q.bearerboxId, .queuedPduDestroy]
    else
      some [.pendingPduRemove q.bearerboxId, .queuedPduDestroy]
  else some []

/-- `smpp_database_redis_queued_pdu_handler`; the entry left its list when it was popped. -/
def smppDatabaseRedisQueuedPduHandler (q : SmppQueuedPdu) (_status : Int) : Option (List Call) :=
  if q.smppServer then some [.pendingPduRemove q.bearerboxId, .queuedPduDestroy] else some []

/-- `smpp_queued_pdu->callback(smpp_queued_pdu, status)`. -/
def runCallback (smppServer : SmppServer) (link : BearerboxLink) (q : SmppQueuedPdu)
    (status : Int) : Callback → Option (List Call)
  | .deliverSmResp => smppQueuesCallbackDeliverSmResp smppServer link q status
  | .dbQueue => smppEsmeDbQueueCallback q status
  | .mysqlQueuedPdu => smppDatabaseMysqlQueuedPduHandler q status
  | .redisQueuedPdu => smppDatabaseRedisQueuedPduHandler q status

/-! ## Acks -/

/-- `smpp_queues_process_ack`: the session after it, and the calls of the callback. -/
def smppQueuesProcessAck (smppServer : SmppServer) (link : BearerboxLink) (smppEsme : SmppEsme)
    (sequenceNumber commandStatus : Int) : SmppEsme × Option (List Call) :=
  match smppEsme.openAcks.find? (some sequenceNumber) with
  | none => (smppEsme, some [])
  | some q =>
      ({ smppEsme with openAcks := smppEsme.openAcks.remove (some sequenceNumber) },
        match q.callback with
        | none => some []
        | some cb => runCallback smppServer link q commandStatus cb)

end Ksmppd
