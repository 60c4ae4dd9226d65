import Ksmppd.Types

/-!
# Pdu — SMPP PDUs and the queued-PDU record

The PDUs the queues carry, with the fields the server reads or writes, and `SMPPQueuedPDU`.
Sessions and bearerbox connections are referred to by number, as the C code refers to them by
address.
-/

namespace Ksmppd

/-! ## PDUs -/

/-- Vendor TLVs, a dictionary from names to values. -/
abbrev Tlv := List (Octstr × Octstr)

structure SubmitSm where
  sequenceNumber : Int
  serviceType : Option Octstr
  sourceAddrTon : Int
  sourceAddrNpi : Int
  sourceAddr : Option Octstr
  destAddrTon : Int
  destAddrNpi : Int
  destinationAddr : Option Octstr
  esmClass : Int
  protocolId : Int
  priorityFlag : Int
  validityPeriod : Option Octstr
  registeredDelivery : Int
  dataCoding : Int
  smLength : Int
  shortMessage : Option Octstr
  messagePayload : Option Octstr
  sarMsgRefNum : Int
  sarSegmentSeqnum : Int
  sarTotalSegments : Int
  tlv : Tlv
  deriving DecidableEq, Repr

structure DataSm where
  sequenceNumber : Int
  serviceType : Option Octstr
  sourceAddrTon : Int
  sourceAddrNpi : Int
  sourceAddr : Option Octstr
  destAddrTon : Int
  destAddrNpi : Int
  destinationAddr : Option Octstr
  esmClass : Int
  registeredDelivery : Int
  dataCoding : Int
  messagePayload : Option Octstr
  sarMsgRefNum : Int
  sarSegmentSeqnum : Int
  sarTotalSegments : Int
  tlv : Tlv
  deriving DecidableEq, Repr

/-- `submit_sm_resp` and `data_sm_resp`. -/
structure SmResp where
  sequenceNumber : Int
  commandStatus : Int
  messageId : Option Octstr
  deriving DecidableEq, Repr

structure DeliverSm where
  sequenceNumber : Int
  esmClass : Int
  deriving DecidableEq, Repr

/-- The types of a bind, and with them those of its response. -/
inductive BindKind
  | transmitter
  | receiver
  | transceiver
  deriving DecidableEq, Repr

/-- `bind_transmitter`, `bind_receiver` and `bind_transceiver`; the password goes to the backend
only. -/
structure Bind where
  kind : BindKind
  sequenceNumber : Int
  systemId : Option Octstr
  interfaceVersion : Int
  deriving DecidableEq, Repr

structure BindResp where
  kind : BindKind
  sequenceNumber : Int
  commandStatus : Int
  systemId : Option Octstr
  deriving DecidableEq, Repr

inductive SmppPdu
  | submitSm (p : SubmitSm)
  | submitSmResp (p : SmResp)
  | dataSm (p : DataSm)
  | dataSmResp (p : SmResp)
  | deliverSm (p : DeliverSm)
  | deliverSmResp (sequenceNumber commandStatus : Int)
  | enquireLink (sequenceNumber : Int)
  | enquireLinkResp (sequenceNumber : Int)
  | unbind (sequenceNumber : Int)
  | unbindResp (sequenceNumber : Int)
  | bind (p : Bind)
  | bindResp (p : BindResp)
  /-- A type the server has no handler for. -/
  | other
  deriving DecidableEq, Repr

/-- The ESM class bits of a delivery receipt. -/
def isDlr (p : DeliverSm) : Bool :=
  decide (p.esmClass.toNat &&& (0x04 ||| 0x08 ||| 0x20) ≠ 0)

/-! ## Queued PDUs -/

/-- A session, by its address. -/
abbrev EsmeRef := Nat

/-- A bearerbox connection, by its address. -/
abbrev BearerboxRef := Nat

/-- The functions that are set as `smpp_queued_pdu->callback`; the context is always the queued
PDU itself. -/
inductive Callback
  | deliverSmResp
  | dbQueue
  | mysqlQueuedPdu
  | redisQueuedPdu
  deriving DecidableEq, Repr

structure SmppQueuedPdu where
  pdu : Option SmppPdu
  smppEsme : Option EsmeRef
  disconnect : Bool
  -- the decimal text of a sequence number; one number has one text
  id : Option Int
  systemId : Option Octstr
  callback : Option Callback
  timeSent : Int
  bearerbox : Option BearerboxRef
  bearerboxId : Option Octstr
  -- `smpp_server != NULL`; there is one server
  smppServer : Bool
  sequence : Int
  globalId : Nat
  msg : Option Sms
  fromDlrTable : Bool
  deriving DecidableEq, Repr

/-- `smpp_queued_pdu_create`. -/
def smppQueuedPduCreate : SmppQueuedPdu where
  pdu := none
  smppEsme := none
  disconnect := false
  id := none
  systemId := none
  callback := none
  timeSent := 0
  bearerbox := none
  bearerboxId := none
  smppServer := false
  sequence := 0
  globalId := 0
  msg := none
  fromDlrTable := false

/-- `smpp_queued_pdu_create_quick`, from the session's address and system id. -/
def smppQueuedPduCreateQuick (esme : EsmeRef) (systemId : Option Octstr) (pdu : SmppPdu) :
    SmppQueuedPdu :=
  { smppQueuedPduCreate with
    pdu := some pdu
    smppEsme := some esme
    systemId := systemId
    smppServer := true }

end Ksmppd
