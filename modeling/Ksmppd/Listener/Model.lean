import Ksmppd.Lib.Loop
import Ksmppd.Pdu

/-!
# Listener — the read events of a session

`smpp_listener_event` reads PDUs from the connection of a session and queues them, until a read does
not give one.  A length that was read without the rest of its PDU is kept in `pending_len` for the
next event.
-/

namespace Ksmppd
namespace Listener

open Lib

/-! ## Kannel's side -/

/-- What Kannel makes of the octets: the length in the four octets before a PDU, where it takes
it, and the PDU in the octets after them. -/
structure Kannel where
  pduLen : Octstr → Option Nat
  /-- `smpp_pdu_unpack`; the vendor TLVs depend on the system id. -/
  unpack : Option Octstr → Octstr → Option SmppPdu
  /-- A shorter length than that of the header is invalid. -/
  minLen : ∀ os n, pduLen os = some n → 16 ≤ n

/-- What Kannel has got from the client and not yet handed out; `eof` is `conn_eof` or
`conn_error`. -/
structure Connection where
  inbuf : Octstr
  eof : Bool
  deriving DecidableEq, Repr

/-- `smpp_pdu_read_len`: -1 for an invalid length, 0 as long as there are not four octets. -/
def smppPduReadLen (kannel : Kannel) (conn : Connection) : Int × Connection :=
  if conn.inbuf.length < 4 then (0, conn)
  else
    let conn' := { conn with inbuf := conn.inbuf.drop 4 }
    match kannel.pduLen (conn.inbuf.take 4) with
    | none => (-1, conn')
    | some n => (n, conn')

/-- `smpp_pdu_read_data`: the PDU after its length, or nothing as long as it is not all there. -/
def smppPduReadData (conn : Connection) (len : Int) : Option Octstr × Connection :=
  if (conn.inbuf.length : Int) < len - 4 then (none, conn)
  else
    let n := (len - 4).toNat
    (some (conn.inbuf.take n), { conn with inbuf := conn.inbuf.drop n })

/-! ## Reading -/

/-- What `smpp_listener_read_pdu` returns, and leaves behind its pointers. -/
structure ReadPdu where
  result : Int
  conn : Option Connection
  len : Int
  pdu : Option SmppPdu
  deriving DecidableEq, Repr

/-- No data: the client may have gone. -/
def noData (conn : Connection) (len : Int) : ReadPdu where
  result := if conn.eof then -1 else 0
  conn := some conn
  len := len
  pdu := none

def readData (kannel : Kannel) (systemId : Option Octstr) (conn : Connection) (len : Int) :
    ReadPdu :=
  match smppPduReadData conn len with
  | (none, conn') => noData conn' len
  | (some os, conn') =>
      match kannel.unpack systemId os with
      -- the octets are used up all the same
      | none => { result := -2, conn := some conn', len := 0, pdu := none }
      | some pdu => { result := 1, conn := some conn', len := 0, pdu := some pdu }

def smppListenerReadPdu (kannel : Kannel) (systemId : Option Octstr) (conn : Option Connection)
    (len : Int) : ReadPdu :=
  match conn with
  | none => { result := -1, conn := none, len := len, pdu := none }
  | some c =>
      if len = 0 then
        let r := smppPduReadLen kannel c
        -- an invalid length
        if r.1 = -1 then { result := -2, conn := some r.2, len := 0, pdu := none }
        else if r.1 = 0 then noData r.2 0
        else readData kannel systemId r.2 r.1
      else readData kannel systemId c len

/-! ## Events -/

/-- What the listener reads and sets of a session, and its inbound PDUs. -/
structure ListenerState where
  esme : EsmeRef
  systemId : Option Octstr
  authenticated : Bool
  /-- The event is there as long as the session is connected. -/
  connected : Bool
  conn : Option Connection
  pendingLen : Int
  errors : Nat
  inboundQueued : Nat
  inboundQueue : List SmppQueuedPdu
  /-- How often `smpp_listener_auth_failed` was called for the address of the session. -/
  authFailed : Nat
  /-- The session is in the cleanup queue. -/
  cleanup : Bool
  deriving DecidableEq, Repr

def smppEsmeMaxConsecutiveErrors : Nat := 10

def ListenerState.read (kannel : Kannel) (s : ListenerState) : ReadPdu :=
  smppListenerReadPdu kannel s.systemId s.conn s.pendingLen

/-- The session after a read, which changes its connection and its `pending_len`. -/
def ListenerState.afterRead (s : ListenerState) (r : ReadPdu) : ListenerState :=
  { s with conn := r.conn, pendingLen := r.len }

/-- `smpp_queues_add_inbound` of a PDU that was read. -/
def ListenerState.addInbound (s : ListenerState) (pdu : Option SmppPdu) : ListenerState :=
  { s with
    errors := 0
    inboundQueued := s.inboundQueued + 1
    inboundQueue := s.inboundQueue ++
      [{ smppQueuedPduCreate with pdu := pdu, smppEsme := some s.esme }] }

/-- `smpp_esme_stop_listening`; before a bind nobody else would clean the session up. -/
def ListenerState.giveUp (s : ListenerState) : ListenerState :=
  if s.authenticated then { s with connected := false }
  else { s with connected := false, authFailed := s.authFailed + 1, cleanup := true }

/-- One round of the loop of `smpp_listener_event`; `none` where it ends. -/
def readRound (kannel : Kannel) (s : ListenerState) : Option ListenerState :=
  let r := s.read kannel
  if r.result > 0 then some ((s.afterRead r).addInbound r.pdu) else none

/-- What `smpp_listener_event` does after its loop, with the result of the read that ended it. -/
def afterLoop (s : ListenerState) (r : ReadPdu) : ListenerState :=
  let s' := s.afterRead r
  if r.result = 0 then s'
  -- the client is gone
  else if r.result = -1 then s'.giveUp
  else if r.result = -2 then
    let counted := { s' with errors := s'.errors + 1 }
    -- a client that sends nothing but errors
    if counted.errors ≥ smppEsmeMaxConsecutiveErrors then counted.giveUp else counted
  else s'

/-- The octets a session has not read. -/
def ListenerState.buffered (s : ListenerState) : Nat :=
  match s.conn with
  | none => 0
  | some c => c.inbuf.length

/-- `smpp_listener_event`; `none` if its loop had not ended. -/
def smppListenerEvent (kannel : Kannel) (read : Bool) (s : ListenerState) : Option ListenerState :=
  if read then
    (loop (readRound kannel) s.buffered s).map (fun t => afterLoop t (t.read kannel))
  else some s

/-- New octets from the client raise a read event, as long as the session is listened to. -/
def receive (kannel : Kannel) (s : ListenerState) (octets : Octstr) : Option ListenerState :=
  if s.connected then
    smppListenerEvent kannel true
      { s with conn := s.conn.map (fun c => { c with inbuf := c.inbuf ++ octets }) }
  else some s

def receiveAll (kannel : Kannel) : ListenerState → List Octstr → Option ListenerState
  | s, [] => some s
  | s, chunk :: chunks => (receive kannel s chunk).bind (fun t => receiveAll kannel t chunks)

/-- A session that a client has just connected to. -/
def listenerInit (esme : EsmeRef) (systemId : Option Octstr) (authenticated : Bool) :
    ListenerState where
  esme := esme
  systemId := systemId
  authenticated := authenticated
  connected := true
  conn := some { inbuf := [], eof := false }
  pendingLen := 0
  errors := 0
  inboundQueued := 0
  inboundQueue := []
  authFailed := 0
  cleanup := false

end Listener
end Ksmppd
