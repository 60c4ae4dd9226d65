import Mathlib.Data.Rat.Defs
import Ksmppd.Lib.Keyed
import Ksmppd.Pdu

/-!
# Esme — sessions, accounts and the searches over them

The session record `SMPPEsme`, the account record `SMPPEsmeGlobal` with its list of binds, and
the functions of `smpp_esme.c` that enter a session and look sessions up.  `esmes` is keyed by
the `system_id` an account was entered under, octet by octet.
-/

namespace Ksmppd

open Lib

/-! ## Records -/

def smppEsmeTransmit : Nat := 1
def smppEsmeReceive : Nat := 2
def smppEsmeDefaultMaxOpenAcks : Int := 500

/-- `SMPPEsme`; its counters are numbers, `smppEsmeGlobal` is the account's key once it is set. -/
structure SmppEsme where
  id : EsmeRef
  systemId : Option Octstr
  authenticated : Bool
  connected : Bool
  pendingDisconnect : Bool
  timeLastPdu : Nat
  timeLastQueueProcess : Nat
  bindType : Nat
  version : Int
  maxOpenAcks : Int
  inboundQueued : Nat
  outboundQueued : Nat
  inboundProcessed : Nat
  pendingRouting : Nat
  sequenceNumber : Nat
  openAcks : Keyed SmppQueuedPdu.id
  altCharset : Option Octstr
  defaultSmsc : Option Octstr
  defaultCost : Rat
  simulate : Bool
  simulateDlrFail : Bool
  simulateDeliverEvery : Nat
  simulateMoEvery : Nat
  simulatePermanentFailureEvery : Nat
  simulateTemporaryFailureEvery : Nat
  mtCounter : Nat
  errorCounter : Nat
  smppEsmeGlobal : Option Octstr

/-- `smpp_esme_create`, with the id the listener gives the session. -/
def smppEsmeCreate (id : EsmeRef) : SmppEsme where
  id := id
  systemId := none
  authenticated := false
  connected := false
  pendingDisconnect := false
  timeLastPdu := 0
  timeLastQueueProcess := 0
  bindType := 0
  version := 0
  maxOpenAcks := smppEsmeDefaultMaxOpenAcks
  inboundQueued := 0
  outboundQueued := 0
  inboundProcessed := 0
  pendingRouting := 0
  sequenceNumber := 1
  openAcks := Keyed.empty
  altCharset := none
  defaultSmsc := none
  defaultCost := 0
  simulate := false
  simulateDlrFail := false
  simulateDeliverEvery := 0
  simulateMoEvery := 0
  simulatePermanentFailureEvery := 0
  simulateTemporaryFailureEvery := 0
  mtCounter := 0
  errorCounter := 0
  smppEsmeGlobal := none

/-- `SMPPEsmeGlobal`; `inboundLoad` is the reading of the load over the last second. -/
structure SmppEsmeGlobal where
  systemId : Octstr
  throughput : Rat
  inboundLoad : Rat
  binds : List EsmeRef
  maxBinds : Int
  enablePrepaidBilling : Bool
  databaseStorePrimary : Bool
  mtCounter : Nat
  errorCounter : Nat

/-- The settings of `SMPPServer` that the queues read. -/
structure SmppServer where
  databaseEnableQueue : Bool
  databaseStorePrimary : Bool
  waitAckAction : Int
  serverId : Option Octstr := none
  defaultMaxOpenAcks : Int := smppEsmeDefaultMaxOpenAcks
  deriving DecidableEq, Repr

/-- `SMPPEsmeData`, with the session records its pointers lead to. -/
structure SmppEsmeData where
  esmes : Keyed SmppEsmeGlobal.systemId
  sessions : Keyed SmppEsme.id

/-- `smpp_esme_init`. -/
def smppEsmeInit : SmppEsmeData where
  esmes := Keyed.empty
  sessions := Keyed.empty

/-- A session that may receive: connected and bound as receiver or transceiver. -/
def SmppEsme.receives (e : SmppEsme) : Bool :=
  e.connected && decide (e.bindType &&& smppEsmeReceive ≠ 0)

/-- `max_open_acks - dict_key_count(open_acks)`. -/
def SmppEsme.window (e : SmppEsme) : Int := e.maxOpenAcks - e.openAcks.entries.length

/-! ## Case -/

/-- `tolower` of the C locale. -/
def octetToLower (c : UInt8) : UInt8 := if 65 ≤ c ∧ c ≤ 90 then c + 32 else c

/-- `octstr_convert_range(os, 0, octstr_len(os), tolower)`. -/
def octstrToLower (os : Octstr) : Octstr := os.map octetToLower

/-! ## Entering a session -/

/-- `smpp_esme_global_create` for one system id. -/
def smppEsmeGlobalCreate (smppServer : SmppServer) (systemId : Octstr) : SmppEsmeGlobal where
  systemId := systemId
  throughput := 0
  inboundLoad := 0
  binds := []
  maxBinds := 0
  enablePrepaidBilling := false
  databaseStorePrimary := smppServer.databaseStorePrimary
  mtCounter := 0
  errorCounter := 0

/-- The account under a key, created where there is none. -/
def smppEsmeGlobalOf (smppServer : SmppServer) (data : SmppEsmeData) (key : Octstr) :
    SmppEsmeGlobal :=
  match data.esmes.find? key with
  | some smppGlobal => smppGlobal
  | none => smppEsmeGlobalCreate smppServer key

/-- `gwlist_produce(binds, smpp_esme)`. -/
def SmppEsmeGlobal.produceBind (g : SmppEsmeGlobal) (esme : EsmeRef) : SmppEsmeGlobal :=
  { g with binds := g.binds ++ [esme] }

/-- The session with its account set. -/
def SmppEsme.setGlobal (e : SmppEsme) (key : Octstr) : SmppEsme :=
  { e with smppEsmeGlobal := some key }

/-- `smpp_esme_global_add`; `none` is the crash on a session without a system id. -/
def smppEsmeGlobalAdd (smppServer : SmppServer) (data : SmppEsmeData) (smppEsme : SmppEsme) :
    Option SmppEsmeData :=
  match smppEsme.systemId with
  | none => none
  | some key =>
      let smppGlobal := smppEsmeGlobalOf smppServer data key
      some {
        esmes := data.esmes.put (smppGlobal.produceBind smppEsme.id)
        sessions := data.sessions.put (smppEsme.setGlobal key) }

/-- The binds of the account under a key. -/
def bindsOf (data : SmppEsmeData) (key : Octstr) : List EsmeRef :=
  match data.esmes.find? key with
  | some smppGlobal => smppGlobal.binds
  | none => []

/-- The session records behind a list of binds. -/
def sessionsOf (data : SmppEsmeData) (binds : List EsmeRef) : List SmppEsme :=
  binds.filterMap data.sessions.find?

/-! ## Looking a session up -/

/-- The binds `smpp_esme_find_best_receiver` goes through. -/
def bestReceiverBinds (data : SmppEsmeData) (systemId : Option Octstr) : List EsmeRef :=
  match systemId with
  | none => []
  | some os => if os.length = 0 then [] else bindsOf data (octstrToLower os)

/-- A receiver with room in its outbound queue and in its open acks. -/
def SmppEsme.hasRoom (e : SmppEsme) : Bool :=
  e.receives && decide (e.maxOpenAcks - e.outboundQueued > 0) && decide (e.window > 0)

/-- The better of the best session so far and the next option. -/
def betterReceiver (best : Option SmppEsme) (e : SmppEsme) : Option SmppEsme :=
  match best with
  | none => some e
  | some b =>
      if e.openAcks.entries.length < b.openAcks.entries.length then some e
      else if e.outboundQueued < b.outboundQueued then some e
      else some b

/-- `smpp_esme_find_best_receiver`. -/
def smppEsmeFindBestReceiver (data : SmppEsmeData) (systemId : Option Octstr) : Option SmppEsme :=
  ((sessionsOf data (bestReceiverBinds data systemId)).filter (·.hasRoom)).foldl
    betterReceiver none

/-- `SMPP_AUTH_DATABASE_STORE_PRIMARY_INHERIT`. -/
def smppAuthDatabaseStorePrimaryInherit : Int := -1

/-- `SMPPESMEAuthResult`, what an authentication backend answers; the defaults are those of
`smpp_esme_auth_result_create`. -/
structure SmppEsmeAuthResult where
  throughput : Rat := 0
  defaultSmsc : Option Octstr := none
  defaultCost : Rat := 0
  maxBinds : Int
  simulate : Bool := false
  simulateDlrFail : Bool := false
  simulateDeliverEvery : Nat := 0
  simulateMoEvery : Nat := 0
  simulatePermanentFailureEvery : Nat := 0
  simulateTemporaryFailureEvery : Nat := 0
  enablePrepaidBilling : Bool := false
  databaseStorePrimary : Int := smppAuthDatabaseStorePrimaryInherit
  altCharset : Option Octstr := none
  deriving DecidableEq, Repr

/-- The binds `smpp_esme_auth` counts against `max_binds`. -/
def authBinds (data : SmppEsmeData) (systemId : Octstr) : List EsmeRef :=
  bindsOf data (octstrToLower systemId)

/-- `smpp_esme_auth` after the backend has answered; `denied` says that the address of the client
is not among the allowed ones. -/
def smppEsmeAuth (data : SmppEsmeData) (systemId : Octstr) (denied : Bool)
    (authResult : Option SmppEsmeAuthResult) : Option SmppEsmeAuthResult :=
  match authResult with
  | none => none
  | some r =>
      if denied then none
      else if r.maxBinds > 0 ∧ ((authBinds data systemId).length : Int) ≥ r.maxBinds then none
      else some r

/-- A session `smpp_esme_global_get_readers` can hand PDUs to. -/
def SmppEsme.isReader (e : SmppEsme) : Bool := e.receives && decide (e.window > 0)

/-- The accounts `smpp_esme_global_get_readers` reads when the backend lists names: those listed
under exactly their key and with a session that can take a PDU. -/
def readerKeys (data : SmppEsmeData) (esmesWithQueued : List Octstr) : List Octstr :=
  esmesWithQueued.filter (fun systemId =>
    (data.esmes.entries.map SmppEsmeGlobal.systemId).contains systemId &&
      (sessionsOf data (bindsOf data systemId)).any (·.isReader))

/-- `smpp_esme_global_get_readers`. -/
def smppEsmeGlobalGetReaders (smppServer : SmppServer) (data : SmppEsmeData)
    (esmesWithQueued : List Octstr) (bestOnly : Bool) : List SmppEsme :=
  let keys := if smppServer.databaseEnableQueue then readerKeys data esmesWithQueued
    else data.esmes.entries.map SmppEsmeGlobal.systemId
  keys.flatMap (fun key =>
    let readers := (sessionsOf data (bindsOf data key)).filter (·.isReader)
    if bestOnly then readers.take 1 else readers)

/-! ## The unbind command -/

def httpOk : Int := 200
def httpNotFound : Int := 404
def httpNotAcceptable : Int := 406

structure SmppHttpCommandResult where
  status : Int
  result : Octstr
  deriving DecidableEq, Repr

/-- The binds of an account that `esme-unbind` disconnects: the one with the given bind id, or all
of them when no bind id is given. -/
def unbindTargets (data : SmppEsmeData) (systemId : Octstr) (bindId : Option Octstr) :
    List EsmeRef :=
  let binds := bindsOf data (octstrToLower systemId)
  match bindId with
  | none => binds
  | some os =>
      if os.length = 0 then binds
      else (binds.filter (fun (b : EsmeRef) => (b : Int) == atol os)).take 1

/-- The `unbind` for a session, under the session's next sequence number. -/
def unbindPdu (e : SmppEsme) : SmppQueuedPdu :=
  { smppQueuedPduCreateQuick e.id e.systemId (.unbind e.sequenceNumber) with disconnect := true }

/-- The session after a PDU under its next sequence number was queued. -/
def SmppEsme.queuedNext (e : SmppEsme) : SmppEsme :=
  { e with
    sequenceNumber := e.sequenceNumber + 1
    outboundQueued := e.outboundQueued + 1 }

@[simp] theorem unbindPdu_smppEsme (e : SmppEsme) : (unbindPdu e).smppEsme = some e.id := rfl

@[simp] theorem queuedNext_id (e : SmppEsme) : e.queuedNext.id = e.id := rfl

def sendUnbind (acc : SmppEsmeData × List SmppQueuedPdu) (esme : EsmeRef) :
    SmppEsmeData × List SmppQueuedPdu :=
  match acc.1.sessions.find? esme with
  | none => acc
  | some e =>
      ({ acc.1 with sessions := acc.1.sessions.put e.queuedNext }, acc.2 ++ [unbindPdu e])

/-- The text of a command's result in its content type. -/
def commandText (plain : Bool) (message : Octstr) : Octstr :=
  if plain then message ++ octstrImm "\n"
  else octstrImm "<status>" ++ message ++ octstrImm "</status>"

/-- `smpp_esme_unbind_command`: its result, the sessions after it, and the PDUs it queues. -/
def smppEsmeUnbindCommand (data : SmppEsmeData) (systemId bindId : Option Octstr) (plain : Bool) :
    SmppHttpCommandResult × SmppEsmeData × List SmppQueuedPdu :=
  match systemId with
  | none =>
      ({ status := httpNotAcceptable
         result := commandText plain (octstrImm "You must specify a 'system-id' parameter") },
        data, [])
  | some os =>
      if os.length = 0 then
        ({ status := httpNotAcceptable
           result := commandText plain (octstrImm "You must specify a 'system-id' parameter") },
          data, [])
      else if (data.esmes.find? (octstrToLower os)).isSome then
        let sent := (unbindTargets data os bindId).foldl sendUnbind (data, [])
        ({ status := httpOk
           result := commandText plain
             (octstrFormatLong sent.2.length ++ octstrImm " binds disconnected") },
          sent.1, sent.2)
      else
        ({ status := httpNotFound
           result := commandText plain (octstrImm "No such system-id '" ++ octstrToLower os ++
             octstrImm "' found") },
          data, [])

end Ksmppd
