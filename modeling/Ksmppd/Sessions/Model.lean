import Ksmppd.Bearerbox.Model
import Ksmppd.Callbacks
import Ksmppd.PduUtil
import Ksmppd.Submit.OneResponse

/-!
# Sessions — connections from accept to destruction

What the listener, the inbound and outbound queue threads, the router, the bearerbox threads and
the cleanup thread do with the sessions.  A session is entered under an account by the bind
handler, leaves it through the cleanup queue, and is destroyed there once its counters say that
nothing is left in the queues.

The inbound threads hold a read lock while they handle a PDU and the cleanup thread a write lock
during a pass; the listener and the outbound threads hold neither.
-/

namespace Ksmppd
namespace Sessions

open Lib
open Submit (SmKind Session SubmitCall Env SmppRouteStatus handleSm routingDoneOf callbackOf
  responsesOf routesOf handoversOf)

def smppEsmeCleanupQueueDelay : Nat := 10
def smppEsmeDefaultEnquireLinkInterval : Nat := 120

/-! ## Sessions and accounts -/

/-- A session record with the account it points to. -/
def sessionOf (data : SmppEsmeData) (e : SmppEsme) : Session where
  esme := e
  account := e.smppEsmeGlobal.bind data.esmes.find?

def putSession (data : SmppEsmeData) (s : Session) : SmppEsmeData where
  esmes := match s.account with
    | some a => data.esmes.put a
    | none => data.esmes
  sessions := data.sessions.put s.esme

def putEsme (data : SmppEsmeData) (e : SmppEsme) : SmppEsmeData :=
  { data with sessions := data.sessions.put e }

/-- All binds of all accounts. -/
def allBinds (data : SmppEsmeData) : List EsmeRef :=
  data.esmes.entries.flatMap SmppEsmeGlobal.binds

/-! ## Binding -/

def bindTypeOf : BindKind → Nat
  | .transmitter => smppEsmeTransmit
  | .receiver => smppEsmeReceive
  | .transceiver => smppEsmeTransmit ||| smppEsmeReceive

/-- The session after a bind was accepted. -/
def authenticate (e : SmppEsme) (p : Bind) : SmppEsme :=
  { e with
    bindType := bindTypeOf p.kind
    authenticated := true
    systemId := p.systemId
    version := p.interfaceVersion }

/-- `smpp_esme_effective_database_store_primary`. -/
def smppEsmeEffectiveDatabaseStorePrimary (smppServer : SmppServer) (r : SmppEsmeAuthResult) :
    Bool :=
  if r.databaseStorePrimary ≠ smppAuthDatabaseStorePrimaryInherit then
    decide (r.databaseStorePrimary ≠ 0)
  else smppServer.databaseStorePrimary

/-- What the bind handler takes over into the session; simulation is never turned off again. -/
def configureEsme (r : SmppEsmeAuthResult) (e : SmppEsme) : SmppEsme :=
  { e with
    defaultSmsc := if octstrLen r.defaultSmsc ≠ 0 then r.defaultSmsc else e.defaultSmsc
    altCharset := if octstrLen r.altCharset ≠ 0 then r.altCharset else e.altCharset
    defaultCost := r.defaultCost
    simulate := if r.simulate then true else e.simulate
    simulateDlrFail := if r.simulate then r.simulateDlrFail else e.simulateDlrFail
    simulateDeliverEvery := if r.simulate then r.simulateDeliverEvery else e.simulateDeliverEvery
    simulateMoEvery := if r.simulate then r.simulateMoEvery else e.simulateMoEvery
    simulatePermanentFailureEvery :=
      if r.simulate then r.simulatePermanentFailureEvery else e.simulatePermanentFailureEvery
    simulateTemporaryFailureEvery :=
      if r.simulate then r.simulateTemporaryFailureEvery else e.simulateTemporaryFailureEvery }

/-- And what into the account. -/
def configureGlobal (smppServer : SmppServer) (r : SmppEsmeAuthResult) (g : SmppEsmeGlobal) :
    SmppEsmeGlobal :=
  { g with
    throughput := r.throughput
    maxBinds := r.maxBinds
    enablePrepaidBilling := r.enablePrepaidBilling
    databaseStorePrimary := smppEsmeEffectiveDatabaseStorePrimary smppServer r }

/-- The session after `smpp_queues_add_outbound` of a PDU without callback. -/
def queued (e : SmppEsme) : SmppEsme := { e with outboundQueued := e.outboundQueued + 1 }

/-- The response to a bind; one that refuses it disconnects the session. -/
def bindResp (esme : EsmeRef) (p : Bind) (commandStatus : Int) (systemId : Option Octstr) :
    SmppQueuedPdu :=
  { smppQueuedPduCreate with
    pdu := some (.bindResp
      { kind := p.kind
        sequenceNumber := p.sequenceNumber
        commandStatus := commandStatus
        systemId := systemId })
    smppEsme := some esme
    disconnect := decide (commandStatus ≠ smppEsmeRok) }

/-- `smpp_queues_handle_bind_pdu` once `smpp_esme_auth` has answered: the sessions and accounts
after it, and the response. -/
def smppQueuesHandleBindPdu (smppServer : SmppServer) (data : SmppEsmeData) (e : SmppEsme)
    (p : Bind) (authResult : Option SmppEsmeAuthResult) : Option (SmppEsmeData × SmppQueuedPdu) :=
  match authResult, p.systemId with
  -- refused: the session is to be disconnected once the response is written
  | none, _ =>
      some (putEsme data (queued { e with pendingDisconnect := true }),
        bindResp e.id p smppEsmeRbindfail none)
  -- `smpp_esme_global_add` under a `NULL` system id
  | some _, none => none
  -- the session is registered under the system id as the client has typed it
  | some r, some key =>
      (smppEsmeGlobalAdd smppServer data (authenticate e p)).map (fun data' =>
        ({ esmes := data'.esmes.put
             (configureGlobal smppServer r (smppEsmeGlobalOf smppServer data' key))
           sessions := data'.sessions.put
             (queued (configureEsme r ((authenticate e p).setGlobal key))) },
          bindResp e.id p smppEsmeRok smppServer.serverId))

/-! ## The other PDUs -/

/-- `smpp_esme_outbound_load_increase`: it needs the account, whose load it increases. -/
def smppEsmeOutboundLoadIncrease (s : Session) : Option Session := s.account.map (fun _ => s)

/-- What handling a PDU has led to: the session after it, the calls of a handler, and those of the
callback of a queued PDU. -/
structure Handled where
  session : Session
  calls : List SubmitCall
  settled : List Call

/-- Queue a response that no text goes with. -/
def answer (s : Session) (pdu : SmppPdu) (disconnect : Bool) : Handled where
  session := s.addOutbound
  calls := [.addOutbound { smppQueuedPduCreate with
    pdu := some pdu, smppEsme := some s.esme.id, disconnect := disconnect }]
  settled := []

def ofSubmit (r : Submit.Result) : Option Handled :=
  r.map (fun (session, calls) => { session := session, calls := calls, settled := [] })

/-- The switch of `smpp_queues_inbound_thread`, binds apart; `none` is the crash on a `NULL`
pointer. -/
def handlePdu (smppServer : SmppServer) (link : BearerboxLink) (kannel : Kannel) (env : Env)
    (s : Session) : SmppPdu → Option Handled
  | .enquireLink sequenceNumber => some (answer s (.enquireLinkResp sequenceNumber) false)
  | .unbind sequenceNumber => some (answer s (.unbindResp sequenceNumber) true)
  | .submitSm p =>
      ofSubmit (handleSm .submitSm env s p.sequenceNumber (smppSubmitSmToMsg kannel s.esme p))
  | .dataSm p =>
      ofSubmit (handleSm .dataSm env s p.sequenceNumber (smppDataSmToMsg kannel s.esme p))
  -- the load is counted before the open ack is looked for
  | .deliverSmResp sequenceNumber commandStatus =>
      (smppEsmeOutboundLoadIncrease s).bind (fun s' =>
        let acked := smppQueuesProcessAck smppServer link s'.esme sequenceNumber commandStatus
        acked.2.map (fun calls =>
          { session := { s' with esme := acked.1 }, calls := [], settled := calls }))
  -- unsupported, or a bind
  | _ => some { session := s, calls := [], settled := [] }

/-! ## State -/

/-- The callback a message was handed to the bearerbox with, and its context. -/
inductive Waiting
  | response (kind : SmKind) (q : SmppQueuedPdu)
  /-- `smpp_bearerbox_requeue_result`. -/
  | requeueResult
  deriving DecidableEq, Repr

/-- An inbound thread between `smpp_esme_auth` and the rest of the bind handler. -/
structure Binding where
  esme : EsmeRef
  pdu : Bind
  authResult : Option SmppEsmeAuthResult
  deriving DecidableEq, Repr

structure ServerState (n : Nat) where
  smppServer : SmppServer
  /-- `time(NULL)`. -/
  now : Nat
  data : SmppEsmeData
  esmeCounter : Nat
  cleanupQueue : List EsmeRef
  inboundQueue : List (EsmeRef × SmppPdu)
  outboundQueue : List SmppQueuedPdu
  binding : List Binding
  /-- The responses left with the router. -/
  routing : List (SmKind × SmppQueuedPdu)
  bearerbox : Bearerbox.SmppBearerboxState n Waiting
  /-- The cleanup thread holds its write lock. -/
  cleaning : Bool
  /-- The sessions `smpp_esme_destroy` was called for, one by one. -/
  destroyed : List EsmeRef

variable {n : Nat}

def ServerState.find? (s : ServerState n) (esme : EsmeRef) : Option SmppEsme :=
  s.data.sessions.find? esme

def ServerState.put (s : ServerState n) (e : SmppEsme) : ServerState n :=
  { s with data := putEsme s.data e }

/-- `gwlist_append_unique`. -/
def gwlistAppendUnique (l : List EsmeRef) (esme : EsmeRef) : List EsmeRef :=
  if esme ∈ l then l else l ++ [esme]

/-- `smpp_esme_stop_listening`. -/
def ServerState.stopListening (s : ServerState n) (e : SmppEsme) : ServerState n :=
  s.put { e with connected := false }

/-- `smpp_esme_cleanup`. -/
def ServerState.cleanup (s : ServerState n) (e : SmppEsme) : ServerState n :=
  { s.stopListening e with cleanupQueue := gwlistAppendUnique s.cleanupQueue e.id }

/-- How the listener and the outbound threads end a connection: one that is not authenticated is
in no list of binds, where the cleanup thread would find it. -/
def ServerState.hangUp (s : ServerState n) (e : SmppEsme) : ServerState n :=
  if e.authenticated then s.stopListening e else s.cleanup e

/-- The callback of a queued PDU asks for `smpp_esme_disconnect`. -/
def ServerState.settle (s : ServerState n) : Call → ServerState n
  | .esmeDisconnect esme =>
      match s.find? esme with
      | some e => s.stopListening e
      | none => s
  | _ => s

/-! ## Calls -/

/-- Put the session a handler leaves in place; queue its responses, and leave its questions with
the router. -/
def ServerState.make (s : ServerState n) (kind : SmKind) (session : Session)
    (calls : List SubmitCall) : ServerState n :=
  { s with
    data := putSession s.data session
    outboundQueue := s.outboundQueue ++ responsesOf calls
    routing := s.routing ++ (routesOf calls).map (fun r => (kind, r.2)) }

/-- A callback the bearerbox threads have called queues its response. -/
def ServerState.deliver (s : ServerState n) : Bearerbox.Event n Waiting → Option (ServerState n)
  | .callback m status =>
      match m.context with
      | .response kind q =>
          q.smppEsme.bind (fun esme => (s.find? esme).bind (fun e =>
            (callbackOf kind (sessionOf s.data e) q status).map (fun (session, calls) =>
              s.make kind session calls)))
      | .requeueResult => some s
  | _ => some s

def ServerState.deliverAll (s : ServerState n) : List (Bearerbox.Event n Waiting) →
    Option (ServerState n)
  | [] => some s
  | e :: es => (s.deliver e).bind (fun s' => s'.deliverAll es)

/-- Take over a step of the bearerbox threads. -/
def ServerState.absorb (s : ServerState n) (b : Bearerbox.SmppBearerboxState n Waiting) :
    Option (ServerState n) :=
  { s with bearerbox := { b with log := [] } }.deliverAll b.log

/-- Hand messages to the bearerbox; `inserted` is the database's answer if it is asked. -/
def ServerState.handOver (s : ServerState n) (kind : SmKind) (inserted : Bool) :
    List (Sms × SmppQueuedPdu) → Option (ServerState n)
  | [] => some s
  | (msg, q) :: rest =>
      (s.absorb (Bearerbox.smppBearerboxAddMessage s.bearerbox msg (.response kind q)
        inserted)).bind (fun s' => s'.handOver kind inserted rest)

/-- Make the calls of a handler. -/
def ServerState.finish (s : ServerState n) (kind : SmKind) (inserted : Bool)
    (r : Submit.Result) : Option (ServerState n) :=
  r.bind (fun (session, calls) =>
    (s.make kind session calls).handOver kind inserted (handoversOf calls))

/-! ## Steps -/

inductive Label (n : Nat)
  /-- `smpp_listener_connection_callback`. -/
  | accept
  /-- The listener reads a PDU. -/
  | receive (esme : EsmeRef) (pdu : SmppPdu)
  /-- The listener finds a connection closed or its peer sending garbage. -/
  | hangUp (esme : EsmeRef)
  /-- An inbound thread handles the PDU at position `i` of its queue, which is no bind. -/
  | inbound (i : Nat) (link : BearerboxLink) (kannel : Kannel) (env : Env) (inserted : Bool)
  /-- An inbound thread consumes a bind and calls `smpp_esme_auth`. -/
  | bindCheck (i : Nat) (denied : Bool) (authResult : Option SmppEsmeAuthResult)
  /-- The rest of the bind handler. -/
  | bindFinish (i : Nat)
  /-- The router calls the callback left with it at position `i`. -/
  | routingDone (i : Nat) (routeStatus : SmppRouteStatus) (env : Env) (inserted : Bool)
  | bearerbox (l : Bearerbox.Label n Waiting)
  /-- Some thread queues a PDU of the server's own for a session. -/
  | addOutbound (esme : EsmeRef) (q : SmppQueuedPdu)
  /-- An outbound thread takes the PDU at position `i` of its queue. -/
  | outbound (i : Nat)
  /-- `smpp_esme_disconnect`, after an ack that never came. -/
  | disconnect (esme : EsmeRef)
  /-- The cleanup thread takes its lock, or gives it back. -/
  | passBegin
  | passEnd
  /-- The cleanup thread takes bind `j` of an account out, which is gone or silent. -/
  | sweep (key : Octstr) (j : Nat)
  /-- The cleanup thread destroys a session of the cleanup queue. -/
  | destroy (esme : EsmeRef)
  | tick (seconds : Nat)
  /-- `smpp_esme_shutdown`. -/
  | shutdown

/-- No callback but that of the drain comes from outside. -/
def drains : Bearerbox.Label n Waiting → Bool
  | .addMessage _ (.response _ _) _ => false
  | _ => true

/-- The session once an inbound thread has taken a PDU of it. -/
def consumed (now : Nat) (e : SmppEsme) : SmppEsme :=
  { e with
    timeLastPdu := now
    timeLastQueueProcess := now
    inboundQueued := e.inboundQueued - 1
    inboundProcessed := e.inboundProcessed + 1 }

/-- The session once an outbound thread has taken a PDU for it. -/
def dequeued (now : Nat) (e : SmppEsme) : SmppEsme :=
  { e with timeLastQueueProcess := now, outboundQueued := e.outboundQueued - 1 }

/-- A session the listener accepts. -/
def accepted (smppServer : SmppServer) (id : EsmeRef) : SmppEsme :=
  { smppEsmeCreate id with connected := true, maxOpenAcks := smppServer.defaultMaxOpenAcks }

/-- The session after a PDU of the server's own was queued for it. -/
def numbered (q : SmppQueuedPdu) (e : SmppEsme) : SmppEsme :=
  { e.queuedNext with openAcks := if q.callback.isSome then e.openAcks.put q else e.openAcks }

/-- The bind is gone, or has been silent for three enquire-link intervals. -/
def expired (now : Nat) (e : SmppEsme) : Bool :=
  !e.connected ||
    decide (now - e.timeLastPdu > smppEsmeDefaultEnquireLinkInterval ∧
      (now - e.timeLastPdu) / smppEsmeDefaultEnquireLinkInterval > 2)

/-- The cleanup thread may destroy the session. -/
def destroyable (now : Nat) (e : SmppEsme) : Bool :=
  decide (e.inboundQueued + e.outboundQueued + e.pendingRouting = 0 ∧
    now - e.timeLastQueueProcess > smppEsmeCleanupQueueDelay)

/-- The account without its bind at position `j`. -/
def withoutBind (g : SmppEsmeGlobal) (j : Nat) : SmppEsmeGlobal :=
  { g with binds := g.binds.eraseIdx j }

def ServerState.inbound (s : ServerState n) (i : Nat) (link : BearerboxLink) (kannel : Kannel)
    (env : Env) (inserted : Bool) (esme : EsmeRef) (pdu : SmppPdu) : Option (ServerState n) :=
  (s.find? esme).bind (fun e =>
    let kind := match pdu with
      | .dataSm _ => SmKind.dataSm
      | _ => SmKind.submitSm
    (handlePdu s.smppServer link kannel env (sessionOf s.data (consumed s.now e)) pdu).bind
      (fun h =>
        ({ s with inboundQueue := s.inboundQueue.eraseIdx i }.finish kind inserted
          (some (h.session, h.calls))).map (fun s' => h.settled.foldl ServerState.settle s')))

def step (s : ServerState n) : Label n → Option (ServerState n)
  | .accept =>
      some { s.put (accepted s.smppServer s.esmeCounter) with esmeCounter := s.esmeCounter + 1 }
  | .receive esme pdu =>
      (s.find? esme).map (fun e =>
        { s.put { e with inboundQueued := e.inboundQueued + 1 } with
          inboundQueue := s.inboundQueue ++ [(esme, pdu)] })
  | .hangUp esme => (s.find? esme).map s.hangUp
  -- an inbound thread holds a read lock while it handles a PDU
  | .inbound i link kannel env inserted =>
      if s.cleaning then none
      else
        match s.inboundQueue[i]? with
        | some (_, .bind _) => none
        | some (esme, pdu) => s.inbound i link kannel env inserted esme pdu
        | none => none
  | .bindCheck i denied authResult =>
      if s.cleaning then none
      else
        match s.inboundQueue[i]? with
        | some (esme, .bind p) =>
            -- the account is looked up here, and the session is registered in a later step
            (s.find? esme).map (fun e =>
              { s.put (consumed s.now e) with
                inboundQueue := s.inboundQueue.eraseIdx i
                binding := s.binding ++ [{
                  esme := esme
                  pdu := p
                  authResult := smppEsmeAuth s.data (p.systemId.getD []) denied authResult }] })
        | _ => none
  | .bindFinish i =>
      match s.binding[i]? with
      | some b =>
          (s.find? b.esme).bind (fun e =>
            (smppQueuesHandleBindPdu s.smppServer s.data e b.pdu b.authResult).map
              (fun (data, q) =>
                { s with
                  data := data
                  outboundQueue := s.outboundQueue ++ [q]
                  binding := s.binding.eraseIdx i }))
      | none => none
  | .routingDone i routeStatus env inserted =>
      match s.routing[i]? with
      | some (kind, q) =>
          q.smppEsme.bind (fun esme => (s.find? esme).bind (fun e =>
            { s with routing := s.routing.eraseIdx i }.finish kind inserted
              (routingDoneOf kind env (sessionOf s.data e) q routeStatus)))
      | none => none
  | .bearerbox l =>
      if drains l then (Bearerbox.step s.bearerbox l).bind s.absorb else none
  | .addOutbound esme q =>
      if q.smppEsme = some esme then
        (s.find? esme).map (fun e =>
          { s.put (numbered q e) with outboundQueue := s.outboundQueue ++ [q] })
      else none
  | .outbound i =>
      match s.outboundQueue[i]? with
      | some q =>
          q.smppEsme.bind (fun esme => (s.find? esme).map (fun e =>
            let s' := { s with outboundQueue := s.outboundQueue.eraseIdx i }
            -- a PDU for a closed connection is dropped, whatever it asks for
            if e.connected && q.disconnect then s'.hangUp (dequeued s.now e)
            else s'.put (dequeued s.now e)))
      | none => none
  | .disconnect esme => (s.find? esme).map s.stopListening
  -- the write lock waits for the bind handlers, which hold the read lock
  | .passBegin => if s.cleaning ∨ s.binding ≠ [] then none else some { s with cleaning := true }
  | .passEnd => if s.cleaning then some { s with cleaning := false } else none
  | .sweep key j =>
      if s.cleaning then
        (s.data.esmes.find? key).bind (fun g => (g.binds[j]?).bind (fun esme =>
          (s.find? esme).bind (fun e =>
            if expired s.now e then
              some ({ s with data :=
                { s.data with esmes := s.data.esmes.put (withoutBind g j) } }.cleanup e)
            else none)))
      else none
  | .destroy esme =>
      if s.cleaning ∧ esme ∈ s.cleanupQueue then
        (s.find? esme).bind (fun e =>
          if destroyable s.now e then
            some { s with
              data := { s.data with sessions := s.data.sessions.remove esme }
              cleanupQueue := s.cleanupQueue.erase esme
              destroyed := s.destroyed ++ [esme] }
          else none)
      else none
  | .tick seconds => some { s with now := s.now + seconds }
  | .shutdown =>
      if s.cleaning ∨ s.binding ≠ [] then none
      else
        some { s with
          data :=
            { esmes := Keyed.empty
              sessions := (allBinds s.data ++ s.cleanupQueue).foldl Keyed.remove s.data.sessions }
          cleanupQueue := []
          destroyed := s.destroyed ++ allBinds s.data ++ s.cleanupQueue }

def serverInit (smppServer : SmppServer) (ids : Fin n → Option Octstr) : ServerState n where
  smppServer := smppServer
  now := 0
  data := smppEsmeInit
  esmeCounter := 0
  cleanupQueue := []
  inboundQueue := []
  outboundQueue := []
  binding := []
  routing := []
  bearerbox := Bearerbox.smppBearerboxInit smppServer.databaseEnableQueue ids
  cleaning := false
  destroyed := []

/-! ## A small server -/

def sampleSettings : SmppServer :=
  { databaseEnableQueue := true, databaseStorePrimary := false, waitAckAction := 0 }

def sampleBind (systemId : Octstr) : Bind where
  kind := .transceiver
  sequenceNumber := 1
  systemId := some systemId
  interfaceVersion := 52

/-- No bearerbox is configured. -/
def sampleServer : ServerState 0 := serverInit sampleSettings (fun _ => none)

end Sessions
end Ksmppd
