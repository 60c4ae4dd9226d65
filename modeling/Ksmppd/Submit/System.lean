import Ksmppd.PduUtil
import Ksmppd.Bearerbox.Model
import Ksmppd.Submit.Model

/-!
# System — requests, the router and the bearerbox threads together

The handlers, the router and the bearerbox threads of `Ksmppd.Bearerbox.Model` over one log.  A
request gets a number when it is consumed; the number follows it to the router, to the bearerbox
and back, and the log says for which request each call was made.
-/

namespace Ksmppd
namespace Submit

open Lib

/-! ## Data -/

structure Request where
  number : Nat
  kind : SmKind
  simulate : Bool
  deriving DecidableEq, Repr

/-- The callback left with the bearerbox, with its context. -/
inductive Context
  /-- `smpp_queues_callback_submit_sm` or `smpp_queues_callback_data_sm`. -/
  | response (request : Request) (q : SmppQueuedPdu)
  /-- `smpp_bearerbox_requeue_result`. -/
  | requeueResult
  deriving DecidableEq, Repr

inductive Event (n : Nat)
  | call (request : Request) (c : SubmitCall)
  | bearerbox (e : Bearerbox.Event n Context)
  deriving DecidableEq, Repr

structure SubmitState (n : Nat) where
  /-- How many requests were consumed so far. -/
  requests : Nat
  sessions : EsmeRef → Session
  /-- The messages the router has not answered for yet. -/
  routing : List (Request × EsmeRef × SmppQueuedPdu)
  bearerbox : Bearerbox.SmppBearerboxState n Context
  log : List (Event n)

variable {n : Nat}

def SubmitState.record (s : SubmitState n) (es : List (Event n)) : SubmitState n :=
  { s with log := s.log ++ es }

def SubmitState.setSession (s : SubmitState n) (esme : EsmeRef) (session : Session) :
    SubmitState n :=
  { s with sessions := Function.update s.sessions esme session }

def SubmitState.startRouting (s : SubmitState n) (request : Request) (esme : EsmeRef)
    (q : SmppQueuedPdu) : SubmitState n :=
  { s with routing := s.routing ++ [(request, esme, q)] }

/-! ## Callbacks of the bearerbox -/

/-- One event of the bearerbox threads: a callback that was called queues its response. -/
def SubmitState.deliver (s : SubmitState n) (e : Bearerbox.Event n Context) :
    Option (SubmitState n) :=
  let s' := s.record [.bearerbox e]
  match e with
  | .callback m status =>
      match m.context with
      | .response request q =>
          q.smppEsme.bind (fun esme =>
            (callbackOf request.kind (s'.sessions esme) q status).map (fun (session, calls) =>
              (s'.setSession esme session).record (calls.map (.call request))))
      | .requeueResult => some s'
  | _ => some s'

def SubmitState.deliverAll (s : SubmitState n) : List (Bearerbox.Event n Context) →
    Option (SubmitState n)
  | [] => some s
  | e :: es => (s.deliver e).bind (fun s' => s'.deliverAll es)

/-- Take over a step of the bearerbox threads, and move what it logged to the log of the system. -/
def SubmitState.absorb (s : SubmitState n) (b : Bearerbox.SmppBearerboxState n Context) :
    Option (SubmitState n) :=
  { s with bearerbox := { b with log := [] } }.deliverAll b.log

/-! ## Calls of the handlers -/

/-- Make one call for a request; `inserted` is the database's answer if
`smpp_bearerbox_add_message` asks it. -/
def SubmitState.make (s : SubmitState n) (request : Request) (esme : EsmeRef) (inserted : Bool)
    (c : SubmitCall) : Option (SubmitState n) :=
  let s' := s.record [.call request c]
  match c with
  | .routeMessage _ q => some (s'.startRouting request esme q)
  | .bearerboxAddMessage msg q =>
      s'.absorb
        (Bearerbox.smppBearerboxAddMessage s'.bearerbox msg (.response request q) inserted)
  | _ => some s'

def SubmitState.makeAll (s : SubmitState n) (request : Request) (esme : EsmeRef)
    (inserted : Bool) : List SubmitCall → Option (SubmitState n)
  | [] => some s
  | c :: calls =>
      (s.make request esme inserted c).bind (fun s' => s'.makeAll request esme inserted calls)

/-- Put the session a handler leaves in place and make its calls. -/
def SubmitState.finish (s : SubmitState n) (request : Request) (esme : EsmeRef) (inserted : Bool)
    (r : Result) : Option (SubmitState n) :=
  r.bind (fun (session, calls) => (s.setSession esme session).makeAll request esme inserted calls)

/-! ## Steps -/

inductive Label (n : Nat)
  /-- The inbound thread consumes a submit_sm or data_sm. -/
  | inbound (esme : EsmeRef) (pdu : SmppPdu) (kannel : Kannel) (env : Env) (inserted : Bool)
  /-- The router calls the callback of the message at position `i`. -/
  | routingDone (i : Nat) (routeStatus : SmppRouteStatus) (env : Env) (inserted : Bool)
  /-- The bearerbox threads take a step, or the drain of the queue table hands a message over. -/
  | bearerbox (l : Bearerbox.Label n Context)
  /-- Another thread changes a session or its account. -/
  | session (esme : EsmeRef) (session : Session)

/-- The messages the drain hands over are the only ones that no request hands over. -/
def drains : Bearerbox.Label n Context → Bool
  | .addMessage _ (.response _ _) _ => false
  | _ => true

/-- The next request of a session. -/
def SubmitState.newRequest (s : SubmitState n) (esme : EsmeRef) (kind : SmKind) : Request where
  number := s.requests
  kind := kind
  simulate := (s.sessions esme).esme.simulate

def step (s : SubmitState n) : Label n → Option (SubmitState n)
  | .inbound esme pdu kannel env inserted =>
      let session := s.sessions esme
      let s' := { s with requests := s.requests + 1 }
      match pdu with
      | .submitSm p =>
          s'.finish (s.newRequest esme .submitSm) esme inserted
            (smppQueuesHandleSubmitSm env session p.sequenceNumber
              (smppSubmitSmToMsg kannel session.esme p))
      | .dataSm p =>
          s'.finish (s.newRequest esme .dataSm) esme inserted
            (smppQueuesHandleDataSm env session p.sequenceNumber
              (smppDataSmToMsg kannel session.esme p))
      | _ => none
  | .routingDone i routeStatus env inserted =>
      match s.routing[i]? with
      | some (request, esme, q) =>
          { s with routing := s.routing.eraseIdx i }.finish request esme inserted
            (routingDoneOf request.kind env (s.sessions esme) q routeStatus)
      | none => none
  | .bearerbox l =>
      if drains l then (Bearerbox.step s.bearerbox l).bind s.absorb else none
  | .session esme session => some (s.setSession esme session)

def submitInit (databaseEnableQueue : Bool) (ids : Fin n → Option Octstr)
    (sessions : EsmeRef → Session) : SubmitState n where
  requests := 0
  sessions := sessions
  routing := []
  bearerbox := Bearerbox.smppBearerboxInit databaseEnableQueue ids
  log := []

end Submit
end Ksmppd
