import Ksmppd.Lib.Keyed
import Ksmppd.Lib.Pool
import Ksmppd.Routes.Model

/-!
# Rebuild — route tables that are rebuilt while messages are routed

The routes of the database are kept in memory: the inbound routes in one list, the outbound routes
in a list for each account that is filled at its first message.  A rebuild reads the inbound routes,
puts them in place of the old ones and drops all outbound lists.  Routing requests hold the lock for
reading from their first look at a list to the end of their callback.
-/

namespace Ksmppd
namespace Routes

open Lib
open Submit (SmppRouteStatus)

/-! ## Tables -/

/-- What `smpp_database_get_routes` makes of the rows there are, by direction and account. -/
abbrev RouteRows := Direction → Option Octstr → List SmppRoute

/-- A list of routes, with the step that has read it from the database. -/
structure RouteList where
  routes : List SmppRoute
  readAt : Nat

structure CachedRoutes where
  systemId : Octstr
  list : RouteList

/-- `SMPPRouting`, its two locks, and the database. -/
structure Routing where
  rows : RouteRows
  /-- The rows as every step up to now has found them. -/
  past : List RouteRows
  inboundRoutes : Option RouteList
  outboundRoutes : Option (Keyed CachedRoutes.systemId)
  /-- Who holds `lock` for reading, and whether it is held for writing. -/
  readers : Nat
  writing : Bool
  /-- `outbound_lock`, which is only taken for writing. -/
  outboundLocked : Bool

/-- The number of steps up to now. -/
def Routing.now (s : Routing) : Nat := s.past.length

def Routing.getRoutes (s : Routing) (direction : Direction) (service : Option Octstr) :
    RouteList where
  routes := s.rows direction service
  readAt := s.now

/-! ## Rebuilds -/

inductive RebuildPhase
  | called
  /-- The inbound routes were read, before the lock is taken. -/
  | read (list : RouteList)
  | locked (list : RouteList)
  | inboundSet
  | swapped
  | unlocked
  /-- The old lists are destroyed. -/
  | returned (returnedAt : Nat)

structure Rebuild where
  beganAt : Nat
  phase : RebuildPhase

/-- `smpp_route_rebuild_database`, one access after the other. -/
def smppRouteRebuildDatabase (s : Routing) (r : Rebuild) : Option (Routing × Rebuild) :=
  match r.phase with
  | .called => some (s, { r with phase := .read (s.getRoutes .inbound none) })
  | .read list =>
      -- `gw_rwlock_wrlock` waits for all requests under way
      if s.readers = 0 ∧ s.writing = false then
        some ({ s with writing := true }, { r with phase := .locked list })
      else none
  | .locked list => some ({ s with inboundRoutes := some list }, { r with phase := .inboundSet })
  | .inboundSet =>
      some ({ s with outboundRoutes := some Keyed.empty }, { r with phase := .swapped })
  | .swapped => some ({ s with writing := false }, { r with phase := .unlocked })
  | .unlocked => some (s, { r with phase := .returned s.now })
  | .returned _ => none

/-! ## Requests -/

inductive RequestPhase
  | called
  | reading
  | outboundLocked
  /-- The account has no list yet, and this one was read. -/
  | fetched (list : RouteList)
  /-- This is the list under the account. -/
  | cached (list : RouteList)
  /-- This is the list, if there is one, that the loop goes through. -/
  | chosen (list : Option RouteList)
  /-- The callback was called with this result; `none` is a crash. -/
  | decided (list : Option RouteList) (result : Option RouteResult)
  | returned (list : Option RouteList) (result : Option RouteResult)

structure Request where
  direction : Direction
  smscId : Option Octstr
  systemId : Option Octstr
  msg : Sms
  startedAt : Nat
  phase : RequestPhase

/-- The account of an outbound request. -/
def Request.account (q : Request) : Octstr := q.systemId.getD []

/-- What a request looks its message up in. -/
def Request.table (q : Request) : Option (Direction × Option Octstr) :=
  if q.direction = .outbound ∧ octstrLen q.systemId ≠ 0 then some (.outbound, some q.account)
  else if q.direction = .inbound ∧ octstrLen q.smscId ≠ 0 then some (.inbound, none)
  else none

/-- The routes of a list; `gwlist_len` of `NULL` is zero. -/
def routesOf (list : Option RouteList) : List SmppRoute :=
  match list with
  | some l => l.routes
  | none => []

/-- The decision by one list. -/
def Request.decideBy (smsSplit : Sms → Nat) (q : Request) (list : Option RouteList) :
    Option RouteResult :=
  smppRouteMessageDatabase smsSplit
    { inbound := routesOf list, outbound := fun _ => routesOf list }
    q.direction q.smscId q.systemId q.msg

/-- `smpp_route_message_database`, one access after the other. -/
def smppRouteMessageStep (smsSplit : Sms → Nat) (s : Routing) (q : Request) :
    Option (Routing × Request) :=
  match q.phase with
  | .called =>
      -- `gw_rwlock_rdlock`
      if s.writing = false then
        some ({ s with readers := s.readers + 1 }, { q with phase := .reading })
      else none
  | .reading =>
      match q.table with
      | some (.outbound, _) =>
          -- the cache may be changed, so one request at a time
          if s.outboundLocked = false then
            some ({ s with outboundLocked := true }, { q with phase := .outboundLocked })
          else none
      | some _ => some (s, { q with phase := .chosen s.inboundRoutes })
      | none => some (s, { q with phase := .chosen none })
  | .outboundLocked =>
      s.outboundRoutes.map (fun dict =>
        match dict.find? q.account with
        | some c => (s, { q with phase := .cached c.list })
        -- the first request of the account
        | none => (s, { q with phase := .fetched (s.getRoutes .outbound (some q.account)) }))
  | .fetched list =>
      s.outboundRoutes.map (fun dict =>
        let dict' := dict.put { systemId := q.account, list := list }
        ({ s with outboundRoutes := some dict' }, { q with phase := .cached list }))
  | .cached list =>
      some ({ s with outboundLocked := false }, { q with phase := .chosen (some list) })
  | .chosen list => some (s, { q with phase := .decided list (q.decideBy smsSplit list) })
  | .decided list result =>
      some ({ s with readers := s.readers - 1 }, { q with phase := .returned list result })
  | .returned _ _ => none

/-! ## The system -/

inductive Call
  | rebuild (r : Rebuild)
  | request (q : Request)
  /-- An edit of the route table, until it is made. -/
  | edit (rows : Option RouteRows)

inductive Args
  | rebuild
  | request (direction : Direction) (smscId systemId : Option Octstr) (msg : Sms)
  | edit (rows : RouteRows)

/-- No rebuild is under way. -/
def Call.isOver : Call → Bool
  | .rebuild ⟨_, .returned _⟩ => true
  | .rebuild _ => false
  | _ => true

/-- The one thread for HTTP commands makes the rebuilds one at a time. -/
def enterCall (p : Pool Routing Call) : Args → Option Call
  | .rebuild =>
      if p.calls.all Call.isOver then some (.rebuild { beganAt := p.shared.now, phase := .called })
      else none
  | .request direction smscId systemId msg =>
      some (.request {
        direction := direction
        smscId := smscId
        systemId := systemId
        msg := msg
        startedAt := p.shared.now
        phase := .called })
  | .edit rows => some (.edit (some rows))

def actCall (smsSplit : Sms → Nat) (s : Routing) : Call → Option (Routing × Call)
  | .rebuild r => (smppRouteRebuildDatabase s r).map (fun m => (m.1, .rebuild m.2))
  | .request q => (smppRouteMessageStep smsSplit s q).map (fun m => (m.1, .request m.2))
  | .edit (some rows) => some ({ s with rows := rows }, .edit none)
  | .edit none => none

/-- A step of a call, which becomes part of the past. -/
def advanceCall (smsSplit : Sms → Nat) (s : Routing) (c : Call) : Option (Routing × Call) :=
  (actCall smsSplit s c).map (fun m => ({ m.1 with past := s.past ++ [s.rows] }, m.2))

/-- `smpp_route_init`, before its first rebuild. -/
def routingInit (rows : RouteRows) : Pool Routing Call where
  shared := {
    rows := rows
    past := []
    inboundRoutes := none
    outboundRoutes := none
    readers := 0
    writing := false
    outboundLocked := false }
  calls := []

end Routes
end Ksmppd
