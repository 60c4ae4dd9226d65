import Ksmppd.Submit.Model
import Ksmppd.Text

/-!
# Routes — what the router leaves of a message

`smpp_route_message` gives a message to the routing method of the configuration: the routes of the
database, an HTTP router, or a plugin.  The callback then finds the message as the method left it,
because both hold the same one, and the status the method filled in.
-/

namespace Ksmppd
namespace Routes

open Submit (SmppRouteStatus)

/-! ## Data -/

/-- `direction` of a request or of a route. -/
inductive Direction
  | unknown
  | outbound
  | inbound
  deriving DecidableEq, Repr

/-- `SMPPRoute`; a compiled expression is the test it makes. -/
structure SmppRoute where
  regex : Octstr → Bool
  systemId : Option Octstr
  smscId : Option Octstr
  cost : Rat
  sourceRegex : Option (Octstr → Bool)

/-- The lists `smpp_route_message_database` finds under the lock. -/
structure RouteTables where
  inbound : List SmppRoute
  /-- The list of an account, from the cache or from the database. -/
  outbound : Octstr → List SmppRoute

/-- What the callback of a routing request finds: the message and its status. -/
abbrev RouteResult := Sms × SmppRouteStatus

/-- `smpp_route_status_create`; `smsSplit` is the number of parts `sms_split` makes. -/
def smppRouteStatusCreate (smsSplit : Sms → Nat) (msg : Sms) : SmppRouteStatus where
  status := smppEsmeRinvdstadr
  parts := if msg.msgdata.isSome then (smsSplit msg : Int) else 1
  cost := 0

/-! ## Routes of the database -/

/-- `gw_regex_match_pre`, which does not take `NULL`. -/
def gwRegexMatchPre (regex : Octstr → Bool) (os : Option Octstr) : Option Bool := os.map regex

/-- The loop over a list of routes: the route it stops at, and the status it has set by then. -/
def findRoute (applies : SmppRoute → Bool) (msg : Sms) :
    List SmppRoute → Int → Option (Option SmppRoute × Int)
  | [], status => some (none, status)
  | route :: routes, status =>
      if applies route then
        (gwRegexMatchPre route.regex msg.receiver).bind (fun found =>
          if found then
            match route.sourceRegex with
            | some sourceRegex =>
                (gwRegexMatchPre sourceRegex msg.sender).bind (fun found' =>
                  if found' then some (some route, status)
                  -- the receiver matched and the sender was declined: the search goes on
                  else findRoute applies msg routes smppEsmeRinvsrcadr)
            | none => some (some route, status)
          else findRoute applies msg routes status)
      else findRoute applies msg routes status

/-- What is done with the route the loop stopped at. -/
def withRoute (set : SmppRoute → Sms → Sms) (msg : Sms) (routeStatus : SmppRouteStatus) :
    Option SmppRoute × Int → RouteResult
  | (some route, _) =>
      (set route msg, { routeStatus with status := smppEsmeRok, cost := route.cost })
  | (none, status) => (msg, { routeStatus with status := status })

/-- A route of the database for one SMSC is for no other. -/
def appliesTo (smscId : Option Octstr) (route : SmppRoute) : Bool :=
  octstrLen route.smscId = 0 ||
    decide (octstrToLower (route.smscId.getD []) = octstrToLower (smscId.getD []))

/-- `smpp_route_message_database`; `none` is the crash on a missing sender or receiver. -/
def smppRouteMessageDatabase (smsSplit : Sms → Nat) (tables : RouteTables) (direction : Direction)
    (smscId systemId : Option Octstr) (msg : Sms) : Option RouteResult :=
  let routeStatus := smppRouteStatusCreate smsSplit msg
  if direction = .outbound ∧ octstrLen systemId ≠ 0 then
    (findRoute (fun _ => true) msg (tables.outbound (systemId.getD [])) routeStatus.status).map
      (withRoute (fun route m => { m with smscId := route.smscId }) msg routeStatus)
  else if direction = .inbound ∧ octstrLen smscId ≠ 0 then
    (findRoute (appliesTo smscId) msg tables.inbound routeStatus.status).map
      (withRoute (fun route m => { m with service := route.systemId }) msg routeStatus)
  else some (msg, routeStatus)

/-! ## The HTTP router -/

/-- The response of the HTTP router, as Kannel reads it. -/
structure HttpResponse where
  /-- `http_header_value` of the response headers. -/
  headerValue : Octstr → Option Octstr
  /-- `octstr_parse_double` from the start of a text. -/
  parseDouble : Octstr → Option Rat

/-- The header of a field: a prefix and the name, with '-' for '_'. -/
def headerKey (name : String) : Octstr :=
  (octstrImm "X-KSMPPD-" ++ octstrImm name).map (fun c => if c = 95 then 45 else c)

/-- `atoi`, which keeps the low 32 bits of a `long`. -/
def atoi (os : Octstr) : Int := (atol os).bmod (2 ^ 32)

variable (response : HttpResponse)

/-- A header with something in it. -/
def HttpResponse.header (name : String) : Option Octstr :=
  (response.headerValue (headerKey name)).filter (fun v => v ≠ [])

/-- `INTEGER(name)`. -/
def HttpResponse.integer (name : String) (old : Int) : Int :=
  ((response.header name).map atol).getD old

/-- `OCTSTR(name)`. -/
def HttpResponse.octstr (name : String) (old : Option Octstr) : Option Octstr :=
  (response.header name).or old

/-- `UUID(name)`: `uuid_parse` leaves the id as it is where it fails. -/
def HttpResponse.uuid (name : String) (old : Uuid) : Uuid :=
  ((response.header name).bind (fun v => uuidParse (v.takeWhile (fun c => c ≠ 0)))).getD old

/-- Every field of the message is set to the value of its header, where there is one. -/
def HttpResponse.overwrite (msg : Sms) : Sms where
  sender := response.octstr "sender" msg.sender
  receiver := response.octstr "receiver" msg.receiver
  udhdata := response.octstr "udhdata" msg.udhdata
  msgdata := response.octstr "msgdata" msg.msgdata
  time := response.integer "time" msg.time
  smscId := response.octstr "smsc_id" msg.smscId
  smscNumber := response.octstr "smsc_number" msg.smscNumber
  foreignId := response.octstr "foreign_id" msg.foreignId
  service := response.octstr "service" msg.service
  account := response.octstr "account" msg.account
  id := response.uuid "id" msg.id
  smsType := response.integer "sms_type" msg.smsType
  mclass := response.integer "mclass" msg.mclass
  mwi := response.integer "mwi" msg.mwi
  coding := response.integer "coding" msg.coding
  compress := response.integer "compress" msg.compress
  validity := response.integer "validity" msg.validity
  deferred := response.integer "deferred" msg.deferred
  dlrMask := response.integer "dlr_mask" msg.dlrMask
  dlrUrl := response.octstr "dlr_url" msg.dlrUrl
  pid := response.integer "pid" msg.pid
  altDcs := response.integer "alt_dcs" msg.altDcs
  rpi := response.integer "rpi" msg.rpi
  charset := response.octstr "charset" msg.charset
  boxcId := response.octstr "boxc_id" msg.boxcId
  binfo := response.octstr "binfo" msg.binfo
  msgLeft := response.integer "msg_left" msg.msgLeft
  priority := response.integer "priority" msg.priority
  resendTry := response.integer "resend_try" msg.resendTry
  resendTime := response.integer "resend_time" msg.resendTime
  metaData := response.octstr "meta_data" msg.metaData

/-- What the router may not set is put back. -/
def restore (direction : Direction) (old msg : Sms) : Sms :=
  match direction with
  | .outbound => { msg with service := old.service }
  | .inbound => { msg with smscId := old.smscId }
  | .unknown => msg

/-- The cost, if the router has routed the message. -/
def HttpResponse.routeCost : Option Rat :=
  match response.headerValue (headerKey "Route-Status") with
  | none => none
  | some routeStatus =>
      if atoi routeStatus ≠ 0 then
        (response.headerValue (headerKey "Route-Cost")).bind response.parseDouble
      else none

/-- The status where it has not. -/
def HttpResponse.failure : Int :=
  match response.headerValue (headerKey "Route-Status") with
  | none => smppEsmeRsubmitfail
  | some routeStatus =>
      if atoi routeStatus ≠ 0 then smppEsmeRsubmitfail
      else
        match response.header "Route-Error-Code" with
        | none => smppEsmeRsubmitfail
        | some code =>
            -- an error code that says success is not believed
            if atoi code = smppEsmeRok then smppEsmeRsubmitfail else atoi code

/-- `smpp_http_client_receive_thread` with one response. -/
def smppHttpClientReceiveThread (direction : Direction) (msg : Sms)
    (routeStatus : SmppRouteStatus) : RouteResult :=
  match response.routeCost with
  | some cost =>
      (restore direction msg (response.overwrite msg),
        { routeStatus with status := smppEsmeRok, cost := cost })
  | none => (msg, { routeStatus with status := response.failure })

/-! ## Routing methods -/

/-- A routing method, with what it answers to the request it gets. -/
inductive RoutingMethod
  | database (tables : RouteTables)
  | http (response : HttpResponse)
  /-- `route_message` of the plugin, if there is one; it may do anything with the message. -/
  | plugin (routeMessage : Option (Direction → Option Octstr → Option Octstr → Sms → RouteResult))

/-- `smpp_route_message`, up to what the callback is called with. -/
def smppRouteMessage (smsSplit : Sms → Nat) (method : RoutingMethod) (direction : Direction)
    (smscId systemId : Option Octstr) (msg : Sms) : Option RouteResult :=
  match method with
  | .database tables =>
      smppRouteMessageDatabase smsSplit tables direction smscId systemId msg
  | .http response =>
      some (smppHttpClientReceiveThread response direction msg (smppRouteStatusCreate smsSplit msg))
  | .plugin (some routeMessage) => some (routeMessage direction smscId systemId msg)
  | .plugin none => some (msg, smppRouteStatusCreate smsSplit msg)

end Routes
end Ksmppd
