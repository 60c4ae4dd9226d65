import Ksmppd.Routes.FirstMatch
import Ksmppd.SmToMsg

/-!
# AbsentSender — messages without a sender and routes that look at it

A request may leave its source address empty, and its message then has no sender.  The routes of the
database ask for a receiver first; a route that also has a pattern for the sender hands what is not
there to the regular expression.
-/

namespace Ksmppd

/-- `dcs_to_fields` and `prepend_catenation_udh` set no address. -/
structure Kannel.KeepsAddrs (k : Kannel) : Prop where
  dcsToFields : ∀ dcs msg, (k.dcsToFields dcs msg).sender = msg.sender ∧
    (k.dcsToFields dcs msg).receiver = msg.receiver
  prependCatenationUdh : ∀ seqnum segments ref msg,
    (k.prependCatenationUdh seqnum segments ref msg).sender = msg.sender ∧
      (k.prependCatenationUdh seqnum segments ref msg).receiver = msg.receiver

namespace Routes

open Submit (Session Env withDefaultSmsc smppQueuesMsgSetDlrUrl sampleKannel sampleSubmitSm
  sampleEnv)

universe u

/-- The first route whose pattern the receiver matches, if there is one, has no pattern for the
sender. -/
def IgnoresSender (routes : List SmppRoute) (receiver : Octstr) : Prop :=
  ∀ route, routes.find? (fun route => route.regex receiver) = some route →
    route.sourceRegex = none

/-- No route that is asked about the destination of the request looks at a sender. -/
def RouteTables.IgnoresSenderOf (tables : RouteTables) (esme : SmppEsme)
    (request : SmRequest) : Prop :=
  ∀ receiver, smppPduUtilConvertAddr (request.fields esme).destinationAddr
      (request.fields esme).destAddrTon = .ok (some receiver) →
    IgnoresSender (tables.applicable .outbound none esme.systemId) receiver

variable {k : Kannel} {esme : SmppEsme} {request : SmRequest} {applies : SmppRoute → Bool}
  {msg given : Sms} {sender receiver : Octstr}

/-! ## The addresses of a converted message -/

theorem tailOf_addrs (hk : k.KeepsAddrs) (f : SmFields) (msg : Sms) :
    (tailOf k esme f msg).sender = msg.sender ∧
      (tailOf k esme f msg).receiver = msg.receiver := by
  rcases computeInboundDcs_cases k esme.altCharset f.dataCoding f.esmClass
    (k.dcsToFields f.dataCoding msg) with ⟨data, coding, heq, -⟩
  simpa [tailOf, heq] using hk.dcsToFields f.dataCoding msg

theorem splitUdh_addrs {m : Sms} (h : splitUdh msg = some (.ok m)) :
    m.sender = msg.sender ∧ m.receiver = msg.receiver := by
  rcases Option.map_eq_some_iff.mp h with ⟨data, -, hcut⟩
  split_ifs at hcut
  cases hcut
  exact ⟨rfl, rfl⟩

theorem udhOf_addrs (hk : k.KeepsAddrs) {version : Int} {f : SmFields} {m : Sms}
    (h : udhOf k version f msg = some (.ok m)) :
    m.sender = msg.sender ∧ m.receiver = msg.receiver := by
  have hparts := hk.prependCatenationUdh f.sarSegmentSeqnum f.sarTotalSegments f.sarMsgRefNum msg
  unfold udhOf at h
  dsimp only at h
  split_ifs at h
  · cases h
  · rcases splitUdh_addrs h with ⟨hsender, hreceiver⟩
    exact ⟨hsender.trans hparts.1, hreceiver.trans hparts.2⟩
  · exact splitUdh_addrs h
  · cases h
    exact hparts
  · cases h
    exact ⟨rfl, rfl⟩

theorem finish_addrs (request : SmRequest) (msg : Sms) :
    (request.finish k msg).sender = msg.sender ∧
      (request.finish k msg).receiver = msg.receiver := by
  cases request with
  | submitSm pdu => exact ⟨rfl, rfl⟩
  | dataSm pdu => exact ⟨rfl, rfl⟩

/-- An accepted message has the addresses of its request, as they were converted. -/
theorem toMsg_addrs (hk : k.KeepsAddrs) (h : request.toMsg k esme = some (.ok msg)) :
    convertAddrs (request.fields esme).sourceAddr (request.fields esme).sourceAddrTon
      (request.fields esme).destinationAddr (request.fields esme).destAddrTon =
        .ok (msg.sender, msg.receiver) := by
  rcases toMsg_ok_cases h with ⟨addrs, m, hconverted, hudh, rfl⟩
  rcases udhOf_addrs hk hudh with ⟨hsender, hreceiver⟩
  rcases @tailOf_addrs k esme hk (request.fields esme) m with ⟨hsender', hreceiver'⟩
  rcases @finish_addrs k request (tailOf k esme (request.fields esme) m) with ⟨hlast, hlast'⟩
  rw [hconverted, hlast, hlast', hsender', hreceiver', hsender, hreceiver]
  rfl

theorem convertAddr_isNone {addr addr' : Option Octstr} {ton : Int}
    (h : smppPduUtilConvertAddr addr ton = .ok addr') : addr' = none ↔ addr = none := by
  cases addr with
  | none =>
      cases h
      exact iff_of_true rfl rfl
  | some a =>
      simp only [smppPduUtilConvertAddr] at h
      split_ifs at h <;> cases h <;> exact iff_of_false (by simp) (by simp)

/-- The receiver of an accepted message is there, and its sender is if the source address was. -/
theorem converted_addrs {f : SmFields}
    (h : convertAddrs f.sourceAddr f.sourceAddrTon f.destinationAddr f.destAddrTon =
      .ok (msg.sender, msg.receiver)) :
    (msg.sender = none ↔ f.sourceAddr = none) ∧
      ∃ receiver, msg.receiver = some receiver ∧
        smppPduUtilConvertAddr f.destinationAddr f.destAddrTon = .ok (some receiver) := by
  cases hsource : smppPduUtilConvertAddr f.sourceAddr f.sourceAddrTon with
  | error reason =>
      rw [convertAddrs_of_source_error hsource] at h
      cases h
  | ok sender =>
      rw [convertAddrs_of_source hsource] at h
      split_ifs at h with hdestination
      cases hdest : smppPduUtilConvertAddr f.destinationAddr f.destAddrTon with
      | error reason =>
          rw [hdest] at h
          cases h
      | ok receiver =>
          rw [hdest] at h
          cases h
          refine ⟨convertAddr_isNone hsource, ?_⟩
          cases hreceiver : msg.receiver with
          | none =>
              rw [hreceiver] at hdest
              exact absurd ((convertAddr_isNone hdest).mp rfl) hdestination
          | some receiver => exact ⟨receiver, rfl, rfl⟩

/-! ## The search -/

/-- With both addresses there is nothing absent to match. -/
theorem findRoute_isSome (hsender : msg.sender = some sender)
    (hreceiver : msg.receiver = some receiver) (routes : List SmppRoute) (status : Int) :
    (findRoute applies msg routes status).isSome := by
  rcases @searchRoutes_searched applies msg sender receiver hsender hreceiver routes
    ⟨false, none, status⟩ rfl with ⟨stop, hstop, -⟩
  have hfound := @searchRoutes_eq_findRoute applies msg routes ⟨false, none, status⟩ rfl
  rw [hstop] at hfound
  rw [← hfound]
  rfl

/-- Without a sender the search ends exactly if no sender is asked for. -/
theorem findRoute_isSome_iff (hsender : msg.sender = none) (hreceiver : msg.receiver = some receiver)
    (routes : List SmppRoute) (status : Int) :
    (findRoute applies msg routes status).isSome ↔
      IgnoresSender (routes.filter applies) receiver := by
  induction routes with
  | nil => simp [findRoute, IgnoresSender]
  | cons route routes ih =>
      cases happlies : applies route with
      | false => simpa [findRoute, happlies] using ih
      | true =>
          cases hmatch : route.regex receiver with
          | false =>
              simpa [findRoute, happlies, gwRegexMatchPre, hreceiver, hmatch, IgnoresSender]
                using ih
          | true =>
              cases hsource : route.sourceRegex with
              | none =>
                  simp [findRoute, happlies, gwRegexMatchPre, hreceiver, hmatch, hsource,
                    IgnoresSender]
              | some sourceRegex =>
                  -- the pattern is matched against `NULL`
                  simp [findRoute, happlies, gwRegexMatchPre, hreceiver, hmatch, hsource, hsender,
                    IgnoresSender]

theorem withDefaultSmsc_addrs (s : Session) (msg : Sms) :
    (withDefaultSmsc s msg).sender = msg.sender ∧
      (withDefaultSmsc s msg).receiver = msg.receiver := by
  unfold withDefaultSmsc
  split_ifs
  · exact ⟨rfl, rfl⟩
  · exact ⟨rfl, rfl⟩

theorem setDlrUrl_addrs {env : Env} {s : Session}
    (h : smppQueuesMsgSetDlrUrl env s (withDefaultSmsc s msg) = some given) :
    given.sender = msg.sender ∧ given.receiver = msg.receiver := by
  rcases Option.map_eq_some_iff.mp h with ⟨systemId, -, rfl⟩
  exact withDefaultSmsc_addrs s msg

/-- Outbound routing ends exactly if there is a sender or none is asked for. -/
theorem database_isSome_iff (hreceiver : given.receiver = some receiver) (smsSplit : Sms → Nat)
    (tables : RouteTables) (systemId : Option Octstr) :
    (smppRouteMessageDatabase smsSplit tables .outbound none systemId given).isSome ↔
      given.sender ≠ none ∨ IgnoresSender (tables.applicable .outbound none systemId) receiver := by
  by_cases hsystemId : octstrLen systemId ≠ 0
  · have happlicable : tables.applicable .outbound none systemId =
        (tables.outbound (systemId.getD [])).filter (fun _ => true) := by
      simp [RouteTables.applicable, hsystemId]
    rw [smppRouteMessageDatabase, if_pos ⟨rfl, hsystemId⟩, Option.isSome_map, happlicable]
    cases hsender : given.sender with
    | none =>
        rw [findRoute_isSome_iff hsender hreceiver]
        simp
    | some sender =>
        exact iff_of_true (findRoute_isSome hsender hreceiver _ _) (Or.inl (Option.some_ne_none _))
  · -- no account, so no route is looked at
    have hnone : IgnoresSender (tables.applicable .outbound none systemId) receiver := by
      simp [IgnoresSender, RouteTables.applicable, hsystemId]
    simp [smppRouteMessageDatabase, hsystemId, hnone]

/-- An accepted message gets through the routes of the database, and to the callback, exactly if it
has a sender or no route looks at one. -/
theorem absent_sender_routed_iff {σ : Type u} (callback : σ → RouteResult → σ) (context : σ)
    (smsSplit : Sms → Nat) (tables : RouteTables) (env : Env) (s : Session) (request : SmRequest)
    (hk : k.KeepsAddrs) (haccepted : request.toMsg k s.esme = some (.ok msg))
    (hgiven : smppQueuesMsgSetDlrUrl env s (withDefaultSmsc s msg) = some given) :
    (∃ result, smppRouteMessageDatabaseTo callback context smsSplit tables .outbound none
        s.esme.systemId given = some (callback context result)) ↔
      (request.fields s.esme).sourceAddr ≠ none ∨ tables.IgnoresSenderOf s.esme request := by
  rcases setDlrUrl_addrs hgiven with ⟨hsender, hreceiver⟩
  rcases converted_addrs (toMsg_addrs hk haccepted) with ⟨hsource, receiver, hmsg, hdest⟩
  have hignores : tables.IgnoresSenderOf s.esme request ↔
      IgnoresSender (tables.applicable .outbound none s.esme.systemId) receiver := by
    constructor
    · intro h
      exact h receiver hdest
    · intro h receiver' hdest'
      rw [hdest] at hdest'
      cases hdest'
      exact h
  have hpresent : (request.fields s.esme).sourceAddr ≠ none ↔ given.sender ≠ none := by
    rw [hsender]
    exact not_congr hsource.symm
  rw [hignores, hpresent, ← database_isSome_iff (hreceiver.trans hmsg) smsSplit tables s.esme.systemId,
    smppRouteMessageDatabaseTo_eq]
  constructor
  · rintro ⟨result, hresult⟩
    rcases Option.map_eq_some_iff.mp hresult with ⟨result', hrouted, -⟩
    rw [hrouted]
    rfl
  · intro hsome
    rcases Option.isSome_iff_exists.mp hsome with ⟨result, hrouted⟩
    exact ⟨result, by rw [hrouted]; rfl⟩

/-! ## A route with a pattern for the sender -/

theorem sampleKannel_keepsAddrs : sampleKannel.KeepsAddrs where
  dcsToFields := fun _ _ => ⟨rfl, rfl⟩
  prependCatenationUdh := fun _ _ _ _ => ⟨rfl, rfl⟩

/-- One route for any receiver and, if asked, for the sender `1` only. -/
def sampleRoutes (sourceRegex : Option (Octstr → Bool)) : RouteTables where
  inbound := []
  outbound := fun _ =>
    [{ regex := fun _ => true, systemId := none, smscId := some [83], cost := 0,
       sourceRegex := sourceRegex }]

/-- A submit_sm with an empty source address and without a body. -/
def unsentRequest : SmRequest :=
  .submitSm { sampleSubmitSm with sourceAddr := none, smLength := 0, shortMessage := none }

/-- The session the request comes from. -/
def sampleSender : Session := { esme := sampleEsme, account := none }

/-- What the routes are asked with. -/
def unsentMessage : Option Sms :=
  match unsentRequest.toMsg sampleKannel sampleEsme with
  | some (.ok msg) => smppQueuesMsgSetDlrUrl sampleEnv sampleSender (withDefaultSmsc sampleSender msg)
  | _ => none

theorem absent_sender_routed_sample : ∃ given result, unsentMessage = some given ∧
    smppRouteMessageDatabaseTo (fun calls result => calls ++ [result]) [] (fun _ => 1)
      (sampleRoutes none) .outbound none sampleEsme.systemId given = some ([] ++ [result]) := by
  have hignores : (sampleRoutes none).IgnoresSenderOf sampleEsme unsentRequest := by
    intro receiver _ route hroute
    cases hroute
    rfl
  rcases (absent_sender_routed_iff (fun calls result => calls ++ [result]) [] (fun _ => 1)
    (sampleRoutes none) sampleEnv sampleSender unsentRequest sampleKannel_keepsAddrs rfl rfl).mpr
    (Or.inr hignores) with ⟨result, hresult⟩
  exact ⟨_, result, rfl, hresult⟩

/-- The request is accepted, and the pattern of the route is matched against no sender. -/
theorem absent_sender_matched : ∃ msg given,
    unsentRequest.toMsg sampleKannel sampleEsme = some (.ok msg) ∧
      smppQueuesMsgSetDlrUrl sampleEnv sampleSender (withDefaultSmsc sampleSender msg) =
        some given ∧ given.sender = none ∧
      smppRouteMessageDatabaseTo (fun calls result => calls ++ [result]) [] (fun _ => 1)
        (sampleRoutes (some (fun sender => sender == [49]))) .outbound none sampleEsme.systemId
        given = none := by
  exact ⟨_, _, rfl, rfl, rfl, rfl⟩

end Routes
end Ksmppd
