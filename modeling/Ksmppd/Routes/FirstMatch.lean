import Ksmppd.Routes.Model

/-!
# FirstMatch — the routes of the database are tried in the order of their priority

`smpp_route_message_database` keeps one flag for the receiver and for the sender, carries it from
round to round, and overwrites the status on the way.  What comes out of it is the first route of
the list that takes the message, and one call of the callback.
-/

namespace Ksmppd
namespace Routes

open Submit (SmppRouteStatus)

universe u

variable {applies : SmppRoute → Bool} {msg : Sms} {route : SmppRoute} {routes : List SmppRoute}
  {sender receiver : Octstr} {status : Int}

/-! ## The loop with its flag -/

/-- What the loop keeps from round to round: `found`, `route`, and the status set so far. -/
structure Search where
  found : Bool
  route : Option SmppRoute
  status : Int

variable {search : Search}

/-- The loop over the routes, in either of its two copies; `none` is the crash on `NULL`. -/
def searchRoutes (applies : SmppRoute → Bool) (msg : Sms) :
    List SmppRoute → Search → Option Search
  | [], search => some search
  | route :: routes, search =>
      if applies route then
        (gwRegexMatchPre route.regex msg.receiver).bind (fun found =>
          if found then
            match route.sourceRegex with
            | some sourceRegex =>
                (gwRegexMatchPre sourceRegex msg.sender).bind (fun found' =>
                  -- the flag is now about the sender
                  if found' then
                    some { search with found := true, route := some route }
                  else
                    searchRoutes applies msg routes
                      { found := false, route := some route, status := smppEsmeRinvsrcadr })
            | none => some { search with found := true, route := some route }
          else
            searchRoutes applies msg routes { search with found := false, route := some route })
      -- `found = 0` comes before the `continue`
      else searchRoutes applies msg routes { search with found := false, route := some route }

/-- What follows the loop: the callback is called in both branches, on the message as it is then. -/
def afterSearch {σ : Type u} (callback : σ → RouteResult → σ) (context : σ)
    (set : SmppRoute → Sms → Sms) (msg : Sms) (routeStatus : SmppRouteStatus)
    (search : Search) : σ :=
  match search.found, search.route with
  | true, some route =>
      callback context
        (set route msg, { routeStatus with status := smppEsmeRok, cost := route.cost })
  | _, _ => callback context (msg, { routeStatus with status := search.status })

/-- `smpp_route_message_database` with its callback; `none` is the crash on a missing sender or
receiver. -/
def smppRouteMessageDatabaseTo {σ : Type u} (callback : σ → RouteResult → σ) (context : σ)
    (smsSplit : Sms → Nat) (tables : RouteTables) (direction : Direction)
    (smscId systemId : Option Octstr) (msg : Sms) : Option σ :=
  let routeStatus := smppRouteStatusCreate smsSplit msg
  let start : Search := { found := false, route := none, status := routeStatus.status }
  if direction = .outbound ∧ octstrLen systemId ≠ 0 then
    (searchRoutes (fun _ => true) msg (tables.outbound (systemId.getD [])) start).map
      (afterSearch callback context (fun route m => { m with smscId := route.smscId }) msg
        routeStatus)
  else if direction = .inbound ∧ octstrLen smscId ≠ 0 then
    (searchRoutes (appliesTo smscId) msg tables.inbound start).map
      (afterSearch callback context (fun route m => { m with service := route.systemId }) msg
        routeStatus)
  else some (callback context (msg, routeStatus))

/-! ## First match -/

/-- The receiver pattern matches, and the sender pattern too if there is one. -/
def SmppRoute.takes (route : SmppRoute) (sender receiver : Octstr) : Bool :=
  route.regex receiver && route.sourceRegex.all (fun sourceRegex => sourceRegex sender)

/-- The receiver pattern matches and the sender is declined. -/
def SmppRoute.declines (route : SmppRoute) (sender receiver : Octstr) : Bool :=
  route.regex receiver && route.sourceRegex.any (fun sourceRegex => !sourceRegex sender)

/-- The routes of a request, by priority. -/
def RouteTables.applicable (tables : RouteTables) (direction : Direction)
    (smscId systemId : Option Octstr) : List SmppRoute :=
  match direction with
  | .outbound => if octstrLen systemId ≠ 0 then tables.outbound (systemId.getD []) else []
  | .inbound => if octstrLen smscId ≠ 0 then tables.inbound.filter (appliesTo smscId) else []
  | .unknown => []

/-- The one field of the message that is replaced. -/
def routedMsg (direction : Direction) (route : SmppRoute) (msg : Sms) : Sms :=
  match direction with
  | .outbound => { msg with smscId := route.smscId }
  | .inbound => { msg with service := route.systemId }
  | .unknown => msg

/-- First match by priority: what the callback is to find. -/
def firstMatch (smsSplit : Sms → Nat) (direction : Direction) (applicable : List SmppRoute)
    (sender receiver : Octstr) (msg : Sms) : RouteResult :=
  match applicable.find? (fun route => route.takes sender receiver) with
  | some route =>
      (routedMsg direction route msg,
        { smppRouteStatusCreate smsSplit msg with status := smppEsmeRok, cost := route.cost })
  | none =>
      (msg,
        { smppRouteStatusCreate smsSplit msg with
          status := if applicable.any (fun route => route.declines sender receiver)
            then smppEsmeRinvsrcadr else smppEsmeRinvdstadr })

/-- The status the loop leaves: what it found there, unless a sender was declined. -/
def declinedStatus (sender receiver : Octstr) (routes : List SmppRoute) (status : Int) : Int :=
  if routes.any (fun route => route.declines sender receiver) then smppEsmeRinvsrcadr else status

/-! ## The loop finds it -/

/-- A route of another SMSC is passed over. -/
theorem searchRoutes_skip (happlies : applies route = false) (search : Search) :
    searchRoutes applies msg (route :: routes) search =
      searchRoutes applies msg routes { search with found := false, route := some route } := by
  simp [searchRoutes, happlies]

/-- A route that takes the message stops the loop. -/
theorem searchRoutes_takes (hsender : msg.sender = some sender)
    (hreceiver : msg.receiver = some receiver) (happlies : applies route = true)
    (htakes : route.takes sender receiver = true) (search : Search) :
    searchRoutes applies msg (route :: routes) search =
      some { search with found := true, route := some route } := by
  rcases (Bool.and_eq_true _ _).mp htakes with ⟨hmatch, hall⟩
  cases hsource : route.sourceRegex with
  | none => simp [searchRoutes, happlies, gwRegexMatchPre, hreceiver, hmatch, hsource]
  | some sourceRegex =>
      have haccepts : sourceRegex sender = true := by simpa [hsource] using hall
      simp [searchRoutes, happlies, gwRegexMatchPre, hreceiver, hmatch, hsource, hsender, haccepts]

/-- Any other route is passed over; the status says whether it declined the sender. -/
theorem searchRoutes_passes (hsender : msg.sender = some sender)
    (hreceiver : msg.receiver = some receiver) (happlies : applies route = true)
    (htakes : route.takes sender receiver = false) (search : Search) :
    searchRoutes applies msg (route :: routes) search =
      searchRoutes applies msg routes
        { found := false
          route := some route
          status := if route.declines sender receiver then smppEsmeRinvsrcadr
            else search.status } := by
  cases hmatch : route.regex receiver with
  | false =>
      have hdeclines : route.declines sender receiver = false := by
        simp [SmppRoute.declines, hmatch]
      simp [searchRoutes, happlies, gwRegexMatchPre, hreceiver, hmatch, hdeclines]
  | true =>
      cases hsource : route.sourceRegex with
      | none => simp [SmppRoute.takes, hmatch, hsource] at htakes
      | some sourceRegex =>
          have haccepts : sourceRegex sender = false := by
            simpa [SmppRoute.takes, hmatch, hsource] using htakes
          have hdeclines : route.declines sender receiver = true := by
            simp [SmppRoute.declines, hmatch, hsource, haccepts]
          simp [searchRoutes, happlies, gwRegexMatchPre, hreceiver, hmatch, hsource, hsender,
            haccepts, hdeclines]

/-- The search has stopped at the first route that takes the message, or at the end. -/
structure Searched (sender receiver : Octstr) (applicable : List SmppRoute) (status : Int)
    (search : Search) : Prop where
  taken : ∀ route, applicable.find? (fun route => route.takes sender receiver) = some route →
    search.found = true ∧ search.route = some route
  refused : applicable.find? (fun route => route.takes sender receiver) = none →
    search.found = false ∧ search.status = declinedStatus sender receiver applicable status

/-- A route that takes the message ends the search, whatever comes after it. -/
theorem searched_of_takes (htakes : route.takes sender receiver = true) (status status' : Int) :
    Searched sender receiver (route :: routes) status
      { found := true, route := some route, status := status' } where
  taken := by
    intro first hfirst
    have heq : some route = some first := by simpa [htakes] using hfirst
    exact ⟨rfl, heq⟩
  refused := by
    intro hnone
    simp [htakes] at hnone

/-- A route that does not take the message adds no more than that it declined the sender. -/
theorem Searched.cons (hsearched : Searched sender receiver routes
      (if route.declines sender receiver then smppEsmeRinvsrcadr else status) search)
    (htakes : route.takes sender receiver = false) :
    Searched sender receiver (route :: routes) status search where
  taken := by
    intro first hfirst
    apply hsearched.taken
    simpa [htakes] using hfirst
  refused := by
    intro hnone
    have hrest := hsearched.refused (by simpa [htakes] using hnone)
    refine ⟨hrest.1, hrest.2.trans ?_⟩
    cases hdeclines : route.declines sender receiver with
    | true => simp [declinedStatus, hdeclines]
    | false => simp [declinedStatus, hdeclines]

/-- The loop, with the flag down at its start, finds the first match. -/
theorem searchRoutes_searched (hsender : msg.sender = some sender)
    (hreceiver : msg.receiver = some receiver) :
    ∀ (routes : List SmppRoute) (search : Search), search.found = false →
      ∃ stop, searchRoutes applies msg routes search = some stop ∧
        Searched sender receiver (routes.filter applies) search.status stop := by
  intro routes
  induction routes with
  | nil =>
      intro search hfound
      refine ⟨search, rfl, ?_, ?_⟩
      · intro route hroute
        cases hroute
      · intro _
        exact ⟨hfound, rfl⟩
  | cons route routes ih =>
      intro search hfound
      cases happlies : applies route with
      | false =>
          rcases ih { search with found := false, route := some route } rfl with
            ⟨stop, hstop, hsearched⟩
          refine ⟨stop, (searchRoutes_skip happlies search).trans hstop, ?_⟩
          simpa [List.filter_cons, happlies] using hsearched
      | true =>
          rw [List.filter_cons_of_pos happlies]
          cases htakes : route.takes sender receiver with
          | true =>
              exact ⟨_, searchRoutes_takes hsender hreceiver happlies htakes search,
                searched_of_takes htakes _ _⟩
          | false =>
              rcases ih { found := false, route := some route, status := _ } rfl with
                ⟨stop, hstop, hsearched⟩
              exact ⟨stop, (searchRoutes_passes hsender hreceiver happlies htakes search).trans
                hstop, hsearched.cons htakes⟩

/-! ## The route the loop stopped at -/

/-- `route`, if the flag says that the loop stopped at it. -/
def Search.stoppedAt (search : Search) : Option SmppRoute :=
  if search.found then search.route else none

/-- The loop with its flag computes what `findRoute` does. -/
theorem searchRoutes_eq_findRoute :
    ∀ (routes : List SmppRoute) (search : Search), search.found = false →
      (searchRoutes applies msg routes search).map (fun s => (s.stoppedAt, s.status)) =
        findRoute applies msg routes search.status := by
  intro routes
  induction routes with
  | nil =>
      intro search hfound
      simp [searchRoutes, findRoute, Search.stoppedAt, hfound]
  | cons route routes ih =>
      intro search hfound
      cases happlies : applies route with
      | false => simpa [searchRoutes, findRoute, happlies] using ih ⟨false, some route, _⟩ rfl
      | true =>
          cases hreceiver : msg.receiver with
          | none => simp [searchRoutes, findRoute, happlies, gwRegexMatchPre, hreceiver]
          | some receiver =>
              cases hmatch : route.regex receiver with
              | false =>
                  simpa [searchRoutes, findRoute, happlies, gwRegexMatchPre, hreceiver, hmatch]
                    using ih ⟨false, some route, _⟩ rfl
              | true =>
                  cases hsource : route.sourceRegex with
                  | none =>
                      simp [searchRoutes, findRoute, happlies, gwRegexMatchPre, hreceiver, hmatch,
                        hsource, Search.stoppedAt]
                  | some sourceRegex =>
                      cases hsender : msg.sender with
                      | none =>
                          simp [searchRoutes, findRoute, happlies, gwRegexMatchPre, hreceiver,
                            hmatch, hsource, hsender]
                      | some sender =>
                          cases haccepts : sourceRegex sender with
                          | true =>
                              simp [searchRoutes, findRoute, happlies, gwRegexMatchPre, hreceiver,
                                hmatch, hsource, hsender, haccepts, Search.stoppedAt]
                          | false =>
                              simpa [searchRoutes, findRoute, happlies, gwRegexMatchPre, hreceiver,
                                hmatch, hsource, hsender, haccepts]
                                using ih ⟨false, some route, _⟩ rfl

theorem afterSearch_eq {σ : Type u} (callback : σ → RouteResult → σ) (context : σ)
    (set : SmppRoute → Sms → Sms) (msg : Sms) (routeStatus : SmppRouteStatus) (search : Search) :
    afterSearch callback context set msg routeStatus search =
      callback context (withRoute set msg routeStatus (search.stoppedAt, search.status)) := by
  rcases search with ⟨found, route, status⟩
  cases found with
  | false => rfl
  | true =>
      cases route with
      | none => rfl
      | some route => rfl

/-- The callback is called once, with what `smppRouteMessageDatabase` gives. -/
theorem smppRouteMessageDatabaseTo_eq {σ : Type u} (callback : σ → RouteResult → σ) (context : σ)
    (smsSplit : Sms → Nat) (tables : RouteTables) (direction : Direction)
    (smscId systemId : Option Octstr) (msg : Sms) :
    smppRouteMessageDatabaseTo callback context smsSplit tables direction smscId systemId msg =
      (smppRouteMessageDatabase smsSplit tables direction smscId systemId msg).map
        (callback context) := by
  have hafter : ∀ (applies : SmppRoute → Bool) (routes : List SmppRoute)
      (set : SmppRoute → Sms → Sms),
      (searchRoutes applies msg routes
          ⟨false, none, (smppRouteStatusCreate smsSplit msg).status⟩).map
          (afterSearch callback context set msg (smppRouteStatusCreate smsSplit msg)) =
        ((findRoute applies msg routes (smppRouteStatusCreate smsSplit msg).status).map
          (withRoute set msg (smppRouteStatusCreate smsSplit msg))).map (callback context) := by
    intro applies routes set
    rw [← searchRoutes_eq_findRoute routes ⟨false, none, _⟩ rfl, Option.map_map, Option.map_map]
    congr 1
    funext search
    exact afterSearch_eq callback context set msg _ search
  by_cases houtbound : direction = .outbound ∧ octstrLen systemId ≠ 0
  · simp only [smppRouteMessageDatabaseTo, smppRouteMessageDatabase, if_pos houtbound]
    exact hafter _ _ _
  · by_cases hinbound : direction = .inbound ∧ octstrLen smscId ≠ 0
    · simp only [smppRouteMessageDatabaseTo, smppRouteMessageDatabase, if_neg houtbound,
        if_pos hinbound]
      exact hafter _ _ _
    · simp [smppRouteMessageDatabaseTo, smppRouteMessageDatabase, if_neg houtbound,
        if_neg hinbound]

/-! ## The callback -/

/-- What the callback is called with after a search is the first match. -/
theorem afterSearch_firstMatch {σ : Type u} {callback : σ → RouteResult → σ} {context : σ}
    {smsSplit : Sms → Nat} {direction : Direction}
    (hsearched : Searched sender receiver routes smppEsmeRinvdstadr search) :
    afterSearch callback context (routedMsg direction) msg (smppRouteStatusCreate smsSplit msg)
        search =
      callback context (firstMatch smsSplit direction routes sender receiver msg) := by
  rw [afterSearch_eq]
  cases hfirst : routes.find? (fun route => route.takes sender receiver) with
  | some route =>
      have htaken := hsearched.taken route hfirst
      simp [firstMatch, hfirst, Search.stoppedAt, htaken.1, htaken.2, withRoute]
  | none =>
      have hrefused := hsearched.refused hfirst
      simp [firstMatch, hfirst, Search.stoppedAt, hrefused.1, hrefused.2, withRoute,
        declinedStatus]

theorem search_firstMatch {σ : Type u} (callback : σ → RouteResult → σ) (context : σ)
    (smsSplit : Sms → Nat) (direction : Direction) (applies : SmppRoute → Bool)
    (routes : List SmppRoute) (hsender : msg.sender = some sender)
    (hreceiver : msg.receiver = some receiver) :
    (searchRoutes applies msg routes
        ⟨false, none, (smppRouteStatusCreate smsSplit msg).status⟩).map
        (afterSearch callback context (routedMsg direction) msg
          (smppRouteStatusCreate smsSplit msg)) =
      some (callback context
        (firstMatch smsSplit direction (routes.filter applies) sender receiver msg)) := by
  rcases @searchRoutes_searched applies msg sender receiver hsender hreceiver routes
    ⟨false, none, (smppRouteStatusCreate smsSplit msg).status⟩ rfl with ⟨stop, hstop, hsearched⟩
  rw [hstop]
  exact congrArg some (afterSearch_firstMatch hsearched)

/-- Whatever the callback is, it is called exactly once, and with the first match. -/
theorem route_message_first_match {σ : Type u} (callback : σ → RouteResult → σ) (context : σ)
    (smsSplit : Sms → Nat) (tables : RouteTables) (direction : Direction)
    (smscId systemId : Option Octstr) (hsender : msg.sender = some sender)
    (hreceiver : msg.receiver = some receiver) :
    smppRouteMessageDatabaseTo callback context smsSplit tables direction smscId systemId msg =
      some (callback context (firstMatch smsSplit direction
        (tables.applicable direction smscId systemId) sender receiver msg)) := by
  cases direction with
  | outbound =>
      by_cases hsystemId : octstrLen systemId ≠ 0
      · have happlicable : tables.applicable .outbound smscId systemId =
            (tables.outbound (systemId.getD [])).filter (fun _ => true) := by
          simp [RouteTables.applicable, hsystemId]
        rw [happlicable]
        exact (if_pos ⟨rfl, hsystemId⟩).trans
          (search_firstMatch callback context smsSplit .outbound _ _ hsender hreceiver)
      · -- no account, so no list to look in
        simp [smppRouteMessageDatabaseTo, RouteTables.applicable, hsystemId, firstMatch,
          smppRouteStatusCreate]
  | inbound =>
      by_cases hsmscId : octstrLen smscId ≠ 0
      · have happlicable : tables.applicable .inbound smscId systemId =
            tables.inbound.filter (appliesTo smscId) := by
          simp [RouteTables.applicable, hsmscId]
        rw [happlicable]
        simp only [smppRouteMessageDatabaseTo]
        rw [if_neg (fun houtbound => nomatch houtbound.1), if_pos ⟨trivial, hsmscId⟩]
        exact search_firstMatch callback context smsSplit .inbound _ _ hsender hreceiver
      · simp [smppRouteMessageDatabaseTo, RouteTables.applicable, hsmscId, firstMatch,
          smppRouteStatusCreate]
  | unknown =>
      simp [smppRouteMessageDatabaseTo, RouteTables.applicable, firstMatch, smppRouteStatusCreate]

/-! ## A table with a declined sender -/

/-- Two inbound routes: the first declines every sender but one, the second is for one SMSC. -/
def sampleTables : RouteTables where
  inbound := [
    { regex := fun _ => true, systemId := some [97], smscId := none, cost := 0,
      sourceRegex := some (fun sender => sender == [49]) },
    { regex := fun _ => true, systemId := some [98], smscId := some [83], cost := 2,
      sourceRegex := none }]
  outbound := fun _ => []

/-- A message of sender `2` from the SMSC `s` goes to the account `b` at the cost 2, and the calls
of the callback are counted. -/
theorem route_message_first_match_sample :
    ∃ msg : Sms, msg.service = some [98] ∧
      smppRouteMessageDatabaseTo (fun calls result => calls ++ [(result.1, result.2.cost)]) []
        (fun _ => 1) sampleTables .inbound (some [115]) none
        { msgCreateSms (Vector.replicate 16 0) with sender := some [50], receiver := some [51] } =
          some [(msg, 2)] := by
  refine ⟨{ msgCreateSms (Vector.replicate 16 0) with
    sender := some [50], receiver := some [51], service := some [98] }, rfl, ?_⟩
  exact (@route_message_first_match _ [50] [51] _ _ [] (fun _ => 1)
    sampleTables .inbound (some [115]) none rfl rfl).trans (by rfl)

end Routes
end Ksmppd
