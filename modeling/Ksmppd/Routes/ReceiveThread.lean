import Ksmppd.Routes.Model

/-!
# ReceiveThread — one callback for each answer of the HTTP router

`smpp_http_client_receive_thread` takes the results one by one.  Each way through a round, and there
are six of them, calls back; the message is only touched on the one that routes it.
-/

namespace Ksmppd
namespace Routes

open Submit (SmppRouteStatus)

universe u

/-- `SMPPHTTPQueuedRoute`; the context stands for the callback and for what it is called with. -/
structure HttpQueuedRoute (γ : Type u) where
  direction : Direction
  msg : Sms
  context : γ
  routeStatus : SmppRouteStatus

/-- What the thread has done: the counter of `smpp_http_routing`, and the callbacks it has called. -/
structure ReceiveThread (γ : Type u) where
  outstandingRequests : Nat
  calls : List (γ × RouteResult)

variable {γ : Type u}

/-- `callback(context, smpp_route_status)`; the callback finds the message as it is now. -/
def ReceiveThread.callback (t : ReceiveThread γ) (route : HttpQueuedRoute γ) :
    ReceiveThread γ :=
  { t with calls := t.calls ++ [(route.context, (route.msg, route.routeStatus))] }

def HttpQueuedRoute.setStatus (route : HttpQueuedRoute γ) (status : Int) : HttpQueuedRoute γ :=
  { route with routeStatus := { route.routeStatus with status := status } }

/-- A result is taken and its queued request is served. -/
def receiveResult (t : ReceiveThread γ) (route : HttpQueuedRoute γ) (response : HttpResponse) :
    ReceiveThread γ :=
  let t := { t with outstandingRequests := t.outstandingRequests - 1 }
  match response.headerValue (headerKey "Route-Status") with
  | some headerVal =>
      if atoi headerVal ≠ 0 then
        match response.headerValue (headerKey "Route-Cost") with
        | some headerVal =>
            match response.parseDouble headerVal with
            | some routeCost =>
                let oldMessage := route.msg
                let msg := response.overwrite route.msg
                -- certain properties can't be overridden
                let msg :=
                  if route.direction = .outbound then { msg with service := oldMessage.service }
                  else if route.direction = .inbound then { msg with smscId := oldMessage.smscId }
                  else msg
                let routeStatus :=
                  { route.routeStatus with status := smppEsmeRok, cost := routeCost }
                t.callback { route with msg := msg, routeStatus := routeStatus }
            | none => t.callback (route.setStatus smppEsmeRsubmitfail)
        | none => t.callback (route.setStatus smppEsmeRsubmitfail)
      else
        match response.header "Route-Error-Code" with
        | some headerVal =>
            let route := route.setStatus (atoi headerVal)
            if route.routeStatus.status = smppEsmeRok then
              t.callback (route.setStatus smppEsmeRsubmitfail)
            else t.callback route
        | none => t.callback (route.setStatus smppEsmeRsubmitfail)
  | none => t.callback (route.setStatus smppEsmeRsubmitfail)

/-- The thread, until there are no more results. -/
def receiveThread (t : ReceiveThread γ) (results : List (HttpQueuedRoute γ × HttpResponse)) :
    ReceiveThread γ :=
  results.foldl (fun t result => receiveResult t result.1 result.2) t

/-- The router has routed the message: `Route-Status` is a number other than zero, and `Route-Cost`
is a number. -/
def HttpResponse.IsRouted (response : HttpResponse) : Prop :=
  (∃ routeStatus, response.headerValue (headerKey "Route-Status") = some routeStatus ∧
      atoi routeStatus ≠ 0) ∧
    ∃ routeCost, response.headerValue (headerKey "Route-Cost") = some routeCost ∧
      (response.parseDouble routeCost).isSome

/-- What the callback of a queued request may find. -/
structure Answers (result : HttpQueuedRoute γ × HttpResponse) (call : γ × RouteResult) : Prop where
  context : call.1 = result.1.context
  ok_iff : call.2.2.status = smppEsmeRok ↔ result.2.IsRouted
  unchanged : ¬ result.2.IsRouted → call.2.1 = result.1.msg
  service : result.2.IsRouted → result.1.direction = .outbound →
    call.2.1.service = result.1.msg.service
  smscId : result.2.IsRouted → result.1.direction = .inbound →
    call.2.1.smscId = result.1.msg.smscId

variable {t : ReceiveThread γ} {route : HttpQueuedRoute γ} {response : HttpResponse}

/-! ## One result -/

theorem routeCost_isSome_iff : response.routeCost.isSome ↔ response.IsRouted := by
  unfold HttpResponse.routeCost HttpResponse.IsRouted
  cases response.headerValue (headerKey "Route-Status") with
  | none => simp
  | some routeStatus =>
      by_cases hzero : atoi routeStatus = 0
      · simp [hzero]
      · cases response.headerValue (headerKey "Route-Cost") <;> simp [hzero]

/-- A status of success is never taken over from the router. -/
theorem failure_ne_rok : response.failure ≠ smppEsmeRok := by
  have hfail : smppEsmeRsubmitfail ≠ smppEsmeRok := by decide
  unfold HttpResponse.failure
  cases response.headerValue (headerKey "Route-Status") with
  | none => exact hfail
  | some routeStatus =>
      dsimp only
      split_ifs
      · exact hfail
      · cases response.header "Route-Error-Code" with
        | none => exact hfail
        | some code =>
            dsimp only
            split_ifs with hok
            · exact hfail
            · exact hok

theorem restore_eq (direction : Direction) (old msg : Sms) :
    (if direction = .outbound then { msg with service := old.service }
      else if direction = .inbound then { msg with smscId := old.smscId }
      else msg) = restore direction old msg := by
  cases direction <;> rfl

/-- Every way through a round calls back once, with what `smppHttpClientReceiveThread` says. -/
theorem receiveResult_eq (t : ReceiveThread γ) (route : HttpQueuedRoute γ)
    (response : HttpResponse) :
    receiveResult t route response =
      { outstandingRequests := t.outstandingRequests - 1
        calls := t.calls ++ [(route.context,
          smppHttpClientReceiveThread response route.direction route.msg route.routeStatus)] } := by
  unfold receiveResult smppHttpClientReceiveThread HttpResponse.routeCost HttpResponse.failure
  cases response.headerValue (headerKey "Route-Status") with
  | none => rfl
  | some routeStatus =>
      dsimp only
      -- what `atoi` reads as zero, a text among them, is the refusal of the router
      by_cases hzero : atoi routeStatus ≠ 0
      · rw [if_pos hzero]
        simp only [if_pos hzero]
        cases response.headerValue (headerKey "Route-Cost") with
        | none => rfl
        | some routeCost =>
            dsimp only [Option.bind_some]
            cases response.parseDouble routeCost with
            | none => rfl
            | some cost =>
                dsimp only
                rw [restore_eq]
                rfl
      · rw [if_neg hzero]
        simp only [if_neg hzero]
        cases response.header "Route-Error-Code" with
        | none => rfl
        | some code =>
            dsimp only
            by_cases hok : (route.setStatus (atoi code)).routeStatus.status = smppEsmeRok
            · rw [if_pos hok]
              simp only [show atoi code = smppEsmeRok from hok, if_true]
              rfl
            · rw [if_neg hok]
              simp only [show atoi code ≠ smppEsmeRok from hok, if_false]
              rfl

theorem answers_thread (route : HttpQueuedRoute γ) (response : HttpResponse) :
    Answers (route, response) (route.context,
      smppHttpClientReceiveThread response route.direction route.msg route.routeStatus) := by
  unfold smppHttpClientReceiveThread
  cases hcost : response.routeCost with
  | none =>
      have hnot : ¬ response.IsRouted := by
        rw [← routeCost_isSome_iff, hcost]
        exact nofun
      exact
        { context := rfl
          ok_iff := iff_of_false failure_ne_rok hnot
          unchanged := fun _ => rfl
          service := fun h => absurd h hnot
          smscId := fun h => absurd h hnot }
  | some cost =>
      have hrouted : response.IsRouted := by
        rw [← routeCost_isSome_iff, hcost]
        rfl
      refine ⟨rfl, iff_of_true rfl hrouted, fun h => absurd hrouted h, ?_, ?_⟩
      · intro _ hdirection
        change route.direction = .outbound at hdirection
        simp [hdirection, restore]
      · intro _ hdirection
        change route.direction = .inbound at hdirection
        simp [hdirection, restore]

/-! ## All results -/

/-- For each result the counter goes down and the callback of its request is called, once. -/
theorem receive_thread_calls_back (t : ReceiveThread γ)
    (results : List (HttpQueuedRoute γ × HttpResponse)) :
    ∃ calls, List.Forall₂ Answers results calls ∧
      receiveThread t results =
        { outstandingRequests := t.outstandingRequests - results.length
          calls := t.calls ++ calls } := by
  induction results generalizing t with
  | nil => exact ⟨[], .nil, by simp [receiveThread]⟩
  | cons result results ih =>
      rcases ih (receiveResult t result.1 result.2) with ⟨calls, hcalls, hrest⟩
      refine ⟨_ :: calls, .cons (answers_thread result.1 result.2) hcalls, ?_⟩
      change receiveThread (receiveResult t result.1 result.2) results = _
      rw [hrest, receiveResult_eq]
      simp [Nat.sub_sub, Nat.add_comm]

end Routes
end Ksmppd
