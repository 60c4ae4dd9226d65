import Mathlib.Tactic.DeriveFintype
import Mathlib.Data.Fintype.Sum
import Ksmppd.Lib.Budget
import Ksmppd.Lib.Custody
import Ksmppd.Lib.Transition

/-!
# RequestThreads — the callers of the HTTP router

Each `smpp_http_client_request_thread` looks how many requests are outstanding, allows itself the
difference to the limit, and starts as many of the queued requests.  The counter is shared, the
allowance is the caller's own: two callers that compute theirs one after the other allow themselves
the same requests.
-/

namespace Ksmppd
namespace Routes

open Lib

/-! ## Callers and their routing -/

/-- Where a request thread stands. -/
inductive CallerPhase
  /-- At the head of its loop; asleep or not. -/
  | looping
  /-- It has found the counter below the limit. -/
  | belowMax
  /-- In the inner loop, with `max - count` requests to go. -/
  | serving (left : Int)
  /-- It has consumed a queued request. -/
  | consumed (left : Int) (route : Nat)
  /-- It has increased the counter for it. -/
  | counted (left : Int) (route : Nat)
  deriving DecidableEq, Repr

/-- A request thread, its `HTTPCaller` and the receive thread of it. -/
structure Caller where
  phase : CallerPhase
  /-- Started and not answered. -/
  inFlight : List Nat
  /-- The answered request the receive thread has not counted yet. -/
  received : Option Nat
  deriving DecidableEq, Repr

/-- `SMPPHTTPRouting`; a queued request goes by its number, in the order of arrival. -/
structure SmppHttpRouting (n : Nat) where
  outstandingRequests : Nat
  queuedRequests : List Nat
  arrived : Nat
  callers : Fin n → Caller
  started : List Nat

variable {n : Nat}

def SmppHttpRouting.setCaller (s : SmppHttpRouting n) (i : Fin n) (c : Caller) :
    SmppHttpRouting n :=
  { s with callers := Function.update s.callers i c }

def SmppHttpRouting.setPhase (s : SmppHttpRouting n) (i : Fin n) (phase : CallerPhase) :
    SmppHttpRouting n :=
  s.setCaller i { s.callers i with phase := phase }

/-- `smpp_http_client_route_init` with `num_callers` callers. -/
def smppHttpClientRouteInit (numCallers : Nat) : SmppHttpRouting numCallers where
  outstandingRequests := 0
  queuedRequests := []
  arrived := 0
  callers := fun _ => { phase := .looping, inFlight := [], received := none }
  started := []

/-! ## Steps -/

inductive HttpRoutingLabel (n : Nat)
  /-- `smpp_http_client_route_message` queues a request. -/
  | routeMessage
  /-- A caller compares the counter with the limit. -/
  | checkMax (i : Fin n)
  /-- A caller computes `max`, its allowance. -/
  | computeMax (i : Fin n)
  /-- The condition of the inner loop. -/
  | consume (i : Fin n)
  | counterIncrease (i : Fin n)
  | startRequest (i : Fin n)
  /-- `http_receive_result`: the `k`-th request of a caller is answered. -/
  | receiveResult (i : Fin n) (k : Nat)
  | counterDecrease (i : Fin n)
  deriving DecidableEq, Repr

/-- One atomic step; `maxOutstanding` is `max_outstanding_requests`. -/
def httpRoutingStep (maxOutstanding : Int) (s : SmppHttpRouting n) :
    HttpRoutingLabel n → Option (SmppHttpRouting n)
  | .routeMessage =>
      some { s with queuedRequests := s.queuedRequests ++ [s.arrived], arrived := s.arrived + 1 }
  | .checkMax i =>
      match (s.callers i).phase with
      | .looping =>
          -- the counter is unsigned, and so is the comparison
          if maxOutstanding % 2 ^ 64 ≤ s.outstandingRequests then some s
          else some (s.setPhase i .belowMax)
      | _ => none
  | .computeMax i =>
      match (s.callers i).phase with
      | .belowMax =>
          -- the counter is read again, and may have passed the limit by now
          some (s.setPhase i (.serving (maxOutstanding - s.outstandingRequests)))
      | _ => none
  | .consume i =>
      match (s.callers i).phase with
      | .serving left =>
          if 0 < left then
            match s.queuedRequests with
            | [] => some (s.setPhase i .looping)
            | route :: rest =>
                some ({ s with queuedRequests := rest }.setPhase i (.consumed (left - 1) route))
          else some (s.setPhase i .looping)
      | _ => none
  | .counterIncrease i =>
      match (s.callers i).phase with
      | .consumed left route =>
          some ({ s with outstandingRequests := s.outstandingRequests + 1 }.setPhase i
            (.counted left route))
      | _ => none
  | .startRequest i =>
      match (s.callers i).phase with
      | .counted left route =>
          some ({ s with started := s.started ++ [route] }.setCaller i
            { s.callers i with
              phase := .serving left
              inFlight := (s.callers i).inFlight ++ [route] })
      | _ => none
  | .receiveResult i k =>
      match (s.callers i).received, (s.callers i).inFlight[k]? with
      | none, some route =>
          some (s.setCaller i
            { s.callers i with
              inFlight := (s.callers i).inFlight.eraseIdx k
              received := some route })
      | _, _ => none
  | .counterDecrease i =>
      match (s.callers i).received with
      | some _ =>
          some ({ s with outstandingRequests := s.outstandingRequests - 1 }.setCaller i
            { s.callers i with received := none })
      | none => none

/-- What a step can be. -/
inductive HttpRoutingMove (maxOutstanding : Int) (s : SmppHttpRouting n) :
    HttpRoutingLabel n → SmppHttpRouting n → Prop
  | routeMessage : HttpRoutingMove maxOutstanding s .routeMessage
      { s with queuedRequests := s.queuedRequests ++ [s.arrived], arrived := s.arrived + 1 }
  | wait {i : Fin n} : HttpRoutingMove maxOutstanding s (.checkMax i) s
  | below {i : Fin n} (hphase : (s.callers i).phase = .looping) :
      HttpRoutingMove maxOutstanding s (.checkMax i) (s.setPhase i .belowMax)
  | compute {i : Fin n} (hphase : (s.callers i).phase = .belowMax) :
      HttpRoutingMove maxOutstanding s (.computeMax i)
        (s.setPhase i (.serving (maxOutstanding - s.outstandingRequests)))
  | leave {i : Fin n} {left : Int} (hphase : (s.callers i).phase = .serving left) :
      HttpRoutingMove maxOutstanding s (.consume i) (s.setPhase i .looping)
  | consume {i : Fin n} {left : Int} {route : Nat} {rest : List Nat}
      (hphase : (s.callers i).phase = .serving left) (hleft : 0 < left)
      (hqueued : s.queuedRequests = route :: rest) :
      HttpRoutingMove maxOutstanding s (.consume i)
        ({ s with queuedRequests := rest }.setPhase i (.consumed (left - 1) route))
  | increase {i : Fin n} {left : Int} {route : Nat}
      (hphase : (s.callers i).phase = .consumed left route) :
      HttpRoutingMove maxOutstanding s (.counterIncrease i)
        ({ s with outstandingRequests := s.outstandingRequests + 1 }.setPhase i
          (.counted left route))
  | start {i : Fin n} {left : Int} {route : Nat}
      (hphase : (s.callers i).phase = .counted left route) :
      HttpRoutingMove maxOutstanding s (.startRequest i)
        ({ s with started := s.started ++ [route] }.setCaller i
          { s.callers i with
            phase := .serving left
            inFlight := (s.callers i).inFlight ++ [route] })
  | receive {i : Fin n} {k route : Nat} (hreceived : (s.callers i).received = none)
      (hroute : (s.callers i).inFlight[k]? = some route) :
      HttpRoutingMove maxOutstanding s (.receiveResult i k)
        (s.setCaller i
          { s.callers i with
            inFlight := (s.callers i).inFlight.eraseIdx k
            received := some route })
  | decrease {i : Fin n} {route : Nat} (hreceived : (s.callers i).received = some route) :
      HttpRoutingMove maxOutstanding s (.counterDecrease i)
        ({ s with outstandingRequests := s.outstandingRequests - 1 }.setCaller i
          { s.callers i with received := none })

variable {maxOutstanding : Int} {s s' : SmppHttpRouting n} {l : HttpRoutingLabel n}

theorem httpRoutingStep_move (h : httpRoutingStep maxOutstanding s l = some s') :
    HttpRoutingMove maxOutstanding s l s' := by
  cases l with
  | routeMessage =>
      cases h
      exact .routeMessage
  | checkMax i =>
      simp only [httpRoutingStep] at h
      split at h
      · rename_i hphase
        split at h
        · cases h
          exact .wait
        · cases h
          exact .below hphase
      · cases h
  | computeMax i =>
      simp only [httpRoutingStep] at h
      split at h
      · rename_i hphase
        cases h
        exact .compute hphase
      · cases h
  | consume i =>
      simp only [httpRoutingStep] at h
      split at h
      · rename_i left hphase
        split at h
        · rename_i hleft
          split at h
          · cases h
            exact .leave hphase
          · rename_i route rest hqueued
            cases h
            exact .consume hphase hleft hqueued
        · cases h
          exact .leave hphase
      · cases h
  | counterIncrease i =>
      simp only [httpRoutingStep] at h
      split at h
      · rename_i left route hphase
        cases h
        exact .increase hphase
      · cases h
  | startRequest i =>
      simp only [httpRoutingStep] at h
      split at h
      · rename_i left route hphase
        cases h
        exact .start hphase
      · cases h
  | receiveResult i k =>
      simp only [httpRoutingStep] at h
      split at h
      · rename_i route hreceived hroute
        cases h
        exact .receive hreceived hroute
      · cases h
  | counterDecrease i =>
      simp only [httpRoutingStep] at h
      split at h
      · rename_i route hreceived
        cases h
        exact .decrease hreceived
      · cases h

/-! ## The limit -/

/-- The requests a caller may still count. -/
def Caller.allotted (c : Caller) : Nat :=
  match c.phase with
  | .looping => 0
  | .belowMax => 0
  | .serving left => left.toNat
  | .consumed left _ => left.toNat + 1
  | .counted left _ => left.toNat

/-- The requests of a caller that are counted. -/
def Caller.counted (c : Caller) : Nat :=
  c.inFlight.length + c.received.toList.length +
    match c.phase with
    | .counted _ _ => 1
    | _ => 0

def SmppHttpRouting.budget (s : SmppHttpRouting n) : Budget (Fin n) where
  inUse := s.outstandingRequests
  allotted := fun i => (s.callers i).allotted

/-- The requests that are started and not answered. -/
def SmppHttpRouting.inFlight (s : SmppHttpRouting n) : Nat := ∑ i, (s.callers i).inFlight.length

/-- No caller computes its allowance while another one has some of its own left, unless there is
none to compute. -/
def ComputesAlone (maxOutstanding : Int) (s : SmppHttpRouting n) : HttpRoutingLabel n → Prop
  | .computeMax i =>
      maxOutstanding ≤ s.outstandingRequests ∨ ∀ j, j ≠ i → (s.callers j).allotted = 0
  | _ => True

theorem budget_setCaller (s : SmppHttpRouting n) (i : Fin n) (c : Caller) :
    (s.setCaller i c).budget = s.budget.allot i c.allotted := by
  have hallotted : (fun j => (Function.update s.callers i c j).allotted) =
      Function.update (fun j => (s.callers j).allotted) i c.allotted := by
    funext j
    by_cases hj : j = i
    · subst hj
      simp
    · simp [hj]
  simp [SmppHttpRouting.budget, SmppHttpRouting.setCaller, Budget.allot, hallotted]

theorem budget_setCaller_same {i : Fin n} {c : Caller}
    (h : c.allotted = (s.callers i).allotted) : (s.setCaller i c).budget = s.budget := by
  rw [budget_setCaller, h]
  exact s.budget.allot_self i

/-- The callers share a budget. -/
theorem budget_move (h : HttpRoutingMove maxOutstanding s l s')
    (hok : ComputesAlone maxOutstanding s l) :
    BudgetMove maxOutstanding.toNat s.budget s'.budget := by
  cases h with
  | routeMessage =>
      exact .rest
  | wait =>
      exact .rest
  | below hphase =>
      rw [SmppHttpRouting.setPhase, budget_setCaller_same (by simp [Caller.allotted, hphase])]
      exact .rest
  | compute hphase =>
      rename_i i
      -- the only step that takes something out of the budget
      rw [SmppHttpRouting.setPhase, budget_setCaller]
      rcases hok with hnone | halone
      · have hzero : (maxOutstanding - s.outstandingRequests).toNat = 0 := by omega
        simp only [Caller.allotted, hzero]
        exact .waive i
      · have hleft : (maxOutstanding - s.outstandingRequests).toNat =
            maxOutstanding.toNat - s.budget.inUse := by
          change _ = maxOutstanding.toNat - s.outstandingRequests
          omega
        simp only [Caller.allotted, hleft]
        exact .allot i halone
  | leave hphase =>
      rename_i i left
      rw [SmppHttpRouting.setPhase, budget_setCaller]
      exact .waive i
  | consume hphase hleft hqueued =>
      rename_i i left route rest
      have hallotted : (left - 1).toNat + 1 = left.toNat := by omega
      have hbudget := budget_setCaller_same (s := { s with queuedRequests := rest }) (i := i)
        (c := { s.callers i with phase := .consumed (left - 1) route })
        (by simp only [Caller.allotted, hphase, hallotted])
      rw [SmppHttpRouting.setPhase, hbudget]
      exact .rest
  | increase hphase =>
      rename_i i left route
      have hallotted : s.budget.allotted i = left.toNat + 1 := by
        simp [SmppHttpRouting.budget, Caller.allotted, hphase]
      rw [SmppHttpRouting.setPhase, budget_setCaller]
      exact .take i hallotted
  | start hphase =>
      rename_i i left route
      have hbudget := budget_setCaller_same (s := { s with started := s.started ++ [route] })
        (i := i)
        (c := { s.callers i with
          phase := .serving left
          inFlight := (s.callers i).inFlight ++ [route] })
        (by simp [Caller.allotted, hphase])
      rw [hbudget]
      exact .rest
  | receive hreceived hroute =>
      rw [budget_setCaller_same (by simp [Caller.allotted])]
      exact .rest
  | decrease hreceived =>
      rename_i i route
      have hbudget := budget_setCaller_same
        (s := { s with outstandingRequests := s.outstandingRequests - 1 }) (i := i)
        (c := { s.callers i with received := none }) (by simp [Caller.allotted])
      rw [hbudget]
      exact .giveBack

/-- All requests in flight are counted. -/
def Counts (s : SmppHttpRouting n) : Prop :=
  ∑ i, (s.callers i).counted = s.outstandingRequests

theorem counts_update {i : Fin n} {c : Caller} (hs : Counts s)
    (hcallers : s'.callers = Function.update s.callers i c)
    (hcounted : s'.outstandingRequests + (s.callers i).counted =
      s.outstandingRequests + c.counted) : Counts s' := by
  have hsum := sum_measure_update Caller.counted s.callers i c
  unfold Counts at hs ⊢
  rw [hcallers]
  omega

theorem Counts.setPhase {i : Fin n} {phase : CallerPhase} (hs : Counts s)
    (hcounted : ({ s.callers i with phase := phase } : Caller).counted = (s.callers i).counted) :
    Counts (s.setPhase i phase) := by
  refine counts_update hs rfl ?_
  exact congrArg (s.outstandingRequests + ·) hcounted.symm

theorem counts_move (h : HttpRoutingMove maxOutstanding s l s') (hs : Counts s) : Counts s' := by
  cases h with
  | routeMessage =>
      exact hs
  | wait =>
      exact hs
  | below hphase =>
      exact hs.setPhase (by simp [Caller.counted, hphase])
  | compute hphase =>
      exact hs.setPhase (by simp [Caller.counted, hphase])
  | leave hphase =>
      exact hs.setPhase (by simp [Caller.counted, hphase])
  | consume hphase hleft hqueued =>
      rename_i i left route rest
      -- the request is counted in the next step
      have hrest : Counts { s with queuedRequests := rest } := hs
      exact hrest.setPhase (by simp [Caller.counted, hphase])
  | increase hphase =>
      refine counts_update hs rfl ?_
      simp only [Caller.counted, hphase, SmppHttpRouting.setPhase, SmppHttpRouting.setCaller]
      omega
  | start hphase =>
      -- what was counted before the start is in flight after it
      refine counts_update hs rfl ?_
      simp only [Caller.counted, hphase, SmppHttpRouting.setCaller, List.length_append,
        List.length_singleton]
      omega
  | receive hreceived hroute =>
      rename_i i k route
      rcases List.getElem?_eq_some_iff.mp hroute with ⟨hk, -⟩
      have hlength := List.length_eraseIdx_add_one hk
      refine counts_update hs rfl ?_
      simp only [Caller.counted, hreceived, SmppHttpRouting.setCaller, Option.toList_some,
        Option.toList_none, List.length_singleton, List.length_nil]
      omega
  | decrease hreceived =>
      rename_i i route
      -- the counter is not zero, since the answered request is counted
      have hpos : (s.callers i).counted ≤ s.outstandingRequests :=
        hs ▸ Finset.single_le_sum (f := fun j => (s.callers j).counted)
          (fun j _ => Nat.zero_le _) (Finset.mem_univ i)
      refine counts_update hs rfl ?_
      simp only [Caller.counted, hreceived, SmppHttpRouting.setCaller, Option.toList_some,
        Option.toList_none, List.length_singleton, List.length_nil] at hpos ⊢
      omega

/-! ## Each request once -/

inductive RoutePlace (n : Nat)
  | queued
  | caller (i : Fin n)
  | started
  deriving DecidableEq, Fintype

/-- The request a caller has consumed and not started yet. -/
def Caller.held (c : Caller) : List Nat :=
  match c.phase with
  | .consumed _ route => [route]
  | .counted _ route => [route]
  | _ => []

/-- How often each place holds a request. -/
def holding (s : SmppHttpRouting n) : Holding (RoutePlace n) Nat
  | .queued, route => s.queuedRequests.count route
  | .caller i, route => (s.callers i).held.count route
  | .started, route => s.started.count route

/-- The requests that have arrived are in one place each. -/
def HeldInPlace (s : SmppHttpRouting n) : Prop :=
  ∀ route, total (holding s) route = if route < s.arrived then 1 else 0

/-- The other callers hold what they held. -/
theorem holding_caller_of_ne {i j : Fin n} (hj : j ≠ i) (c : Caller) (route : Nat) :
    holding (s.setCaller i c) (.caller j) route = holding s (.caller j) route := by
  simp [holding, SmppHttpRouting.setCaller, hj]

theorem holding_setCaller {i : Fin n} {c : Caller} (hheld : c.held = (s.callers i).held) :
    holding (s.setCaller i c) = holding s := by
  funext p route
  cases p with
  | queued => rfl
  | started => rfl
  | caller j =>
      by_cases hj : j = i
      · subst hj
        simp [holding, SmppHttpRouting.setCaller, hheld]
      · exact holding_caller_of_ne hj c route

/-- A request that arrives is in the queue. -/
theorem intake_routeMessage (s : SmppHttpRouting n) :
    Intake (holding s)
      (holding { s with
        queuedRequests := s.queuedRequests ++ [s.arrived]
        arrived := s.arrived + 1 }) .queued s.arrived := by
  refine ⟨?_, ?_⟩
  · intro route
    simp only [holding, List.count_append, List.count_singleton, beq_iff_eq,
      eq_comm (a := s.arrived)]
  · intro r route hr
    cases r with
    | queued => exact absurd rfl hr
    | caller j => rfl
    | started => rfl

theorem HeldInPlace.of_holding (hs : HeldInPlace s) (hholding : holding s' = holding s)
    (harrived : s'.arrived = s.arrived) : HeldInPlace s' := by
  unfold HeldInPlace
  rw [hholding, harrived]
  exact hs

theorem HeldInPlace.of_exchange {p q : RoutePlace n} (hs : HeldInPlace s)
    (h : Exchange (holding s) (holding s') p q) (harrived : s'.arrived = s.arrived) :
    HeldInPlace s' := by
  intro route
  rw [h.total_eq, hs route, harrived]

theorem heldInPlace_move (h : HttpRoutingMove maxOutstanding s l s') (hs : HeldInPlace s) :
    HeldInPlace s' := by
  cases h with
  | routeMessage =>
      -- the number of a request is new, so nothing holds it yet
      intro route
      rw [(intake_routeMessage s).total_eq, hs route]
      grind
  | wait =>
      exact hs
  | below hphase =>
      exact hs.of_holding (holding_setCaller (by simp [Caller.held, hphase])) rfl
  | compute hphase =>
      exact hs.of_holding (holding_setCaller (by simp [Caller.held, hphase])) rfl
  | leave hphase =>
      exact hs.of_holding (holding_setCaller (by simp [Caller.held, hphase])) rfl
  | consume hphase hleft hqueued =>
      rename_i i left route rest
      refine hs.of_exchange (p := .queued) (q := .caller i) ⟨?_, ?_, ?_⟩ rfl
      · simp
      · intro t
        simp [holding, SmppHttpRouting.setPhase, SmppHttpRouting.setCaller, hqueued, Caller.held,
          hphase, List.count_cons]
      · intro r t hq hc
        cases r with
        | queued => exact absurd rfl hq
        | started => rfl
        | caller j =>
            have hj : j ≠ i := fun hji => hc (congrArg RoutePlace.caller hji)
            exact holding_caller_of_ne hj _ t
  | increase hphase =>
      exact hs.of_holding (holding_setCaller
        (s := { s with outstandingRequests := s.outstandingRequests + 1 })
        (by simp [Caller.held, hphase])) rfl
  | start hphase =>
      rename_i i left route
      refine hs.of_exchange (p := .caller i) (q := .started) ⟨?_, ?_, ?_⟩ rfl
      · simp
      · intro t
        simp [holding, SmppHttpRouting.setCaller, Caller.held, hphase, List.count_append,
          Nat.add_comm]
      · intro r t hc hs'
        cases r with
        | queued => rfl
        | started => exact absurd rfl hs'
        | caller j =>
            have hj : j ≠ i := fun hji => hc (congrArg RoutePlace.caller hji)
            exact holding_caller_of_ne hj _ t
  | receive hreceived hroute =>
      exact hs.of_holding (holding_setCaller (by simp [Caller.held])) rfl
  | decrease hreceived =>
      exact hs.of_holding (holding_setCaller
        (s := { s with outstandingRequests := s.outstandingRequests - 1 })
        (by simp [Caller.held])) rfl

/-! ## Runs -/

/-- The requests in flight are within the limit, and none was started twice. -/
structure RequestsLimited (maxOutstanding : Int) (s : SmppHttpRouting n) : Prop where
  limited : (s.inFlight : Int) ≤ maxOutstanding
  once : s.started.Nodup

/-- What the steps preserve. -/
structure RoutingInv (maxOutstanding : Int) (s : SmppHttpRouting n) : Prop where
  committed : s.budget.committed ≤ maxOutstanding.toNat
  counts : Counts s
  held : HeldInPlace s

theorem routingInv_init : RoutingInv maxOutstanding (smppHttpClientRouteInit n) where
  committed := by
    have hsum : ∑ i, (smppHttpClientRouteInit n).budget.allotted i = 0 :=
      Finset.sum_eq_zero (fun _ _ => rfl)
    have hinUse : (smppHttpClientRouteInit n).budget.inUse = 0 := rfl
    simp only [Budget.committed]
    omega
  counts := Finset.sum_eq_zero (fun _ _ => rfl)
  held := by
    intro route
    refine Finset.sum_eq_zero ?_
    intro p _
    cases p with
    | queued => rfl
    | caller i => rfl
    | started => rfl

theorem routingInv_step (h : RoutingInv maxOutstanding s) (hok : ComputesAlone maxOutstanding s l)
    (hstep : httpRoutingStep maxOutstanding s l = some s') : RoutingInv maxOutstanding s' where
  committed := (budget_move (httpRoutingStep_move hstep) hok).committed_le h.committed
  counts := counts_move (httpRoutingStep_move hstep) h.counts
  held := heldInPlace_move (httpRoutingStep_move hstep) h.held

theorem Counts.inFlight_le (h : Counts s) : s.inFlight ≤ s.outstandingRequests := by
  rw [← h]
  refine Finset.sum_le_sum ?_
  intro i _
  simp only [Caller.counted]
  omega

theorem HeldInPlace.nodup_started (h : HeldInPlace s) : s.started.Nodup := by
  rw [List.nodup_iff_count_le_one]
  intro route
  have hle := le_total (holding s) route .started
  rw [h route] at hle
  change s.started.count route ≤ _ at hle
  split at hle
  · exact hle
  · omega

theorem RoutingInv.requestsLimited (h : RoutingInv maxOutstanding s) (hmax : 0 ≤ maxOutstanding) :
    RequestsLimited maxOutstanding s where
  limited := by
    -- what is in flight is in use, and what is in use is committed
    calc (s.inFlight : Int)
        ≤ s.outstandingRequests := Int.ofNat_le.mpr h.counts.inFlight_le
      _ ≤ s.budget.committed := Int.ofNat_le.mpr (Nat.le_add_right _ _)
      _ ≤ maxOutstanding.toNat := Int.ofNat_le.mpr h.committed
      _ = maxOutstanding := Int.toNat_of_nonneg hmax
  once := h.held.nodup_started

/-- As long as no caller computes its allowance while another one still uses its own, the limit is
kept; and no request is started twice. -/
theorem requests_limited (hmax : 0 ≤ maxOutstanding) {ls : List (HttpRoutingLabel n)}
    (h : Run (httpRoutingStep maxOutstanding) (ComputesAlone maxOutstanding)
      (smppHttpClientRouteInit n) ls s) : RequestsLimited maxOutstanding s := by
  have hinv := h.invariant (RoutingInv maxOutstanding)
    (fun t l u ht hok hstep => routingInv_step ht hok hstep) routingInv_init
  exact hinv.requestsLimited hmax

instance (s : SmppHttpRouting n) (l : HttpRoutingLabel n) :
    Decidable (ComputesAlone maxOutstanding s l) := by
  cases l with
  | computeMax i => exact inferInstanceAs (Decidable (_ ∨ _))
  | _ => exact isTrue trivial

/-- The second caller computes its allowance after the first has used its own. -/
def sampleInTurn (i j : Fin n) : List (HttpRoutingLabel n) :=
  [.routeMessage, .routeMessage, .checkMax i, .checkMax j, .computeMax i, .consume i,
    .counterIncrease i, .startRequest i, .computeMax j, .consume j]

theorem requests_limited_sample :
    ∃ s, Run (httpRoutingStep 1) (ComputesAlone 1) (smppHttpClientRouteInit 2)
      (sampleInTurn 0 1) s ∧ RequestsLimited 1 s := by
  have hexec : (execute (httpRoutingStep 1) (ComputesAlone 1) (smppHttpClientRouteInit 2)
      (sampleInTurn 0 1)).any (fun s => s.inFlight == 1) = true := by
    decide +kernel
  rcases exists_run_of_execute hexec with ⟨s, hrun, -⟩
  exact ⟨s, hrun, requests_limited (by decide) hrun⟩

/-- Both callers compute theirs first. -/
def sampleTogether (i j : Fin n) : List (HttpRoutingLabel n) :=
  [.routeMessage, .routeMessage, .checkMax i, .checkMax j, .computeMax i, .computeMax j, .consume i,
    .counterIncrease i, .startRequest i, .consume j, .counterIncrease j, .startRequest j]

theorem requests_exceed_limit :
    ∃ s, Run (httpRoutingStep 1) anyStep (smppHttpClientRouteInit 2) (sampleTogether 0 1) s ∧
      ¬ RequestsLimited 1 s := by
  have hexec : (execute (httpRoutingStep 1) anyStep (smppHttpClientRouteInit 2)
      (sampleTogether 0 1)).any (fun s => s.inFlight == 2) = true := by
    decide +kernel
  rcases exists_run_of_execute hexec with ⟨s, hrun, htwo⟩
  refine ⟨s, hrun, ?_⟩
  intro h
  have hlimited := h.limited
  rw [beq_iff_eq.mp htwo] at hlimited
  exact absurd hlimited (by decide)

/-! ## Which settings keep the limit -/

/-- Runs without a condition on their steps. -/
abbrev Reaches (maxOutstanding : Int) (s s' : SmppHttpRouting n) : Prop :=
  Reach (httpRoutingStep maxOutstanding) anyStep s s'

theorem Reaches.step (hstep : httpRoutingStep maxOutstanding s l = some s') :
    Reaches maxOutstanding s s' := ⟨[l], Run.single trivial hstep⟩

theorem Reaches.trans {t : SmppHttpRouting n} (h : Reaches maxOutstanding s s')
    (h' : Reaches maxOutstanding s' t) : Reaches maxOutstanding s t := by
  rcases h with ⟨ls, hrun⟩
  rcases h' with ⟨ms, hrun'⟩
  exact ⟨ls ++ ms, hrun.append hrun'⟩

/-- Any number of requests can arrive before a caller does anything. -/
theorem reaches_arrivals (n : Nat) (maxOutstanding : Int) (k : Nat) :
    ∃ queue : List Nat, queue.length = k ∧ Reaches maxOutstanding (smppHttpClientRouteInit n)
      { smppHttpClientRouteInit n with queuedRequests := queue, arrived := k } := by
  induction k with
  | zero => exact ⟨[], rfl, [], Run.nil⟩
  | succ k ih =>
      rcases ih with ⟨queue, hlength, hreach⟩
      refine ⟨queue ++ [k], by simp [hlength], hreach.trans ?_⟩
      exact Reaches.step (l := .routeMessage) rfl

/-- A caller that may go on starts the next queued request. -/
theorem reaches_started (maxOutstanding : Int) {i : Fin n} {left : Int} {route : Nat}
    {rest : List Nat} (hphase : (s.callers i).phase = .serving left) (hleft : 0 < left)
    (hqueued : s.queuedRequests = route :: rest) :
    ∃ t, Reaches maxOutstanding s t ∧ (t.callers i).phase = .serving (left - 1) ∧
      (∀ j, j ≠ i → t.callers j = s.callers j) ∧ t.queuedRequests = rest ∧
      t.inFlight = s.inFlight + 1 := by
  let s₁ := { s with queuedRequests := rest }.setPhase i (.consumed (left - 1) route)
  let s₂ := { s₁ with outstandingRequests := s₁.outstandingRequests + 1 }.setPhase i
    (.counted (left - 1) route)
  let s₃ := { s₂ with started := s₂.started ++ [route] }.setCaller i
    { s₂.callers i with
      phase := .serving (left - 1)
      inFlight := (s₂.callers i).inFlight ++ [route] }
  have hconsume : httpRoutingStep maxOutstanding s (.consume i) = some s₁ := by
    simp only [httpRoutingStep, hphase, if_pos hleft, hqueued]
    rfl
  have hincrease : httpRoutingStep maxOutstanding s₁ (.counterIncrease i) = some s₂ := by
    simp [httpRoutingStep, s₁, s₂, SmppHttpRouting.setPhase, SmppHttpRouting.setCaller]
  have hstart : httpRoutingStep maxOutstanding s₂ (.startRequest i) = some s₃ := by
    simp [httpRoutingStep, s₂, s₃, SmppHttpRouting.setPhase, SmppHttpRouting.setCaller]
  refine ⟨s₃, ((Reaches.step hconsume).trans (.step hincrease)).trans (.step hstart), ?_, ?_, rfl,
    ?_⟩
  · simp [s₃, SmppHttpRouting.setCaller]
  · intro j hj
    simp [s₃, s₂, s₁, SmppHttpRouting.setPhase, SmppHttpRouting.setCaller, hj]
  · have hsum := sum_measure_update (fun c : Caller => c.inFlight.length) s.callers i
      { s.callers i with
        phase := .serving (left - 1)
        inFlight := (s.callers i).inFlight ++ [route] }
    have hcallers : s₃.callers = Function.update s.callers i
        { s.callers i with
          phase := .serving (left - 1)
          inFlight := (s.callers i).inFlight ++ [route] } := by
      simp [s₃, s₂, s₁, SmppHttpRouting.setPhase, SmppHttpRouting.setCaller]
    simp only [List.length_append, List.length_singleton] at hsum
    simp only [SmppHttpRouting.inFlight, hcallers]
    omega

/-- It can use up its whole allowance. -/
theorem reaches_startedAll (maxOutstanding : Int) {i : Fin n} (k : Nat) {left : Int}
    (hphase : (s.callers i).phase = .serving left) (hleft : (k : Int) ≤ left)
    (hqueued : k ≤ s.queuedRequests.length) :
    ∃ t, Reaches maxOutstanding s t ∧ (∀ j, j ≠ i → t.callers j = s.callers j) ∧
      t.queuedRequests.length + k = s.queuedRequests.length ∧ t.inFlight = s.inFlight + k := by
  induction k generalizing s left with
  | zero => exact ⟨s, ⟨[], Run.nil⟩, fun _ _ => rfl, rfl, rfl⟩
  | succ k ih =>
      cases hqueue : s.queuedRequests with
      | nil =>
          rw [hqueue] at hqueued
          cases hqueued
      | cons route rest =>
          rw [hqueue, List.length_cons] at hqueued
          rcases reaches_started maxOutstanding hphase (by omega) hqueue with
            ⟨t, hreach, hphase', hothers, hrest, hcount⟩
          rcases ih hphase' (by omega) (by rw [hrest]; omega) with
            ⟨u, hreach', hothers', hlength, hcount'⟩
          refine ⟨u, hreach.trans hreach', ?_, ?_, ?_⟩
          · intro j hj
            rw [hothers' j hj, hothers j hj]
          · rw [List.length_cons]
            rw [hrest] at hlength
            omega
          · omega

/-- Two callers compute the same allowance, one after the other. -/
theorem reaches_computed {i j : Fin n} (hij : i ≠ j) (hmax : 0 < maxOutstanding)
    (hlong : maxOutstanding < 2 ^ 63) (hi : (s.callers i).phase = .looping)
    (hj : (s.callers j).phase = .looping) (hnone : s.outstandingRequests = 0) :
    ∃ t, Reaches maxOutstanding s t ∧ (t.callers i).phase = .serving maxOutstanding ∧
      (t.callers j).phase = .serving maxOutstanding ∧ t.queuedRequests = s.queuedRequests := by
  have hbelow : ¬ maxOutstanding % 2 ^ 64 ≤ ((0 : Nat) : Int) := by omega
  let s₁ := s.setPhase i .belowMax
  let s₂ := s₁.setPhase j .belowMax
  let s₃ := s₂.setPhase i (.serving maxOutstanding)
  let s₄ := s₃.setPhase j (.serving maxOutstanding)
  have hcheck : httpRoutingStep maxOutstanding s (.checkMax i) = some s₁ := by
    simp only [httpRoutingStep, hi, hnone, if_neg hbelow]
    rfl
  have hcheck' : httpRoutingStep maxOutstanding s₁ (.checkMax j) = some s₂ := by
    have hphase : (s₁.callers j).phase = .looping := by
      simp [s₁, SmppHttpRouting.setPhase, SmppHttpRouting.setCaller, hij.symm, hj]
    have hnone' : s₁.outstandingRequests = 0 := hnone
    simp only [httpRoutingStep, hphase, hnone', if_neg hbelow]
    rfl
  have hcompute : httpRoutingStep maxOutstanding s₂ (.computeMax i) = some s₃ := by
    have hphase : (s₂.callers i).phase = .belowMax := by
      simp [s₂, s₁, SmppHttpRouting.setPhase, SmppHttpRouting.setCaller, hij]
    have hnone' : s₂.outstandingRequests = 0 := hnone
    simp only [httpRoutingStep, hphase, hnone', Int.natCast_zero, Int.sub_zero]
    rfl
  have hcompute' : httpRoutingStep maxOutstanding s₃ (.computeMax j) = some s₄ := by
    have hphase : (s₃.callers j).phase = .belowMax := by
      simp [s₃, s₂, SmppHttpRouting.setPhase, SmppHttpRouting.setCaller, hij.symm]
    have hnone' : s₃.outstandingRequests = 0 := hnone
    simp only [httpRoutingStep, hphase, hnone', Int.natCast_zero, Int.sub_zero]
    rfl
  refine ⟨s₄, (((Reaches.step hcheck).trans (.step hcheck')).trans (.step hcompute)).trans
    (.step hcompute'), ?_, ?_, rfl⟩
  · simp [s₄, s₃, SmppHttpRouting.setPhase, SmppHttpRouting.setCaller, hij]
  · simp [s₄, SmppHttpRouting.setPhase, SmppHttpRouting.setCaller]

/-- So they can start more requests than allowed. -/
theorem reaches_beyond {i j : Fin n} (hij : i ≠ j) (hmax : 0 < maxOutstanding)
    (hlong : maxOutstanding < 2 ^ 63) :
    ∃ s, Reaches maxOutstanding (smppHttpClientRouteInit n) s ∧ maxOutstanding < s.inFlight := by
  rcases reaches_arrivals n maxOutstanding (maxOutstanding.toNat + 1) with
    ⟨queue, hlength, harrivals⟩
  rcases reaches_computed (s := { smppHttpClientRouteInit n with
      queuedRequests := queue, arrived := maxOutstanding.toNat + 1 }) hij hmax hlong rfl rfl rfl
    with ⟨s, hcomputed, hi, hj, hqueue⟩
  have hlengthQueue : s.queuedRequests.length = maxOutstanding.toNat + 1 := by
    rw [hqueue]
    exact hlength
  rcases reaches_startedAll maxOutstanding maxOutstanding.toNat hi (by omega)
    (by rw [hlengthQueue]; omega) with ⟨t, hfirst, hothers, hrest, hcount⟩
  rw [hlengthQueue] at hrest
  -- one request is left for the second caller
  rcases reaches_startedAll maxOutstanding 1
    ((congrArg Caller.phase (hothers j hij.symm)).trans hj) (by omega) (by omega) with
    ⟨u, hsecond, -, -, hcount'⟩
  exact ⟨u, ((harrivals.trans hcomputed).trans hfirst).trans hsecond, by omega⟩

/-- The settings with which no run exceeds the limit: a single caller, or a limit of zero. -/
theorem limit_kept_iff (hmax : 0 ≤ maxOutstanding) (hlong : maxOutstanding < 2 ^ 63) :
    (∀ s : SmppHttpRouting n, Reaches maxOutstanding (smppHttpClientRouteInit n) s →
        RequestsLimited maxOutstanding s) ↔
      n ≤ 1 ∨ maxOutstanding = 0 := by
  constructor
  · intro hkept
    by_contra hnot
    rcases not_or.mp hnot with ⟨hn, hzero⟩
    have hij : (⟨0, by omega⟩ : Fin n) ≠ ⟨1, by omega⟩ := by simp
    rcases reaches_beyond hij (by omega) hlong with ⟨s, hreach, hbeyond⟩
    have hlimited := (hkept s hreach).limited
    omega
  · rintro hsettings s ⟨ls, hrun⟩
    -- every step meets the condition
    have hinv := hrun.invariant (RoutingInv maxOutstanding)
      (fun t l u ht _ hstep => by
        refine routingInv_step ht ?_ hstep
        cases l with
        | computeMax i =>
            rcases hsettings with hn | rfl
            · exact Or.inr (fun j hj => absurd (Fin.ext (by omega)) hj)
            · exact Or.inl (Int.natCast_nonneg _)
        | _ => trivial) routingInv_init
    exact hinv.requestsLimited hmax

end Routes
end Ksmppd
