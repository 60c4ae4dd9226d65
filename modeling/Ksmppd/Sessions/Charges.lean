import Ksmppd.Sessions.Settings
import Ksmppd.Submit.Billing

/-!
# Charges — which bind decides that a message is paid for

The credit is deducted when the router has answered, and whether it is deducted is read from the
account at that moment.  So a message is paid for if the last bind accepted under the name of its
session asked for prepaid billing, whatever the bind of the session itself was told, and whichever
threads have been at work since the message was received.
-/

namespace Ksmppd
namespace Sessions

open Lib
open Submit (SmKind Session SubmitCall SmppRouteStatus Conversion costsOf IsSimulation
  handleSm routingDoneOf callbackOf admitSm forwardSm simulateSubmitSm)

variable {n : Nat} {s : Session} {kind : SmKind} {env : Submit.Env} {calls : List SubmitCall}
  {q : SmppQueuedPdu} {sequenceNumber : Int}

/-! ## What a step deducts -/

/-- The costs among the calls of a result; none where it crashes. -/
def resultCosts (r : Submit.Result) : List Rat := r.elim [] (fun x => costsOf x.2)

/-- What `smpp_database_deduct_credit` is called for in a step. -/
def deductions (s : ServerState n) : Label n → List Rat
  | .inbound i link kannel env _ =>
      resultCosts ((s.inboundQueue[i]?).bind (fun x => (s.find? x.1).bind (fun e =>
        (handlePdu s.smppServer link kannel env (sessionOf s.data (consumed s.now e)) x.2).map
          (fun handled => (handled.session, handled.calls)))))
  | .routingDone i routeStatus env _ =>
      resultCosts ((s.routing[i]?).bind (fun x => (x.2.smppEsme.bind s.find?).bind (fun e =>
        routingDoneOf x.1 env (sessionOf s.data e) x.2 routeStatus)))
  -- the callbacks left with the bearerbox only answer, and nothing else handles messages
  | _ => []

/-- The last bind under the name of the session asked for prepaid billing. -/
def prepaid (granted : List (Octstr × SmppEsmeAuthResult)) (e : SmppEsme) : Bool :=
  (e.smppEsmeGlobal.bind (fun key => granted.lookup key)).any
    SmppEsmeAuthResult.enablePrepaidBilling

/-- The message goes out: there is a route for it, or an SMSC already. -/
def goesOut (routeStatus : SmppRouteStatus) (msg : Sms) : Bool :=
  decide (routeStatus.status = smppEsmeRok) || decide (octstrLen msg.smscId ≠ 0)

/-- The parts times the cost of the route, or times the default cost of the session. -/
def price (routeStatus : SmppRouteStatus) (e : SmppEsme) : Rat :=
  routeStatus.parts *
    (if routeStatus.status = smppEsmeRok then routeStatus.cost else e.defaultCost)

/-- What the binds accepted so far let a step deduct. -/
def dueBy (s : GrantState n) : Label n → List Rat
  | .routingDone i routeStatus _ _ =>
      ((s.server.routing[i]?).bind (fun x => (x.2.smppEsme.bind s.server.find?).bind (fun e =>
        x.2.msg.map (fun msg => (e, msg))))).elim [] (fun x =>
          if prepaid s.granted x.1 && goesOut routeStatus x.2 then [price routeStatus x.1] else [])
  | _ => []

/-! ## Callbacks and handlers without a charge -/

theorem costsOf_append (calls calls' : List SubmitCall) :
    costsOf (calls ++ calls') = costsOf calls ++ costsOf calls' :=
  List.filterMap_append

/-- Where every result makes calls of this kind, it makes no charge. -/
theorem resultCosts_eq_nil {r : Submit.Result}
    (h : ∀ x, r = some x → costsOf x.2 = []) : resultCosts r = [] := by
  cases r with
  | none => rfl
  | some x => exact h x rfl

theorem resultCosts_smCallback (status : Int) : resultCosts (Submit.smCallback s q status) = [] := by
  apply resultCosts_eq_nil
  intro x hx
  -- it only queues the response, positive or negative
  unfold Submit.smCallback at hx
  split at hx
  · rcases Option.map_eq_some_iff.mp hx with ⟨s', -, rfl⟩
    rfl
  · rcases Option.map_eq_some_iff.mp hx with ⟨s', -, rfl⟩
    rfl

/-- The callbacks left with the bearerbox deduct nothing. -/
theorem resultCosts_callbackOf (status : Int) : resultCosts (callbackOf kind s q status) = [] := by
  rw [Submit.callbackOf_eq]
  exact resultCosts_smCallback status

theorem resultCosts_forwardSm (converted : Conversion) :
    resultCosts (forwardSm kind env s sequenceNumber converted) = [] := by
  apply resultCosts_eq_nil
  intro x hx
  unfold forwardSm at hx
  split at hx
  · cases hx
  · cases hx
    rfl
  · rcases Option.map_eq_some_iff.mp hx with ⟨msg', -, rfl⟩
    rfl

theorem resultCosts_simulateSubmitSm (converted : Conversion) :
    resultCosts (simulateSubmitSm env s sequenceNumber converted) = [] := by
  apply resultCosts_eq_nil
  intro x hx
  exact Submit.costsOf_eq_nil (Submit.simulateSubmitSm_calls hx)

theorem resultCosts_admitSm {proceed : SmppEsmeGlobal → Submit.Result}
    (h : ∀ a, resultCosts (proceed a) = []) :
    resultCosts (admitSm kind s sequenceNumber proceed) = [] := by
  unfold admitSm
  -- a session that may not submit, or that is throttled, is answered at once
  split
  · rfl
  · cases s.account with
    | none => rfl
    | some a =>
        dsimp only [Option.bind_some]
        split
        · rfl
        · exact h a

/-- A handler asks the router first. -/
theorem resultCosts_handleSm (converted : Conversion) :
    resultCosts (handleSm kind env s sequenceNumber converted) = [] := by
  cases kind with
  -- `smpp_queues_handle_submit_sm` has the branch for simulated sessions, `data_sm` has not
  | submitSm =>
      apply resultCosts_admitSm
      intro a
      split
      · exact resultCosts_simulateSubmitSm converted
      · exact resultCosts_forwardSm converted
  | dataSm => exact resultCosts_admitSm (fun a => resultCosts_forwardSm converted)

theorem costsOf_handlePdu {smppServer : SmppServer} {link : BearerboxLink} {kannel : Kannel}
    {pdu : SmppPdu} {handled : Handled}
    (h : handlePdu smppServer link kannel env s pdu = some handled) :
    costsOf handled.calls = [] := by
  have hsubmit : ∀ {r : Submit.Result}, resultCosts r = [] → ofSubmit r = some handled →
      costsOf handled.calls = [] := by
    intro r hr hsome
    rcases Option.map_eq_some_iff.mp hsome with ⟨⟨session, calls⟩, hresult, rfl⟩
    rw [hresult] at hr
    exact hr
  unfold handlePdu at h
  split at h
  · cases h
    rfl
  · cases h
    rfl
  · exact hsubmit (resultCosts_handleSm _) h
  · exact hsubmit (resultCosts_handleSm _) h
  · rcases Option.bind_eq_some_iff.mp h with ⟨s₁, -, hacked⟩
    rcases Option.map_eq_some_iff.mp hacked with ⟨settled, -, rfl⟩
    rfl
  · cases h
    rfl

/-! ## The charge of a routed message -/

theorem resultCosts_after (before : List SubmitCall) {r : Submit.Result} (h : r.isSome) :
    resultCosts (Submit.after before r) = costsOf before ++ resultCosts r := by
  cases r with
  | none => cases h
  | some x => exact costsOf_append before x.2

theorem resultCosts_rejectSm (status : Int) : resultCosts (Submit.rejectSm s q status) = [] := by
  apply resultCosts_eq_nil
  intro x hx
  rcases Option.map_eq_some_iff.mp hx with ⟨s', -, rfl⟩
  rfl

theorem resultCosts_acceptSm (a : SmppEsmeGlobal) (msg : Sms) :
    resultCosts (Submit.acceptSm kind env s a q msg) = [] := by
  unfold Submit.acceptSm
  -- the store is asked after the credit, and its answer goes to the callback at once
  cases Submit.refresh kind env s q msg with
  | none => rfl
  | some x =>
      dsimp only [Option.bind_some]
      split
      · cases hcallback : Submit.smCallback s { x.1 with msg := none }
            (if env.inserted then 0 else smppEsmeRsyserr) with
        | none => rfl
        | some y =>
            have hnone := resultCosts_smCallback (s := s) (q := { x.1 with msg := none })
              (if env.inserted then 0 else smppEsmeRsyserr)
            rw [hcallback] at hnone
            exact hnone
      · rfl

/-- The flag of the account decides, where the step does not crash. -/
theorem resultCosts_billSm {a : SmppEsmeGlobal} (ha : s.account = some a) {msg : Sms} {cost : Rat}
    (h : (Submit.billSm kind env s q msg cost).isSome) :
    resultCosts (Submit.billSm kind env s q msg cost) =
      if a.enablePrepaidBilling then [cost] else [] := by
  unfold Submit.billSm at h ⊢
  rw [ha] at h ⊢
  dsimp only [Option.bind_some] at h ⊢
  split
  -- the credit is deducted first, and what follows depends on whether it sufficed
  · rename_i hprepaid
    rw [if_pos hprepaid] at h
    have hrest : (if env.deducted then Submit.acceptSm kind env s a q msg
        else Submit.rejectSm s q smppEsmeRsubmitfail).isSome := by
      simpa [Submit.after] using h
    rw [resultCosts_after _ hrest]
    have hnone : resultCosts (if env.deducted then Submit.acceptSm kind env s a q msg
        else Submit.rejectSm s q smppEsmeRsubmitfail) = [] := by
      split
      · exact resultCosts_acceptSm a msg
      · exact resultCosts_rejectSm _
    rw [hnone]
    rfl
  · exact resultCosts_acceptSm a msg

theorem routingDoneOf_of_account (hnone : s.account = none) (routeStatus : SmppRouteStatus) :
    routingDoneOf kind env s q routeStatus = none := by
  have haccount : s.routingDone.account = none := hnone
  rw [Submit.routingDoneOf_eq]
  unfold Submit.smRoutingDone
  cases q.msg with
  | none => rfl
  | some msg => simp [Submit.billSm, Submit.rejectSm, Session.countError, haccount]

theorem resultCosts_routingDoneOf {a : SmppEsmeGlobal} (ha : s.account = some a) {msg : Sms}
    (hmsg : q.msg = some msg) {routeStatus : SmppRouteStatus}
    (h : (routingDoneOf kind env s q routeStatus).isSome) :
    resultCosts (routingDoneOf kind env s q routeStatus) =
      if a.enablePrepaidBilling && goesOut routeStatus msg then [price routeStatus s.esme]
      else [] := by
  have haccount : s.routingDone.account = some a := ha
  rw [Submit.routingDoneOf_eq] at h ⊢
  unfold Submit.smRoutingDone at h ⊢
  rw [hmsg] at h ⊢
  dsimp only [Option.bind_some] at h ⊢
  -- a route was found, or the message may go out without one
  by_cases hroute : routeStatus.status = smppEsmeRok
  · rw [if_pos hroute] at h ⊢
    rw [resultCosts_billSm haccount h]
    simp [goesOut, price, hroute]
  · rw [if_neg hroute] at h ⊢
    by_cases hsmsc : octstrLen msg.smscId ≠ 0
    · -- the SMSC of the message stands in, at the session's cost
      rw [if_pos hsmsc] at h ⊢
      rw [resultCosts_billSm haccount h]
      simp [goesOut, price, hroute, hsmsc]
    · rw [if_neg hsmsc, resultCosts_rejectSm]
      have hstays : octstrLen msg.smscId = 0 := by simpa using hsmsc
      simp [goesOut, hroute, hstays]

/-! ## Runs -/

/-- An account has the billing flag of the last bind under its name. -/
theorem granted_of_account {smppServer : SmppServer} {g : GrantState n}
    (h : Configured smppServer g) {key : Octstr} {a : SmppEsmeGlobal}
    (hfind : g.server.data.esmes.find? key = some a) :
    ∃ r, g.granted.lookup key = some r ∧ r.enablePrepaidBilling = a.enablePrepaidBilling := by
  have hsettings : settingsUnder g.server.data key = some (accountSettings a) := by
    simp [settingsUnder, hfind]
  rw [h.settings] at hsettings
  rcases Option.map_eq_some_iff.mp hsettings with ⟨r, hlookup, hr⟩
  exact ⟨r, hlookup, congrArg AccountSettings.enablePrepaidBilling hr⟩

/-- And so has the one a session points to. -/
theorem prepaid_of_configured {smppServer : SmppServer} {g : GrantState n}
    (h : Configured smppServer g) {e : SmppEsme} {a : SmppEsmeGlobal}
    (ha : (sessionOf g.server.data e).account = some a) :
    prepaid g.granted e = a.enablePrepaidBilling := by
  rcases Option.bind_eq_some_iff.mp ha with ⟨key, hkey, hfind⟩
  rcases granted_of_account h hfind with ⟨r, hlookup, hflag⟩
  simp [prepaid, hkey, hlookup, hflag]

theorem deductions_inbound {t : ServerState n} {i : Nat} {link : BearerboxLink} {kannel : Kannel}
    {inserted : Bool} : deductions t (.inbound i link kannel env inserted) = [] := by
  apply resultCosts_eq_nil
  intro x hx
  rcases Option.bind_eq_some_iff.mp hx with ⟨y, -, hrest⟩
  rcases Option.bind_eq_some_iff.mp hrest with ⟨e, -, hmap⟩
  rcases Option.map_eq_some_iff.mp hmap with ⟨handled, hhandle, rfl⟩
  exact costsOf_handlePdu hhandle

theorem deductions_routingDone {smppServer : SmppServer} {g : GrantState n} {t : ServerState n}
    (h : Configured smppServer g) {i : Nat} {routeStatus : SmppRouteStatus} {inserted : Bool}
    (hstep : step g.server (.routingDone i routeStatus env inserted) = some t) :
    deductions g.server (.routingDone i routeStatus env inserted) =
      dueBy g (.routingDone i routeStatus env inserted) := by
  cases hget : g.server.routing[i]? with
  | none => simp [deductions, dueBy, hget, resultCosts]
  | some x =>
      rcases x with ⟨kind, q⟩
      simp only [step, hget] at hstep
      rcases Option.bind_eq_some_iff.mp hstep with ⟨esme, howner, hrest⟩
      rcases Option.bind_eq_some_iff.mp hrest with ⟨e, hfind, hfinish⟩
      rcases Option.bind_eq_some_iff.mp hfinish with ⟨r, hresult, -⟩
      have hsome : (routingDoneOf kind env (sessionOf g.server.data e) q routeStatus).isSome := by
        have hfound : (sessionOf g.server.data e) =
            sessionOf { g.server with routing := g.server.routing.eraseIdx i }.data e := rfl
        rw [hfound, hresult]
        rfl
      -- without an account, or without its message, the step would have crashed
      cases ha : (sessionOf g.server.data e).account with
      | none =>
          rw [routingDoneOf_of_account ha] at hsome
          cases hsome
      | some a =>
          cases hmsg : q.msg with
          | none =>
              rw [Submit.routingDoneOf_eq] at hsome
              simp [Submit.smRoutingDone, hmsg] at hsome
          | some msg =>
              have hcosts := resultCosts_routingDoneOf ha hmsg hsome
              have hesme : (sessionOf g.server.data e).esme = e := rfl
              simp only [deductions, dueBy, hget, howner, hfind, hmsg, Option.bind_some,
                Option.map_some, Option.elim_some, hcosts, hesme, prepaid_of_configured h ha]

theorem deductions_eq_dueBy {smppServer : SmppServer} {g : GrantState n} {t : ServerState n}
    {l : Label n} (h : Configured smppServer g) (hstep : step g.server l = some t) :
    deductions g.server l = dueBy g l := by
  cases l with
  | inbound i link kannel env inserted => exact deductions_inbound
  | routingDone i routeStatus env inserted => exact deductions_routingDone h hstep
  | _ => rfl

/-- A message of the first session, which was not to pay when it was bound. -/
def sampleSubmitted : List (Label 0) :=
  sampleRebound ++ [.receive 0 (.submitSm Submit.sampleSubmitSm),
    .inbound 0 { alive := true, written := true } Submit.sampleKannel Submit.sampleEnv true]

def sampleRouted : Label 0 :=
  .routingDone 0 { status := smppEsmeRok, parts := 2, cost := 3 } Submit.sampleEnv true

end Sessions
end Ksmppd
