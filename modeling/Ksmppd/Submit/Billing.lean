import Ksmppd.Submit.Accepted

/-!
# Billing — what a prepaid account pays for a message

The credit is deducted in the routing callback, before the message is stored or handed to the
bearerbox.  Nothing gives it back when the message is refused afterwards.
-/

namespace Ksmppd
namespace Submit

open Lib

variable {kind : SmKind} {sequenceNumber : Int} {env : Env} {s : Session}

/-! ## From the request to its response -/

/-- How a message is settled that was given to `smpp_bearerbox_add_message`. -/
inductive Settlement
  | ack (nack : Int)
  | connectionLost
  /-- No bearerbox is up: the message is stored, or refused where there is no queue. -/
  | offline (databaseEnableQueue inserted : Bool)
  deriving DecidableEq, Repr

/-- The status the callback left with the bearerbox is called with. -/
def Settlement.status : Settlement → Int
  | .ack nack => Bearerbox.ackStatus nack
  | .connectionLost => smppEsmeRsyserr
  | .offline databaseEnableQueue inserted =>
      if databaseEnableQueue && inserted then 0 else smppEsmeRsyserr

/-- What happens around a submission: the session when the router answers and when the bearerbox
does, and the answers. -/
structure Course where
  env : Env
  routed : Session
  /-- What the router makes of the message. -/
  reroute : Sms → Sms
  routeStatus : SmppRouteStatus
  routedEnv : Env
  settled : Session
  settlement : Settlement
  routed_registered : routed.Registered
  settled_registered : settled.Registered

/-- The callback left with the bearerbox, where a message was handed over. -/
def settle (kind : SmKind) (course : Course) (calls : List SubmitCall) :
    Option (List SubmitCall) :=
  match handoversOf calls with
  | [] => some calls
  | (_, q) :: _ =>
      (callbackOf kind course.settled q course.settlement.status).map (fun r => calls ++ r.2)

/-- The callback left with the router, where it was asked. -/
def answerRoute (kind : SmKind) (course : Course) (calls : List SubmitCall) :
    Option (List SubmitCall) :=
  match routesOf calls with
  | [] => some calls
  | (_, q) :: _ =>
      (routingDoneOf kind course.routedEnv course.routed
        { q with msg := q.msg.map course.reroute } course.routeStatus).bind (fun r =>
          (settle kind course r.2).map (fun calls' => calls ++ calls'))

/-- All calls made for a request, from its handler to its response. -/
def submission (kind : SmKind) (b : BoundSession) (sequenceNumber : Int)
    (converted : Except Int Sms) (course : Course) : Option (List SubmitCall) :=
  (handleSm kind course.env b.toSession sequenceNumber (some converted)).bind (fun r =>
    answerRoute kind course r.2)

/-! ## What is deducted -/

def costsOf (calls : List SubmitCall) : List Rat :=
  calls.filterMap (fun c => match c with
    | .databaseDeductCredit _ cost => some cost
    | _ => none)

@[simp] theorem costsOf_databaseDeductCredit (systemId : Option Octstr) (cost : Rat) :
    costsOf [.databaseDeductCredit systemId cost] = [cost] := rfl

@[simp] theorem costsOf_databaseAddMessage (msg : Sms) (inserted : Bool) :
    costsOf [.databaseAddMessage msg inserted] = [] := rfl

/-- The credit the calls have cost the account: nothing where `smpp_database_deduct_credit` found
too little. -/
def Course.deducted (course : Course) (calls : List SubmitCall) : Rat :=
  if course.routedEnv.deducted then (costsOf calls).sum else 0

/-- The parts times the applied cost: that of the route, or the session's default. -/
def Course.price (course : Course) : Rat :=
  course.routeStatus.parts *
    (if course.routeStatus.status = smppEsmeRok then course.routeStatus.cost
      else course.routed.esme.defaultCost)

/-- What a message that was answered with ESME_ROK is to cost; a simulated one has no route and no
cost. -/
def Course.due (course : Course) (calls : List SubmitCall) : Rat :=
  if routesOf calls = [] then 0 else course.price

/-- The account pays for the message exactly if it is answered with ESME_ROK. -/
def ChargedAsAnswered (kind : SmKind) (b : BoundSession) (sequenceNumber : Int)
    (converted : Except Int Sms) (course : Course) : Prop :=
  ∀ calls q, submission kind b sequenceNumber converted course = some calls →
    q ∈ responsesOf calls → course.deducted calls = if isOk q then course.due calls else 0

/-! ## Refusals -/

/-- `smpp_queues_handle_submit_sm` throttles the session. -/
def throttled (b : BoundSession) : Bool :=
  b.account.any (fun a => decide (a.throughput > 0 ∧ a.inboundLoad > a.throughput))

/-- The message the router is asked for, if the request gets as far as that. -/
def routedMsg? (kind : SmKind) (b : BoundSession) (env : Env) : Except Int Sms → Option Sms
  | .error _ => none
  | .ok msg =>
      if b.esme.bindType &&& smppEsmeTransmit = 0 ∨ throttled b = true ∨
          (kind = .submitSm ∧ b.esme.simulate = true) then none
      else smppQueuesMsgSetDlrUrl env b.toSession (withDefaultSmsc b.toSession msg)

/-- The message has a route, or an SMSC that stands in for one. -/
def Course.Routes (course : Course) (msg : Sms) : Prop :=
  course.routeStatus.status = smppEsmeRok ∨ octstrLen msg.smscId ≠ 0

def Settlement.Accepts : Settlement → Prop
  | .ack nack => nack = ackSuccess ∨ nack = ackBuffered
  | .connectionLost => False
  | .offline databaseEnableQueue inserted => databaseEnableQueue = true ∧ inserted = true

/-- The message is stored, or the bearerbox takes it. -/
def Course.Accepts (course : Course) : Prop :=
  ∀ a ∈ course.routed.account,
    if a.databaseStorePrimary then course.routedEnv.inserted = true else course.settlement.Accepts

/-- The message was paid for, and then refused. -/
def RefusedAfterBilling (kind : SmKind) (b : BoundSession) (converted : Except Int Sms)
    (course : Course) : Prop :=
  ∃ msg ∈ routedMsg? kind b course.env converted, course.Routes (course.reroute msg) ∧
    course.routedEnv.deducted = true ∧ ¬ course.Accepts

/-- The account pays for the message if it is answered with ESME_ROK, and also if it is refused
only after it was billed; for no other refusal does it pay. -/
structure ChargedWhenBilled (kind : SmKind) (b : BoundSession) (sequenceNumber : Int)
    (converted : Except Int Sms) (course : Course) : Prop where
  answered : b.esme.simulate = false → ∃ calls q,
    submission kind b sequenceNumber converted course = some calls ∧ responsesOf calls = [q] ∧
      IsResponse kind sequenceNumber q
  accepted : ∀ calls q, submission kind b sequenceNumber converted course = some calls →
    q ∈ responsesOf calls → isOk q = true → course.deducted calls = course.due calls
  refusedAfterBilling : ∀ calls, submission kind b sequenceNumber converted course = some calls →
    RefusedAfterBilling kind b converted course → course.deducted calls = course.price
  refused : ∀ calls q, submission kind b sequenceNumber converted course = some calls →
    q ∈ responsesOf calls → ¬ isOk q = true → ¬ RefusedAfterBilling kind b converted course →
      course.deducted calls = 0

variable {course : Course} {calls : List SubmitCall} {costs : List Rat} {ok : Prop}

/-! ## Settlements -/

/-- Every callback of the log was called with the status of a settlement. -/
def Settled {n : Nat} (log : List (Bearerbox.Event n Context)) : Prop :=
  ∀ m status, .callback m status ∈ log → ∃ settlement : Settlement, settlement.status = status

section

variable {n : Nat} {log es : List (Bearerbox.Event n Context)}
  {t u : Bearerbox.SmppBearerboxState n Context}

/-- New events whose callbacks all have one status. -/
theorem Settled.append (h : Settled log) (settlement : Settlement)
    (hes : ∀ m status, .callback m status ∈ es → status = settlement.status) :
    Settled (log ++ es) := by
  intro m status hcall
  rcases List.mem_append.mp hcall with hold | hnew
  · exact h m status hold
  · exact ⟨settlement, (hes m status hnew).symm⟩

/-- New events without callbacks. -/
theorem Settled.append_quiet (h : Settled log) (hes : ∀ m status, .callback m status ∉ es) :
    Settled (log ++ es) :=
  h.append .connectionLost (fun m status hcall => absurd hcall (hes m status))

theorem settled_addToQueue (h : Settled t.log) (m : Bearerbox.SmppBearerboxMsg Context)
    (inserted : Bool) : Settled (Bearerbox.smppBearerboxAddToQueue t m inserted).log := by
  unfold Bearerbox.smppBearerboxAddToQueue
  split
  · exact h
  · -- no bearerbox is up: the database takes the message, or nobody does
    split
    · apply h.append (.offline true inserted)
      intro m' status hcall
      simp only [List.mem_cons, reduceCtorEq, Bearerbox.Event.callback.injEq, List.not_mem_nil,
        or_false, false_or] at hcall
      rw [hcall.2]
      rfl
    · apply h.append (.offline false inserted)
      intro m' status hcall
      simp only [List.mem_cons, reduceCtorEq, Bearerbox.Event.callback.injEq, List.not_mem_nil,
        or_false] at hcall
      rw [hcall.2]
      rfl

theorem settled_step {l : Bearerbox.Label n Context} (h : Settled t.log)
    (hstep : Bearerbox.step t l = some u) : Settled u.log := by
  cases l with
  | addMessage msg context inserted =>
      cases hstep
      exact settled_addToQueue h _ inserted
  | requeue b inserted =>
      simp only [Bearerbox.step] at hstep
      split at hstep
      · cases hstep
        exact settled_addToQueue (t := t.setBox b _) h _ inserted
      · cases hstep
  | ack b id nack =>
      simp only [Bearerbox.step] at hstep
      split at hstep
      · cases hstep
        apply h.append (.ack nack)
        intro m status hcall
        simp only [List.mem_cons, reduceCtorEq, Bearerbox.Event.callback.injEq, List.not_mem_nil,
          or_false, false_or] at hcall
        exact hcall.2
      · -- an ack without a message calls nothing
        cases hstep
        exact h.append_quiet (by simp)
  | reconnect b connected identified =>
      simp only [Bearerbox.step] at hstep
      split at hstep
      · cases hstep
      · cases hstep
        apply h.append .connectionLost
        intro m status hcall
        rcases List.mem_flatMap.mp hcall with ⟨m', -, hm'⟩
        simp only [List.mem_cons, reduceCtorEq, Bearerbox.Event.callback.injEq, List.not_mem_nil,
          or_false] at hm'
        exact hm'.2
  | consume b i =>
      simp only [Bearerbox.step] at hstep
      split at hstep
      · cases hstep
        exact h
      · cases hstep
  | beginWrite b =>
      simp only [Bearerbox.step] at hstep
      split at hstep
      · split at hstep
        · cases hstep
          exact h
        · cases hstep
          exact h
      · cases hstep
  | endWrite b written =>
      simp only [Bearerbox.step] at hstep
      split at hstep
      · split at hstep
        · cases hstep
          exact h.append_quiet (by simp)
        · cases hstep
          exact h
      · cases hstep
  | lose b =>
      simp only [Bearerbox.step] at hstep
      split at hstep
      · cases hstep
      · cases hstep
        exact h

end

/-- These are the statuses the bearerbox threads call their callbacks with. -/
theorem callback_status_settlement {n : Nat} {databaseEnableQueue : Bool}
    {ids : Fin n → Option Octstr} {okStep : Bearerbox.SmppBearerboxState n Context →
      Bearerbox.Label n Context → Prop} {ls : List (Bearerbox.Label n Context)}
    {t : Bearerbox.SmppBearerboxState n Context}
    (h : Run Bearerbox.step okStep (Bearerbox.smppBearerboxInit databaseEnableQueue ids) ls t)
    {m : Bearerbox.SmppBearerboxMsg Context} {status : Int} (hcall : .callback m status ∈ t.log) :
    ∃ settlement : Settlement, settlement.status = status := by
  have hsettled : Settled t.log := by
    apply h.invariant (fun t => Settled t.log) (fun _ _ _ h _ hstep => settled_step h hstep)
    simp [Settled, Bearerbox.smppBearerboxInit]
  exact hsettled m status hcall

theorem settlement_status_eq_iff (settlement : Settlement) :
    settlement.status = smppEsmeRok ↔ settlement.Accepts := by
  cases settlement with
  | ack nack =>
      constructor
      · exact Bearerbox.ackStatus_eq_rok
      · rintro (rfl | rfl)
        · rfl
        · rfl
  | connectionLost => simp [Settlement.status, Settlement.Accepts, smppEsmeRsyserr, smppEsmeRok]
  | offline databaseEnableQueue inserted =>
      cases databaseEnableQueue with
      | false => simp [Settlement.status, Settlement.Accepts, smppEsmeRsyserr, smppEsmeRok]
      | true =>
          cases inserted with
          | false => simp [Settlement.status, Settlement.Accepts, smppEsmeRsyserr, smppEsmeRok]
          | true => simp [Settlement.status, Settlement.Accepts, smppEsmeRok]

theorem isOk_setStatus_iff {q : SmppQueuedPdu} {status : Int}
    (h : IsResponse kind sequenceNumber q) :
    isOk (setStatus status q) = true ↔ status = smppEsmeRok := by
  refine ⟨isOk_setStatus, ?_⟩
  rintro rfl
  rcases h with ⟨r, hpdu, -⟩
  cases kind with
  | submitSm => simp [isOk, setStatus, editResp, hpdu, mapResp, SmKind.resp]
  | dataSm => simp [isOk, setStatus, editResp, hpdu, mapResp, SmKind.resp]

/-! ## The answer of the router -/

/-- After the bearerbox has settled what was handed to it, one response is queued, with ESME_ROK
exactly if `ok`, and `costs` were deducted. -/
def Settles (kind : SmKind) (sequenceNumber : Int) (course : Course) (ok : Prop)
    (costs : List Rat) (r : Result) : Prop :=
  ∃ s' calls calls' q, r = some (s', calls) ∧ settle kind course calls = some calls' ∧
    routesOf calls' = [] ∧ responsesOf calls' = [q] ∧ IsResponse kind sequenceNumber q ∧
    (isOk q = true ↔ ok) ∧ costsOf calls' = costs

theorem settles_respond {q : SmppQueuedPdu} {status : Int}
    (h : IsResponse kind sequenceNumber q) :
    Settles kind sequenceNumber course (status = smppEsmeRok) []
      (some (respond s (setStatus status q))) :=
  ⟨s.addOutbound, _, [.addOutbound (setStatus status q)], setStatus status q, rfl, rfl, rfl, rfl,
    isResponse_setStatus h, isOk_setStatus_iff h, rfl⟩

theorem settles_smCallback {q : SmppQueuedPdu} (h : IsResponse kind sequenceNumber q)
    (hs : s.Registered) (status : Int) :
    Settles kind sequenceNumber course (status = smppEsmeRok) [] (smCallback s q status) := by
  by_cases hrok : status = smppEsmeRok
  · rcases countMt_spec hs with ⟨s', hs', -⟩
    simpa [smCallback, hrok, hs'] using
      @settles_respond kind sequenceNumber s' course q smppEsmeRok h
  · rcases countError_spec hs with ⟨s', hs', -⟩
    simpa [smCallback, hrok, hs'] using
      @settles_respond kind sequenceNumber s' course (setMessageId none q) status
        (isResponse_setMessageId h)

/-- A call that queues nothing and hands nothing over only adds to the costs. -/
theorem settles_after {c : SubmitCall} (hc : IsQuiet c) {r : Result}
    (h : Settles kind sequenceNumber course ok costs r) :
    Settles kind sequenceNumber course ok (costsOf [c] ++ costs) (after [c] r) := by
  rcases h with ⟨s', calls, calls', q, rfl, hsettle, hroutes, hresponse, hq, hok, rfl⟩
  have hsettle' : settle kind course (c :: calls) = some (c :: calls') := by
    unfold settle at hsettle ⊢
    rw [(quiet_calls hc calls).2.1]
    cases hover : handoversOf calls with
    | nil =>
        simp only [hover, Option.some.injEq] at hsettle ⊢
        rw [hsettle]
    | cons x rest =>
        simp only [hover, Option.map_eq_some_iff] at hsettle ⊢
        rcases hsettle with ⟨r, hr, rfl⟩
        exact ⟨r, hr, rfl⟩
  rcases quiet_calls hc calls' with ⟨hresponses, -, hroutes'⟩
  refine ⟨s', c :: calls, c :: calls', q, rfl, hsettle', hroutes'.trans hroutes,
    hresponses.trans hresponse, hq, hok, ?_⟩
  have happend : costsOf ([c] ++ calls') = costsOf [c] ++ costsOf calls' := List.filterMap_append
  exact happend

theorem Settles.imp {ok' : Prop} {r : Result} (h : Settles kind sequenceNumber course ok costs r)
    (hok : ok ↔ ok') : Settles kind sequenceNumber course ok' costs r := by
  rcases h with ⟨s', calls, calls', q, hr, hsettle, hroutes, hresponse, hq, hok', hcosts⟩
  exact ⟨s', calls, calls', q, hr, hsettle, hroutes, hresponse, hq, hok'.trans hok, hcosts⟩

theorem settles_rejectSm {q : SmppQueuedPdu} {status : Int}
    (h : IsResponse kind sequenceNumber q) (hs : s.Registered) :
    Settles kind sequenceNumber course (status = smppEsmeRok) [] (rejectSm s q status) := by
  rcases countError_spec hs with ⟨s', hs', -⟩
  simpa [rejectSm, hs'] using
    @settles_respond kind sequenceNumber s' course (setMessageId none { q with msg := none })
      status (isResponse_setMessageId (isResponse_withMsg h))

theorem settles_handover {q : SmppQueuedPdu} {msg : Sms} (h : IsResponse kind sequenceNumber q) :
    Settles kind sequenceNumber course course.settlement.Accepts []
      (some (s, [.bearerboxAddMessage msg q])) := by
  rcases smCallback_answers h course.settled_registered course.settlement.status with
    ⟨t, calls, hcallback, hanswers, -⟩
  have hsettle : settle kind course [.bearerboxAddMessage msg q] =
      some (.bearerboxAddMessage msg q :: calls) := by
    simp [settle, handoversOf, callbackOf_eq, hcallback]
  -- the callback is the same as the one that runs at once, so its response is known
  rcases @settles_smCallback kind sequenceNumber course.settled course q h
    course.settled_registered course.settlement.status with
    ⟨t', cs, cs', q', hcall, hcs, hroutes, hresponse, hq', hok, hcosts⟩
  rw [hcallback] at hcall
  cases hcall
  have hsame : cs' = calls := by
    simpa [settle, hanswers.handovers] using hcs.symm
  subst hsame
  exact ⟨s, _, _, q', rfl, hsettle, hroutes, hresponse, hq',
    hok.trans (settlement_status_eq_iff _), hcosts⟩

/-- What a message comes to that is stored or handed to the bearerbox. -/
theorem settles_acceptSm {a : SmppEsmeGlobal} {q : SmppQueuedPdu} {msg : Sms}
    (h : IsResponse kind sequenceNumber q) (hs : s.Registered) :
    Settles kind sequenceNumber course
      (if a.databaseStorePrimary then env.inserted = true else course.settlement.Accepts) []
      (acceptSm kind env s a q msg) := by
  rcases @refresh_spec kind env s sequenceNumber q h hs msg with ⟨q', msg', hrefresh, hq'⟩
  cases hprimary : a.databaseStorePrimary with
  | true =>
      -- the callback runs at once, with the outcome of the insert
      have hcallback := @settles_smCallback kind sequenceNumber s course { q' with msg := none }
        (isResponse_withMsg hq') hs (if env.inserted then 0 else smppEsmeRsyserr)
      have hok : (if env.inserted then 0 else smppEsmeRsyserr) = smppEsmeRok ↔
          env.inserted = true := by
        cases env.inserted with
        | true => simp [smppEsmeRok]
        | false => simp [smppEsmeRsyserr, smppEsmeRok]
      simpa [acceptSm, hrefresh, hprimary] using
        @settles_after kind sequenceNumber course [] _ (.databaseAddMessage msg' env.inserted)
          trivial _ (hcallback.imp hok)
  | false => simpa [acceptSm, hrefresh, hprimary] using settles_handover hq'

theorem settles_billSm {a : SmppEsmeGlobal} {q : SmppQueuedPdu} {msg : Sms} {cost : Rat}
    (h : IsResponse kind sequenceNumber q) (hs : s.Registered) (ha : s.account = some a)
    (hprepaid : a.enablePrepaidBilling = true) :
    Settles kind sequenceNumber course
      (env.deducted = true ∧
        if a.databaseStorePrimary then env.inserted = true else course.settlement.Accepts)
      [cost] (billSm kind env s q msg cost) := by
  cases hdeducted : env.deducted with
  | true =>
      simpa [billSm, ha, hprepaid, hdeducted] using
        @settles_after kind sequenceNumber course [] _ (.databaseDeductCredit s.esme.systemId cost)
          trivial _ (@settles_acceptSm kind sequenceNumber env s course a q msg h hs)
  | false =>
      have hreject := (@settles_rejectSm kind sequenceNumber s course q smppEsmeRsubmitfail h
        hs).imp (show smppEsmeRsubmitfail = smppEsmeRok ↔ False by decide)
      simpa [billSm, ha, hprepaid, hdeducted] using
        @settles_after kind sequenceNumber course [] _ (.databaseDeductCredit s.esme.systemId cost)
          trivial _ hreject

@[simp] theorem defaultCost_routingDone :
    s.routingDone.esme.defaultCost = s.esme.defaultCost := rfl

/-- What the answer of the router comes to. -/
theorem settles_routingDoneOf {q : SmppQueuedPdu} {msg : Sms} (h : IsResponse kind sequenceNumber q)
    (hmsg : q.msg = some msg)
    (hprepaid : ∀ a ∈ course.routed.account, a.enablePrepaidBilling = true) :
    (course.Routes msg → Settles kind sequenceNumber course
      (course.routedEnv.deducted = true ∧ course.Accepts) [course.price]
      (routingDoneOf kind course.routedEnv course.routed q course.routeStatus)) ∧
    (¬ course.Routes msg → Settles kind sequenceNumber course False []
      (routingDoneOf kind course.routedEnv course.routed q course.routeStatus)) := by
  rcases Option.isSome_iff_exists.mp course.routed_registered.account with ⟨a, ha⟩
  have hs := registered_routingDone course.routed_registered
  have haccepts : course.Accepts ↔ if a.databaseStorePrimary then
      course.routedEnv.inserted = true else course.settlement.Accepts := by
    simp [Course.Accepts, ha]
  have hbill : ∀ cost, Settles kind sequenceNumber course
      (course.routedEnv.deducted = true ∧ course.Accepts) [cost]
      (billSm kind course.routedEnv course.routed.routingDone q msg cost) := by
    intro cost
    rw [haccepts]
    exact settles_billSm h hs ha (hprepaid a ha)
  rw [routingDoneOf_eq]
  -- the three branches of the routing callbacks: a route, none, none but a default SMSC
  by_cases hrok : course.routeStatus.status = smppEsmeRok
  · refine ⟨fun _ => ?_, fun hnot => absurd (Or.inl hrok) hnot⟩
    simpa only [smRoutingDone, hmsg, hrok, Option.bind_some, if_true, Course.price] using
      hbill (course.routeStatus.parts * course.routeStatus.cost)
  · by_cases hdefault : octstrLen msg.smscId = 0
    · refine ⟨fun hroutes => absurd hdefault (hroutes.resolve_left hrok), fun _ => ?_⟩
      have hreject := @settles_rejectSm kind sequenceNumber course.routed.routingDone course q
        course.routeStatus.status h hs
      simpa only [smRoutingDone, hmsg, hrok, hdefault, Option.bind_some, if_false, ne_eq,
        not_true_eq_false] using hreject
    · refine ⟨fun _ => ?_, fun hnot => absurd (Or.inr hdefault) hnot⟩
      simpa only [smRoutingDone, hmsg, hrok, hdefault, Option.bind_some, if_false, ne_eq,
        not_false_eq_true, if_true, Course.price, defaultCost_routingDone] using
        hbill (course.routeStatus.parts * course.routed.esme.defaultCost)

/-! ## The handlers -/

theorem routesOf_eq_nil (h : ∀ c ∈ calls, IsSimulation c) : routesOf calls = [] := by
  apply List.filterMap_eq_nil_iff.mpr
  intro c hc
  have hsim := h c hc
  cases c with
  | addOutbound q => rfl
  | simulate q => rfl
  | _ => cases hsim

theorem costsOf_eq_nil (h : ∀ c ∈ calls, IsSimulation c) : costsOf calls = [] := by
  apply List.filterMap_eq_nil_iff.mpr
  intro c hc
  have hsim := h c hc
  cases c with
  | addOutbound q => rfl
  | simulate q => rfl
  | _ => cases hsim

/-- Responses alone. -/
theorem isSimulation_respond {s' : Session} {q : SmppQueuedPdu}
    (h : some (respond s q) = some (s', calls)) : ∀ c ∈ calls, IsSimulation c := by
  cases h
  intro c hc
  rw [List.mem_singleton.mp hc]
  trivial

variable {b : BoundSession} {converted : Except Int Sms} {msg : Sms}

/-- The request passes the checks on bind type and throughput. -/
def Admitted (b : BoundSession) : Prop :=
  b.esme.bindType &&& smppEsmeTransmit ≠ 0 ∧ throttled b = false

theorem admitSm_cases {s' : Session} {proceed : SmppEsmeGlobal → Result}
    (h : admitSm kind b.toSession sequenceNumber proceed = some (s', calls)) :
    (∀ c ∈ calls, IsSimulation c) ∨ (Admitted b ∧ ∃ a, proceed a = some (s', calls)) := by
  unfold admitSm at h
  split at h
  · exact Or.inl (isSimulation_respond h)
  · rename_i hbind
    rcases Option.bind_eq_some_iff.mp h with ⟨a, ha, hadmit⟩
    split at hadmit
    · exact Or.inl (isSimulation_respond hadmit)
    · rename_i hload
      exact Or.inr ⟨⟨hbind, by simpa [throttled, ha] using hload⟩, a, hadmit⟩

theorem admitSm_of_admitted {proceed : SmppEsmeGlobal → Result} (h : Admitted b) :
    ∃ a, admitSm kind b.toSession sequenceNumber proceed = proceed a := by
  rcases Option.isSome_iff_exists.mp (b.account_isSome h.1) with ⟨a, ha⟩
  have hload : ¬ (a.throughput > 0 ∧ a.inboundLoad > a.throughput) := by
    simpa [throttled, ha] using h.2
  exact ⟨a, by simp [admitSm, h.1, ha, hload]⟩

theorem isSimulation_forwardSm {s' : Session}
    (hnone : ∀ msg, converted = .ok msg →
      smppQueuesMsgSetDlrUrl env s (withDefaultSmsc s msg) = none)
    (h : forwardSm kind env s sequenceNumber (some converted) = some (s', calls)) :
    ∀ c ∈ calls, IsSimulation c := by
  cases converted with
  | error reason => exact isSimulation_respond h
  | ok msg => simp [forwardSm, hnone msg rfl] at h

/-- A request that does not get as far as the router is only answered. -/
theorem isSimulation_handleSm {s' : Session} (hnone : routedMsg? kind b env converted = none)
    (h : handleSm kind env b.toSession sequenceNumber (some converted) = some (s', calls)) :
    ∀ c ∈ calls, IsSimulation c := by
  cases kind with
  | submitSm =>
      rcases admitSm_cases h with hanswers | ⟨hadmitted, a, hproceed⟩
      · exact hanswers
      · split at hproceed
        · exact simulateSubmitSm_calls hproceed
        · rename_i hsimulate
          refine isSimulation_forwardSm ?_ hproceed
          rintro msg rfl
          simpa [routedMsg?, hadmitted.1, hadmitted.2, hsimulate] using hnone
  | dataSm =>
      rcases admitSm_cases h with hanswers | ⟨hadmitted, a, hproceed⟩
      · exact hanswers
      · refine isSimulation_forwardSm ?_ hproceed
        rintro msg rfl
        simpa [routedMsg?, hadmitted.1, hadmitted.2] using hnone

/-- The others leave their message and a response with the router. -/
theorem handleSm_routed (hmsg : routedMsg? kind b env converted = some msg) :
    ∃ s' q, handleSm kind env b.toSession sequenceNumber (some converted) =
        some (s', [.routeMessage msg q]) ∧
      IsResponse kind sequenceNumber q ∧ q.msg = some msg := by
  cases converted with
  | error reason => simp [routedMsg?] at hmsg
  | ok msg₀ =>
      simp only [routedMsg?] at hmsg
      split at hmsg
      · cases hmsg
      · rename_i hpass
        simp only [not_or, Bool.not_eq_true, not_and] at hpass
        have hforward : ∃ q, forwardSm kind env b.toSession sequenceNumber (some (.ok msg₀)) =
            some (b.routingStarted, [.routeMessage msg q]) ∧
              IsResponse kind sequenceNumber q ∧ q.msg = some msg := by
          refine ⟨{ setMessageId (some (smppUuidGet msg₀.id))
            (createResponse kind b.toSession sequenceNumber) with msg := some msg }, ?_,
            isResponse_withMsg (isResponse_setMessageId isResponse_createResponse), rfl⟩
          simp [forwardSm, hmsg]
        rcases hforward with ⟨q, hforward, hq⟩
        refine ⟨b.routingStarted, q, ?_, hq⟩
        cases kind with
        | submitSm =>
            rcases @admitSm_of_admitted .submitSm sequenceNumber b
              (fun _ => if b.esme.simulate then
                simulateSubmitSm env b.toSession sequenceNumber (some (.ok msg₀))
              else forwardSm .submitSm env b.toSession sequenceNumber (some (.ok msg₀)))
              ⟨hpass.1, hpass.2.1⟩ with ⟨a, ha⟩
            apply ha.trans
            simpa [hpass.2.2 rfl] using hforward
        | dataSm =>
            rcases @admitSm_of_admitted .dataSm sequenceNumber b
              (fun _ => forwardSm .dataSm env b.toSession sequenceNumber (some (.ok msg₀)))
              ⟨hpass.1, hpass.2.1⟩ with ⟨a, ha⟩
            exact ha.trans hforward

/-! ## Charges -/

/-- A request that is only answered costs nothing and is due nothing. -/
theorem submission_unrouted (hnone : routedMsg? kind b course.env converted = none)
    (h : submission kind b sequenceNumber converted course = some calls) :
    course.deducted calls = 0 ∧ course.due calls = 0 := by
  rcases Option.bind_eq_some_iff.mp h with ⟨⟨s', handled⟩, hcall, hroute⟩
  have honly := isSimulation_handleSm hnone hcall
  have hsame : handled = calls := by
    simpa [answerRoute, routesOf_eq_nil honly] using hroute
  subst hsame
  simp [Course.deducted, Course.due, routesOf_eq_nil honly, costsOf_eq_nil honly]

theorem answered_unrouted (hnone : routedMsg? kind b course.env converted = none)
    (hsimulate : b.esme.simulate = false) :
    ∃ calls q, submission kind b sequenceNumber converted course = some calls ∧
      responsesOf calls = [q] ∧ IsResponse kind sequenceNumber q := by
  have hproceeds : Proceeds kind sequenceNumber b.toSession
      (handleSm kind course.env b.toSession sequenceNumber (some converted)) := by
    cases kind with
    | submitSm => exact proceeds_submitSm b converted hsimulate
    | dataSm => exact proceeds_dataSm b converted
  -- answered, as it has no message for the router to be asked about
  rcases hproceeds with ⟨s', calls, hcall, ⟨-, hanswers⟩ | hasks⟩
  · rcases hanswers.response with ⟨q, hq, hresponse⟩
    refine ⟨calls, q, ?_, hq, hresponse⟩
    simp [submission, hcall, answerRoute, routesOf_eq_nil (isSimulation_handleSm hnone hcall)]
  · rcases hasks.route with ⟨msg, q, hroute, -⟩
    rw [routesOf_eq_nil (isSimulation_handleSm hnone hcall)] at hroute
    cases hroute

/-- What a request comes to that gets as far as the router. -/
theorem submission_routed (hmsg : routedMsg? kind b course.env converted = some msg)
    (hsettles : ∀ q, IsResponse kind sequenceNumber q → q.msg = some (course.reroute msg) →
      Settles kind sequenceNumber course ok costs
        (routingDoneOf kind course.routedEnv course.routed q course.routeStatus)) :
    ∃ calls q, submission kind b sequenceNumber converted course = some calls ∧
      responsesOf calls = [q] ∧ IsResponse kind sequenceNumber q ∧ (isOk q = true ↔ ok) ∧
      course.deducted calls = (if course.routedEnv.deducted then costs.sum else 0) ∧
      course.due calls = course.price := by
  rcases @handleSm_routed kind sequenceNumber course.env b converted msg hmsg with
    ⟨s', q, hhandle, hq, hqmsg⟩
  rcases hsettles { q with msg := q.msg.map course.reroute } (isResponse_withMsg hq)
    (by simp [hqmsg]) with
    ⟨t, calls, calls', q', hrouting, hsettle, -, hresponse, hq', hok, rfl⟩
  refine ⟨.routeMessage msg q :: calls', q', ?_, hresponse, hq', hok, rfl, ?_⟩
  · simp [submission, hhandle, answerRoute, routesOf, hrouting, hsettle]
  · simp [Course.due, routesOf]

/-- A routed message: its one response, and what it has cost. -/
theorem submission_billed (hmsg : routedMsg? kind b course.env converted = some msg)
    (hprepaid : ∀ a ∈ course.routed.account, a.enablePrepaidBilling = true) :
    ∃ calls q, submission kind b sequenceNumber converted course = some calls ∧
      responsesOf calls = [q] ∧ IsResponse kind sequenceNumber q ∧
      (isOk q = true ↔ course.Routes (course.reroute msg) ∧ course.routedEnv.deducted = true ∧
        course.Accepts) ∧
      (course.Routes (course.reroute msg) → course.routedEnv.deducted = true →
        course.deducted calls = course.price) ∧
      (¬ (course.Routes (course.reroute msg) ∧ course.routedEnv.deducted = true) →
        course.deducted calls = 0) ∧
      course.due calls = course.price := by
  have hsettles := fun q hq hqmsg => @settles_routingDoneOf kind sequenceNumber course q
    (course.reroute msg) hq hqmsg hprepaid
  by_cases hroutes : course.Routes (course.reroute msg)
  · rcases submission_routed hmsg (fun q hq hqmsg => (hsettles q hq hqmsg).1 hroutes) with
      ⟨calls, q, hcalls, hresponse, hq, hok, hdeducted, hdue⟩
    refine ⟨calls, q, hcalls, hresponse, hq, by simpa [hroutes] using hok, ?_, ?_, hdue⟩
    · intro _ hyes
      simpa [hyes] using hdeducted
    · intro hno
      have hno' : ¬ course.routedEnv.deducted = true := fun h => hno ⟨hroutes, h⟩
      simpa [hno'] using hdeducted
  · rcases submission_routed hmsg (fun q hq hqmsg => (hsettles q hq hqmsg).2 hroutes) with
      ⟨calls, q, hcalls, hresponse, hq, hok, hdeducted, hdue⟩
    refine ⟨calls, q, hcalls, hresponse, hq, by simpa [hroutes] using hok, ?_, ?_, hdue⟩
    · exact fun h => absurd h hroutes
    · intro _
      simpa using hdeducted

/-- Whatever becomes of a message of a prepaid account, it is charged exactly if it was billed:
that is, if it is answered with ESME_ROK, or refused by the store or the bearerbox. -/
theorem charged_when_billed (kind : SmKind) (b : BoundSession) (sequenceNumber : Int)
    (converted : Except Int Sms) (course : Course)
    (hprepaid : ∀ a ∈ course.routed.account, a.enablePrepaidBilling = true) :
    ChargedWhenBilled kind b sequenceNumber converted course := by
  cases hmsg : routedMsg? kind b course.env converted with
  | none =>
      -- the router is not asked, so nothing is billed
      refine ⟨answered_unrouted hmsg, ?_, ?_, ?_⟩
      · intro calls q hcalls _ _
        have hboth := submission_unrouted hmsg hcalls
        rw [hboth.1, hboth.2]
      · rintro calls - ⟨msg, hrouted, -⟩
        simp [hmsg] at hrouted
      · intro calls q hcalls _ _ _
        exact (submission_unrouted hmsg hcalls).1
  | some msg =>
      rcases @submission_billed kind sequenceNumber course b converted msg hmsg hprepaid with
        ⟨calls, q, hcalls, hresponse, hq, hok, hbilled, hspared, hdue⟩
      refine ⟨fun _ => ⟨calls, q, hcalls, hresponse, hq⟩, ?_, ?_, ?_⟩
      · intro calls₁ q₁ hcalls₁ hq₁ hyes
        rw [hcalls] at hcalls₁
        cases hcalls₁
        rw [hresponse] at hq₁
        rw [List.mem_singleton.mp hq₁] at hyes
        rw [hdue, hbilled (hok.mp hyes).1 (hok.mp hyes).2.1]
      · rintro calls₁ hcalls₁ ⟨msg₁, hmsg₁, hroutes, hdeducted, -⟩
        rw [hcalls] at hcalls₁
        cases hcalls₁
        rw [hmsg] at hmsg₁
        cases hmsg₁
        exact hbilled hroutes hdeducted
      · intro calls₁ q₁ hcalls₁ hq₁ hno hnot
        rw [hcalls] at hcalls₁
        cases hcalls₁
        rw [hresponse] at hq₁
        rw [List.mem_singleton.mp hq₁] at hno
        apply hspared
        rintro ⟨hroutes, hdeducted⟩
        -- not accepted, so it was refused after it was billed
        refine hnot ⟨msg, hmsg, hroutes, hdeducted, ?_⟩
        exact fun haccepts => hno (hok.mpr ⟨hroutes, hdeducted, haccepts⟩)

/-! ## Samples -/

def samplePrepaid : Session where
  esme := sampleSession.esme
  account := sampleSession.account.map (fun a => { a with enablePrepaidBilling := true })

/-- A routed message of one part at a cost of one. -/
def sampleCourse (settlement : Settlement) : Course where
  env := sampleEnv
  routed := samplePrepaid
  reroute := fun msg => msg
  routeStatus := { status := smppEsmeRok, parts := 1, cost := 1 }
  routedEnv := sampleEnv
  settled := samplePrepaid
  settlement := settlement
  routed_registered := ⟨rfl, rfl⟩
  settled_registered := ⟨rfl, rfl⟩

def sampleMsg : Sms := msgCreateSms (Vector.replicate 16 0)

theorem charged_when_billed_sample :
    ChargedWhenBilled .submitSm sampleSession 7 (.ok sampleMsg)
      (sampleCourse (.ack ackSuccess)) := by
  refine charged_when_billed .submitSm sampleSession 7 (.ok sampleMsg)
    (sampleCourse (.ack ackSuccess)) ?_
  rintro a ⟨rfl⟩
  rfl

/-- The bearerbox refuses the message for good: it is answered with an error, and paid for. -/
theorem refused_message_charged :
    (∀ a ∈ (sampleCourse (.ack ackFailed)).routed.account, a.enablePrepaidBilling = true) ∧
      ¬ ChargedAsAnswered .submitSm sampleSession 7 (.ok sampleMsg)
        (sampleCourse (.ack ackFailed)) := by
  have hprepaid : ∀ a ∈ (sampleCourse (.ack ackFailed)).routed.account,
      a.enablePrepaidBilling = true := by
    rintro a ⟨rfl⟩
    rfl
  refine ⟨hprepaid, ?_⟩
  intro h
  have hmsg : (routedMsg? .submitSm sampleSession sampleEnv (.ok sampleMsg)).isSome = true := rfl
  rcases Option.isSome_iff_exists.mp hmsg with ⟨msg, hmsg⟩
  rcases @submission_billed .submitSm 7 (sampleCourse (.ack ackFailed)) sampleSession
    (.ok sampleMsg) msg hmsg hprepaid with ⟨calls, q, hcalls, hresponse, -, hok, hbilled, -, -⟩
  have hrefused : ¬ isOk q = true := by
    intro hyes
    have hbox : (Settlement.ack ackFailed).Accepts := (hok.mp hyes).2.2 _ rfl
    exact absurd hbox (by simp [Settlement.Accepts, ackFailed, ackSuccess, ackBuffered])
  have hzero : (sampleCourse (.ack ackFailed)).deducted calls = 0 := by
    simpa [hrefused] using h calls q hcalls (by simp [hresponse])
  have hprice : (sampleCourse (.ack ackFailed)).price = 1 := by
    simp [Course.price, sampleCourse]
  rw [hbilled (Or.inl rfl) rfl, hprice] at hzero
  simp at hzero

end Submit
end Ksmppd
