import Ksmppd.Lib.Transition
import Ksmppd.Bearerbox.Outcome
import Ksmppd.Submit.Counts
import Ksmppd.Submit.System

/-!
# Accepted — ESME_ROK only after the message was accepted

A request of a session that does not simulate is answered with ESME_ROK only after its message was
stored, queued in the database, or acked by a bearerbox.  The evidence is carried along: what a
routed message is known by stands in the log, and so does what every message the bearerbox threads
have was handed over for.
-/

namespace Ksmppd
namespace Submit

open Lib

variable {n : Nat} {kind : SmKind} {env : Env} {request : Request} {esme : EsmeRef}
  {inserted : Bool} {log log' : List (Event n)} {s t : SubmitState n}

/-! ## Evidence -/

/-- A submit_sm_resp or data_sm_resp with ESME_ROK. -/
def isOk (q : SmppQueuedPdu) : Bool :=
  match q.pdu with
  | some (.submitSmResp r) => decide (r.commandStatus = smppEsmeRok)
  | some (.dataSmResp r) => decide (r.commandStatus = smppEsmeRok)
  | _ => false

/-- The request's message was given to the router. -/
def Routed (log : List (Event n)) (request : Request) (msg : Sms) : Prop :=
  ∃ q, .call request (.routeMessage msg q) ∈ log

/-- The message with this id was handed to the bearerbox for the request. -/
def HandedOver (log : List (Event n)) (request : Request) (id : Uuid) : Prop :=
  ∃ msg q, .call request (.bearerboxAddMessage msg q) ∈ log ∧ msg.id = id

/-- `smpp_database_add_message` inserted the message. -/
def Stored (log : List (Event n)) (request : Request) (id : Uuid) : Prop :=
  ∃ msg, .call request (.databaseAddMessage msg true) ∈ log ∧ msg.id = id

/-- `smpp_database_add_queue_message` inserted the message handed over for the request. -/
def Queued (log : List (Event n)) (request : Request) (id : Uuid) : Prop :=
  ∃ (m : Bearerbox.SmppBearerboxMsg Context) (q : SmppQueuedPdu),
    .bearerbox (.addQueueMessage m true) ∈ log ∧ m.context = .response request q ∧ m.msg.id = id

/-- After the message was handed over, a bearerbox acked its id as taken. -/
def Acked (log : List (Event n)) (request : Request) (id : Uuid) : Prop :=
  ∃ b nack before after, log = before ++ .bearerbox (.ack b (smppUuidGet id) nack) :: after ∧
    (nack = ackSuccess ∨ nack = ackBuffered) ∧ HandedOver before request id

/-- The message of the request was accepted. -/
def Accepted (log : List (Event n)) (request : Request) : Prop :=
  ∃ msg, Routed log request msg ∧
    (Stored log request msg.id ∨ Queued log request msg.id ∨ Acked log request msg.id)

/-- What stands behind an event of the log. -/
def Justified (before : List (Event n)) : Event n → Prop
  | .call request (.addOutbound q) => request.simulate = false → isOk q → Accepted before request
  | _ => True

/-- What is known of a message the bearerbox threads have. -/
def Known (log : List (Event n)) (m : Bearerbox.SmppBearerboxMsg Context) : Prop :=
  match m.context with
  | .response request _ =>
      ∃ msg, Routed log request msg ∧ m.msg.id = msg.id ∧ HandedOver log request msg.id
  | .requeueResult => True

theorem Routed.append {msg : Sms} (h : Routed log request msg) (es : List (Event n)) :
    Routed (log ++ es) request msg := by
  rcases h with ⟨q, hq⟩
  exact ⟨q, List.mem_append_left es hq⟩

theorem HandedOver.append {id : Uuid} (h : HandedOver log request id) (es : List (Event n)) :
    HandedOver (log ++ es) request id := by
  rcases h with ⟨msg, q, hmem, hid⟩
  exact ⟨msg, q, List.mem_append_left es hmem, hid⟩

theorem Known.append {m : Bearerbox.SmppBearerboxMsg Context} (h : Known log m)
    (es : List (Event n)) : Known (log ++ es) m := by
  cases hctx : m.context with
  | response request q =>
      simp only [Known, hctx] at h ⊢
      rcases h with ⟨msg, hrouted, hid, hhanded⟩
      exact ⟨msg, hrouted.append es, hid, hhanded.append es⟩
  | requeueResult =>
      simp [Known, hctx]

theorem known_withBoxcId (log : List (Event n)) (box : Bearerbox.SmppBearerbox Context)
    (m : Bearerbox.SmppBearerboxMsg Context) (h : Known log m) :
    Known log (Bearerbox.withBoxcId box m) := h

/-! ## Invariant -/

structure Accountable (s : SubmitState n) : Prop where
  backed : Backed Justified s.log
  bearerbox : Bearerbox.Everywhere (Known s.log) s.bearerbox
  drained : s.bearerbox.log = []
  routing : ∀ x ∈ s.routing, ∃ msg, x.2.2.msg = some msg ∧ Routed s.log x.1 msg

theorem accountable_init (databaseEnableQueue : Bool) (ids : Fin n → Option Octstr)
    (sessions : EsmeRef → Session) :
    Accountable (submitInit databaseEnableQueue ids sessions) where
  backed := backed_nil
  bearerbox := Bearerbox.everywhere_init databaseEnableQueue ids
  drained := rfl
  routing := by simp [submitInit]

/-- New events that are backed keep the invariant. -/
theorem accountable_record (h : Accountable s) {es : List (Event n)}
    (hes : Backed (fun before => Justified (s.log ++ before)) es) :
    Accountable (s.record es) where
  backed := backed_append.mpr ⟨h.backed, hes⟩
  bearerbox := h.bearerbox.imp (fun _ hm => hm.append es)
  drained := h.drained
  routing := by
    intro x hx
    rcases h.routing x hx with ⟨msg, hmsg, hrouted⟩
    exact ⟨msg, hmsg, hrouted.append es⟩

/-- The sessions do not matter. -/
theorem accountable_setSession (h : Accountable s) (esme : EsmeRef) (session : Session) :
    Accountable (s.setSession esme session) :=
  ⟨h.backed, h.bearerbox, h.drained, h.routing⟩

theorem accountable_startRouting (h : Accountable s) {q : SmppQueuedPdu} {msg : Sms}
    (hmsg : q.msg = some msg) (hrouted : Routed s.log request msg) :
    Accountable (s.startRouting request esme q) where
  backed := h.backed
  bearerbox := h.bearerbox
  drained := h.drained
  routing := by
    intro x hx
    cases List.mem_append.mp hx with
    | inl hold => exact h.routing x hold
    | inr hnew =>
        rw [List.mem_singleton.mp hnew]
        exact ⟨msg, hmsg, hrouted⟩

/-! ## Statuses of responses -/

theorem isOk_setStatus {q : SmppQueuedPdu} {status : Int} (h : isOk (setStatus status q)) :
    status = smppEsmeRok := by
  cases hq : q.pdu with
  | none =>
      simp [isOk, setStatus, editResp, hq] at h
  | some p =>
      cases p with
      | submitSmResp r =>
          simpa [isOk, setStatus, editResp, hq, mapResp] using h
      | dataSmResp r =>
          simpa [isOk, setStatus, editResp, hq, mapResp] using h
      | _ => simp [isOk, setStatus, editResp, hq, mapResp] at h

theorem not_isOk_setStatus {q : SmppQueuedPdu} {status : Int} (h : status ≠ smppEsmeRok) :
    ¬ isOk (setStatus status q) := fun hok => h (isOk_setStatus hok)

/-- A callback queues one response, with ESME_ROK only if it was told zero. -/
theorem smCallback_calls {session session' : Session} {q : SmppQueuedPdu} {status : Int}
    {calls : List SubmitCall} (h : smCallback session q status = some (session', calls)) :
    ∃ q', calls = [.addOutbound q'] ∧ (isOk q' → status = smppEsmeRok) := by
  unfold smCallback at h
  split at h
  · rcases Option.map_eq_some_iff.mp h with ⟨session'', -, hresult⟩
    cases hresult
    exact ⟨_, rfl, isOk_setStatus⟩
  · rcases Option.map_eq_some_iff.mp h with ⟨session'', -, hresult⟩
    cases hresult
    exact ⟨_, rfl, isOk_setStatus⟩

/-! ## Events of the bearerbox threads -/

/-- A zero status of a callback stands for an acceptance of the request's message. -/
theorem accepted_of_confirmed {m : Bearerbox.SmppBearerboxMsg Context} {q : SmppQueuedPdu}
    {seen : List (Bearerbox.Event n Context)} {es : List (Event n)}
    (hctx : m.context = .response request q) (hknown : Known log m)
    (hseen : ∀ e ∈ seen, .bearerbox e ∈ es) (h : Bearerbox.Confirmed seen m) :
    Accepted (log ++ es) request := by
  simp only [Known, hctx] at hknown
  rcases hknown with ⟨msg, hrouted, hid, hhanded⟩
  refine ⟨msg, hrouted.append es, ?_⟩
  -- the database took the message over, or a bearerbox has acked it
  rcases h with hinserted | ⟨b, nack, hack, hnack⟩
  · exact Or.inr (Or.inl ⟨m, q, List.mem_append_right log (hseen _ hinserted), hctx, hid⟩)
  · rcases List.append_of_mem (hseen _ hack) with ⟨before, after, hes⟩
    have hidText : m.id = smppUuidGet msg.id := by
      simp [Bearerbox.SmppBearerboxMsg.id, hid]
    refine Or.inr (Or.inr ⟨b, nack, log ++ before, after, ?_, hnack, hhanded.append before⟩)
    rw [hes, hidText, List.append_assoc]

theorem log_deliver {e : Bearerbox.Event n Context} (h : s.deliver e = some t) :
    ∃ more, t.log = s.log ++ .bearerbox e :: more := by
  cases e with
  | callback m status =>
      simp only [SubmitState.deliver] at h
      cases hctx : m.context with
      | response request q =>
          simp only [hctx] at h
          rcases Option.bind_eq_some_iff.mp h with ⟨esme, -, hcallback⟩
          rcases Option.map_eq_some_iff.mp hcallback with ⟨⟨session, calls⟩, -, rfl⟩
          exact ⟨calls.map (.call request), by simp [SubmitState.record, SubmitState.setSession]⟩
      | requeueResult =>
          simp only [hctx] at h
          cases h
          exact ⟨[], rfl⟩
  | addQueueMessage m inserted =>
      cases h
      exact ⟨[], rfl⟩
  | written b m =>
      cases h
      exact ⟨[], rfl⟩
  | ack b id nack =>
      cases h
      exact ⟨[], rfl⟩
  | destroyed m =>
      cases h
      exact ⟨[], rfl⟩

theorem log_deliverAll {boxEvents : List (Bearerbox.Event n Context)}
    (h : s.deliverAll boxEvents = some t) : ∃ more, t.log = s.log ++ more := by
  induction boxEvents generalizing s with
  | nil =>
      cases h
      exact ⟨[], by simp⟩
  | cons e boxEvents ih =>
      rcases Option.bind_eq_some_iff.mp h with ⟨s', hfirst, hrest⟩
      rcases log_deliver hfirst with ⟨more, hmore⟩
      rcases ih hrest with ⟨rest, hlog⟩
      exact ⟨.bearerbox e :: (more ++ rest), by simp [hlog, hmore]⟩

/-- One event of the bearerbox threads keeps the invariant; `seen` are the events of the same step
before it. -/
theorem accountable_deliver {e : Bearerbox.Event n Context} {es : List (Event n)}
    {seen : List (Bearerbox.Event n Context)} (h : Accountable s) (hlog : s.log = log ++ es)
    (hseen : ∀ e ∈ seen, .bearerbox e ∈ es) (he : Bearerbox.CallbackBacked (Known log) seen e)
    (hdeliver : s.deliver e = some t) : Accountable t := by
  have hquiet : Accountable (s.record [.bearerbox e]) :=
    accountable_record h (backed_singleton.mpr trivial)
  cases e with
  | callback m status =>
      simp only [SubmitState.deliver] at hdeliver
      cases hctx : m.context with
      | response request q =>
          simp only [hctx] at hdeliver
          rcases Option.bind_eq_some_iff.mp hdeliver with ⟨esme, -, hcallback⟩
          rcases Option.map_eq_some_iff.mp hcallback with ⟨⟨session, calls⟩, hresult, rfl⟩
          rw [callbackOf_eq] at hresult
          rcases smCallback_calls hresult with ⟨q', rfl, hok⟩
          have hseen' : ∀ e ∈ seen, .bearerbox e ∈ es ++ [.bearerbox (.callback m status)] :=
            fun e he => List.mem_append_left _ (hseen e he)
          have hjustified : Justified (log ++ (es ++ [.bearerbox (.callback m status)]))
              (.call request (.addOutbound q')) := by
            intro _ hq'
            exact accepted_of_confirmed hctx he.1 hseen' (he.2 (hok hq'))
          refine accountable_record (accountable_setSession hquiet esme session) ?_
          refine backed_singleton.mpr ?_
          simpa [SubmitState.setSession, SubmitState.record, hlog] using hjustified
      | requeueResult =>
          -- the drain's own callback, which answers no request
          simp only [hctx] at hdeliver
          cases hdeliver
          exact hquiet
  | addQueueMessage m inserted =>
      cases hdeliver
      exact hquiet
  | written b m =>
      cases hdeliver
      exact hquiet
  | ack b id nack =>
      cases hdeliver
      exact hquiet
  | destroyed m =>
      cases hdeliver
      exact hquiet

theorem accountable_deliverAll {boxEvents seen : List (Bearerbox.Event n Context)}
    {es : List (Event n)} (h : Accountable s) (hlog : s.log = log ++ es)
    (hseen : ∀ e ∈ seen, .bearerbox e ∈ es)
    (hes : Backed (fun before => Bearerbox.CallbackBacked (Known log) (seen ++ before)) boxEvents)
    (hdeliver : s.deliverAll boxEvents = some t) : Accountable t := by
  -- over the events of the step; each one joins `seen` for those after it
  induction boxEvents generalizing s seen es with
  | nil =>
      cases hdeliver
      exact h
  | cons e boxEvents ih =>
      rcases Option.bind_eq_some_iff.mp hdeliver with ⟨s', hfirst, hrest⟩
      rcases backed_cons.mp hes with ⟨hhead, htail⟩
      have hs' := accountable_deliver h hlog hseen (by simpa using hhead) hfirst
      rcases log_deliver hfirst with ⟨more, hmore⟩
      have hlog' : s'.log = log ++ (es ++ .bearerbox e :: more) := by
        simp [hmore, hlog]
      have hseen' : ∀ f ∈ seen ++ [e], .bearerbox f ∈ es ++ .bearerbox e :: more := by
        intro f hf
        rcases List.mem_append.mp hf with hold | hnew
        · exact List.mem_append_left _ (hseen f hold)
        · simp [List.mem_singleton.mp hnew]
      refine ih hs' hlog' hseen' ?_ hrest
      simpa using htail

theorem accountable_absorb {b : Bearerbox.SmppBearerboxState n Context} (h : Accountable s)
    (hbox : Bearerbox.Everywhere (Known s.log) b)
    (hbacked : Backed (Bearerbox.CallbackBacked (Known s.log)) b.log)
    (habsorb : s.absorb b = some t) : Accountable t := by
  have hdrained : Accountable { s with bearerbox := { b with log := [] } } :=
    ⟨h.backed, ⟨hbox.outboundQueue, hbox.openAcks, hbox.writer⟩, rfl, h.routing⟩
  refine @accountable_deliverAll n s.log _ t b.log [] [] hdrained ?_ ?_ ?_ habsorb
  · simp
  · simp
  · simpa using hbacked

/-! ## Calls of the handlers -/

/-- What a call of a handler needs before it; `seen` are the handler's calls before it. -/
def CallBacked (log : List (Event n)) (request : Request) (seen : List SubmitCall) :
    SubmitCall → Prop
  | .addOutbound q => request.simulate = false → isOk q →
      ∃ msg stored, Routed log request msg ∧ .databaseAddMessage stored true ∈ seen ∧
        stored.id = msg.id
  | .routeMessage msg q => q.msg = some msg
  | .bearerboxAddMessage msg _ => ∃ routed, Routed log request routed ∧ msg.id = routed.id
  | _ => True

/-- A longer list of calls before it does not hurt. -/
theorem callBacked_cons {c d : SubmitCall} {seen : List SubmitCall}
    (h : CallBacked log request seen c) : CallBacked log request (d :: seen) c := by
  cases c with
  | addOutbound q =>
      intro hsimulate hq
      rcases h hsimulate hq with ⟨msg, stored, hrouted, hmem, hid⟩
      exact ⟨msg, stored, hrouted, List.mem_cons_of_mem d hmem, hid⟩
  | _ => exact h

theorem accountable_call (h : Accountable s) {c : SubmitCall}
    (hc : Justified s.log (.call request c)) : Accountable (s.record [.call request c]) :=
  accountable_record h (backed_singleton.mpr (by simpa using hc))

theorem accountable_make {c : SubmitCall} {seen : List SubmitCall} {es : List (Event n)}
    (h : Accountable s) (hlog : s.log = log ++ es) (hseen : ∀ c ∈ seen, .call request c ∈ es)
    (hc : CallBacked log request seen c) (hmake : s.make request esme inserted c = some t) :
    Accountable t := by
  cases c with
  | addOutbound q =>
      cases hmake
      refine accountable_call h ?_
      intro hsimulate hq
      rcases hc hsimulate hq with ⟨msg, stored, hrouted, hstored, hid⟩
      rw [hlog]
      refine ⟨msg, hrouted.append es, Or.inl ⟨stored, ?_, hid⟩⟩
      exact List.mem_append_right log (hseen _ hstored)
  | routeMessage msg q =>
      cases hmake
      have hcall : Accountable (s.record [.call request (.routeMessage msg q)]) :=
        accountable_call h trivial
      refine accountable_startRouting hcall hc ?_
      exact ⟨q, by simp [SubmitState.record]⟩
  | bearerboxAddMessage msg q =>
      have hcall : Accountable (s.record [.call request (.bearerboxAddMessage msg q)]) :=
        accountable_call h trivial
      rcases hc with ⟨routed, hrouted, hid⟩
      have hknown : Known (s.record [.call request (.bearerboxAddMessage msg q)]).log
          { msg := msg, context := Context.response request q } := by
        refine ⟨routed, ?_, hid, msg, q, by simp [SubmitState.record], hid⟩
        simpa [SubmitState.record, hlog] using hrouted.append _
      refine accountable_absorb hcall ?_ ?_ hmake
      · exact Bearerbox.everywhere_addToQueue hcall.bearerbox hknown inserted
      · exact Bearerbox.backed_addToQueue hcall.drained hknown inserted
  | databaseDeductCredit systemId cost =>
      cases hmake
      exact accountable_call h trivial
  | databaseAddMessage msg stored =>
      cases hmake
      exact accountable_call h trivial
  | simulate q =>
      cases hmake
      exact accountable_call h trivial

theorem log_make {c : SubmitCall} (h : s.make request esme inserted c = some t) :
    ∃ more, t.log = s.log ++ .call request c :: more := by
  cases c with
  | bearerboxAddMessage msg q =>
      rcases log_deliverAll h with ⟨more, hmore⟩
      exact ⟨more, by simp [hmore, SubmitState.record]⟩
  | routeMessage msg q =>
      cases h
      exact ⟨[], rfl⟩
  | addOutbound q =>
      cases h
      exact ⟨[], rfl⟩
  | databaseDeductCredit systemId cost =>
      cases h
      exact ⟨[], rfl⟩
  | databaseAddMessage msg stored =>
      cases h
      exact ⟨[], rfl⟩
  | simulate q =>
      cases h
      exact ⟨[], rfl⟩

theorem accountable_makeAll {calls seen : List SubmitCall} {es : List (Event n)}
    (h : Accountable s) (hlog : s.log = log ++ es) (hseen : ∀ c ∈ seen, .call request c ∈ es)
    (hcalls : Backed (fun before => CallBacked log request (seen ++ before)) calls)
    (hmake : s.makeAll request esme inserted calls = some t) : Accountable t := by
  -- over the calls; each one joins `seen` for those after it
  induction calls generalizing s seen es with
  | nil =>
      cases hmake
      exact h
  | cons c calls ih =>
      rcases Option.bind_eq_some_iff.mp hmake with ⟨s', hfirst, hrest⟩
      rcases backed_cons.mp hcalls with ⟨hhead, htail⟩
      have hs' := accountable_make h hlog hseen (by simpa using hhead) hfirst
      rcases log_make hfirst with ⟨more, hmore⟩
      have hlog' : s'.log = log ++ (es ++ .call request c :: more) := by
        simp [hmore, hlog]
      have hseen' : ∀ d ∈ seen ++ [c], .call request d ∈ es ++ .call request c :: more := by
        intro d hd
        rcases List.mem_append.mp hd with hold | hnew
        · exact List.mem_append_left _ (hseen d hold)
        · simp [List.mem_singleton.mp hnew]
      refine ih hs' hlog' hseen' ?_ hrest
      simpa using htail

/-- Calls that are backed, made after a handler has left its session, keep the invariant. -/
theorem accountable_finish {r : Result} (h : Accountable s)
    (hr : ∀ session calls, r = some (session, calls) →
      Backed (CallBacked s.log request) calls)
    (hfinish : s.finish request esme inserted r = some t) : Accountable t := by
  rcases Option.bind_eq_some_iff.mp hfinish with ⟨⟨session, calls⟩, hresult, hmake⟩
  refine @accountable_makeAll n request esme inserted s.log _ t calls [] []
    (accountable_setSession h esme session) ?_ ?_ ?_ hmake
  · simp [SubmitState.setSession]
  · simp
  · simpa using hr session calls hresult

/-! ## What the handlers call -/

theorem backed_respond {q : SmppQueuedPdu} {status : Int} (h : status ≠ smppEsmeRok) :
    Backed (CallBacked log request) [.addOutbound (setStatus status q)] :=
  backed_singleton.mpr (fun _ hq => absurd hq (not_isOk_setStatus h))

theorem backed_forwardSm {session session' : Session} {sequenceNumber : Int}
    {converted : Conversion} {calls : List SubmitCall}
    (hreason : ∀ reason, converted = some (.error reason) → reason ≠ smppEsmeRok)
    (h : forwardSm kind env session sequenceNumber converted = some (session', calls)) :
    Backed (CallBacked log request) calls := by
  cases converted with
  | none =>
      cases h
  | some r =>
      cases r with
      | error reason =>
          cases h
          exact backed_respond (hreason reason rfl)
      | ok msg =>
          rcases Option.map_eq_some_iff.mp h with ⟨msg', -, hresult⟩
          cases hresult
          exact backed_singleton.mpr rfl

/-- The calls of a session that simulates are responses and simulated deliveries. -/
def IsSimulation : SubmitCall → Prop
  | .addOutbound _ => True
  | .simulate _ => True
  | _ => False

theorem backed_simulation {calls : List SubmitCall} (hsimulate : request.simulate = true)
    (h : ∀ c ∈ calls, IsSimulation c) : Backed (CallBacked log request) calls := by
  refine backed_of_mem ?_
  intro c hc before
  have hsim := h c hc
  cases c with
  | addOutbound q => simp [CallBacked, hsimulate]
  | simulate q => trivial
  | _ => cases hsim

theorem isSimulation_of_simulated {calls : List SubmitCall}
    (h : ∀ c ∈ calls, ∃ q, c = .simulate q) : ∀ c ∈ calls, IsSimulation c := by
  intro c hc
  rcases h c hc with ⟨q, rfl⟩
  trivial

theorem simulateSubmitSm_calls {session session' : Session} {sequenceNumber : Int}
    {converted : Conversion} {calls : List SubmitCall}
    (h : simulateSubmitSm env session sequenceNumber converted = some (session', calls)) :
    ∀ c ∈ calls, IsSimulation c := by
  have hrespond : ∀ (q : SmppQueuedPdu), ∀ c ∈ [SubmitCall.addOutbound q], IsSimulation c := by
    intro q c hc
    rw [List.mem_singleton.mp hc]
    trivial
  simp only [simulateSubmitSm] at h
  split at h
  · rcases Option.map_eq_some_iff.mp h with ⟨t, -, hresult⟩
    cases hresult
    exact hrespond _
  · split at h
    · rcases Option.map_eq_some_iff.mp h with ⟨t, -, hresult⟩
      cases hresult
      exact hrespond _
    · split at h
      · cases h
      · cases h
        exact hrespond _
      · rename_i msg
        rcases Option.bind_eq_some_iff.mp h with ⟨t, -, hrest⟩
        rcases Option.bind_eq_some_iff.mp hrest with ⟨⟨msg', report⟩, hreport, hrest⟩
        rcases Option.map_eq_some_iff.mp hrest with ⟨mo, hmo, hresult⟩
        have hreport' := isSimulation_of_simulated (simulateReport_calls hreport)
        have hmo' := isSimulation_of_simulated (simulateMo_calls hmo)
        intro c hc
        split at hresult
        · cases hresult
          simp only [List.cons_append, List.nil_append, List.mem_cons, List.mem_append] at hc
          rcases hc with rfl | hc | hc
          · trivial
          · exact hreport' c hc
          · exact hmo' c hc
        · cases hresult
          simp only [List.mem_append, List.mem_singleton] at hc
          rcases hc with (hc | hc) | rfl
          · exact hreport' c hc
          · exact hmo' c hc
          · trivial

theorem backed_admitSm {session session' : Session} {sequenceNumber : Int}
    {proceed : SmppEsmeGlobal → Result} {calls : List SubmitCall}
    (hproceed : ∀ a, proceed a = some (session', calls) → Backed (CallBacked log request) calls)
    (h : admitSm kind session sequenceNumber proceed = some (session', calls)) :
    Backed (CallBacked log request) calls := by
  unfold admitSm at h
  split at h
  · cases h
    exact backed_respond (by decide)
  · rcases Option.bind_eq_some_iff.mp h with ⟨a, -, hrest⟩
    split at hrest
    · cases hrest
      exact backed_respond (by decide)
    · exact hproceed a hrest

/-- A handler queues no ESME_ROK, unless the session simulates. -/
theorem backed_handleSm {session session' : Session} {sequenceNumber : Int}
    {converted : Conversion} {calls : List SubmitCall}
    (hsimulate : request.simulate = session.esme.simulate)
    (hreason : ∀ reason, converted = some (.error reason) → reason ≠ smppEsmeRok)
    (h : handleSm kind env session sequenceNumber converted = some (session', calls)) :
    Backed (CallBacked log request) calls := by
  cases kind with
  | submitSm =>
      refine backed_admitSm ?_ h
      intro a hrest
      split at hrest
      · rename_i hsim
        exact backed_simulation (hsimulate.trans hsim) (simulateSubmitSm_calls hrest)
      · exact backed_forwardSm hreason hrest
  | dataSm =>
      exact backed_admitSm (fun a hrest => backed_forwardSm hreason hrest) h

/-! ## What the routing callbacks call -/

theorem refresh_id {session : Session} {q q' : SmppQueuedPdu} {msg msg' : Sms}
    (h : refresh kind env session q msg = some (q', msg')) : msg'.id = msg.id := by
  cases kind with
  | submitSm =>
      rcases Option.map_eq_some_iff.mp h with ⟨m, hm, hresult⟩
      rcases Option.map_eq_some_iff.mp hm with ⟨systemId, -, rfl⟩
      cases hresult
      rfl
  | dataSm =>
      cases h
      rfl

theorem backed_acceptSm {session session' : Session} {a : SmppEsmeGlobal} {q : SmppQueuedPdu}
    {msg : Sms} {calls : List SubmitCall} (hrouted : Routed log request msg)
    (h : acceptSm kind env session a q msg = some (session', calls)) :
    Backed (CallBacked log request) calls := by
  rcases Option.bind_eq_some_iff.mp h with ⟨⟨q', msg'⟩, hrefresh, hrest⟩
  have hid := refresh_id hrefresh
  simp only at hrest
  split at hrest
  · rcases Option.map_eq_some_iff.mp hrest with ⟨⟨t, cs⟩, hcallback, hresult⟩
    rcases smCallback_calls hcallback with ⟨q'', rfl, hok⟩
    cases hresult
    refine backed_cons.mpr ⟨trivial, backed_singleton.mpr ?_⟩
    intro _ hq
    have hinserted : env.inserted = true := by
      by_contra hnot
      have hstatus := hok hq
      simp [hnot] at hstatus
      exact absurd hstatus (by decide)
    exact ⟨msg, msg', hrouted, by simp [hinserted], hid⟩
  · cases hrest
    exact backed_singleton.mpr ⟨msg, hrouted, hid⟩

theorem backed_rejectSm {session session' : Session} {q : SmppQueuedPdu} {status : Int}
    {calls : List SubmitCall} (hstatus : status ≠ smppEsmeRok)
    (h : rejectSm session q status = some (session', calls)) :
    Backed (CallBacked log request) calls := by
  rcases Option.map_eq_some_iff.mp h with ⟨t, -, hresult⟩
  cases hresult
  exact backed_respond hstatus

theorem backed_billSm {session session' : Session} {q : SmppQueuedPdu} {msg : Sms} {cost : Rat}
    {calls : List SubmitCall} (hrouted : Routed log request msg)
    (h : billSm kind env session q msg cost = some (session', calls)) :
    Backed (CallBacked log request) calls := by
  rcases Option.bind_eq_some_iff.mp h with ⟨a, -, hrest⟩
  split at hrest
  · rcases Option.map_eq_some_iff.mp hrest with ⟨⟨t, cs⟩, hbilled, hresult⟩
    cases hresult
    have hcs : Backed (CallBacked log request) cs := by
      split at hbilled
      · exact backed_acceptSm hrouted hbilled
      · exact backed_rejectSm (by decide) hbilled
    refine backed_cons.mpr ⟨trivial, hcs.mono ?_⟩
    exact fun before c hc => callBacked_cons hc
  · exact backed_acceptSm hrouted hrest

/-- A routing callback queues ESME_ROK only after a successful insert. -/
theorem backed_routingDoneOf {session session' : Session} {q : SmppQueuedPdu} {msg : Sms}
    {routeStatus : SmppRouteStatus} {calls : List SubmitCall} (hmsg : q.msg = some msg)
    (hrouted : Routed log request msg)
    (h : routingDoneOf kind env session q routeStatus = some (session', calls)) :
    Backed (CallBacked log request) calls := by
  rw [routingDoneOf_eq] at h
  simp only [smRoutingDone, hmsg, Option.bind_some] at h
  split at h
  · exact backed_billSm hrouted h
  · rename_i hrefused
    split at h
    · exact backed_billSm hrouted h
    · exact backed_rejectSm hrefused h

/-! ## Runs -/

theorem accountable_step {l : Label n} (h : Accountable s) (hstep : step s l = some t) :
    Accountable t := by
  cases l with
  | inbound esme pdu kannel env inserted =>
      have hs' : Accountable { s with requests := s.requests + 1 } :=
        ⟨h.backed, h.bearerbox, h.drained, h.routing⟩
      cases pdu with
      | submitSm p =>
          refine accountable_finish hs' (fun session calls hresult => ?_) hstep
          exact @backed_handleSm n .submitSm env _ s.log _ _ _ _ _ rfl
            (fun reason hreason => smppSubmitSmToMsg_reason_ne_rok hreason) hresult
      | dataSm p =>
          refine accountable_finish hs' (fun session calls hresult => ?_) hstep
          exact @backed_handleSm n .dataSm env _ s.log _ _ _ _ _ rfl
            (fun reason hreason => smToMsg_reason_ne_rok hreason) hresult
      | _ => cases hstep
  | routingDone i routeStatus env inserted =>
      simp only [step] at hstep
      split at hstep
      · rename_i request esme q hget
        have hs' : Accountable { s with routing := s.routing.eraseIdx i } :=
          ⟨h.backed, h.bearerbox, h.drained,
            fun x hx => h.routing x (List.mem_of_mem_eraseIdx hx)⟩
        rcases h.routing _ (List.mem_of_getElem? hget) with ⟨msg, hmsg, hrouted⟩
        refine accountable_finish hs' (fun session calls hresult => ?_) hstep
        exact backed_routingDoneOf hmsg hrouted hresult
      · cases hstep
  | bearerbox l =>
      simp only [step] at hstep
      split at hstep
      · rename_i hdrains
        rcases Option.bind_eq_some_iff.mp hstep with ⟨b, hb, habsorb⟩
        have hhanded : ∀ msg context inserted, l = .addMessage msg context inserted →
            Known s.log { msg := msg, context := context } := by
          intro msg context inserted hl
          cases context with
          | response request q => simp [hl, drains] at hdrains
          | requeueResult => trivial
        refine accountable_absorb h ?_ ?_ habsorb
        · exact Bearerbox.everywhere_step (known_withBoxcId s.log) h.bearerbox hhanded hb
        · exact Bearerbox.backed_step h.bearerbox h.drained hhanded hb
      · cases hstep
  | session esme session =>
      cases hstep
      exact accountable_setSession h esme session

/-- Whatever the order of events, a response with ESME_ROK to a request of a session that does not
simulate is queued only after the request's message was stored, inserted into the queue table, or
acked by a bearerbox. -/
theorem ok_response_only_after_acceptance {databaseEnableQueue : Bool}
    {ids : Fin n → Option Octstr} {sessions : EsmeRef → Session} {ls : List (Label n)}
    (hrun : Run step anyStep (submitInit databaseEnableQueue ids sessions) ls s)
    {before after : List (Event n)} {request : Request} {q : SmppQueuedPdu}
    (hlog : s.log = before ++ .call request (.addOutbound q) :: after)
    (hsimulate : request.simulate = false) (hok : isOk q) : Accepted before request := by
  have hinv : Accountable s :=
    hrun.invariant Accountable (fun _ _ _ h _ hstep => accountable_step h hstep)
      (accountable_init databaseEnableQueue ids sessions)
  exact hinv.backed before _ after hlog hsimulate hok

def sampleKannel : Kannel where
  uuid := Vector.replicate 16 1
  time := 0
  timestampToMinutes := fun _ => 0
  charsetConvert := fun _ _ data => (data, true)
  charsetGsmToUtf8 := fun data => data
  dcsToFields := fun _ msg => msg
  prependCatenationUdh := fun _ _ _ msg => msg
  metaDataSetValues := fun _ _ metaData => metaData

def sampleSubmitSm : SubmitSm where
  sequenceNumber := 7
  serviceType := none
  sourceAddrTon := 0
  sourceAddrNpi := 0
  sourceAddr := some (octstrImm "1000")
  destAddrTon := 1
  destAddrNpi := 1
  destinationAddr := some (octstrImm "0031600000000")
  esmClass := 0
  protocolId := 0
  priorityFlag := 0
  validityPeriod := none
  registeredDelivery := 1
  dataCoding := 0
  smLength := 5
  shortMessage := some (octstrImm "hello")
  messagePayload := none
  sarMsgRefNum := -1
  sarSegmentSeqnum := -1
  sarTotalSegments := -1
  tlv := []

def sampleRequest : Request := { number := 0, kind := .submitSm, simulate := false }

/-- A message is routed, handed to the one connection that is up, written and acked. -/
def sampleLabels : List (Label 1) :=
  [.bearerbox (.reconnect 0 true true),
    .inbound 0 (.submitSm sampleSubmitSm) sampleKannel sampleEnv true,
    .routingDone 0 { status := smppEsmeRok, parts := 1, cost := 0 } sampleEnv true,
    .bearerbox (.consume 0 0), .bearerbox (.beginWrite 0), .bearerbox (.endWrite 0 true),
    .bearerbox (.ack 0 (smppUuidGet (Vector.replicate 16 1)) ackSuccess)]

def isOkResponse (request : Request) : Event n → Bool
  | .call request' (.addOutbound q) => decide (request' = request) && isOk q
  | _ => false

theorem ok_response_only_after_acceptance_sample :
    ∃ (s : SubmitState 1) (before after : List (Event 1)) (q : SmppQueuedPdu),
      Run step anyStep (submitInit true (fun _ => none) (fun _ => sampleSession.toSession))
          sampleLabels s ∧
        s.log = before ++ .call sampleRequest (.addOutbound q) :: after ∧ isOk q ∧
        Accepted before sampleRequest := by
  have hexec : ((execute step anyStep (submitInit true (fun _ => none)
      (fun _ => sampleSession.toSession)) sampleLabels).map
        (fun s => s.log.any (isOkResponse sampleRequest))) = some true := by decide +kernel
  rcases Option.map_eq_some_iff.mp hexec with ⟨s, hs, hany⟩
  rcases List.any_eq_true.mp hany with ⟨e, hmem, he⟩
  rcases List.append_of_mem hmem with ⟨before, after, hlog⟩
  cases e with
  | call request c =>
      cases c with
      | addOutbound q =>
          have hq : request = sampleRequest ∧ isOk q = true := by
            simpa [isOkResponse] using he
          rw [hq.1] at hlog
          refine ⟨s, before, after, q, run_of_execute hs, hlog, hq.2, ?_⟩
          exact ok_response_only_after_acceptance (run_of_execute hs) hlog rfl hq.2
      | _ => simp [isOkResponse] at he
  | bearerbox e => simp [isOkResponse] at he

end Submit
end Ksmppd
