import Ksmppd.Submit.OneResponse

/-!
# Counts — what the handlers do to the counters of a session

A handler or a callback raises `outbound_queued` by the responses it queues and `pending_routing`
by the questions it leaves with the router, and every PDU it makes points to its own session.
Apart from that it changes the message counters only.
-/

namespace Ksmppd
namespace Submit

variable {kind : SmKind} {env : Env} {s s' s'' t : Session} {calls calls' : List SubmitCall}
  {q : SmppQueuedPdu} {r : Result} {sequenceNumber : Int}

/-- The queued PDU of a call points to this session. -/
def Owned (esme : EsmeRef) : SubmitCall → Prop
  | .addOutbound q => q.smppEsme = some esme
  | .routeMessage _ q => q.smppEsme = some esme
  | .bearerboxAddMessage _ q => q.smppEsme = some esme
  | _ => True

/-- What an account is known by. -/
def accountBinds (a : SmppEsmeGlobal) : Octstr × List EsmeRef := (a.systemId, a.binds)

structure Keeps (s s' : Session) (calls : List SubmitCall) : Prop where
  esme : s'.esme = { s.esme with
    outboundQueued := s.esme.outboundQueued + (responsesOf calls).length
    pendingRouting := s.esme.pendingRouting + (routesOf calls).length
    mtCounter := s'.esme.mtCounter
    errorCounter := s'.esme.errorCounter }
  account : s'.account.map accountBinds = s.account.map accountBinds
  owned : ∀ c ∈ calls, Owned s.esme.id c

/-- The same, where there is a result. -/
def ResultKeeps (s : Session) (r : Result) : Prop :=
  ∀ s' calls, r = some (s', calls) → Keeps s s' calls

/-! ## Putting steps together -/

theorem responsesOf_append (calls calls' : List SubmitCall) :
    responsesOf (calls ++ calls') = responsesOf calls ++ responsesOf calls' :=
  List.filterMap_append

theorem routesOf_append (calls calls' : List SubmitCall) :
    routesOf (calls ++ calls') = routesOf calls ++ routesOf calls' :=
  List.filterMap_append

theorem Keeps.trans (h : Keeps s s' calls) (h' : Keeps s' s'' calls') :
    Keeps s s'' (calls ++ calls') := by
  -- both steps are steps of the same session
  have hid : s'.esme.id = s.esme.id := by rw [h.esme]
  refine ⟨?_, h'.account.trans h.account, ?_⟩
  · rw [h'.esme, h.esme, responsesOf_append, routesOf_append, List.length_append,
      List.length_append, ← add_assoc, ← add_assoc]
  · intro c hc
    rcases List.mem_append.mp hc with hold | hnew
    · exact h.owned c hold
    · exact hid ▸ h'.owned c hnew

theorem keeps_quiet {c : SubmitCall} (hc : IsQuiet c) (s : Session) : Keeps s s [c] := by
  cases c with
  | addOutbound q => cases hc
  | routeMessage msg q => cases hc
  | bearerboxAddMessage msg q => cases hc
  | _ => exact ⟨rfl, rfl, by simp [Owned]⟩

theorem keeps_nil (s : Session) : Keeps s s [] := ⟨rfl, rfl, by simp⟩

theorem keeps_respond (hq : q.smppEsme = some s.esme.id) :
    Keeps s (respond s q).1 (respond s q).2 := ⟨rfl, rfl, by simpa [respond, Owned] using hq⟩

theorem keeps_countError (h : s.countError = some s') : Keeps s s' [] := by
  rcases Option.map_eq_some_iff.mp h with ⟨a, ha, rfl⟩
  exact ⟨rfl, by simp [ha, accountBinds], by simp⟩

theorem keeps_countMt (h : s.countMt = some s') : Keeps s s' [] := by
  rcases Option.map_eq_some_iff.mp h with ⟨a, ha, rfl⟩
  exact ⟨rfl, by simp [ha, accountBinds], by simp⟩

theorem resultKeeps_respond (hq : q.smppEsme = some s.esme.id) :
    ResultKeeps s (some (respond s q)) := by
  intro s' calls h
  cases h
  exact keeps_respond hq

/-- A response that is counted first. -/
theorem resultKeeps_counted {o : Option Session} (ho : ∀ s', o = some s' → Keeps s s' [])
    (hq : q.smppEsme = some s.esme.id) : ResultKeeps s (o.map (fun s' => respond s' q)) := by
  intro s'' calls h
  rcases Option.map_eq_some_iff.mp h with ⟨s', hs', heq⟩
  have hkeeps := ho s' hs'
  have hid : s'.esme.id = s.esme.id := by rw [hkeeps.esme]
  cases heq
  exact hkeeps.trans (keeps_respond (hid ▸ hq))

theorem resultKeeps_after {c : SubmitCall} (hc : IsQuiet c) (h : ResultKeeps s r) :
    ResultKeeps s (after [c] r) := by
  intro s' calls hr
  rcases Option.map_eq_some_iff.mp hr with ⟨⟨s₁, cs⟩, hcs, heq⟩
  cases heq
  exact (keeps_quiet hc s).trans (h _ _ hcs)

/-! ## Callbacks -/

theorem resultKeeps_smCallback (hq : q.smppEsme = some s.esme.id) (status : Int) :
    ResultKeeps s (smCallback s q status) := by
  unfold smCallback
  split
  · exact resultKeeps_counted (fun _ h => keeps_countError h) hq
  · exact resultKeeps_counted (fun _ h => keeps_countMt h) hq

theorem resultKeeps_callbackOf (hq : q.smppEsme = some s.esme.id) (status : Int) :
    ResultKeeps s (callbackOf kind s q status) := by
  rw [callbackOf_eq]
  exact resultKeeps_smCallback hq status

theorem resultKeeps_rejectSm (hq : q.smppEsme = some s.esme.id) (status : Int) :
    ResultKeeps s (rejectSm s q status) :=
  resultKeeps_counted (fun _ h => keeps_countError h) hq

theorem smppEsme_refresh {msg msg' : Sms} {q' : SmppQueuedPdu}
    (h : refresh kind env s q msg = some (q', msg')) : q'.smppEsme = q.smppEsme := by
  cases kind with
  | submitSm =>
      rcases Option.map_eq_some_iff.mp h with ⟨m, -, heq⟩
      cases heq
      rfl
  | dataSm =>
      cases h
      rfl

theorem resultKeeps_acceptSm (hq : q.smppEsme = some s.esme.id) (a : SmppEsmeGlobal) (msg : Sms) :
    ResultKeeps s (acceptSm kind env s a q msg) := by
  intro s' calls h
  rcases Option.bind_eq_some_iff.mp h with ⟨⟨q', msg'⟩, hrefresh, hrest⟩
  have hq' : q'.smppEsme = some s.esme.id := (smppEsme_refresh hrefresh).trans hq
  dsimp only at hrest
  split at hrest
  · refine resultKeeps_after ?_ (resultKeeps_smCallback ?_ _) s' calls hrest
    · trivial
    · exact hq'
  · cases hrest
    exact ⟨rfl, rfl, by simpa [Owned] using hq'⟩

theorem resultKeeps_billSm (hq : q.smppEsme = some s.esme.id) (msg : Sms) (cost : Rat) :
    ResultKeeps s (billSm kind env s q msg cost) := by
  intro s' calls h
  rcases Option.bind_eq_some_iff.mp h with ⟨a, -, hrest⟩
  split at hrest
  · -- prepaid: the deduction decides
    split at hrest
    · refine resultKeeps_after ?_ (resultKeeps_acceptSm hq a msg) s' calls hrest
      trivial
    · refine resultKeeps_after ?_ (resultKeeps_rejectSm hq _) s' calls hrest
      trivial
  · exact resultKeeps_acceptSm hq a msg s' calls hrest

/-- The routing callback takes its question back first. -/
theorem resultKeeps_routingDoneOf (hq : q.smppEsme = some s.esme.id)
    (routeStatus : SmppRouteStatus) :
    ResultKeeps s.routingDone (routingDoneOf kind env s q routeStatus) := by
  rw [routingDoneOf_eq]
  intro s' calls h
  have hq' : q.smppEsme = some s.routingDone.esme.id := hq
  rcases Option.bind_eq_some_iff.mp h with ⟨msg, -, hrest⟩
  split at hrest
  · exact resultKeeps_billSm hq' _ _ s' calls hrest
  · -- no route: the default SMSC stands in, or the message is rejected
    split at hrest
    · exact resultKeeps_billSm hq' _ _ s' calls hrest
    · exact resultKeeps_rejectSm hq' _ s' calls hrest

/-! ## Handlers -/

theorem resultKeeps_forwardSm (converted : Conversion) :
    ResultKeeps s (forwardSm kind env s sequenceNumber converted) := by
  intro s' calls h
  unfold forwardSm at h
  split at h
  · cases h
  · exact resultKeeps_respond (by rfl) s' calls h
  · rcases Option.map_eq_some_iff.mp h with ⟨msg', -, heq⟩
    cases heq
    exact ⟨rfl, rfl, by simp [Owned]; rfl⟩

theorem keeps_simulated {calls : List SubmitCall} (h : ∀ c ∈ calls, ∃ q, c = .simulate q) :
    Keeps s s calls := by
  have hresponses : responsesOf calls = [] := by
    apply List.filterMap_eq_nil_iff.mpr
    intro c hc
    rcases h c hc with ⟨q, rfl⟩
    rfl
  have hroutes : routesOf calls = [] := by
    apply List.filterMap_eq_nil_iff.mpr
    intro c hc
    rcases h c hc with ⟨q, rfl⟩
    rfl
  refine ⟨by rw [hresponses, hroutes]; rfl, rfl, ?_⟩
  intro c hc
  rcases h c hc with ⟨q, rfl⟩
  trivial

theorem simulateDelivery_calls {msg : Sms} (h : simulateDelivery env s msg = some calls) :
    ∀ c ∈ calls, ∃ q, c = .simulate q := by
  rcases Option.map_eq_some_iff.mp h with ⟨pdus, -, rfl⟩
  intro c hc
  rcases List.mem_map.mp hc with ⟨p, -, rfl⟩
  exact ⟨_, rfl⟩

theorem simulateReport_calls {msg msg' : Sms}
    (h : simulateReport env s msg = some (msg', calls)) : ∀ c ∈ calls, ∃ q, c = .simulate q := by
  unfold simulateReport at h
  dsimp only at h
  split at h
  · rcases Option.bind_eq_some_iff.mp h with ⟨msg'', -, hmap⟩
    rcases Option.map_eq_some_iff.mp hmap with ⟨cs, hcs, heq⟩
    cases heq
    exact simulateDelivery_calls hcs
  · cases h
    simp

theorem simulateMo_calls {msg : Sms} (h : simulateMo env s msg = some calls) :
    ∀ c ∈ calls, ∃ q, c = .simulate q := by
  unfold simulateMo at h
  split at h
  · exact simulateDelivery_calls h
  · cases h
    simp

theorem resultKeeps_simulateSubmitSm (converted : Conversion) :
    ResultKeeps s (simulateSubmitSm env s sequenceNumber converted) := by
  intro s'' calls h
  unfold simulateSubmitSm at h
  dsimp only at h
  split at h
  · exact resultKeeps_counted (fun _ h => keeps_countError h) (by rfl) s'' calls h
  · split at h
    · exact resultKeeps_counted (fun _ h => keeps_countError h) (by rfl) s'' calls h
    · split at h
      · cases h
      · exact resultKeeps_respond (by rfl) s'' calls h
      · rcases Option.bind_eq_some_iff.mp h with ⟨s', hcount, hreport⟩
        rcases Option.bind_eq_some_iff.mp hreport with ⟨⟨msg', report⟩, hreport, hmo⟩
        rcases Option.map_eq_some_iff.mp hmo with ⟨mo, hmo, heq⟩
        have hcounted := keeps_countMt hcount
        have hid : s'.esme.id = s.esme.id := by rw [hcounted.esme]
        have hanswer : ∀ q, q.smppEsme = some s.esme.id →
            Keeps s' s'.addOutbound [.addOutbound q] :=
          fun q hq => keeps_respond (hid ▸ hq)
        have hsimulated : ∀ t, Keeps t t (report ++ mo) :=
          fun t => (keeps_simulated (simulateReport_calls hreport)).trans
            (keeps_simulated (simulateMo_calls hmo))
        -- the response stands before the report, or after it and the MO
        dsimp only at heq
        split at heq
        · cases heq
          rw [List.append_assoc]
          refine hcounted.trans ((hanswer _ ?_).trans (hsimulated s'.addOutbound))
          rfl
        · cases heq
          refine hcounted.trans ((hsimulated s').trans (hanswer _ ?_))
          rfl

theorem resultKeeps_admitSm {proceed : SmppEsmeGlobal → Result}
    (h : ∀ a, ResultKeeps s (proceed a)) : ResultKeeps s (admitSm kind s sequenceNumber proceed) := by
  intro s' calls hr
  unfold admitSm at hr
  split at hr
  · exact resultKeeps_respond (by rfl) s' calls hr
  · rcases Option.bind_eq_some_iff.mp hr with ⟨a, -, hadmit⟩
    split at hadmit
    · exact resultKeeps_respond (by rfl) s' calls hadmit
    · exact h a s' calls hadmit

theorem resultKeeps_handleSm (converted : Conversion) :
    ResultKeeps s (handleSm kind env s sequenceNumber converted) := by
  cases kind with
  | submitSm =>
      apply resultKeeps_admitSm
      intro a
      split
      · exact resultKeeps_simulateSubmitSm converted
      · exact resultKeeps_forwardSm converted
  | dataSm => exact resultKeeps_admitSm (fun a => resultKeeps_forwardSm converted)

end Submit
end Ksmppd
