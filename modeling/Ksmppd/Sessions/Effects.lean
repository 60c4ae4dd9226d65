import Ksmppd.Sessions.Model
import Ksmppd.Submit.Counts

/-!
# Effects — what a step does, said once

A step changes one session record, moves one entry of a queue, or makes the calls of a handler;
the calls of a handler may have the bearerbox threads call back at once.  Invariants are proved
from these descriptions, and do not look into `step` again.
-/

namespace Ksmppd
namespace Sessions

open Lib
open Submit (SmKind Session SubmitCall Keeps ResultKeeps)

variable {n : Nat} {s t : ServerState n} {e e' : SmppEsme} {session : Session}
  {calls : List SubmitCall} {kind : SmKind} {inserted : Bool}

/-! ## Session records -/

theorem id_of_find? {id : EsmeRef} (h : s.find? id = some e) : e.id = id :=
  Keyed.key_of_find? h

theorem find?_id {id : EsmeRef} (h : s.find? id = some e) : s.find? e.id = some e :=
  Keyed.find?_key h

/-- A record that was stored is the new one, or one of another session. -/
theorem find?_put_cases {id : EsmeRef} (h : (s.put e).find? id = some e') :
    (id = e.id ∧ e' = e) ∨ (id ≠ e.id ∧ s.find? id = some e') := by
  by_cases hid : id = e.id
  · refine Or.inl ⟨hid, ?_⟩
    have hself : (s.put e).find? id = some e := Keyed.find?_put_self hid.symm
    rw [hself] at h
    exact (Option.some.inj h).symm
  · refine Or.inr ⟨hid, ?_⟩
    have hother : (s.put e).find? id = s.find? id := Keyed.find?_put_of_ne hid
    rw [hother] at h
    exact h

/-! ## Calls of the handlers -/

/-- The handlers and callbacks of the other PDUs keep the session they are given. -/
theorem keeps_handlePdu {smppServer : SmppServer} {link : BearerboxLink} {kannel : Kannel}
    {env : Submit.Env} {pdu : SmppPdu} {handled : Handled} {s₀ : Session}
    (h : handlePdu smppServer link kannel env s₀ pdu = some handled) :
    ∃ openAcks, Keeps { s₀ with esme := { s₀.esme with openAcks := openAcks } } handled.session
      handled.calls := by
  have hsubmit : ∀ {r : Submit.Result}, ResultKeeps s₀ r →
      ofSubmit r = some handled → Keeps s₀ handled.session handled.calls := by
    intro r hr hsome
    rcases Option.map_eq_some_iff.mp hsome with ⟨⟨session, calls⟩, hresult, rfl⟩
    exact hr session calls hresult
  unfold handlePdu at h
  split at h
  · cases h
    exact ⟨s₀.esme.openAcks, Submit.keeps_respond rfl⟩
  · cases h
    exact ⟨s₀.esme.openAcks, Submit.keeps_respond rfl⟩
  · exact ⟨s₀.esme.openAcks, hsubmit (Submit.resultKeeps_handleSm _) h⟩
  · exact ⟨s₀.esme.openAcks, hsubmit (Submit.resultKeeps_handleSm _) h⟩
  · -- a response of the client takes its open ack out
    rename_i sequenceNumber commandStatus
    rcases Option.bind_eq_some_iff.mp h with ⟨s₁, hload, hacked⟩
    rcases Option.map_eq_some_iff.mp hload with ⟨a, -, rfl⟩
    rcases Option.map_eq_some_iff.mp hacked with ⟨settled, -, rfl⟩
    refine ⟨(smppQueuesProcessAck smppServer link s₀.esme sequenceNumber
      commandStatus).1.openAcks, ?_⟩
    unfold smppQueuesProcessAck
    split
    · exact Submit.keeps_nil _
    · exact Submit.keeps_nil _
  · cases h
    exact ⟨s₀.esme.openAcks, Submit.keeps_nil _⟩

/-- A condition that outlasts the calls of handlers and callbacks, the steps of the bearerbox
threads, and connections that are closed. -/
structure Steady (I : ServerState n → Prop) : Prop where
  bearerbox : ∀ s b, I s → I { s with bearerbox := b }
  make : ∀ s e kind session calls, I s → s.find? e.id = some e →
    Keeps (sessionOf s.data e) session calls → I (s.make kind session calls)
  stopListening : ∀ s e, I s → s.find? e.id = some e → I (s.stopListening e)

variable {I : ServerState n → Prop}

theorem Steady.deliver (hI : Steady I) {event : Bearerbox.Event n Waiting} (h : I s)
    (ht : s.deliver event = some t) : I t := by
  unfold ServerState.deliver at ht
  split at ht
  · split at ht
    · rename_i kind q hctx
      rcases Option.bind_eq_some_iff.mp ht with ⟨esme, hq, hrest⟩
      rcases Option.bind_eq_some_iff.mp hrest with ⟨e, hfind, hcall⟩
      rcases Option.map_eq_some_iff.mp hcall with ⟨⟨session, calls⟩, hresult, rfl⟩
      have howner : q.smppEsme = some (sessionOf s.data e).esme.id :=
        hq.trans (congrArg some (id_of_find? hfind).symm)
      exact hI.make s e kind session calls h (find?_id hfind)
        (Submit.resultKeeps_callbackOf howner _ session calls hresult)
    · cases ht
      exact h
  · cases ht
    exact h

theorem Steady.deliverAll (hI : Steady I) {events : List (Bearerbox.Event n Waiting)} (h : I s)
    (ht : s.deliverAll events = some t) : I t := by
  induction events generalizing s with
  | nil =>
      cases ht
      exact h
  | cons event events ih =>
      rcases Option.bind_eq_some_iff.mp ht with ⟨s', hfirst, hrest⟩
      exact ih (hI.deliver h hfirst) hrest

theorem Steady.absorb (hI : Steady I) {b : Bearerbox.SmppBearerboxState n Waiting} (h : I s)
    (ht : s.absorb b = some t) : I t :=
  hI.deliverAll (hI.bearerbox s { b with log := [] } h) ht

theorem Steady.handOver (hI : Steady I) {handed : List (Sms × SmppQueuedPdu)} (h : I s)
    (ht : s.handOver kind inserted handed = some t) : I t := by
  induction handed generalizing s with
  | nil =>
      cases ht
      exact h
  | cons x handed ih =>
      rcases Option.bind_eq_some_iff.mp ht with ⟨s', hfirst, hrest⟩
      exact ih (hI.absorb h hfirst) hrest

/-- The first calls of a handler are made with a record that is not stored yet. -/
theorem Steady.finish (hI : Steady I) {r : Submit.Result}
    (h : ∀ session calls, r = some (session, calls) → I (s.make kind session calls))
    (ht : s.finish kind inserted r = some t) : I t := by
  rcases Option.bind_eq_some_iff.mp ht with ⟨⟨session, calls⟩, hr, hover⟩
  exact hI.handOver (h session calls hr) hover

theorem Steady.settle (hI : Steady I) (h : I s) (c : Call) : I (s.settle c) := by
  cases c with
  | esmeDisconnect esme =>
      cases hfind : s.find? esme with
      | none => simpa [ServerState.settle, hfind] using h
      | some e =>
          simpa [ServerState.settle, hfind] using hI.stopListening s e h (find?_id hfind)
  | _ => exact h

theorem Steady.settleAll (hI : Steady I) (h : I s) (cs : List Call) :
    I (cs.foldl ServerState.settle s) := by
  induction cs generalizing s with
  | nil => exact h
  | cons c cs ih => exact ih (hI.settle h c)

/-- A condition that outlasts the callbacks of the bearerbox threads; nothing is asked of other calls
and of connections that are closed. -/
structure OutlastsCallbacks (I : ServerState n → Prop) : Prop where
  bearerbox : ∀ s b, I s → I { s with bearerbox := b }
  callback : ∀ s kind q e status session calls, I s → q.smppEsme = some e.id →
    s.find? e.id = some e →
    Submit.callbackOf kind (sessionOf s.data e) q status = some (session, calls) →
      I (s.make kind session calls)

theorem OutlastsCallbacks.deliver (hI : OutlastsCallbacks I) {event : Bearerbox.Event n Waiting}
    (h : I s) (ht : s.deliver event = some t) : I t := by
  unfold ServerState.deliver at ht
  split at ht
  · split at ht
    · rename_i kind q hctx
      rcases Option.bind_eq_some_iff.mp ht with ⟨esme, hq, hrest⟩
      rcases Option.bind_eq_some_iff.mp hrest with ⟨e, hfind, hcall⟩
      rcases Option.map_eq_some_iff.mp hcall with ⟨⟨session, calls⟩, hresult, rfl⟩
      have howner : q.smppEsme = some e.id := hq.trans (congrArg some (id_of_find? hfind).symm)
      exact hI.callback s kind q e _ session calls h howner (find?_id hfind) hresult
    · -- a requeue result: `smpp_bearerbox_requeue_result` has no session
      cases ht
      exact h
  · cases ht
    exact h

theorem OutlastsCallbacks.absorb (hI : OutlastsCallbacks I)
    {b : Bearerbox.SmppBearerboxState n Waiting} (h : I s) (ht : s.absorb b = some t) : I t := by
  have hall : ∀ (events : List (Bearerbox.Event n Waiting)) (u : ServerState n), I u →
      u.deliverAll events = some t → I t := by
    intro events
    induction events with
    | nil =>
        intro u hu htaken
        cases htaken
        exact hu
    | cons event events ih =>
        intro u hu htaken
        rcases Option.bind_eq_some_iff.mp htaken with ⟨u', hfirst, hrest⟩
        exact ih u' (hI.deliver hu hfirst) hrest
  exact hall b.log _ (hI.bearerbox s { b with log := [] } h) ht

/-- The messages of a handler go to the bearerbox after its other calls. -/
theorem OutlastsCallbacks.finish (hI : OutlastsCallbacks I) {r : Submit.Result}
    (h : ∀ session calls, r = some (session, calls) → I (s.make kind session calls))
    (ht : s.finish kind inserted r = some t) : I t := by
  have hall : ∀ (handed : List (Sms × SmppQueuedPdu)) (u : ServerState n), I u →
      u.handOver kind inserted handed = some t → I t := by
    intro handed
    induction handed with
    | nil =>
        intro u hu hover
        cases hover
        exact hu
    | cons x handed ih =>
        intro u hu hover
        rcases Option.bind_eq_some_iff.mp hover with ⟨u', hfirst, hrest⟩
        exact ih u' (hI.absorb hu hfirst) hrest
  rcases Option.bind_eq_some_iff.mp ht with ⟨⟨session, calls⟩, hr, hover⟩
  exact hall _ _ (h session calls hr) hover

/-! ## Steps -/

/-- An entry taken out of a queue. -/
theorem perm_eraseIdx {α : Type*} {l : List α} {i : Nat} {x : α} (h : l[i]? = some x) :
    l.Perm (x :: l.eraseIdx i) := by
  rcases List.getElem?_eq_some_iff.mp h with ⟨hlt, hget⟩
  rw [← hget]
  exact (List.getElem_cons_eraseIdx_perm hlt).symm

theorem bindCheck_cases {i : Nat} {denied : Bool} {authResult : Option SmppEsmeAuthResult}
    (h : step s (.bindCheck i denied authResult) = some t) :
    ∃ esme p e, s.cleaning = false ∧ s.inboundQueue[i]? = some (esme, .bind p) ∧
      s.find? esme = some e ∧
      t = { s.put (consumed s.now e) with
        inboundQueue := s.inboundQueue.eraseIdx i
        binding := s.binding ++ [{
          esme := esme
          pdu := p
          authResult := smppEsmeAuth s.data (p.systemId.getD []) denied authResult }] } := by
  simp only [step] at h
  split at h
  · cases h
  · rename_i hcleaning
    split at h
    · rename_i esme p hget
      rcases Option.map_eq_some_iff.mp h with ⟨e, hfind, rfl⟩
      exact ⟨esme, p, e, by simpa using hcleaning, hget, hfind, rfl⟩
    · cases h

theorem bindFinish_cases {i : Nat} (h : step s (.bindFinish i) = some t) :
    ∃ b e data q, s.binding[i]? = some b ∧ s.find? b.esme = some e ∧
      smppQueuesHandleBindPdu s.smppServer s.data e b.pdu b.authResult = some (data, q) ∧
      t = { s with
        data := data
        outboundQueue := s.outboundQueue ++ [q]
        binding := s.binding.eraseIdx i } := by
  cases hget : s.binding[i]? with
  | none => simp [step, hget] at h
  | some b =>
      simp only [step, hget] at h
      rcases Option.bind_eq_some_iff.mp h with ⟨e, hfind, hrest⟩
      rcases Option.map_eq_some_iff.mp hrest with ⟨⟨data, q⟩, hhandle, rfl⟩
      exact ⟨b, e, data, q, rfl, hfind, hhandle, rfl⟩

theorem outbound_cases {i : Nat} (h : step s (.outbound i) = some t) :
    ∃ q esme e, s.outboundQueue[i]? = some q ∧ q.smppEsme = some esme ∧ s.find? esme = some e ∧
      t = if e.connected && q.disconnect then
          { s with outboundQueue := s.outboundQueue.eraseIdx i }.hangUp (dequeued s.now e)
        else { s with outboundQueue := s.outboundQueue.eraseIdx i }.put (dequeued s.now e) := by
  cases hget : s.outboundQueue[i]? with
  | none => simp [step, hget] at h
  | some q =>
      simp only [step, hget] at h
      rcases Option.bind_eq_some_iff.mp h with ⟨esme, hq, hrest⟩
      rcases Option.map_eq_some_iff.mp hrest with ⟨e, hfind, rfl⟩
      exact ⟨q, esme, e, rfl, hq, hfind, rfl⟩

theorem sweep_cases {key : Octstr} {j : Nat} (h : step s (.sweep key j) = some t) :
    ∃ g esme e, s.cleaning = true ∧ s.data.esmes.find? key = some g ∧ g.binds[j]? = some esme ∧
      s.find? esme = some e ∧ expired s.now e = true ∧
      t = { s with data :=
        { s.data with esmes := s.data.esmes.put (withoutBind g j) } }.cleanup e := by
  simp only [step] at h
  split at h
  · rename_i hcleaning
    rcases Option.bind_eq_some_iff.mp h with ⟨g, hg, hrest⟩
    rcases Option.bind_eq_some_iff.mp hrest with ⟨esme, hesme, hrest'⟩
    rcases Option.bind_eq_some_iff.mp hrest' with ⟨e, he, hswept⟩
    split at hswept
    · rename_i hexpired
      exact ⟨g, esme, e, hcleaning, hg, hesme, he, hexpired, (Option.some.inj hswept).symm⟩
    · cases hswept
  · cases h

theorem destroy_cases {esme : EsmeRef} (h : step s (.destroy esme) = some t) :
    ∃ e, s.cleaning = true ∧ esme ∈ s.cleanupQueue ∧ s.find? esme = some e ∧
      destroyable s.now e = true ∧
      t = { s with
        data := { s.data with sessions := s.data.sessions.remove esme }
        cleanupQueue := s.cleanupQueue.erase esme
        destroyed := s.destroyed ++ [esme] } := by
  simp only [step] at h
  split at h
  · rename_i hmem
    rcases Option.bind_eq_some_iff.mp h with ⟨e, he, hrest⟩
    split at hrest
    · rename_i hdestroyable
      exact ⟨e, hmem.1, hmem.2, he, hdestroyable, (Option.some.inj hrest).symm⟩
    · cases hrest
  · cases h

end Sessions
end Ksmppd
