import Ksmppd.EsmeLookup
import Ksmppd.Sessions.CleanupThread

/-!
# UnbindCommand — what becomes of the binds an administrator unbinds

The command queues an `unbind` for each bind and marks the PDU; the connection is closed by the
outbound thread that has written it.  Until then the session goes on as before.
-/

namespace Ksmppd
namespace Sessions

open Lib

variable {n : Nat} {s s' t : ServerState n} {data : SmppEsmeData} {e e' d : SmppEsme}
  {id esme : EsmeRef} {q : SmppQueuedPdu}

/-! ## The command -/

def ServerState.unbindCommand (s : ServerState n) (systemId bindId : Option Octstr)
    (plain : Bool) : ServerState n :=
  let r := smppEsmeUnbindCommand s.data systemId bindId plain
  { s with
    data := r.2.1
    outboundQueue := s.outboundQueue ++ r.2.2 }

inductive AdminLabel (n : Nat)
  | server (l : Label n)
  /-- The HTTP server runs `esme-unbind`. -/
  | unbind (systemId bindId : Option Octstr) (plain : Bool)

/-- The command takes the write lock of the cleanup thread. -/
def adminStep (s : ServerState n) : AdminLabel n → Option (ServerState n)
  | .server l => step s l
  | .unbind systemId bindId plain =>
      if s.cleaning ∨ s.binding ≠ [] then none else some (s.unbindCommand systemId bindId plain)

/-! ## Sessions are not connected again -/

/-- The sessions are those of before, and no connection is open that was not; or they are new. -/
structure Succeeds (s t : ServerState n) : Prop where
  esmeCounter : s.esmeCounter ≤ t.esmeCounter
  sessions : ∀ id e', t.find? id = some e' →
    -- ids are not given out twice, so a new session is none of those that are waited for
    (∃ e, s.find? id = some e ∧ (e'.connected = true → e.connected = true)) ∨
      (s.esmeCounter ≤ id ∧ id < t.esmeCounter)

theorem Aged.succeeds (h : Aged s t) : Succeeds s t where
  esmeCounter := Nat.le_of_eq h.esmeCounter.symm
  sessions := by
    intro id e' he'
    rcases h.sessions id e' he' with ⟨e, he, hconnected, -⟩
    exact Or.inl ⟨e, he, hconnected⟩

/-- Sessions are only taken out. -/
theorem succeeds_of_find (hcounter : t.esmeCounter = s.esmeCounter)
    (h : ∀ id e', t.find? id = some e' → s.find? id = some e') : Succeeds s t where
  esmeCounter := Nat.le_of_eq hcounter.symm
  sessions := fun id e' he' => Or.inl ⟨e', h id e' he', fun hconnected => hconnected⟩

theorem succeeds_bindFinish {i : Nat} (h : step s (.bindFinish i) = some t) : Succeeds s t := by
  rcases bindFinish_cases h with ⟨b, e, data', q, -, hfind, hhandle, rfl⟩
  cases hresult : b.authResult with
  | none =>
      rw [hresult] at hhandle
      cases hhandle
      have haged : Aged s (s.put (queued { e with pendingDisconnect := true })) :=
        aged_put (d := e) (find?_id hfind) (fun hc => hc) (Or.inl rfl)
      exact ⟨Nat.le_refl _, haged.succeeds.sessions⟩
  | some r =>
      rw [hresult] at hhandle
      rcases handleBind_sessions hhandle with ⟨-, key, hsessions⟩
      refine ⟨Nat.le_refl _, ?_⟩
      intro id e' he'
      have hput : (s.put (queued (configureEsme r ((authenticate e b.pdu).setGlobal key)))).find?
          id = some e' := (hsessions id).symm.trans he'
      rcases find?_put_cases hput with ⟨rfl, rfl⟩ | ⟨-, hold⟩
      · exact Or.inl ⟨e, find?_id hfind, fun hconnected => hconnected⟩
      · exact Or.inl ⟨e', hold, fun hconnected => hconnected⟩

theorem succeeds_step {l : Label n} (h : step s l = some t) : Succeeds s t := by
  cases l with
  | accept =>
      cases h
      refine ⟨Nat.le_succ _, ?_⟩
      intro id e' he'
      rcases find?_put_cases he' with ⟨rfl, -⟩ | ⟨-, hold⟩
      -- the connection that was accepted has the next id
      · exact Or.inr ⟨Nat.le_refl _, Nat.lt_succ_self _⟩
      · exact Or.inl ⟨e', hold, fun hconnected => hconnected⟩
  | bindCheck i denied authResult =>
      rcases bindCheck_cases h with ⟨esme, p, e, -, -, hfind, rfl⟩
      have haged : Aged s (s.put (consumed s.now e)) :=
        aged_put (d := e) (find?_id hfind) (fun hc => hc) (Or.inr rfl)
      exact ⟨Nat.le_refl _, haged.succeeds.sessions⟩
  | bindFinish i => exact succeeds_bindFinish h
  | passBegin =>
      simp only [step] at h
      split at h
      · cases h
      · cases h
        exact succeeds_of_find rfl (fun _ _ he => he)
  | passEnd =>
      simp only [step] at h
      split at h
      · cases h
        exact succeeds_of_find rfl (fun _ _ he => he)
      · cases h
  | sweep key j =>
      rcases sweep_cases h with ⟨g, esme, e, -, -, -, hfind, -, rfl⟩
      let v : ServerState n :=
        { s with data := { s.data with esmes := s.data.esmes.put (withoutBind g j) } }
      have haged : Aged v (v.cleanup e) := aged_cleanup (d := e) (find?_id hfind) (Or.inl rfl)
      exact ⟨Nat.le_refl _, haged.succeeds.sessions⟩
  | destroy esme =>
      rcases destroy_cases h with ⟨e, -, -, -, -, rfl⟩
      exact succeeds_of_find rfl (fun _ _ he => (Keyed.find?_of_remove he).2)
  | tick seconds =>
      cases h
      exact succeeds_of_find rfl (fun _ _ he => he)
  | shutdown =>
      simp only [step] at h
      split at h
      · cases h
      · cases h
        exact succeeds_of_find rfl (fun _ _ he => (Keyed.find?_of_foldl_remove he).2)
  -- the rest keeps the sessions and at most closes connections
  | receive _ _ | hangUp _ | inbound _ _ _ _ _ | routingDone _ _ _ _ | bearerbox _
  | addOutbound _ _ | outbound _ | disconnect _ => exact (aged_step trivial h).succeeds

/-! ## The queue of the outbound threads -/

theorem steady_queued (qs : List SmppQueuedPdu) :
    Steady (fun t : ServerState n => ∀ q ∈ qs, q ∈ t.outboundQueue) where
  bearerbox := fun _ _ h => h
  make := fun _ _ _ _ _ h _ _ q hq => List.mem_append_left _ (h q hq)
  stopListening := fun _ _ h _ => h

theorem queued_finish {kind : Submit.SmKind} {inserted : Bool} {r : Submit.Result}
    {qs : List SmppQueuedPdu} (hqs : ∀ q ∈ qs, q ∈ s.outboundQueue)
    (h : s.finish kind inserted r = some t) : ∀ q ∈ qs, q ∈ t.outboundQueue := by
  refine (steady_queued qs).finish ?_ h
  -- the calls of a handler are appended
  intro session calls _ q hq
  exact List.mem_append_left _ (hqs q hq)

theorem outboundQueue_hangUp (s : ServerState n) (e : SmppEsme) :
    (s.hangUp e).outboundQueue = s.outboundQueue := by
  unfold ServerState.hangUp
  split <;> rfl

/-- Bound or not, a session that hangs up is closed. -/
theorem connected_hangUp (hid : e.id = id) (h : (s.hangUp e).find? id = some e') :
    e'.connected = false := by
  unfold ServerState.hangUp at h
  split at h
  · rcases find?_put_cases h with ⟨-, rfl⟩ | ⟨hne, -⟩
    · rfl
    · exact absurd hid.symm hne
  · rcases find?_put_cases h with ⟨-, rfl⟩ | ⟨hne, -⟩
    · rfl
    · exact absurd hid.symm hne

/-- Only an outbound thread takes anything out of its queue. -/
theorem queued_step {l : Label n} (h : step s l = some t) (hl : ∀ i, l ≠ .outbound i) :
    ∀ q ∈ s.outboundQueue, q ∈ t.outboundQueue := by
  intro q hq
  cases l with
  | outbound i => exact absurd rfl (hl i)
  | accept | tick _ =>
      cases h
      exact hq
  | receive esme pdu =>
      rcases Option.map_eq_some_iff.mp h with ⟨e, -, rfl⟩
      exact hq
  | hangUp esme =>
      rcases Option.map_eq_some_iff.mp h with ⟨e, -, rfl⟩
      rw [outboundQueue_hangUp]
      exact hq
  | inbound i link kannel env inserted =>
      simp only [step] at h
      split at h
      · cases h
      · split at h
        · cases h
        · rcases Option.bind_eq_some_iff.mp h with ⟨e, -, hrest⟩
          rcases Option.bind_eq_some_iff.mp hrest with ⟨handled, -, hfinish⟩
          rcases Option.map_eq_some_iff.mp hfinish with ⟨u, hu, rfl⟩
          have hkept : ∀ q ∈ s.outboundQueue, q ∈ u.outboundQueue :=
            queued_finish (by exact fun _ hq => hq) hu
          exact (steady_queued s.outboundQueue).settleAll hkept handled.settled q hq
        · cases h
  | bindCheck i denied authResult =>
      rcases bindCheck_cases h with ⟨esme, p, e, -, -, -, rfl⟩
      exact hq
  | bindFinish i =>
      rcases bindFinish_cases h with ⟨b, e, data', q', -, -, -, rfl⟩
      exact List.mem_append_left _ hq
  | routingDone i routeStatus env inserted =>
      simp only [step] at h
      split at h
      · rcases Option.bind_eq_some_iff.mp h with ⟨esme, -, hrest⟩
        rcases Option.bind_eq_some_iff.mp hrest with ⟨e, -, hfinish⟩
        exact queued_finish (by exact fun _ hq => hq) hfinish q hq
      · cases h
  | bearerbox l =>
      simp only [step] at h
      split at h
      · rcases Option.bind_eq_some_iff.mp h with ⟨b, -, hb⟩
        exact (steady_queued s.outboundQueue).absorb (fun _ hq => hq) hb q hq
      · cases h
  | addOutbound esme q' =>
      simp only [step] at h
      split at h
      · rcases Option.map_eq_some_iff.mp h with ⟨e, -, rfl⟩
        exact List.mem_append_left _ hq
      · cases h
  | disconnect esme =>
      rcases Option.map_eq_some_iff.mp h with ⟨e, -, rfl⟩
      exact hq
  | passBegin | passEnd | shutdown =>
      simp only [step] at h
      split at h <;> cases h
      exact hq
  | sweep key j =>
      rcases sweep_cases h with ⟨g, esme, e, -, -, -, -, -, rfl⟩
      exact hq
  | destroy esme =>
      rcases destroy_cases h with ⟨e, -, -, -, -, rfl⟩
      exact hq

/-! ## Sessions to be disconnected -/

/-- The session is closed, or a PDU that will close it is in the queue of the outbound threads. -/
structure Doomed (s : ServerState n) (id : EsmeRef) : Prop where
  known : id < s.esmeCounter
  queued : ∀ e, s.find? id = some e → e.connected = true →
    ∃ q ∈ s.outboundQueue, q.smppEsme = some id ∧ q.disconnect = true

theorem Doomed.of_succeeds (h : Doomed s id) (hsucceeds : Succeeds s t)
    (hqueue : ∀ q ∈ s.outboundQueue, q ∈ t.outboundQueue) : Doomed t id where
  known := Nat.lt_of_lt_of_le h.known hsucceeds.esmeCounter
  queued := by
    intro e' he' hconnected'
    rcases hsucceeds.sessions id e' he' with ⟨e, he, hconnected⟩ | ⟨hnew, -⟩
    · rcases h.queued e he (hconnected hconnected') with ⟨q, hq, howner, hdisconnect⟩
      exact ⟨q, hqueue q hq, howner, hdisconnect⟩
    · exact absurd h.known (Nat.not_lt.mpr hnew)

theorem doomed_outbound {i : Nat} (h : Doomed s id) (ht : step s (.outbound i) = some t) :
    Doomed t id := by
  have hsucceeds := succeeds_step ht
  rcases outbound_cases ht with ⟨q, esme, e, hget, howner, hfind, heq⟩
  have hqueue : t.outboundQueue = s.outboundQueue.eraseIdx i := by
    rw [heq]
    split
    · rw [outboundQueue_hangUp]
    · rfl
  refine ⟨Nat.lt_of_lt_of_le h.known hsucceeds.esmeCounter, ?_⟩
  intro e' he' hconnected'
  rcases hsucceeds.sessions id e' he' with ⟨e₀, he₀, hconnected⟩ | ⟨hnew, -⟩
  · rcases h.queued e₀ he₀ (hconnected hconnected') with ⟨q', hq', howner', hdisconnect⟩
    have hperm := perm_eraseIdx hget
    rcases List.mem_cons.mp (hperm.mem_iff.mp hq') with rfl | hrest
    · -- it was the PDU that was taken, and the connection is closed with it
      have hid : id = esme := by
        rw [howner'] at howner
        exact Option.some.inj howner
      subst hid
      rw [hfind] at he₀
      cases he₀
      rw [heq, hconnected hconnected', hdisconnect] at he'
      simp only [Bool.and_self, if_true] at he'
      have hkey : e.id = id := id_of_find? hfind
      have hclosed := connected_hangUp (e := dequeued s.now e) hkey he'
      exact absurd (hconnected'.symm.trans hclosed) Bool.false_ne_true.symm
    · exact ⟨q', hqueue ▸ hrest, howner', hdisconnect⟩
  · exact absurd h.known (Nat.not_lt.mpr hnew)

theorem doomed_step {l : Label n} (h : Doomed s id) (ht : step s l = some t) : Doomed t id := by
  -- every other thread leaves the entries of the queue where they are
  by_cases hl : ∃ i, l = .outbound i
  · rcases hl with ⟨i, rfl⟩
    exact doomed_outbound h ht
  · exact h.of_succeeds (succeeds_step ht) (queued_step ht (fun i heq => hl ⟨i, heq⟩))

/-! ## The command dooms its targets -/

theorem foldl_sendUnbind (binds : List EsmeRef) (data : SmppEsmeData) (pdus : List SmppQueuedPdu) :
    (∀ id e', (binds.foldl sendUnbind (data, pdus)).1.sessions.find? id = some e' →
      ∃ e, data.sessions.find? id = some e ∧ e'.connected = e.connected) ∧
    (∀ q ∈ pdus, q ∈ (binds.foldl sendUnbind (data, pdus)).2) ∧
    ∀ id ∈ binds, (data.sessions.find? id).isSome →
      ∃ q ∈ (binds.foldl sendUnbind (data, pdus)).2, q.smppEsme = some id ∧ q.disconnect = true := by
  -- over the targets: a target that is registered gets its PDU, and the ones behind it
  -- find the sessions as connected as they were
  induction binds generalizing data pdus with
  | nil => exact ⟨fun _ e' he' => ⟨e', he', rfl⟩, fun _ hq => hq, fun _ hid => by cases hid⟩
  | cons esme binds ih =>
      cases hfind : data.sessions.find? esme with
      -- an account may hold a bind of a session that is gone
      | none =>
          have hskip : sendUnbind (data, pdus) esme = (data, pdus) := by
            simp [sendUnbind, hfind]
          rw [List.foldl_cons, hskip]
          rcases ih data pdus with ⟨hsessions, hpdus, hqueued⟩
          refine ⟨hsessions, hpdus, ?_⟩
          intro id hid hsome
          rcases List.mem_cons.mp hid with rfl | hlater
          · rw [hfind] at hsome
            cases hsome
          · exact hqueued id hlater hsome
      | some e =>
          have hkey : e.id = esme := Keyed.key_of_find? hfind
          have hsent : sendUnbind (data, pdus) esme =
              ({ data with sessions := data.sessions.put e.queuedNext }, pdus ++ [unbindPdu e]) := by
            simp [sendUnbind, hfind]
          rw [List.foldl_cons, hsent]
          rcases ih { data with sessions := data.sessions.put e.queuedNext }
            (pdus ++ [unbindPdu e]) with ⟨hsessions, hpdus, hqueued⟩
          have hput : ∀ id, id = esme ∧
              (data.sessions.put e.queuedNext).find? id = some e.queuedNext ∨
                (data.sessions.put e.queuedNext).find? id = data.sessions.find? id := by
            intro id
            by_cases hid : id = esme
            · exact Or.inl ⟨hid, Keyed.find?_put_self (hkey.trans hid.symm)⟩
            · exact Or.inr (Keyed.find?_put_of_ne (fun heq => hid (heq.trans hkey)))
          refine ⟨?_, fun q hq => hpdus q (List.mem_append_left _ hq), ?_⟩
          · intro id e' he'
            rcases hsessions id e' he' with ⟨e₁, he₁, hconnected⟩
            rcases hput id with ⟨rfl, hself⟩ | hother
            · rw [hself] at he₁
              cases he₁
              exact ⟨e, hfind, hconnected⟩
            · exact ⟨e₁, hother ▸ he₁, hconnected⟩
          · intro id hid hsome
            have hown : unbindPdu e ∈ pdus ++ [unbindPdu e] :=
              List.mem_append_right _ (List.mem_singleton_self _)
            rcases List.mem_cons.mp hid with rfl | hlater
            · exact ⟨unbindPdu e, hpdus _ hown, congrArg some hkey, rfl⟩
            · refine hqueued id hlater ?_
              rcases hput id with ⟨-, hself⟩ | hother
              · simp [hself]
              · rw [hother]
                exact hsome

theorem unbindCommand_eq {os : Octstr} {bindId : Option Octstr} {plain : Bool} (hos : os ≠ [])
    (hfound : (s.data.esmes.find? (octstrToLower os)).isSome) :
    s.unbindCommand (some os) bindId plain =
      { s with
        data := ((unbindTargets s.data os bindId).foldl sendUnbind (s.data, [])).1
        outboundQueue := s.outboundQueue ++
          ((unbindTargets s.data os bindId).foldl sendUnbind (s.data, [])).2 } := by
  have hlength : os.length ≠ 0 := fun heq => hos (List.length_eq_zero_iff.mp heq)
  simp [ServerState.unbindCommand, smppEsmeUnbindCommand, hlength, hfound]

/-- Whatever its result is, the command registers no session. -/
theorem succeeds_unbindCommand (systemId bindId : Option Octstr) (plain : Bool) :
    Succeeds s (s.unbindCommand systemId bindId plain) := by
  refine ⟨Nat.le_refl _, ?_⟩
  intro id e' he'
  refine Or.inl ?_
  unfold ServerState.unbindCommand smppEsmeUnbindCommand ServerState.find? at he'
  split at he'
  · exact ⟨e', he', fun hc => hc⟩
  · split at he'
    · exact ⟨e', he', fun hc => hc⟩
    · split at he'
      · rcases (foldl_sendUnbind _ s.data []).1 id e' he' with ⟨e, he, hconnected⟩
        exact ⟨e, he, fun hc => hconnected ▸ hc⟩
      · exact ⟨e', he', fun hc => hc⟩

theorem queued_unbindCommand (systemId bindId : Option Octstr) (plain : Bool) :
    ∀ q ∈ s.outboundQueue, q ∈ (s.unbindCommand systemId bindId plain).outboundQueue :=
  fun _ hq => List.mem_append_left _ hq

theorem doomed_unbindCommand {os : Octstr} {bindId : Option Octstr} {plain : Bool} (hos : os ≠ [])
    (hid : id ∈ unbindTargets s.data os bindId) (hknown : id < s.esmeCounter) :
    Doomed (s.unbindCommand (some os) bindId plain) id := by
  have hfound : (s.data.esmes.find? (octstrToLower os)).isSome := by
    apply isSome_of_mem_bindsOf (r := id)
    unfold unbindTargets at hid
    -- one bind is asked for by its number, or all of them
    split at hid
    · exact hid
    · split at hid
      · exact hid
      · exact List.mem_of_mem_filter (List.mem_of_mem_take hid)
  rw [unbindCommand_eq hos hfound]
  rcases foldl_sendUnbind (unbindTargets s.data os bindId) s.data [] with
    ⟨hsessions, -, hqueued⟩
  refine ⟨hknown, ?_⟩
  intro e' he' _
  rcases hsessions id e' he' with ⟨e, he, -⟩
  rcases hqueued id hid (by simp [he]) with ⟨q, hq, howner, hdisconnect⟩
  exact ⟨q, List.mem_append_right _ hq, howner, hdisconnect⟩

/-! ## Runs -/

variable {smppServer : SmppServer} {ids : Fin n → Option Octstr} {ls ls' : List (AdminLabel n)}

theorem succeeds_adminStep {l : AdminLabel n} (h : adminStep s l = some t) : Succeeds s t := by
  cases l with
  | server l => exact succeeds_step h
  | unbind systemId bindId plain =>
      simp only [adminStep] at h
      split at h
      · cases h
      · cases h
        exact succeeds_unbindCommand systemId bindId plain

theorem doomed_adminStep {l : AdminLabel n} (hdoomed : Doomed s id) (h : adminStep s l = some t) :
    Doomed t id := by
  cases l with
  | server l => exact doomed_step hdoomed h
  | unbind systemId bindId plain =>
      have hsucceeds := succeeds_adminStep h
      simp only [adminStep] at h
      split at h
      · cases h
      · cases h
        exact hdoomed.of_succeeds hsucceeds (queued_unbindCommand systemId bindId plain)

/-- The listener has given out every id that is in use. -/
theorem known_run (h : Run adminStep anyStep (serverInit smppServer ids) ls s)
    (hfind : s.find? id = some e) : id < s.esmeCounter := by
  have hinv := h.invariant (fun s => ∀ id e, s.find? id = some e → id < s.esmeCounter)
    (fun s l t hs _ hstep id e' he' => by
      have hsucceeds := succeeds_adminStep hstep
      rcases hsucceeds.sessions id e' he' with ⟨e, he, -⟩ | ⟨-, hlt⟩
      · exact Nat.lt_of_lt_of_le (hs id e he) hsucceeds.esmeCounter
      · exact hlt)
    (by simp [serverInit, ServerState.find?, smppEsmeInit])
  exact hinv id e hfind

/-- Once the outbound threads have no PDU left for a session that the command was for, its connection
is closed, and it stays closed. -/
theorem unbind_command_disconnects
    (h : Run adminStep anyStep (serverInit smppServer ids) ls s) {os : Octstr} (hos : os ≠ [])
    {bindId : Option Octstr} {plain : Bool} (hid : id ∈ unbindTargets s.data os bindId)
    (hfind : s.find? id = some e)
    (hcommand : adminStep s (.unbind (some os) bindId plain) = some s')
    (hrun : Run adminStep anyStep s' ls' t)
    (hwritten : ∀ q ∈ t.outboundQueue, q.smppEsme ≠ some id) (hfind' : t.find? id = some e') :
    e'.connected = false := by
  have hcalled : Doomed s' id := by
    simp only [adminStep] at hcommand
    split at hcommand
    · cases hcommand
    · cases hcommand
      exact doomed_unbindCommand hos hid (known_run h hfind)
  have hdoomed : Doomed t id := hrun.invariant (fun s => Doomed s id)
    (fun _ _ _ hs _ hstep => doomed_adminStep hs hstep) hcalled
  -- an open connection would have a PDU in the queue, and there is none
  cases hconnected : e'.connected with
  | false => rfl
  | true =>
      rcases hdoomed.queued e' hfind' hconnected with ⟨q, hq, howner, -⟩
      exact absurd howner (hwritten q hq)

/-- A client binds, and its response is written. -/
def sampleServed : List (AdminLabel 0) :=
  [.server .accept, .server (.receive 0 (.bind (sampleBind (octstrImm "test")))),
    .server (.bindCheck 0 false (some { maxBinds := 0 })), .server (.bindFinish 0),
    .server (.outbound 0)]

theorem unbind_command_disconnects_sample :
    ∃ s s' t e, Run adminStep anyStep (serverInit sampleSettings (fun _ => none)) sampleServed s ∧
      adminStep s (.unbind (some (octstrImm "Test")) none true) = some s' ∧
      Run adminStep anyStep s' [.server (.outbound 0)] t ∧ t.find? 0 = some e ∧
      e.connected = false := by
  have hexec : (execute adminStep anyStep (serverInit sampleSettings (fun _ => none))
      sampleServed).any (fun s =>
        decide (0 ∈ unbindTargets s.data (octstrImm "Test") none) && (s.find? 0).isSome &&
          (adminStep s (.unbind (some (octstrImm "Test")) none true)).any (fun s' =>
            (execute adminStep anyStep s' [.server (.outbound 0)]).any (fun t =>
              t.outboundQueue.isEmpty && (t.find? 0).isSome))) = true := by
    decide +kernel
  rcases exists_run_of_execute hexec with ⟨s, hrun, hchecked⟩
  simp only [Bool.and_eq_true, decide_eq_true_iff] at hchecked
  rcases hchecked with ⟨⟨hid, hsome⟩, hrest⟩
  rcases Option.isSome_iff_exists.mp hsome with ⟨e, hfind⟩
  rcases (Option.any_eq_true _ _).mp hrest with ⟨s', hcommand, hexec'⟩
  rcases exists_run_of_execute hexec' with ⟨t, hrun', hchecked'⟩
  rw [Bool.and_eq_true, List.isEmpty_iff] at hchecked'
  rcases Option.isSome_iff_exists.mp hchecked'.2 with ⟨e', hfind'⟩
  refine ⟨s, s', t, e', hrun, hcommand, hrun', hfind', ?_⟩
  refine unbind_command_disconnects hrun (by decide) hid hfind hcommand hrun' ?_ hfind'
  rw [hchecked'.1]
  exact fun _ hq => by cases hq

end Sessions
end Ksmppd
