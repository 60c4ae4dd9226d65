import Ksmppd.CallbackOutcome
import Ksmppd.Sessions.Depth
import Ksmppd.Sessions.Lists

/-!
# Whereabouts — no session is lost

The listener holds a session until it is bound; after that, or once its connection is closed, only
the binds of an account or the cleanup queue lead to it.  A session that stood in none of them could
never be destroyed.
-/

namespace Ksmppd
namespace Sessions

open Lib
open Submit (SmKind Session SubmitCall Keeps ResultKeeps)

variable {n : Nat} {s t u : ServerState n} {e e' d : SmppEsme} {id esme : EsmeRef}
  {session : Session} {calls : List SubmitCall} {kind : SmKind} {inserted : Bool}

/-- The cleanup thread can come to the session. -/
def Listed (s : ServerState n) (id : EsmeRef) : Prop :=
  id ∈ boundSessions s.data ∨ id ∈ s.cleanupQueue

structure Whereabouts (s : ServerState n) : Prop where
  found : ∀ id e, s.find? id = some e →
    (e.connected = true ∧ e.authenticated = false) ∨ Listed s id
  /-- Only a session that is bound has open acks, and they are its own. -/
  acks : ∀ id e, s.find? id = some e → ∀ q ∈ e.openAcks.entries,
    q.smppEsme = some id ∧ e.authenticated = true

/-- Only a session that is bound is sent a PDU that is to be acknowledged, and only such a session
is disconnected for an ack that never came. -/
def AcksBound (s : ServerState n) : DepthLabel n → Prop
  | .server (.addOutbound esme q) =>
      q.callback.isSome = true → ∀ e ∈ s.find? esme, e.authenticated = true
  | .server (.disconnect esme) => ∀ e ∈ s.find? esme, e.authenticated = true
  | _ => True

instance (s : ServerState n) : (l : DepthLabel n) → Decidable (AcksBound s l)
  | .server (.addOutbound esme q) =>
      inferInstanceAs (Decidable (q.callback.isSome = true →
        ∀ e ∈ s.find? esme, e.authenticated = true))
  | .server (.disconnect esme) =>
      inferInstanceAs (Decidable (∀ e ∈ s.find? esme, e.authenticated = true))
  | .server .accept | .server (.receive _ _) | .server (.hangUp _) | .server (.inbound _ _ _ _ _)
  | .server (.bindCheck _ _ _) | .server (.bindFinish _) | .server (.routingDone _ _ _ _)
  | .server (.outbound _) | .server (.bearerbox _) | .server .passBegin | .server .passEnd
  | .server (.sweep _ _) | .server (.destroy _) | .server (.tick _) | .server .shutdown
  | .expire _ _ _ | .outboundFreed _ _ => isTrue trivial

/-! ## What a step leaves of a session -/

/-- The session is as open and as bound as it was, and has no open ack it did not have; a connection
that is closed is that of a session the cleanup thread can come to. -/
structure Kept (s t : ServerState n) : Prop where
  sessions : ∀ id e', t.find? id = some e' → ∃ e, s.find? id = some e ∧
    e'.authenticated = e.authenticated ∧
    -- closed: then bound, or where the cleanup thread will find it
    (e'.connected = e.connected ∨ e.authenticated = true ∨ Listed t id) ∧
    ∀ q ∈ e'.openAcks.entries, q ∈ e.openAcks.entries
  listed : ∀ id e', t.find? id = some e' → Listed s id → Listed t id

theorem Kept.whereabouts (h : Kept s t) (hs : Whereabouts s) : Whereabouts t where
  found := by
    intro id e' he'
    rcases h.sessions id e' he' with ⟨e, he, hauth, hconnected, -⟩
    rcases hs.found id e he with ⟨hopen, hunbound⟩ | hlisted
    -- an unlisted session was open and unbound; closing it unbound would have listed it
    · rcases hconnected with hsame | hbound | hlisted
      · exact Or.inl ⟨hsame.trans hopen, hauth.trans hunbound⟩
      · rw [hunbound] at hbound
        cases hbound
      · exact Or.inr hlisted
    · exact Or.inr (h.listed id e' he' hlisted)
  acks := by
    intro id e' he' q hq
    rcases h.sessions id e' he' with ⟨e, he, hauth, -, hacks⟩
    rcases hs.acks id e he q (hacks q hq) with ⟨howner, hbound⟩
    exact ⟨howner, hauth.trans hbound⟩

theorem Kept.refl (s : ServerState n) : Kept s s where
  sessions := fun _ e he => ⟨e, he, rfl, Or.inl rfl, fun _ hq => hq⟩
  listed := fun _ _ _ h => h

theorem Kept.trans (h : Kept s t) (h' : Kept t u) : Kept s u where
  sessions := by
    intro id e'' he''
    rcases h'.sessions id e'' he'' with ⟨e', he', hauth', hconnected', hacks'⟩
    rcases h.sessions id e' he' with ⟨e, he, hauth, hconnected, hacks⟩
    refine ⟨e, he, hauth'.trans hauth, ?_, fun q hq => hacks q (hacks' q hq)⟩
    -- the second step decides, unless it left the connection alone
    rcases hconnected' with hsame | hbound | hlisted
    · rw [hsame]
      rcases hconnected with hsame' | hbound | hlisted
      · exact Or.inl hsame'
      · exact Or.inr (Or.inl hbound)
      · exact Or.inr (Or.inr (h'.listed id e'' he'' hlisted))
    · exact Or.inr (Or.inl (hauth ▸ hbound))
    · exact Or.inr (Or.inr hlisted)
  listed := by
    intro id e'' he'' hlisted
    rcases h'.sessions id e'' he'' with ⟨e', he', -, -, -⟩
    exact h'.listed id e'' he'' (h.listed id e' he' hlisted)

/-- A record is replaced, and the lists stay. -/
theorem kept_put (hfind : s.find? e.id = some d) (hauth : e.authenticated = d.authenticated)
    (hconnected : e.connected = d.connected ∨ d.authenticated = true)
    (hacks : ∀ q ∈ e.openAcks.entries, q ∈ d.openAcks.entries) : Kept s (s.put e) where
  sessions := by
    intro id e' he'
    rcases find?_put_cases he' with ⟨rfl, rfl⟩ | ⟨-, hold⟩
    · exact ⟨d, hfind, hauth, hconnected.imp id Or.inl, hacks⟩
    · exact ⟨e', hold, rfl, Or.inl rfl, fun _ hq => hq⟩
  listed := fun _ _ _ h => h

/-- The queues of PDUs do not matter. -/
theorem Kept.of_eq (h : Kept s t) (hdata : u.data = t.data)
    (hcleanup : u.cleanupQueue = t.cleanupQueue) : Kept s u where
  sessions := by
    intro id e' he'
    unfold ServerState.find? at he'
    rw [hdata] at he'
    unfold Listed
    rw [hdata, hcleanup]
    exact h.sessions id e' he'
  listed := by
    intro id e' he' hlisted
    unfold ServerState.find? at he'
    rw [hdata] at he'
    unfold Listed
    rw [hdata, hcleanup]
    exact h.listed id e' he' hlisted

theorem Whereabouts.of_eq (h : Whereabouts t) (hdata : u.data = t.data)
    (hcleanup : u.cleanupQueue = t.cleanupQueue) : Whereabouts u :=
  ((Kept.refl t).of_eq hdata hcleanup).whereabouts h

/-! ## Calls of the handlers -/

theorem listed_of_accounts {data : SmppEsmeData} (hdata : t.data = data)
    (haccounts : accountsOf data = accountsOf s.data) (hcleanup : t.cleanupQueue = s.cleanupQueue) :
    Listed t id ↔ Listed s id := by
  unfold Listed
  rw [hdata, hcleanup, boundSessions_of_accounts haccounts]

/-- A handler is given the record `e` of the stored session `d`. -/
theorem kept_make (hfind : s.find? e.id = some d) (hauth : e.authenticated = d.authenticated)
    (hconnected : e.connected = d.connected)
    (hacks : ∀ q ∈ e.openAcks.entries, q ∈ d.openAcks.entries)
    (hkeeps : Keeps (sessionOf s.data e) session calls) : Kept s (s.make kind session calls) := by
  -- the calls count queued responses and routed requests, and nothing else of the session
  have hesme : session.esme = { e with
      outboundQueued := e.outboundQueued + (Submit.responsesOf calls).length
      pendingRouting := e.pendingRouting + (Submit.routesOf calls).length
      mtCounter := session.esme.mtCounter
      errorCounter := session.esme.errorCounter } := hkeeps.esme
  have hput : Kept s (s.put session.esme) := by
    rw [hesme]
    exact kept_put (d := d) hfind hauth (Or.inl hconnected) hacks
  have haccounts : accountsOf (s.make kind session calls).data = accountsOf s.data :=
    accountsOf_putSession hkeeps.account
  have hlisted : ∀ id, Listed (s.make kind session calls) id ↔ Listed s id :=
    fun id => listed_of_accounts rfl haccounts rfl
  refine ⟨?_, fun id e' _ h => (hlisted id).mpr h⟩
  intro id e' he'
  rcases hput.sessions id e' he' with ⟨e₁, he₁, hauth₁, hconnected₁, hacks₁⟩
  exact ⟨e₁, he₁, hauth₁, hconnected₁.imp_right (Or.imp_right (hlisted id).mpr), hacks₁⟩

/-- A callback has the record as it is stored, and what the bearerbox threads hold is no list of
sessions. -/
theorem outlasts_kept (s₀ : ServerState n) : OutlastsCallbacks (Kept s₀) where
  bearerbox := fun _ _ h => h.of_eq rfl rfl
  callback := fun _ _ _ e _ session calls h howner hfind hresult =>
    h.trans (kept_make (d := e) hfind rfl rfl (fun _ hq => hq)
      (Submit.resultKeeps_callbackOf howner _ session calls hresult))

/-- The first calls of a handler are made with a record that is not stored yet. -/
theorem kept_finish {r : Submit.Result} (hfind : s.find? e.id = some d)
    (hauth : e.authenticated = d.authenticated)
    (hconnected : e.connected = d.connected)
    (hacks : ∀ q ∈ e.openAcks.entries, q ∈ d.openAcks.entries)
    (hkeeps : ResultKeeps (sessionOf s.data e) r) (ht : s.finish kind inserted r = some t) :
    Kept s t := by
  refine (outlasts_kept s).finish ?_ ht
  intro session calls hr
  exact kept_make hfind hauth hconnected hacks (hkeeps session calls hr)

/-! ## Connections that are closed -/

/-- The session a call of a callback disconnects. -/
def disconnects? : Call → Option EsmeRef
  | .esmeDisconnect esme => some esme
  | _ => none

/-- None of these calls disconnects a session other than that of the PDU. -/
def DisconnectsOwn (q : SmppQueuedPdu) (cs : List Call) : Prop :=
  ∀ c ∈ cs, ∀ esme, disconnects? c = some esme → q.smppEsme = some esme

section Callbacks

variable {smppServer : SmppServer} {link : BearerboxLink} {q : SmppQueuedPdu} {status : Int}
  {cs cs' : List Call}

theorem disconnectsOwn_nil : DisconnectsOwn q [] := by
  intro c hc
  cases hc

theorem DisconnectsOwn.append (h : DisconnectsOwn q cs) (h' : DisconnectsOwn q cs') :
    DisconnectsOwn q (cs ++ cs') := by
  intro c hc
  rcases List.mem_append.mp hc with hc | hc
  · exact h c hc
  · exact h' c hc

theorem disconnectsOwn_countDelivery (h : countDelivery q = some cs) : DisconnectsOwn q cs := by
  unfold countDelivery at h
  grind [DisconnectsOwn, disconnects?]

theorem disconnectsOwn_acknowledge
    (h : smppBearerboxAcknowledge link q.bearerbox q.bearerboxId status = some cs) :
    DisconnectsOwn q cs := by
  unfold smppBearerboxAcknowledge at h
  grind [DisconnectsOwn, disconnects?]

theorem disconnectsOwn_settleOrigin (h : settleOrigin link q = some cs) : DisconnectsOwn q cs := by
  unfold settleOrigin at h
  split at h
  · exact disconnectsOwn_acknowledge h
  · grind [DisconnectsOwn, disconnects?, smppDatabaseRemove]

theorem disconnectsOwn_disconnectEsme (h : disconnectEsme q = some cs) : DisconnectsOwn q cs := by
  unfold disconnectEsme at h
  grind [DisconnectsOwn, disconnects?]

theorem disconnectsOwn_reaction (h : deliverSmRespReaction smppServer link q status = some cs) :
    DisconnectsOwn q cs := by
  -- either the origin is settled at the end, or it was refused and perhaps the session is ended
  rcases deliverSmRespReaction_cases h with
    ⟨-, counted, settled, rfl, hcounted, hsettled⟩ | ⟨acked, ended, rfl, hacked, hended⟩
  · refine DisconnectsOwn.append ?_ (disconnectsOwn_settleOrigin hsettled)
    rcases hcounted with rfl | hcounted
    · exact disconnectsOwn_nil
    · exact disconnectsOwn_countDelivery hcounted
  · refine DisconnectsOwn.append ?_ ?_
    · rcases hacked with rfl | hacked
      · exact disconnectsOwn_nil
      · exact disconnectsOwn_acknowledge hacked
    · rcases hended with rfl | hended
      · exact disconnectsOwn_nil
      · exact disconnectsOwn_disconnectEsme hended

/-- The callback of an open ack disconnects no session but its own. -/
theorem disconnectsOwn_runCallback {cb : Callback}
    (h : runCallback smppServer link q status cb = some cs) : DisconnectsOwn q cs := by
  cases cb with
  | deliverSmResp =>
      rcases Option.map_eq_some_iff.mp h with ⟨reaction, hreaction, rfl⟩
      -- the destruction of the PDU follows
      refine (disconnectsOwn_reaction hreaction).append ?_
      simp [DisconnectsOwn, disconnects?]
  | dbQueue =>
      -- a stored row is removed, from whichever store it came
      have hsource : disconnects? (removeSource q) = none := by
        unfold removeSource
        split <;> rfl
      change smppEsmeDbQueueCallback q status = some cs at h
      unfold smppEsmeDbQueueCallback at h
      split at h
      · dsimp only at h
        split at h
        · rcases Option.map_eq_some_iff.mp h with ⟨counted, hcounted, rfl⟩
          refine DisconnectsOwn.append ?_ ?_
          · split at hcounted
            · exact disconnectsOwn_countDelivery hcounted
            · cases hcounted
              exact disconnectsOwn_nil
          · grind [DisconnectsOwn, disconnects?]
        · cases h
          grind [DisconnectsOwn, disconnects?]
      · cases h
  | mysqlQueuedPdu =>
      change smppDatabaseMysqlQueuedPduHandler q status = some cs at h
      unfold smppDatabaseMysqlQueuedPduHandler at h
      grind [DisconnectsOwn, disconnects?]
  | redisQueuedPdu =>
      change smppDatabaseRedisQueuedPduHandler q status = some cs at h
      unfold smppDatabaseRedisQueuedPduHandler at h
      grind [DisconnectsOwn, disconnects?]

end Callbacks

/-- A bound session stays in its account when its connection is closed. -/
theorem kept_stopListening (hfind : s.find? e.id = some d)
    (hauth : e.authenticated = d.authenticated) (hbound : d.authenticated = true)
    (hacks : ∀ q ∈ e.openAcks.entries, q ∈ d.openAcks.entries) : Kept s (s.stopListening e) :=
  kept_put (e := { e with connected := false }) hfind hauth (Or.inr hbound) hacks

theorem mem_gwlistAppendUnique {l : List EsmeRef} {x : EsmeRef} :
    x ∈ gwlistAppendUnique l id ↔ x ∈ l ∨ x = id := by
  unfold gwlistAppendUnique
  split
  · rename_i hmem
    exact ⟨Or.inl, fun h => h.elim (fun hx => hx) (fun heq => heq ▸ hmem)⟩
  · simp

/-- And one that is not bound is queued for cleanup. -/
theorem kept_cleanup (hfind : s.find? e.id = some d) (hauth : e.authenticated = d.authenticated)
    (hacks : ∀ q ∈ e.openAcks.entries, q ∈ d.openAcks.entries) : Kept s (s.cleanup e) where
  sessions := by
    intro id e' he'
    rcases find?_put_cases he' with ⟨rfl, rfl⟩ | ⟨-, hold⟩
    -- closed, and in the cleanup queue from now on
    · refine ⟨d, hfind, hauth, Or.inr (Or.inr (Or.inr ?_)), hacks⟩
      exact mem_gwlistAppendUnique.mpr (Or.inr rfl)
    · exact ⟨e', hold, rfl, Or.inl rfl, fun _ hq => hq⟩
  listed := by
    intro id e' _ hlisted
    exact hlisted.imp_right (fun hmem => mem_gwlistAppendUnique.mpr (Or.inl hmem))

theorem kept_hangUp (hfind : s.find? e.id = some d) (hauth : e.authenticated = d.authenticated)
    (hacks : ∀ q ∈ e.openAcks.entries, q ∈ d.openAcks.entries) : Kept s (s.hangUp e) := by
  unfold ServerState.hangUp
  split
  · rename_i hbound
    exact kept_stopListening hfind hauth (hauth ▸ hbound) hacks
  · exact kept_cleanup hfind hauth hacks

theorem kept_settleAll {cs : List Call}
    (h : ∀ c ∈ cs, ∀ esme, disconnects? c = some esme → ∀ e, s.find? esme = some e →
      e.authenticated = true) : Kept s (cs.foldl ServerState.settle s) := by
  induction cs generalizing s with
  | nil => exact Kept.refl s
  | cons c cs ih =>
      -- closing one connection leaves the others bound as they were
      have hone : Kept s (s.settle c) := by
        cases c with
        | esmeDisconnect esme =>
            cases hfind : s.find? esme with
            | none => simpa [ServerState.settle, hfind] using Kept.refl s
            | some e =>
                have hbound := h _ (List.mem_cons_self ..) esme rfl e hfind
                simpa [ServerState.settle, hfind] using
                  kept_stopListening (find?_id hfind) rfl hbound (fun _ hq => hq)
        | _ => exact Kept.refl s
      refine hone.trans (ih ?_)
      intro c' hc' esme hesme e' he'
      rcases hone.sessions esme e' he' with ⟨e, he, hauth, -, -⟩
      exact hauth.trans (h c' (List.mem_cons_of_mem _ hc') esme hesme e he)

/-! ## Steps -/

/-- A response of the client takes an open ack out and runs its callback; any other PDU is handled
with the open acks as they are. -/
theorem handlePdu_cases {smppServer : SmppServer} {link : BearerboxLink} {kannel : Kannel}
    {env : Submit.Env} {s₀ : Session} {pdu : SmppPdu} {handled : Handled}
    (h : handlePdu smppServer link kannel env s₀ pdu = some handled) :
    (handled.settled = [] ∧ Keeps s₀ handled.session handled.calls) ∨
      ∃ sequenceNumber status,
        handled.session = { s₀ with
          esme := (smppQueuesProcessAck smppServer link s₀.esme sequenceNumber status).1 } ∧
        handled.calls = [] ∧
        (smppQueuesProcessAck smppServer link s₀.esme sequenceNumber status).2 =
          some handled.settled := by
  have hsubmit : ∀ {r : Submit.Result}, ResultKeeps s₀ r → ofSubmit r = some handled →
      handled.settled = [] ∧ Keeps s₀ handled.session handled.calls := by
    intro r hr hsome
    rcases Option.map_eq_some_iff.mp hsome with ⟨⟨session, calls⟩, hresult, rfl⟩
    exact ⟨rfl, hr session calls hresult⟩
  unfold handlePdu at h
  split at h
  · cases h
    exact Or.inl ⟨rfl, Submit.keeps_respond rfl⟩
  · cases h
    exact Or.inl ⟨rfl, Submit.keeps_respond rfl⟩
  · exact Or.inl (hsubmit (Submit.resultKeeps_handleSm _) h)
  · exact Or.inl (hsubmit (Submit.resultKeeps_handleSm _) h)
  · rename_i sequenceNumber status
    rcases Option.bind_eq_some_iff.mp h with ⟨s₁, hload, hacked⟩
    rcases Option.map_eq_some_iff.mp hload with ⟨a, -, rfl⟩
    rcases Option.map_eq_some_iff.mp hacked with ⟨settled, hsettled, rfl⟩
    exact Or.inr ⟨sequenceNumber, status, rfl, rfl, hsettled⟩
  · cases h
    exact Or.inl ⟨rfl, Submit.keeps_nil _⟩

/-- Whoever is disconnected for an ack had the open ack. -/
theorem processAck_disconnects {smppServer : SmppServer} {link : BearerboxLink}
    {sequenceNumber status : Int} {cs : List Call}
    (h : (smppQueuesProcessAck smppServer link e sequenceNumber status).2 = some cs) :
    ∀ c ∈ cs, ∀ esme, disconnects? c = some esme →
      ∃ q ∈ e.openAcks.entries, q.smppEsme = some esme := by
  unfold smppQueuesProcessAck at h
  split at h
  · cases h
    intro c hc
    cases hc
  · rename_i q hfind
    dsimp only at h
    split at h
    · cases h
      intro c hc
      cases hc
    · intro c hc esme hesme
      exact ⟨q, (Keyed.find?_eq_some_iff.mp hfind).1,
        disconnectsOwn_runCallback h c hc esme hesme⟩

theorem processAck_esme {smppServer : SmppServer} {link : BearerboxLink}
    {sequenceNumber status : Int} :
    ∃ openAcks, (smppQueuesProcessAck smppServer link e sequenceNumber status).1 =
      { e with openAcks := openAcks } ∧ ∀ q ∈ openAcks.entries, q ∈ e.openAcks.entries := by
  unfold smppQueuesProcessAck
  split
  · exact ⟨e.openAcks, rfl, fun _ hq => hq⟩
  · exact ⟨_, rfl, fun _ hq => (Keyed.mem_remove.mp hq).1⟩

/-- Who is disconnected for open acks of a session is that session, and it is bound. -/
theorem kept_settleAcks {cs : List Call} (hs : Whereabouts s) (hfind : s.find? esme = some e)
    (hkept : Kept s u)
    (h : ∀ c ∈ cs, ∀ esme', disconnects? c = some esme' →
      ∃ q ∈ e.openAcks.entries, q.smppEsme = some esme') :
    Kept s (cs.foldl ServerState.settle u) := by
  refine hkept.trans (kept_settleAll ?_)
  intro c hc esme' hesme' e' he'
  rcases h c hc esme' hesme' with ⟨q, hq, howner⟩
  rcases hs.acks esme e hfind q hq with ⟨howner', hbound⟩
  have hid : esme' = esme := Option.some.inj (howner.symm.trans howner')
  -- `u` has the session as bound as it was
  rcases hkept.sessions esme' e' he' with ⟨e₁, he₁, hauth, -, -⟩
  rw [hid, hfind] at he₁
  cases he₁
  exact hauth.trans hbound

theorem kept_inbound {i : Nat} {link : BearerboxLink} {kannel : Kannel} {env : Submit.Env}
    {pdu : SmppPdu} (hs : Whereabouts s)
    (ht : s.inbound i link kannel env inserted esme pdu = some t) : Kept s t := by
  rcases Option.bind_eq_some_iff.mp ht with ⟨e, hfind, hrest⟩
  rcases Option.bind_eq_some_iff.mp hrest with ⟨handled, hhandle, hfinish⟩
  rcases Option.map_eq_some_iff.mp hfinish with ⟨s', hs', rfl⟩
  let u : ServerState n := { s with inboundQueue := s.inboundQueue.eraseIdx i }
  have hu : Kept s u := (Kept.refl s).of_eq rfl rfl
  rcases handlePdu_cases hhandle with
    ⟨hsettled, hkeeps⟩ | ⟨number, status, hsession, hcalls, hsettled⟩
  · have hfinished : Kept u s' := by
      refine kept_finish (e := consumed s.now e) (d := e) (find?_id hfind) rfl rfl
        (fun _ hq => hq) ?_ hs'
      intro session calls hr
      cases hr
      exact hkeeps
    rw [hsettled]
    exact hu.trans hfinished
  · rcases @processAck_esme (consumed s.now e) s.smppServer link number status with
      ⟨openAcks, hesme, hacks⟩
    -- the ack left the table of open acks; the calls of its callback come last
    have hfinished : Kept u s' := by
      refine kept_finish (e := { consumed s.now e with openAcks := openAcks }) (d := e)
        (find?_id hfind) rfl rfl hacks ?_ hs'
      intro session calls hr
      cases hr
      rw [hcalls, hsession]
      change Keeps _ { sessionOf s.data (consumed s.now e) with
        esme := (smppQueuesProcessAck s.smppServer link (consumed s.now e) number status).1 } []
      rw [hesme]
      exact Submit.keeps_nil _
    exact kept_settleAcks hs hfind (hu.trans hfinished)
      (processAck_disconnects (e := consumed s.now e) hsettled)

theorem kept_routingDone {i : Nat} {routeStatus : Submit.SmppRouteStatus} {env : Submit.Env}
    (ht : step s (.routingDone i routeStatus env inserted) = some t) : Kept s t := by
  cases hget : s.routing[i]? with
  | none => simp [step, hget] at ht
  | some r =>
      rcases r with ⟨kind, q⟩
      simp only [step, hget] at ht
      rcases Option.bind_eq_some_iff.mp ht with ⟨esme, hq, hrest⟩
      rcases Option.bind_eq_some_iff.mp hrest with ⟨e, hfind, hfinish⟩
      let u : ServerState n := { s with routing := s.routing.eraseIdx i }
      have hu : Kept s u := (Kept.refl s).of_eq rfl rfl
      have howner : q.smppEsme = some (sessionOf s.data e).esme.id :=
        hq.trans (congrArg some (id_of_find? hfind).symm)
      refine hu.trans (kept_finish (e := (sessionOf s.data e).routingDone.esme) (d := e)
        (find?_id hfind) rfl rfl (fun _ hq => hq) ?_ hfinish)
      exact Submit.resultKeeps_routingDoneOf howner routeStatus

/-- An outbound thread takes a PDU, whatever its memory holds by then. -/
theorem kept_outboundAs {i : Nat} {q : SmppQueuedPdu} (ht : s.outboundAs i q = some t) :
    Kept s t := by
  rcases Option.bind_eq_some_iff.mp ht with ⟨esme, -, hrest⟩
  rcases Option.map_eq_some_iff.mp hrest with ⟨e, hfind, rfl⟩
  let u : ServerState n := { s with outboundQueue := s.outboundQueue.eraseIdx i }
  have hu : Kept s u := (Kept.refl s).of_eq rfl rfl
  have hfind' : u.find? (dequeued s.now e).id = some e := find?_id hfind
  dsimp only
  split
  -- the response that was written asks for the connection to be closed
  · exact hu.trans (kept_hangUp (d := e) hfind' rfl (fun _ hq => hq))
  · exact hu.trans (kept_put (d := e) hfind' rfl (Or.inl rfl) (fun _ hq => hq))

theorem kept_expireAck {link : BearerboxLink} {id : Option Int} (hs : Whereabouts s)
    (ht : s.expireAck link esme id = some t) : Kept s t := by
  unfold ServerState.expireAck at ht
  split at ht
  · rcases Option.bind_eq_some_iff.mp ht with ⟨e, hfind, hrest⟩
    rcases Option.bind_eq_some_iff.mp hrest with ⟨q, hq, hrest⟩
    rcases Option.bind_eq_some_iff.mp hrest with ⟨cb, -, hrest⟩
    split at hrest
    · rcases Option.map_eq_some_iff.mp hrest with ⟨calls, hcalls, rfl⟩
      have hput : Kept s (s.put { e with openAcks := e.openAcks.remove id }) :=
        kept_put (d := e) (find?_id hfind) rfl (Or.inl rfl)
          (fun _ hq => (Keyed.mem_remove.mp hq).1)
      refine kept_settleAcks hs hfind hput ?_
      intro c hc esme' hesme'
      exact ⟨q, (Keyed.find?_eq_some_iff.mp hq).1, disconnectsOwn_runCallback hcalls c hc esme' hesme'⟩
    · cases hrest
  · cases ht

theorem kept_sweep {key : Octstr} {j : Nat} (ht : step s (.sweep key j) = some t) : Kept s t := by
  rcases sweep_cases ht with ⟨g, esme, e, -, hg, hj, hfind, -, rfl⟩
  let u : ServerState n :=
    { s with data := { s.data with esmes := s.data.esmes.put (withoutBind g j) } }
  -- the bind goes from the account to the cleanup queue
  have hbound : esme ::ₘ boundSessions u.data = boundSessions s.data :=
    boundSessions_withoutBind hg hj
  have hclean : Kept u (u.cleanup e) :=
    kept_cleanup (d := e) (find?_id (s := u) hfind) rfl (fun _ hq => hq)
  have hwaiting : esme ∈ (u.cleanup e).cleanupQueue :=
    mem_gwlistAppendUnique.mpr (Or.inr (id_of_find? hfind).symm)
  refine ⟨hclean.sessions, ?_⟩
  intro id e' he' hlisted
  rcases hlisted with hmem | hmem
  · -- it was that bind, which waits for cleanup now, or it is bound still
    rw [← hbound] at hmem
    rcases Multiset.mem_cons.mp hmem with rfl | hmem
    · exact Or.inr hwaiting
    · exact hclean.listed id e' he' (Or.inl hmem)
  · exact hclean.listed id e' he' (Or.inr hmem)

theorem kept_destroy (ht : step s (.destroy esme) = some t) : Kept s t := by
  rcases destroy_cases ht with ⟨e, -, -, -, -, rfl⟩
  -- the entry of the session itself is erased from the cleanup queue, the others stay
  have hsessions : ∀ id e', (s.data.sessions.remove esme).find? id = some e' →
      id ≠ esme ∧ s.find? id = some e' := by
    intro id e' he'
    exact Keyed.find?_of_remove he'
  refine ⟨?_, ?_⟩
  · intro id e' he'
    exact ⟨e', (hsessions id e' he').2, rfl, Or.inl rfl, fun _ hq => hq⟩
  · intro id e' he' hlisted
    exact hlisted.imp_right (fun hmem => (List.mem_erase_of_ne (hsessions id e' he').1).mpr hmem)

/-- At shutdown every session the cleanup thread could come to is destroyed. -/
theorem kept_shutdown (ht : step s .shutdown = some t) : Kept s t := by
  simp only [step] at ht
  split at ht
  · cases ht
  · cases ht
    refine ⟨?_, ?_⟩
    · intro id e' he'
      exact ⟨e', (Keyed.find?_of_foldl_remove he').2, rfl, Or.inl rfl, fun _ hq => hq⟩
    · intro id e' he' hlisted
      have hnot := (Keyed.find?_of_foldl_remove he').1
      refine absurd ?_ hnot
      rw [List.mem_append]
      refine hlisted.imp_left (fun hmem => ?_)
      rw [← coe_allBinds] at hmem
      exact hmem

theorem whereabouts_accept (hs : Whereabouts s) (ht : step s .accept = some t) :
    Whereabouts t := by
  cases ht
  refine ⟨?_, ?_⟩
  · intro id e' he'
    rcases find?_put_cases he' with ⟨rfl, rfl⟩ | ⟨-, hold⟩
    -- a new connection is open and unbound
    · exact Or.inl ⟨rfl, rfl⟩
    · exact hs.found id e' hold
  · intro id e' he' q hq
    rcases find?_put_cases he' with ⟨rfl, rfl⟩ | ⟨-, hold⟩
    · cases hq
    · exact hs.acks id e' hold q hq

theorem whereabouts_addOutbound {q : SmppQueuedPdu} (hs : Whereabouts s)
    (hok : AcksBound s (.server (.addOutbound esme q)))
    (ht : step s (.addOutbound esme q) = some t) : Whereabouts t := by
  simp only [step] at ht
  split at ht
  · rename_i howner
    rcases Option.map_eq_some_iff.mp ht with ⟨e, hfind, rfl⟩
    have hid := id_of_find? hfind
    refine ⟨?_, ?_⟩
    · intro id e' he'
      rcases find?_put_cases he' with ⟨rfl, rfl⟩ | ⟨-, hold⟩
      -- numbering the PDU changes neither
      · exact hs.found _ e (find?_id hfind)
      · exact hs.found id e' hold
    · intro id e' he' q' hq'
      rcases find?_put_cases he' with ⟨rfl, rfl⟩ | ⟨-, hold⟩
      · -- an open ack of before, or that of the PDU
        have hold := hs.acks e.id e (find?_id hfind) q'
        simp only [numbered] at hq' ⊢
        split at hq'
        · rename_i hcallback
          rcases Keyed.mem_put.mp hq' with rfl | ⟨hmem, -⟩
          · exact ⟨howner.trans (congrArg some hid.symm), hok hcallback e hfind⟩
          · exact hold hmem
        · exact hold hq'
      · exact hs.acks id e' hold q' hq'
  · cases ht

theorem whereabouts_bindFinish {i : Nat} (hs : Whereabouts s)
    (ht : step s (.bindFinish i) = some t) : Whereabouts t := by
  rcases bindFinish_cases ht with ⟨b, e, data', q, -, hfind, hhandle, rfl⟩
  cases hresult : b.authResult with
  | none =>
      -- a refused bind marks the session and queues the response
      rw [hresult] at hhandle
      cases hhandle
      have hput : Kept s (s.put (queued { e with pendingDisconnect := true })) :=
        kept_put (d := e) (find?_id hfind) rfl (Or.inl rfl) (fun _ hq => hq)
      exact (hput.whereabouts hs).of_eq rfl rfl
  | some r =>
      rw [hresult] at hhandle
      have hbound := boundSessions_handleBind hhandle
      rcases handleBind_sessions hhandle with ⟨-, key, hsessions⟩
      have hcases : ∀ id e', data'.sessions.find? id = some e' →
          (id = e.id ∧ e' = queued (configureEsme r ((authenticate e b.pdu).setGlobal key))) ∨
            (id ≠ e.id ∧ s.find? id = some e') := by
        intro id e' he'
        rw [hsessions id] at he'
        exact find?_put_cases (s := s) he'
      -- an accepted bind adds the session to its account, once more or for the first time
      refine ⟨?_, ?_⟩
      · intro id e' he'
        rcases hcases id e' he' with ⟨rfl, -⟩ | ⟨-, hold⟩
        · exact Or.inr (Or.inl (hbound ▸ Multiset.mem_cons_self ..))
        · rcases hs.found id e' hold with hopen | hlisted
          · exact Or.inl hopen
          · exact Or.inr (hlisted.imp_left (fun hmem => hbound ▸ Multiset.mem_cons_of_mem hmem))
      · intro id e' he' q' hq'
        rcases hcases id e' he' with ⟨rfl, rfl⟩ | ⟨-, hold⟩
        · exact ⟨(hs.acks _ e (find?_id hfind) q' hq').1, rfl⟩
        · exact hs.acks id e' hold q' hq'

theorem whereabouts_step {l : Label n} (hs : Whereabouts s) (hok : AcksBound s (.server l))
    (ht : step s l = some t) : Whereabouts t := by
  cases l with
  | accept => exact whereabouts_accept hs ht
  | receive esme pdu =>
      rcases Option.map_eq_some_iff.mp ht with ⟨e, hfind, rfl⟩
      have hput : Kept s (s.put { e with inboundQueued := e.inboundQueued + 1 }) :=
        kept_put (d := e) (find?_id hfind) rfl (Or.inl rfl) (fun _ hq => hq)
      exact (hput.whereabouts hs).of_eq rfl rfl
  | hangUp esme =>
      rcases Option.map_eq_some_iff.mp ht with ⟨e, hfind, rfl⟩
      exact (kept_hangUp (find?_id hfind) rfl (fun _ hq => hq)).whereabouts hs
  | inbound i link kannel env inserted =>
      simp only [step] at ht
      split at ht
      · cases ht
      · split at ht
        · cases ht
        · exact (kept_inbound hs ht).whereabouts hs
        · cases ht
  | bindCheck i denied authResult =>
      rcases bindCheck_cases ht with ⟨esme, p, e, -, -, hfind, rfl⟩
      have hput : Kept s (s.put (consumed s.now e)) :=
        kept_put (d := e) (find?_id hfind) rfl (Or.inl rfl) (fun _ hq => hq)
      exact (hput.whereabouts hs).of_eq rfl rfl
  | bindFinish i => exact whereabouts_bindFinish hs ht
  | routingDone i routeStatus env inserted => exact (kept_routingDone ht).whereabouts hs
  | bearerbox l =>
      simp only [step] at ht
      split at ht
      · rcases Option.bind_eq_some_iff.mp ht with ⟨b, -, hb⟩
        exact ((outlasts_kept s).absorb (Kept.refl s) hb).whereabouts hs
      · cases ht
  | addOutbound esme q => exact whereabouts_addOutbound hs hok ht
  | outbound i =>
      rw [step_outbound_eq] at ht
      rcases Option.bind_eq_some_iff.mp ht with ⟨q, -, htaken⟩
      exact (kept_outboundAs htaken).whereabouts hs
  | disconnect esme =>
      rcases Option.map_eq_some_iff.mp ht with ⟨e, hfind, rfl⟩
      exact (kept_stopListening (find?_id hfind) rfl (hok e hfind)
        (fun _ hq => hq)).whereabouts hs
  | passBegin =>
      simp only [step] at ht
      split at ht
      · cases ht
      · cases ht
        exact hs.of_eq rfl rfl
  | passEnd =>
      simp only [step] at ht
      split at ht
      · cases ht
        exact hs.of_eq rfl rfl
      · cases ht
  | sweep key j => exact (kept_sweep ht).whereabouts hs
  | destroy esme => exact (kept_destroy ht).whereabouts hs
  | tick seconds =>
      cases ht
      exact hs.of_eq rfl rfl
  | shutdown => exact (kept_shutdown ht).whereabouts hs

/-! ## Runs -/

theorem whereabouts_nextServer {d : DepthState n} {l : DepthLabel n} (hs : Whereabouts d.server)
    (hok : AcksBound d.server l) (ht : nextServer d l = some t) : Whereabouts t := by
  cases l with
  | server l => exact whereabouts_step hs hok (step_of_nextServer ht)
  | expire esme id link => exact (kept_expireAck hs ht).whereabouts hs
  | outboundFreed i q =>
      simp only [nextServer] at ht
      split at ht
      · exact (kept_outboundAs ht).whereabouts hs
      · cases ht

end Sessions
end Ksmppd
