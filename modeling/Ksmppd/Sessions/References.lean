import Ksmppd.Lib.Transition
import Ksmppd.Sessions.Accounts
import Ksmppd.Sessions.Effects
import Ksmppd.Submit.Accepted

/-!
# References — what still points to a session

The counters of a session say how many entries of the two queues and of the router point to it.
The responses that wait in the bearerbox threads point to it as well, and no counter counts them.
-/

namespace Ksmppd
namespace Sessions

open Lib
open Submit (SmKind Session SubmitCall Keeps ResultKeeps Owned responsesOf routesOf)

variable {n : Nat} {s t : ServerState n} {e e' d : SmppEsme} {id esme : EsmeRef}
  {session : Session} {calls : List SubmitCall} {kind : SmKind} {inserted : Bool}

/-! ## References -/

/-- Where PDUs of a session are counted. -/
inductive Counter
  | inboundQueued
  | outboundQueued
  | pendingRouting
  deriving DecidableEq

/-- What the counters of a session say. -/
def counters (e : SmppEsme) : Counter → Nat
  | .inboundQueued => e.inboundQueued
  | .outboundQueued => e.outboundQueued
  | .pendingRouting => e.pendingRouting

/-- How many entries of the queues point to the session. -/
def references (s : ServerState n) (id : EsmeRef) : Counter → Nat
  | .inboundQueued => s.inboundQueue.countP (fun x => x.1 == id)
  | .outboundQueued => s.outboundQueue.countP (fun q => q.smppEsme == some id)
  | .pendingRouting => s.routing.countP (fun r => r.2.smppEsme == some id)

/-- The session a callback of the bearerbox will answer. -/
def Waiting.smppEsme : Waiting → Option EsmeRef
  | .response _ q => q.smppEsme
  | .requeueResult => none

/-- The messages the bearerbox threads have: in the queue, in the `open_acks` of a connection, and
in the hands of a writer. -/
def heldMessages (b : Bearerbox.SmppBearerboxState n Waiting) :
    List (Bearerbox.SmppBearerboxMsg Waiting) :=
  b.outboundQueue ++ (List.finRange n).flatMap (fun i =>
    (b.bearerboxes i).openAcks.entries ++ (b.bearerboxes i).writer.held)

/-- A message of the session waits in the bearerbox threads. -/
def AwaitsBearerbox (s : ServerState n) (esme : EsmeRef) : Prop :=
  ∃ m ∈ heldMessages s.bearerbox, m.context.smppEsme = some esme

/-- Nothing outstanding points to the session. -/
structure Unreferenced (s : ServerState n) (esme : EsmeRef) : Prop where
  inboundQueue : ∀ x ∈ s.inboundQueue, x.1 ≠ esme
  outboundQueue : ∀ q ∈ s.outboundQueue, q.smppEsme ≠ some esme
  routing : ∀ r ∈ s.routing, r.2.smppEsme ≠ some esme
  bearerbox : ∀ m ∈ heldMessages s.bearerbox, m.context.smppEsme ≠ some esme

/-! ## Counters that count -/

structure Counted (s : ServerState n) : Prop where
  counts : ∀ id e, s.find? id = some e → counters e = references s id
  sessions : ∀ id e, s.find? id = some e → id < s.esmeCounter
  fresh : ∀ id, s.esmeCounter ≤ id → references s id = 0

theorem counted_init (smppServer : SmppServer) (ids : Fin n → Option Octstr) :
    Counted (serverInit smppServer ids) where
  counts := by simp [ServerState.find?, serverInit, smppEsmeInit]
  sessions := by simp [ServerState.find?, serverInit, smppEsmeInit]
  fresh := by
    intro id _
    funext c
    cases c <;> rfl

/-- Sessions that are gone, or whose counters are as before. -/
theorem Counted.of_find (h : Counted s)
    (hfind : ∀ id e', t.find? id = some e' → ∃ e, s.find? id = some e ∧ counters e' = counters e)
    (hreferences : ∀ id, references t id = references s id)
    (hcounter : t.esmeCounter = s.esmeCounter) : Counted t where
  counts := by
    intro id e' he'
    rcases hfind id e' he' with ⟨e, he, hcounters⟩
    rw [hreferences id]
    exact hcounters.trans (h.counts id e he)
  sessions := by
    intro id e' he'
    rcases hfind id e' he' with ⟨e, he, -⟩
    rw [hcounter]
    exact h.sessions id e he
  fresh := by
    intro id hid
    rw [hreferences id]
    exact h.fresh id (hcounter ▸ hid)

/-- One session whose counters change with the queues. -/
theorem Counted.change (h : Counted s) (taken added : Counter → Nat)
    (hfind : s.find? e.id = some d) (hput : ∀ id, t.find? id = (s.put e).find? id)
    (hcounters : counters e + taken = counters d + added)
    (hreferences : ∀ id, references t id + (if id = e.id then taken else 0) =
      references s id + if id = e.id then added else 0)
    (hcounter : t.esmeCounter = s.esmeCounter) : Counted t := by
  have hother : ∀ id, id ≠ e.id → references t id = references s id := by
    intro id hne
    simpa [hne] using hreferences id
  -- its own counters follow its own entries; nothing else moves
  refine ⟨?_, ?_, ?_⟩
  · intro id e' he'
    rcases find?_put_cases (hput id ▸ he') with ⟨rfl, rfl⟩ | ⟨hne, hold⟩
    · have hself := hreferences e'.id
      rw [if_pos rfl, if_pos rfl, ← h.counts _ _ hfind, ← hcounters] at hself
      exact (add_right_cancel hself).symm
    · rw [hother id hne]
      exact h.counts id e' hold
  · intro id e' he'
    rw [hcounter]
    rcases find?_put_cases (hput id ▸ he') with ⟨rfl, rfl⟩ | ⟨-, hold⟩
    · exact h.sessions _ _ hfind
    · exact h.sessions id e' hold
  · -- an id that was not given out yet is not that of the session
    intro id hid
    rw [hcounter] at hid
    have hne : id ≠ e.id := by
      intro heq
      have hlt := h.sessions _ _ hfind
      rw [heq] at hid
      exact absurd hlt (Nat.not_lt.mpr hid)
    rw [hother id hne]
    exact h.fresh id hid

/-- The record of one session, its counters apart. -/
theorem Counted.put (h : Counted s) (hfind : s.find? e.id = some d)
    (hcounters : counters e = counters d) : Counted (s.put e) := by
  refine h.change 0 0 hfind (fun _ => rfl) ?_ (fun _ => rfl) rfl
  rw [hcounters]

/-! ## Calls of the handlers -/

theorem owned_responses (h : ∀ c ∈ calls, Owned esme c) :
    ∀ q ∈ responsesOf calls, q.smppEsme = some esme := by
  intro q hq
  rcases List.mem_filterMap.mp hq with ⟨c, hc, hsome⟩
  have howned := h c hc
  cases c with
  | addOutbound q' =>
      cases hsome
      exact howned
  | _ => cases hsome

theorem owned_routes (h : ∀ c ∈ calls, Owned esme c) :
    ∀ r ∈ routesOf calls, r.2.smppEsme = some esme := by
  intro r hr
  rcases List.mem_filterMap.mp hr with ⟨c, hc, hsome⟩
  have howned := h c hc
  cases c with
  | routeMessage msg q =>
      cases hsome
      exact howned
  | _ => cases hsome

/-- PDUs of one session, counted for it or for another. -/
theorem countP_owned {α : Type*} {l : List α} {f : α → Option EsmeRef}
    (h : ∀ x ∈ l, f x = some esme) (id : EsmeRef) :
    l.countP (fun x => f x == some id) = if id = esme then l.length else 0 := by
  split
  · rename_i hid
    apply List.countP_eq_length.mpr
    intro x hx
    simp [h x hx, hid]
  · rename_i hid
    apply List.countP_eq_zero.mpr
    intro x hx
    simp [h x hx, Ne.symm hid]

/-- What the calls of a handler add to the queues. -/
def addedBy (calls : List SubmitCall) : Counter → Nat
  | .inboundQueued => 0
  | .outboundQueued => (responsesOf calls).length
  | .pendingRouting => (routesOf calls).length

theorem references_make (howned : ∀ c ∈ calls, Owned esme c) (id : EsmeRef) :
    references (s.make kind session calls) id =
      references s id + if id = esme then addedBy calls else 0 := by
  have hroutes : ∀ r ∈ (routesOf calls).map (fun r => (kind, r.2)), r.2.smppEsme = some esme := by
    intro r hr
    rcases List.mem_map.mp hr with ⟨x, hx, rfl⟩
    exact owned_routes howned x hx
  have hresponses := countP_owned (f := SmppQueuedPdu.smppEsme) (owned_responses howned) id
  have hrouted := countP_owned (f := fun r : SmKind × SmppQueuedPdu => r.2.smppEsme) hroutes id
  rw [List.length_map] at hrouted
  by_cases hid : id = esme
  · rw [if_pos hid] at hresponses hrouted ⊢
    funext c
    cases c with
    | inboundQueued => rfl
    | outboundQueued => exact List.countP_append.trans (congrArg (_ + ·) hresponses)
    | pendingRouting => exact List.countP_append.trans (congrArg (_ + ·) hrouted)
  · rw [if_neg hid] at hresponses hrouted ⊢
    funext c
    cases c with
    | inboundQueued => rfl
    | outboundQueued => exact List.countP_append.trans (congrArg (_ + ·) hresponses)
    | pendingRouting => exact List.countP_append.trans (congrArg (_ + ·) hrouted)

/-- The counters follow the calls of a handler that is given the record `e`. -/
theorem counted_make (h : Counted (s.put e)) (hkeeps : Keeps (sessionOf s.data e) session calls) :
    Counted (s.make kind session calls) := by
  have hfind : (s.put e).find? e.id = some e := Keyed.find?_put_self rfl
  have hid : session.esme.id = e.id := by
    rw [hkeeps.esme]
    rfl
  refine h.change (e := session.esme) 0 (addedBy calls) (hid ▸ hfind) ?_ ?_ ?_ rfl
  · intro id
    by_cases heq : id = session.esme.id
    · exact (Keyed.find?_put_self heq.symm).trans (Keyed.find?_put_self heq.symm).symm
    · have hne : id ≠ e.id := hid ▸ heq
      exact (Keyed.find?_put_of_ne heq).trans
        ((Keyed.find?_put_of_ne heq).trans (Keyed.find?_put_of_ne hne)).symm
  · rw [hkeeps.esme]
    funext c
    cases c <;> rfl
  · intro id
    rw [hid, ite_self, add_zero]
    exact references_make hkeeps.owned id

/-- The record of a session stored once more. -/
theorem Counted.put_self (h : Counted s) (hfind : s.find? id = some e) : Counted (s.put e) :=
  h.put (find?_id hfind) rfl

/-! ## Steps -/

theorem Counted.of_eq (h : Counted s) (hdata : t.data = s.data)
    (hreferences : ∀ id, references t id = references s id)
    (hcounter : t.esmeCounter = s.esmeCounter) : Counted t := by
  refine h.of_find ?_ hreferences hcounter
  intro id e he
  unfold ServerState.find? at he
  rw [hdata] at he
  exact ⟨e, he, rfl⟩

/-- A connection that is closed keeps its counters. -/
theorem counted_stopListening (h : Counted (s.put e)) : Counted (s.stopListening e) := by
  refine h.of_find ?_ (fun _ => rfl) rfl
  intro id e' he'
  rcases find?_put_cases he' with ⟨rfl, rfl⟩ | ⟨hne, hold⟩
  · exact ⟨e, Keyed.find?_put_self rfl, rfl⟩
  · have hother : (s.put e).find? id = s.find? id := Keyed.find?_put_of_ne hne
    exact ⟨e', hother.trans hold, rfl⟩

theorem counted_cleanup (h : Counted (s.put e)) : Counted (s.cleanup e) :=
  (counted_stopListening h).of_eq rfl (fun _ => rfl) rfl

theorem counted_hangUp (h : Counted (s.put e)) : Counted (s.hangUp e) := by
  unfold ServerState.hangUp
  split
  · exact counted_stopListening h
  · exact counted_cleanup h

theorem steady_counted : Steady (Counted (n := n)) where
  bearerbox := fun _ _ h => h.of_eq rfl (fun _ => rfl) rfl
  make := fun _ _ _ _ _ h hfind hkeeps => counted_make (h.put_self hfind) hkeeps
  stopListening := fun _ _ h hfind => counted_stopListening (h.put_self hfind)

/-- The first calls of a handler are made with the record `e`. -/
theorem counted_finish {r : Submit.Result} (h : Counted (s.put e))
    (hkeeps : ResultKeeps (sessionOf s.data e) r) (ht : s.finish kind inserted r = some t) :
    Counted t := by
  refine steady_counted.finish ?_ ht
  intro session calls hr
  exact counted_make h (hkeeps session calls hr)

theorem countP_eraseIdx {α : Type*} {l : List α} {i : Nat} {x : α} (h : l[i]? = some x)
    (p : α → Bool) : l.countP p = (l.eraseIdx i).countP p + if p x then 1 else 0 := by
  rw [(perm_eraseIdx h).countP_eq, List.countP_cons]

/-- An entry of one queue is taken, and its counter goes down. -/
theorem Counted.take (h : Counted s) (c : Counter) (hfind : s.find? e.id = some d)
    (hput : ∀ id, t.find? id = (s.put e).find? id)
    (hcounters : counters e = counters d - Pi.single c 1)
    (htaken : ∀ id, references t id c + (if id = e.id then 1 else 0) = references s id c)
    (hother : ∀ id c', c' ≠ c → references t id c' = references s id c')
    (hcounter : t.esmeCounter = s.esmeCounter) : Counted t := by
  have hreferences : ∀ id, references t id + (if id = e.id then Pi.single c 1 else 0) =
      references s id := by
    intro id
    funext c'
    by_cases hc : c' = c
    · subst hc
      rw [← htaken id]
      split
      · simp
      · rfl
    · have hid := hother id c' hc
      split
      · simpa [hc] using hid
      · exact hid
  refine h.change (Pi.single c 1) 0 hfind hput ?_ (by simpa using hreferences) hcounter
  have hself := hreferences e.id
  rw [if_pos rfl, ← h.counts _ _ hfind] at hself
  rw [hcounters, ← hself, add_zero]
  funext c'
  simp

/-- An entry is added to one queue, and its counter goes up. -/
theorem Counted.add (h : Counted s) (c : Counter) (hfind : s.find? e.id = some d)
    (hput : ∀ id, t.find? id = (s.put e).find? id)
    (hcounters : counters e = counters d + Pi.single c 1)
    (hadded : ∀ id, references t id c = references s id c + if id = e.id then 1 else 0)
    (hother : ∀ id c', c' ≠ c → references t id c' = references s id c')
    (hcounter : t.esmeCounter = s.esmeCounter) : Counted t := by
  refine h.change 0 (Pi.single c 1) hfind hput (by rw [hcounters, add_zero]) ?_ hcounter
  intro id
  rw [ite_self, add_zero]
  funext c'
  by_cases hc : c' = c
  · subst hc
    rw [hadded id]
    split
    · simp
    · rfl
  · have hid := hother id c' hc
    split
    · simpa [hc] using hid
    · exact hid

/-- How often a queue without its entry at `i` points to a session. -/
theorem countP_take {α : Type*} {l : List α} {i : Nat} {x : α} {p : EsmeRef → α → Bool}
    (hget : l[i]? = some x) (hx : ∀ id, p id x = decide (id = esme)) (id : EsmeRef) :
    (l.eraseIdx i).countP (p id) + (if id = esme then 1 else 0) = l.countP (p id) := by
  rw [countP_eraseIdx hget, hx]
  simp

/-- And with one entry more. -/
theorem countP_add {α : Type*} (l : List α) {x : α} {p : EsmeRef → α → Bool}
    (hx : ∀ id, p id x = decide (id = esme)) (id : EsmeRef) :
    (l ++ [x]).countP (p id) = l.countP (p id) + if id = esme then 1 else 0 := by
  rw [List.countP_append, List.countP_singleton, hx]
  simp

theorem inbound_owner (esme : EsmeRef) (pdu : SmppPdu) (id : EsmeRef) :
    ((esme, pdu).1 == id) = decide (id = esme) := by
  by_cases hid : id = esme
  · simp [hid]
  · simp [hid, Ne.symm hid]

theorem queued_owner {q : SmppQueuedPdu} (hq : q.smppEsme = some esme) (id : EsmeRef) :
    (q.smppEsme == some id) = decide (id = esme) := by
  by_cases hid : id = esme
  · simp [hq, hid]
  · simp [hq, hid, Ne.symm hid]

/-- An inbound thread takes a PDU. -/
theorem counted_consume {i : Nat} {pdu : SmppPdu} (h : Counted s)
    (hget : s.inboundQueue[i]? = some (esme, pdu)) (hfind : s.find? esme = some e)
    (openAcks : Keyed SmppQueuedPdu.id) :
    Counted ({ s with inboundQueue := s.inboundQueue.eraseIdx i }.put
      { consumed s.now e with openAcks := openAcks }) := by
  refine h.take (e := { consumed s.now e with openAcks := openAcks }) (d := e)
    .inboundQueued (find?_id hfind) (fun _ => rfl) ?_ ?_ ?_ rfl
  · funext c
    cases c <;> rfl
  · change ∀ id, _ + (if id = e.id then 1 else 0) = _
    rw [id_of_find? hfind]
    exact countP_take (p := fun id x => x.1 == id) hget (inbound_owner esme pdu)
  · rintro id (_ | _ | _) hne
    · exact absurd rfl hne
    · rfl
    · rfl

theorem counted_inbound {i : Nat} {link : BearerboxLink} {kannel : Kannel} {env : Submit.Env}
    {pdu : SmppPdu} (h : Counted s) (hget : s.inboundQueue[i]? = some (esme, pdu))
    (ht : s.inbound i link kannel env inserted esme pdu = some t) : Counted t := by
  rcases Option.bind_eq_some_iff.mp ht with ⟨e, hfind, hrest⟩
  rcases Option.bind_eq_some_iff.mp hrest with ⟨handled, hhandle, hfinish⟩
  rcases Option.map_eq_some_iff.mp hfinish with ⟨s', hs', rfl⟩
  rcases keeps_handlePdu hhandle with ⟨openAcks, hkeeps⟩
  have hconsumed := counted_consume h hget hfind openAcks
  refine steady_counted.settleAll (counted_finish hconsumed ?_ hs') handled.settled
  intro session calls hr
  cases hr
  exact hkeeps

/-- The router gives a question back. -/
theorem counted_routingDone {i : Nat} {routeStatus : Submit.SmppRouteStatus} {env : Submit.Env}
    (h : Counted s) (ht : step s (.routingDone i routeStatus env inserted) = some t) :
    Counted t := by
  cases hget : s.routing[i]? with
  | none => simp [step, hget] at ht
  | some r =>
      rcases r with ⟨kind, q⟩
      simp only [step, hget] at ht
      rcases Option.bind_eq_some_iff.mp ht with ⟨esme, hq, hrest⟩
      rcases Option.bind_eq_some_iff.mp hrest with ⟨e, hfind, hfinish⟩
      have howner : q.smppEsme = some (sessionOf s.data e).esme.id :=
        hq.trans (congrArg some (id_of_find? hfind).symm)
      have htaken : Counted ({ s with routing := s.routing.eraseIdx i }.put
          (sessionOf s.data e).routingDone.esme) := by
        refine h.take (e := (sessionOf s.data e).routingDone.esme) (d := e) .pendingRouting
          (find?_id hfind) (fun _ => rfl) ?_ ?_ ?_ rfl
        · funext c
          cases c <;> rfl
        · exact countP_take (p := fun id r => r.2.smppEsme == some id) hget (queued_owner howner)
        · rintro id (_ | _ | _) hne
          · rfl
          · rfl
          · exact absurd rfl hne
      exact counted_finish htaken (Submit.resultKeeps_routingDoneOf howner routeStatus) hfinish

theorem counted_receive {pdu : SmppPdu} (h : Counted s)
    (ht : step s (.receive esme pdu) = some t) : Counted t := by
  rcases Option.map_eq_some_iff.mp ht with ⟨e, hfind, rfl⟩
  refine h.add (e := { e with inboundQueued := e.inboundQueued + 1 }) (d := e) .inboundQueued
    (find?_id hfind) (fun _ => rfl) ?_ ?_ ?_ rfl
  · funext c
    cases c <;> rfl
  · change ∀ id, _ = _ + if id = e.id then 1 else 0
    rw [id_of_find? hfind]
    exact countP_add (p := fun id x => x.1 == id) s.inboundQueue (inbound_owner esme pdu)
  · rintro id (_ | _ | _) hne
    · exact absurd rfl hne
    · rfl
    · rfl

/-- A PDU is queued for a session. -/
theorem counted_queue {q : SmppQueuedPdu} (h : Counted s) (hfind : s.find? d.id = some d)
    (hid : e.id = d.id) (hq : q.smppEsme = some d.id)
    (hput : ∀ id, t.find? id = (s.put e).find? id)
    (hcounters : counters e = counters d + Pi.single .outboundQueued 1)
    (hinbound : t.inboundQueue = s.inboundQueue) (hqueue : t.outboundQueue = s.outboundQueue ++ [q])
    (hrouting : t.routing = s.routing) (hcounter : t.esmeCounter = s.esmeCounter) : Counted t := by
  refine h.add (e := e) (d := d) .outboundQueued (hid ▸ hfind) hput hcounters ?_ ?_ hcounter
  · rw [hid]
    simp only [references, hqueue]
    exact countP_add (p := fun id q => q.smppEsme == some id) s.outboundQueue (queued_owner hq)
  · rintro id (_ | _ | _) hne
    · simp only [references, hinbound]
    · exact absurd rfl hne
    · simp only [references, hrouting]

theorem counted_addOutbound {q : SmppQueuedPdu} (h : Counted s)
    (ht : step s (.addOutbound esme q) = some t) : Counted t := by
  simp only [step] at ht
  split at ht
  · rename_i hq
    rcases Option.map_eq_some_iff.mp ht with ⟨e, hfind, rfl⟩
    have howner : q.smppEsme = some e.id := hq.trans (congrArg some (id_of_find? hfind).symm)
    refine counted_queue (e := numbered q e) h (find?_id hfind) rfl howner (fun _ => rfl) ?_ rfl rfl
      rfl rfl
    funext c
    cases c <;> rfl
  · cases ht

theorem counted_bindFinish {i : Nat} (h : Counted s) (ht : step s (.bindFinish i) = some t) :
    Counted t := by
  rcases bindFinish_cases ht with ⟨b, e, data', q, hget, hfind, hhandle, rfl⟩
  cases hresult : b.authResult with
  | none =>
      rw [hresult] at hhandle
      cases hhandle
      refine counted_queue (e := queued { e with pendingDisconnect := true }) h (find?_id hfind) rfl
        rfl (fun _ => rfl) ?_ rfl rfl rfl rfl
      funext c
      cases c <;> rfl
  | some r =>
      rw [hresult] at hhandle
      rcases handleBind_sessions hhandle with ⟨hq, key, hsessions⟩
      refine counted_queue (e := queued (configureEsme r ((authenticate e b.pdu).setGlobal key))) h
        (find?_id hfind) rfl hq hsessions ?_ rfl rfl rfl rfl
      funext c
      cases c <;> rfl

theorem counted_outbound {i : Nat} (h : Counted s) (ht : step s (.outbound i) = some t) :
    Counted t := by
  rcases outbound_cases ht with ⟨q, esme, e, hget, hq, hfind, rfl⟩
  have howner : q.smppEsme = some e.id := hq.trans (congrArg some (id_of_find? hfind).symm)
  have htaken : Counted ({ s with outboundQueue := s.outboundQueue.eraseIdx i }.put
      (dequeued s.now e)) := by
    refine h.take (e := dequeued s.now e) (d := e) .outboundQueued (find?_id hfind) (fun _ => rfl)
      ?_ ?_ ?_ rfl
    · funext c
      cases c <;> rfl
    · exact countP_take (p := fun id q => q.smppEsme == some id) hget (queued_owner howner)
    · rintro id (_ | _ | _) hne
      · rfl
      · exact absurd rfl hne
      · rfl
  split
  · exact counted_hangUp htaken
  · exact htaken

theorem counted_bindCheck {i : Nat} {denied : Bool} {authResult : Option SmppEsmeAuthResult}
    (h : Counted s) (ht : step s (.bindCheck i denied authResult) = some t) : Counted t := by
  rcases bindCheck_cases ht with ⟨esme, p, e, -, hget, hfind, rfl⟩
  exact (counted_consume h hget hfind e.openAcks).of_eq rfl (fun _ => rfl) rfl

/-- No queue points to a session the listener has just accepted. -/
theorem counted_accept (h : Counted s) (ht : step s .accept = some t) : Counted t := by
  cases ht
  refine ⟨?_, ?_, ?_⟩
  · intro id e' he'
    rcases find?_put_cases he' with ⟨rfl, rfl⟩ | ⟨-, hold⟩
    · have hnone : references s s.esmeCounter = 0 := h.fresh _ (Nat.le_refl _)
      change counters _ = references s s.esmeCounter
      rw [hnone]
      funext c
      cases c <;> rfl
    · exact h.counts id e' hold
  · intro id e' he'
    rcases find?_put_cases he' with ⟨rfl, -⟩ | ⟨-, hold⟩
    · exact Nat.lt_succ_self _
    · exact Nat.lt_succ_of_lt (h.sessions id e' hold)
  · intro id hid
    exact h.fresh id (Nat.le_of_succ_le hid)

theorem counted_shutdown (h : Counted s) (ht : step s .shutdown = some t) : Counted t := by
  simp only [step] at ht
  split at ht
  · cases ht
  · cases ht
    exact h.of_find (fun id e' he' => ⟨e', (Keyed.find?_of_foldl_remove he').2, rfl⟩)
      (fun _ => rfl) rfl

theorem counted_step {l : Label n} (h : Counted s) (ht : step s l = some t) : Counted t := by
  cases l with
  | accept => exact counted_accept h ht
  | receive esme pdu => exact counted_receive h ht
  | hangUp esme =>
      rcases Option.map_eq_some_iff.mp ht with ⟨e, hfind, rfl⟩
      exact counted_hangUp (h.put_self hfind)
  | inbound i link kannel env inserted =>
      simp only [step] at ht
      split at ht
      · cases ht
      · split at ht
        · cases ht
        · rename_i hget
          exact counted_inbound h hget ht
        · cases ht
  | bindCheck i denied authResult => exact counted_bindCheck h ht
  | bindFinish i => exact counted_bindFinish h ht
  | routingDone i routeStatus env inserted => exact counted_routingDone h ht
  | bearerbox l =>
      simp only [step] at ht
      split at ht
      · rcases Option.bind_eq_some_iff.mp ht with ⟨b, -, hb⟩
        exact steady_counted.absorb h hb
      · cases ht
  | addOutbound esme q => exact counted_addOutbound h ht
  | outbound i => exact counted_outbound h ht
  | disconnect esme =>
      rcases Option.map_eq_some_iff.mp ht with ⟨e, hfind, rfl⟩
      exact counted_stopListening (h.put_self hfind)
  | passBegin =>
      simp only [step] at ht
      split at ht
      · cases ht
      · cases ht
        exact h.of_eq rfl (fun _ => rfl) rfl
  | passEnd =>
      simp only [step] at ht
      split at ht
      · cases ht
        exact h.of_eq rfl (fun _ => rfl) rfl
      · cases ht
  | sweep key j =>
      rcases sweep_cases ht with ⟨g, esme, e, -, -, -, hfind, -, rfl⟩
      refine counted_cleanup (Counted.put_self ?_ hfind)
      exact h.of_find (fun _ e' he' => ⟨e', he', rfl⟩) (fun _ => rfl) rfl
  | destroy esme =>
      rcases destroy_cases ht with ⟨e, -, -, -, -, rfl⟩
      exact h.of_find (fun _ e' he' => ⟨e', (Keyed.find?_of_remove he').2, rfl⟩) (fun _ => rfl) rfl
  | tick seconds =>
      cases ht
      exact h.of_eq rfl (fun _ => rfl) rfl
  | shutdown => exact counted_shutdown h ht

/-! ## Destroyed sessions -/

/-- Where all counters are zero, nothing but a message in the bearerbox threads can be left. -/
theorem unreferenced_iff (h : Counted s) (hfind : s.find? esme = some e)
    (hdestroyable : destroyable s.now e = true) :
    Unreferenced s esme ↔ ¬ AwaitsBearerbox s esme := by
  have hcounts := h.counts _ _ hfind
  have hzero : e.inboundQueued + e.outboundQueued + e.pendingRouting = 0 := by
    simp only [destroyable, decide_eq_true_eq] at hdestroyable
    exact hdestroyable.1
  constructor
  · rintro hun ⟨m, hm, howner⟩
    exact hun.bearerbox m hm howner
  · -- the sum is zero, so each of the counters is, and with it what it counts
    intro hsettled
    have hinbound : s.inboundQueue.countP (fun x => x.1 == esme) = 0 := by
      have hcount : e.inboundQueued = _ := congrFun hcounts .inboundQueued
      exact hcount.symm.trans (by omega)
    have houtbound : s.outboundQueue.countP (fun q => q.smppEsme == some esme) = 0 := by
      have hcount : e.outboundQueued = _ := congrFun hcounts .outboundQueued
      exact hcount.symm.trans (by omega)
    have hrouting : s.routing.countP (fun r => r.2.smppEsme == some esme) = 0 := by
      have hcount : e.pendingRouting = _ := congrFun hcounts .pendingRouting
      exact hcount.symm.trans (by omega)
    refine ⟨?_, ?_, ?_, ?_⟩
    · intro x hx
      simpa using List.countP_eq_zero.mp hinbound x hx
    · intro q hq
      simpa using List.countP_eq_zero.mp houtbound q hq
    · intro r hr
      simpa using List.countP_eq_zero.mp hrouting r hr
    · intro m hm howner
      exact hsettled ⟨m, hm, howner⟩

/-- The one bearerbox of the runs below. -/
def sampleBox : Fin 1 := Fin.last 0

/-- A client binds and submits a message, which is written to the one bearerbox. -/
def sampleWritten : List (Label 1) :=
  [.bearerbox (.reconnect sampleBox true true), .accept,
    .receive 0 (.bind (sampleBind (octstrImm "test"))),
    .bindCheck 0 false (some { maxBinds := 0 }), .bindFinish 0, .outbound 0,
    .receive 0 (.submitSm Submit.sampleSubmitSm),
    .inbound 0 { alive := true, written := true } Submit.sampleKannel Submit.sampleEnv true,
    .routingDone 0 { status := smppEsmeRok, parts := 1, cost := 0 } Submit.sampleEnv true,
    .bearerbox (.consume sampleBox 0), .bearerbox (.beginWrite sampleBox),
    .bearerbox (.endWrite sampleBox true)]

/-- The client disconnects, and is silent for more than ten seconds. -/
def sampleGone : List (Label 1) :=
  [.hangUp 0, .tick 11, .passBegin, .sweep (octstrImm "test") 0]

/-- The bearerbox acks the message, and the response is taken from the queue. -/
def sampleAnswered : List (Label 1) :=
  [.bearerbox (.ack sampleBox (smppUuidGet (Vector.replicate 16 1)) ackSuccess), .outbound 0]

def sampleBoxed : ServerState 1 := serverInit sampleSettings (fun _ => none)

end Sessions
end Ksmppd
