import Ksmppd.Lib.Transition
import Ksmppd.Sessions.Quiet

/-!
# Lists — where a session is listed

A session belongs in one list at a time: the binds of its account once it is bound, the cleanup
queue once its connection is gone, and after that nowhere.  The bind handler does not look whether
the session is bound already; where each connection is bound once, no list takes a session twice.
-/

namespace Ksmppd
namespace Sessions

open Lib

variable {n : Nat} {s t u : ServerState n} {data data' : SmppEsmeData} {e e' d : SmppEsme}
  {id : EsmeRef}

/-- Each session is in one list, once, and is destroyed once. -/
def ListedOnce (s : ServerState n) : Prop :=
  (allBinds s.data ++ s.cleanupQueue).Nodup ∧ s.destroyed.Nodup

/-- A bind is accepted only on a connection that is still open and not bound yet. -/
def BindsOnce (s : ServerState n) : Label n → Prop
  | .bindFinish i =>
      ∀ b ∈ s.binding[i]?, b.authResult ≠ none →
        ∀ e ∈ s.find? b.esme, e.connected = true ∧ e.authenticated = false
  | _ => True

instance (s : ServerState n) : (l : Label n) → Decidable (BindsOnce s l)
  | .bindFinish i =>
      inferInstanceAs (Decidable (∀ b ∈ s.binding[i]?, b.authResult ≠ none →
        ∀ e ∈ s.find? b.esme, e.connected = true ∧ e.authenticated = false))
  | .accept | .receive _ _ | .hangUp _ | .inbound _ _ _ _ _ | .bindCheck _ _ _
  | .routingDone _ _ _ _ | .bearerbox _ | .addOutbound _ _ | .outbound _ | .disconnect _
  | .passBegin | .passEnd | .sweep _ _ | .destroy _ | .tick _ | .shutdown => isTrue trivial

/-! ## Places -/

/-- The binds of all accounts. -/
def boundSessions (data : SmppEsmeData) : Multiset EsmeRef :=
  measure (fun a => (a.2 : Multiset EsmeRef)) data

theorem coe_allBinds (data : SmppEsmeData) :
    (allBinds data : Multiset EsmeRef) = boundSessions data := by
  unfold allBinds boundSessions measure Keyed.weight
  induction data.esmes.entries with
  | nil => rfl
  | cons g gs ih =>
      rw [List.flatMap_cons, ← Multiset.coe_add, ih]
      rfl

/-- All places a session can be at, the destroyed ones included. -/
def places (s : ServerState n) : Multiset EsmeRef :=
  boundSessions s.data + (s.cleanupQueue : Multiset EsmeRef) + (s.destroyed : Multiset EsmeRef)

theorem mem_places : id ∈ places s ↔
    id ∈ boundSessions s.data ∨ id ∈ s.cleanupQueue ∨ id ∈ s.destroyed := by
  simp [places, or_assoc]

structure Placed (s : ServerState n) : Prop where
  nodup : (places s).Nodup
  fresh : ∀ id ∈ places s, id < s.esmeCounter
  sessions : ∀ id e, s.find? id = some e → id < s.esmeCounter
  bound : ∀ id ∈ boundSessions s.data, ∀ e, s.find? id = some e → e.authenticated = true
  waiting : ∀ id ∈ s.cleanupQueue, ∀ e, s.find? id = some e → e.connected = false
  gone : ∀ id ∈ s.destroyed, s.find? id = none

theorem placed_init (smppServer : SmppServer) (ids : Fin n → Option Octstr) :
    Placed (serverInit smppServer ids) where
  nodup := by simp [places, serverInit, smppEsmeInit, boundSessions, measure]
  fresh := by simp [places, serverInit, smppEsmeInit, boundSessions, measure]
  sessions := by simp [ServerState.find?, serverInit, smppEsmeInit]
  bound := by simp [serverInit, smppEsmeInit, boundSessions, measure]
  waiting := by simp [serverInit]
  gone := by simp [serverInit]

theorem listedOnce_of_placed (h : Placed s) : ListedOnce s := by
  have hlists : places s = ((allBinds s.data ++ s.cleanupQueue : List EsmeRef) : Multiset EsmeRef) +
      (s.destroyed : Multiset EsmeRef) := by
    rw [← Multiset.coe_add, coe_allBinds]
    rfl
  have hnodup := h.nodup
  rw [hlists, Multiset.nodup_add] at hnodup
  exact ⟨Multiset.coe_nodup.mp hnodup.1, Multiset.coe_nodup.mp hnodup.2.1⟩

/-- A session that is neither bound nor waiting is nowhere. -/
theorem Placed.not_mem (h : Placed s) (hfind : s.find? id = some e)
    (hauth : e.authenticated = false) (hqueue : id ∉ s.cleanupQueue) : id ∉ places s := by
  intro hmem
  rcases mem_places.mp hmem with hbound | hwaiting | hgone
  · have htrue := h.bound id hbound e hfind
    rw [hauth] at htrue
    cases htrue
  · exact hqueue hwaiting
  · have hnone := h.gone id hgone
    rw [hfind] at hnone
    cases hnone

/-! ## Quiet steps -/

theorem boundSessions_of_accounts (h : accountsOf data' = accountsOf data) :
    boundSessions data' = boundSessions data := measure_of_accounts h

theorem Quiet.places (h : Quiet s t) : places t = places s := by
  unfold Sessions.places
  rw [boundSessions_of_accounts h.accounts, h.cleanupQueue, h.destroyed]

theorem Placed.of_quiet (hplaced : Placed s) (h : Quiet s t) : Placed t where
  nodup := h.places ▸ hplaced.nodup
  fresh := by
    rw [h.places, h.esmeCounter]
    exact hplaced.fresh
  sessions := by
    intro id e' he'
    rcases h.sessions id e' he' with ⟨e, he, -, -⟩
    rw [h.esmeCounter]
    exact hplaced.sessions id e he
  bound := by
    intro id hid e' he'
    rcases h.sessions id e' he' with ⟨e, he, -, hauth⟩
    rw [boundSessions_of_accounts h.accounts] at hid
    exact hauth.trans (hplaced.bound id hid e he)
  waiting := by
    intro id hid e' he'
    rcases h.sessions id e' he' with ⟨e, he, hconnected, -⟩
    rw [h.cleanupQueue] at hid
    cases hc : e'.connected with
    | false => rfl
    | true =>
        have hfalse := hplaced.waiting id hid e he
        rw [hconnected hc] at hfalse
        cases hfalse
  gone := by
    intro id hid
    rw [h.destroyed] at hid
    cases hfind : t.find? id with
    | none => rfl
    | some e' =>
        rcases h.sessions id e' hfind with ⟨e, he, -, -⟩
        rw [hplaced.gone id hid] at he
        cases he

/-- The queues and the binds under way do not matter. -/
theorem Placed.of_eq (h : Placed t) (hdata : u.data = t.data)
    (hcleanup : u.cleanupQueue = t.cleanupQueue) (hdestroyed : u.destroyed = t.destroyed)
    (hcounter : u.esmeCounter = t.esmeCounter) : Placed u := by
  have hplaces : places u = places t := by
    unfold places
    rw [hdata, hcleanup, hdestroyed]
  have hfind : ∀ id, u.find? id = t.find? id := by
    intro id
    unfold ServerState.find?
    rw [hdata]
  refine ⟨hplaces ▸ h.nodup, ?_, ?_, ?_, ?_, ?_⟩
  · rw [hplaces, hcounter]
    exact h.fresh
  · intro id e he
    rw [hcounter]
    exact h.sessions id e (hfind id ▸ he)
  · intro id hid e he
    rw [hdata] at hid
    exact h.bound id hid e (hfind id ▸ he)
  · intro id hid e he
    rw [hcleanup] at hid
    exact h.waiting id hid e (hfind id ▸ he)
  · intro id hid
    rw [hdestroyed] at hid
    exact (hfind id).trans (h.gone id hid)

/-! ## Steps that move a session -/

/-- A session that was nowhere is put at one place. -/
theorem Placed.enter (h : Placed s) (hplaces : places t = id ::ₘ places s) (hnot : id ∉ places s)
    (hlt : id < s.esmeCounter) (hcounter : t.esmeCounter = s.esmeCounter) :
    (places t).Nodup ∧ ∀ id' ∈ places t, id' < t.esmeCounter := by
  rw [hplaces, hcounter]
  refine ⟨Multiset.nodup_cons.mpr ⟨hnot, h.nodup⟩, ?_⟩
  intro id' hid'
  rcases Multiset.mem_cons.mp hid' with rfl | hold
  · exact hlt
  · exact h.fresh id' hold

/-- A session that is in no list is queued for cleanup. -/
theorem placed_queued (h : Placed s) (hfind : s.find? e.id = some d)
    (hauth : e.authenticated = d.authenticated) (hnot : e.id ∉ places s) :
    Placed (s.cleanup e) := by
  have hstopped := h.of_quiet (quiet_stopListening hfind hauth)
  have hqueue : e.id ∉ s.cleanupQueue := fun hmem => hnot (mem_places.mpr (Or.inr (Or.inl hmem)))
  have hcleanup : (s.cleanup e).cleanupQueue = s.cleanupQueue ++ [e.id] := by
    simp [ServerState.cleanup, gwlistAppendUnique, hqueue]
  have hplaces : places (s.cleanup e) = e.id ::ₘ places s := by
    unfold places
    rw [hcleanup, ← Multiset.coe_add, ← Multiset.singleton_add]
    change boundSessions s.data + _ + (s.destroyed : Multiset EsmeRef) = _
    rw [Multiset.coe_singleton]
    abel
  have henter := h.enter hplaces hnot (h.sessions _ _ hfind) rfl
  refine ⟨henter.1, henter.2, hstopped.sessions, hstopped.bound, ?_, hstopped.gone⟩
  intro id hid e' he'
  rw [hcleanup] at hid
  rcases List.mem_append.mp hid with hold | hnew
  · exact hstopped.waiting id hold e' he'
  · rcases find?_put_cases he' with ⟨-, rfl⟩ | ⟨hne, -⟩
    · rfl
    · exact absurd (List.mem_singleton.mp hnew) hne

/-- A session that is not bound is queued for cleanup, once. -/
theorem placed_cleanup (h : Placed s) (hfind : s.find? e.id = some d)
    (hauth : e.authenticated = d.authenticated) (hunbound : d.authenticated = false) :
    Placed (s.cleanup e) := by
  by_cases hqueue : e.id ∈ s.cleanupQueue
  · -- queued before: `gwlist_append_unique` does not add it again
    refine (h.of_quiet (quiet_stopListening hfind hauth)).of_eq rfl ?_ rfl rfl
    simp [ServerState.cleanup, gwlistAppendUnique, hqueue, ServerState.stopListening,
      ServerState.put]
  · exact placed_queued h hfind hauth (h.not_mem hfind hunbound hqueue)

theorem placed_hangUp (h : Placed s) (hfind : s.find? e.id = some d)
    (hauth : e.authenticated = d.authenticated) : Placed (s.hangUp e) := by
  unfold ServerState.hangUp
  split
  · -- a bound session stays in its account, for the cleanup thread to find
    exact h.of_quiet (quiet_stopListening hfind hauth)
  · rename_i hunbound
    have hd : d.authenticated = false := by simpa [hauth] using hunbound
    exact placed_cleanup h hfind hauth hd

/-- The listener gives a connection an id that was never used. -/
theorem placed_accept (h : Placed s) (ht : step s .accept = some t) : Placed t := by
  cases ht
  -- every id in use is below the counter, so the new one is in no list
  refine ⟨h.nodup, ?_, ?_, ?_, ?_, ?_⟩
  · intro id hid
    exact Nat.lt_succ_of_lt (h.fresh id hid)
  · intro id e' he'
    rcases find?_put_cases he' with ⟨rfl, -⟩ | ⟨-, hold⟩
    · exact Nat.lt_succ_self _
    · exact Nat.lt_succ_of_lt (h.sessions id e' hold)
  · intro id hid e' he'
    rcases find?_put_cases he' with ⟨rfl, -⟩ | ⟨-, hold⟩
    · exact absurd (h.fresh _ (mem_places.mpr (Or.inl hid))) (Nat.lt_irrefl _)
    · exact h.bound id hid e' hold
  · intro id hid e' he'
    rcases find?_put_cases he' with ⟨rfl, -⟩ | ⟨-, hold⟩
    · exact absurd (h.fresh _ (mem_places.mpr (Or.inr (Or.inl hid)))) (Nat.lt_irrefl _)
    · exact h.waiting id hid e' hold
  · intro id hid
    have hlt := h.fresh id (mem_places.mpr (Or.inr (Or.inr hid)))
    have hother : (s.put (accepted s.smppServer s.esmeCounter)).find? id = s.find? id :=
      Keyed.find?_put_of_ne (Nat.ne_of_lt hlt)
    exact hother.trans (h.gone id hid)

variable {smppServer : SmppServer} {p : Bind} {r : SmppEsmeAuthResult} {q : SmppQueuedPdu}

theorem boundSessions_handleBind
    (h : smppQueuesHandleBindPdu smppServer data e p (some r) = some (data', q)) :
    boundSessions data' = e.id ::ₘ boundSessions data := by
  rcases handleBind_measure (f := fun a => (a.2 : Multiset EsmeRef)) (fun _ => rfl) h with
    ⟨key, -, hmeasure⟩
  have hadded : ((bindsOf data key ++ [e.id] : List EsmeRef) : Multiset EsmeRef) =
      {e.id} + (bindsOf data key : Multiset EsmeRef) := by
    rw [← Multiset.coe_add, Multiset.coe_singleton, add_comm]
  dsimp only at hmeasure
  rw [hadded, ← add_assoc] at hmeasure
  calc
    boundSessions data' = boundSessions data + {e.id} := add_right_cancel hmeasure
    _ = e.id ::ₘ boundSessions data := by rw [add_comm, Multiset.singleton_add]

/-- A session that is open and not bound yet is entered. -/
theorem placed_registered (h : Placed s) (hfind : s.find? e.id = some e)
    (hconnected : e.connected = true) (hauth : e.authenticated = false)
    (hhandle : smppQueuesHandleBindPdu smppServer s.data e p (some r) = some (data', q)) :
    Placed { s with data := data' } := by
  -- what waits for cleanup is closed, and this connection is open
  have hqueue : e.id ∉ s.cleanupQueue := by
    intro hmem
    have hfalse := h.waiting e.id hmem e hfind
    rw [hconnected] at hfalse
    cases hfalse
  have hnot := h.not_mem hfind hauth hqueue
  have hbound := boundSessions_handleBind hhandle
  have hplaces : places { s with data := data' } = e.id ::ₘ places s := by
    unfold places
    rw [hbound, Multiset.cons_add, Multiset.cons_add]
  rcases handleBind_sessions hhandle with ⟨-, key, hsessions⟩
  -- the record of the session itself, or one that was there before
  have hcases : ∀ id e', ({ s with data := data' } : ServerState n).find? id = some e' →
      (id = e.id ∧ e'.authenticated = true) ∨ (id ≠ e.id ∧ s.find? id = some e') := by
    intro id e' he'
    rcases find?_put_cases ((hsessions id).symm.trans he') with ⟨hid, rfl⟩ | ⟨hne, hold⟩
    · exact Or.inl ⟨hid, rfl⟩
    · exact Or.inr ⟨hne, hold⟩
  have henter := h.enter hplaces hnot (h.sessions _ _ hfind) rfl
  refine ⟨henter.1, henter.2, ?_, ?_, ?_, ?_⟩
  · intro id e' he'
    rcases hcases id e' he' with ⟨rfl, -⟩ | ⟨-, hold⟩
    · exact h.sessions _ _ hfind
    · exact h.sessions id e' hold
  · intro id hid e' he'
    rcases hcases id e' he' with ⟨-, hauth'⟩ | ⟨hne, hold⟩
    · exact hauth'
    · rw [hbound] at hid
      rcases Multiset.mem_cons.mp hid with heq | hmem
      · exact absurd heq hne
      · exact h.bound id hmem e' hold
  · intro id hid e' he'
    rcases hcases id e' he' with ⟨rfl, -⟩ | ⟨-, hold⟩
    · exact absurd hid hqueue
    · exact h.waiting id hid e' hold
  · intro id hid
    cases hfound : ({ s with data := data' } : ServerState n).find? id with
    | none => rfl
    | some e' =>
        rcases hcases id e' hfound with ⟨rfl, -⟩ | ⟨-, hold⟩
        · exact absurd ((mem_places (s := s)).mpr (Or.inr (Or.inr hid))) hnot
        · rw [h.gone id hid] at hold
          cases hold

theorem placed_bindFinish {i : Nat} (h : Placed s) (hok : BindsOnce s (.bindFinish i))
    (ht : step s (.bindFinish i) = some t) : Placed t := by
  rcases bindFinish_cases ht with ⟨b, e, data', q, hget, hfind, hhandle, rfl⟩
  cases hresult : b.authResult with
  | none =>
      -- a refused bind marks the session and queues the response
      rw [hresult] at hhandle
      cases hhandle
      have hput : Quiet s (s.put (queued { e with pendingDisconnect := true })) :=
        quiet_put (d := e) (find?_id hfind) (fun hc => hc) rfl
      exact (h.of_quiet hput).of_eq rfl rfl rfl rfl
  | some r =>
      rw [hresult] at hhandle
      rcases hok b hget (by simp [hresult]) e hfind with ⟨hconnected, hauth⟩
      exact (placed_registered h (find?_id hfind) hconnected hauth hhandle).of_eq rfl rfl rfl rfl

/-! ## Steps of the cleanup thread -/

theorem boundSessions_withoutBind {key : Octstr} {g : SmppEsmeGlobal} {j : Nat}
    (hg : data.esmes.find? key = some g) (hj : g.binds[j]? = some id) :
    id ::ₘ boundSessions { data with esmes := data.esmes.put (withoutBind g j) } =
      boundSessions data := by
  have hentry : g.systemId = key := Keyed.key_of_find? hg
  have hkey : (withoutBind g j).systemId = key := hentry
  have hput := Keyed.weight_put_of_find (fun g => (g.binds : Multiset EsmeRef)) (hkey ▸ hg)
  have hbinds : (g.binds : Multiset EsmeRef) =
      {id} + ((withoutBind g j).binds : Multiset EsmeRef) := by
    rw [Multiset.singleton_add, Multiset.cons_coe]
    exact Multiset.coe_eq_coe.mpr (perm_eraseIdx hj)
  rw [hbinds, ← add_assoc] at hput
  rw [← Multiset.singleton_add, add_comm]
  exact add_right_cancel hput

/-- A bind taken out of its account is nowhere until it is queued for cleanup. -/
theorem placed_withoutBind {key : Octstr} {g : SmppEsmeGlobal} {j : Nat} (h : Placed s)
    (hg : s.data.esmes.find? key = some g) (hj : g.binds[j]? = some id)
    (ht : t = { s with data := { s.data with esmes := s.data.esmes.put (withoutBind g j) } }) :
    Placed t ∧ id ∉ places t := by
  have hbound : id ::ₘ boundSessions t.data = boundSessions s.data := by
    rw [ht]
    exact boundSessions_withoutBind hg hj
  have hplaces : places s = id ::ₘ places t := by
    unfold places
    rw [← hbound, ht, Multiset.cons_add, Multiset.cons_add]
  have hnodup := h.nodup
  rw [hplaces, Multiset.nodup_cons] at hnodup
  have hfind : ∀ id, t.find? id = s.find? id := by
    rw [ht]
    exact fun _ => rfl
  refine ⟨⟨hnodup.2, ?_, ?_, ?_, ?_, ?_⟩, hnodup.1⟩
  · intro id' hid'
    rw [ht]
    exact h.fresh id' (hplaces ▸ Multiset.mem_cons_of_mem hid')
  · intro id' e' he'
    rw [ht]
    exact h.sessions id' e' (hfind id' ▸ he')
  · intro id' hid' e' he'
    exact h.bound id' (hbound ▸ Multiset.mem_cons_of_mem hid') e' (hfind id' ▸ he')
  · intro id' hid' e' he'
    rw [ht] at hid'
    exact h.waiting id' hid' e' (hfind id' ▸ he')
  · intro id' hid'
    rw [ht] at hid'
    exact (hfind id').trans (h.gone id' hid')

theorem placed_sweep {key : Octstr} {j : Nat} (h : Placed s)
    (ht : step s (.sweep key j) = some t) : Placed t := by
  rcases sweep_cases ht with ⟨g, esme, e, -, hg, hj, he, -, rfl⟩
  -- out of the account first, then into the cleanup queue
  rcases placed_withoutBind h hg hj rfl with ⟨hplaced, hnot⟩
  exact placed_queued (d := e) hplaced (find?_id he) rfl (id_of_find? he ▸ hnot)

/-- Lists of the same sessions, some of which are gone now. -/
theorem Placed.of_removed (h : Placed s) (ids : List EsmeRef)
    (hsessions : t.data.sessions = ids.foldl Keyed.remove s.data.sessions)
    (hbound : ∀ id ∈ boundSessions t.data, id ∈ boundSessions s.data)
    (hcleanup : ∀ id ∈ t.cleanupQueue, id ∈ s.cleanupQueue)
    (hdestroyed : ∀ id ∈ t.destroyed, id ∈ s.destroyed ∨ id ∈ ids)
    (hplaces : places t = places s) (hcounter : t.esmeCounter = s.esmeCounter) : Placed t := by
  have hfind : ∀ id e', t.find? id = some e' → id ∉ ids ∧ s.find? id = some e' := by
    intro id e' he'
    unfold ServerState.find? at he'
    rw [hsessions] at he'
    exact Keyed.find?_of_foldl_remove he'
  refine ⟨hplaces ▸ h.nodup, ?_, ?_, ?_, ?_, ?_⟩
  · rw [hplaces, hcounter]
    exact h.fresh
  · intro id e' he'
    rw [hcounter]
    exact h.sessions id e' (hfind id e' he').2
  · intro id hid e' he'
    exact h.bound id (hbound id hid) e' (hfind id e' he').2
  · intro id hid e' he'
    exact h.waiting id (hcleanup id hid) e' (hfind id e' he').2
  · intro id hid
    cases hfound : t.find? id with
    | none => rfl
    | some e' =>
        rcases hfind id e' hfound with ⟨hids, hold⟩
        rcases hdestroyed id hid with hgone | hmem
        · rw [h.gone id hgone] at hold
          cases hold
        · exact absurd hmem hids

theorem placed_destroy {esme : EsmeRef} (h : Placed s) (ht : step s (.destroy esme) = some t) :
    Placed t := by
  rcases destroy_cases ht with ⟨e, -, hmem, -, -, rfl⟩
  have hqueue : (s.cleanupQueue : Multiset EsmeRef) =
      {esme} + (s.cleanupQueue.erase esme : Multiset EsmeRef) := by
    rw [Multiset.singleton_add, Multiset.cons_coe]
    exact Multiset.coe_eq_coe.mpr (List.perm_cons_erase hmem)
  refine h.of_removed [esme] rfl (fun _ hid => hid) ?_ ?_ ?_ rfl
  · exact fun _ hid => List.mem_of_mem_erase hid
  · exact fun _ hid => List.mem_append.mp hid
  · -- from the cleanup queue to the destroyed ones
    unfold places
    rw [hqueue, ← Multiset.coe_add, Multiset.coe_singleton]
    change boundSessions s.data + _ + _ = _
    abel

/-- At shutdown every list is emptied, and each session in one is destroyed. -/
theorem placed_shutdown (h : Placed s) (ht : step s .shutdown = some t) : Placed t := by
  simp only [step] at ht
  split at ht
  · cases ht
  · cases ht
    refine h.of_removed (allBinds s.data ++ s.cleanupQueue) rfl ?_ ?_ ?_ ?_ rfl
    · intro id hid
      simp [boundSessions, measure] at hid
    · intro id hid
      cases hid
    · intro id hid
      rw [List.append_assoc] at hid
      exact List.mem_append.mp hid
    · unfold places
      rw [← Multiset.coe_add, ← Multiset.coe_add, coe_allBinds]
      simp only [boundSessions, measure, Keyed.weight_empty, Multiset.coe_nil]
      abel

/-! ## Runs -/

theorem placed_outbound {i : Nat} (h : Placed s) (ht : step s (.outbound i) = some t) :
    Placed t := by
  rcases outbound_cases ht with ⟨q, esme, e, -, -, hfind, rfl⟩
  have htaken : Placed { s with outboundQueue := s.outboundQueue.eraseIdx i } :=
    h.of_eq rfl rfl rfl rfl
  split
  · exact placed_hangUp (d := e) htaken (find?_id hfind) rfl
  · exact htaken.of_quiet (quiet_put (d := e) (find?_id hfind) (fun hc => hc) rfl)

theorem placed_step {l : Label n} (h : Placed s) (hok : BindsOnce s l) (ht : step s l = some t) :
    Placed t := by
  cases l with
  | accept => exact placed_accept h ht
  | hangUp esme =>
      rcases Option.map_eq_some_iff.mp ht with ⟨e, hfind, rfl⟩
      exact placed_hangUp h (find?_id hfind) rfl
  | bindCheck i denied authResult =>
      rcases bindCheck_cases ht with ⟨esme, p, e, -, -, hfind, rfl⟩
      have hput : Quiet s (s.put (consumed s.now e)) :=
        quiet_put (d := e) (find?_id hfind) (fun hc => hc) rfl
      exact (h.of_quiet hput).of_eq rfl rfl rfl rfl
  | bindFinish i => exact placed_bindFinish h hok ht
  | outbound i => exact placed_outbound h ht
  | sweep key j => exact placed_sweep h ht
  | destroy esme => exact placed_destroy h ht
  | shutdown => exact placed_shutdown h ht
  | _ => exact h.of_quiet (quiet_step (by trivial) ht)

/-- Where every accepted bind finds its connection open and not bound yet, each session is in one
list, once, in every state, and is destroyed once. -/
theorem sessions_listed_once {smppServer : SmppServer} {ids : Fin n → Option Octstr}
    {ls : List (Label n)} (h : Run step BindsOnce (serverInit smppServer ids) ls s) :
    ListedOnce s :=
  listedOnce_of_placed (h.invariant Placed (fun _ _ _ => placed_step) (placed_init smppServer ids))

/-- A connection binds, another never does; both are closed, and destroyed. -/
def sampleLists : List (Label 0) :=
  [.accept, .accept, .receive 0 (.bind (sampleBind (octstrImm "test"))),
    .bindCheck 0 false (some { maxBinds := 0 }), .bindFinish 0, .outbound 0, .hangUp 1, .hangUp 0,
    .tick 11, .passBegin, .sweep (octstrImm "test") 0, .destroy 0, .destroy 1, .passEnd, .shutdown]

theorem sessions_listed_once_sample :
    ∃ s, Run step BindsOnce sampleServer sampleLists s ∧ s.destroyed = [0, 1] ∧ ListedOnce s := by
  have hdestroyed : (execute step BindsOnce sampleServer sampleLists).any
      (fun s => s.destroyed == [0, 1]) = true := by decide +kernel
  rcases exists_run_of_execute hdestroyed with ⟨s, hrun, hs⟩
  exact ⟨s, hrun, by simpa using hs, sessions_listed_once hrun⟩

/-- A connection binds twice. -/
def sampleTwiceBound : List (Label 0) :=
  [.accept, .receive 0 (.bind (sampleBind (octstrImm "test"))),
    .receive 0 (.bind (sampleBind (octstrImm "test"))),
    .bindCheck 0 false (some { maxBinds := 0 }), .bindFinish 0,
    .bindCheck 0 false (some { maxBinds := 0 }), .bindFinish 0]

/-- It is listed twice, and at shutdown it is destroyed twice. -/
theorem twice_bound_destroyed_twice :
    ∃ s t, Run step anyStep sampleServer sampleTwiceBound s ∧
      ¬ (allBinds s.data ++ s.cleanupQueue).Nodup ∧
      Run step anyStep sampleServer (sampleTwiceBound ++ [.shutdown]) t ∧
      ¬ t.destroyed.Nodup := by
  have hlisted : (execute step anyStep sampleServer sampleTwiceBound).any
      (fun s => !decide (allBinds s.data ++ s.cleanupQueue).Nodup) = true := by decide +kernel
  have hdestroyed : (execute step anyStep sampleServer (sampleTwiceBound ++ [.shutdown])).any
      (fun s => !decide s.destroyed.Nodup) = true := by decide +kernel
  rcases exists_run_of_execute hlisted with ⟨s, hrun, hs⟩
  rcases exists_run_of_execute hdestroyed with ⟨t, hrun', ht⟩
  exact ⟨s, t, hrun, by simpa using hs, hrun', by simpa using ht⟩

end Sessions
end Ksmppd
