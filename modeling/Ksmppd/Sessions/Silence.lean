import Ksmppd.Sessions.CleanupThread

/-!
# Silence — how long a client may say nothing

Every pass of the cleanup thread looks at every bind that was registered when the pass began.  The
threads that register binds are locked out during a pass, so a bind that is registered later was
heard later, too.
-/

namespace Ksmppd
namespace Sessions

open Lib
open Submit (accountBinds)

variable {n : Nat} {s t u : ServerState n} {c c' : CleanupState n} {data data' : SmppEsmeData}
  {e e' d : SmppEsme} {id esme : EsmeRef} {links : List (EsmeRef × Nat)} {heard time time' : Nat}

/-! ## Recent -/

/-- At `time` a session that was last heard at `heard` had not been silent for three intervals; if it
had been silent for more than one, it has been sent an `enquire_link` since. -/
def Recent (links : List (EsmeRef × Nat)) (id : EsmeRef) (heard time : Nat) : Prop :=
  time < heard + 3 * smppEsmeDefaultEnquireLinkInterval ∧
    (heard + smppEsmeDefaultEnquireLinkInterval < time →
      ∃ sent, heard ≤ sent ∧ (id, sent) ∈ links)

theorem recent_of_le_heard (h : time ≤ heard + smppEsmeDefaultEnquireLinkInterval) :
    Recent links id heard time := by
  unfold smppEsmeDefaultEnquireLinkInterval at h
  refine ⟨?_, ?_⟩
  · unfold smppEsmeDefaultEnquireLinkInterval
    omega
  · intro hlt
    unfold smppEsmeDefaultEnquireLinkInterval at hlt
    omega

theorem Recent.mono (h : Recent links id heard time) (hle : time' ≤ time) :
    Recent links id heard time' :=
  ⟨lt_of_le_of_lt hle h.1, fun hlt => h.2 (lt_of_lt_of_le hlt hle)⟩

theorem Recent.append (h : Recent links id heard time) (x : EsmeRef × Nat) :
    Recent (links ++ [x]) id heard time := by
  refine ⟨h.1, fun hlt => ?_⟩
  rcases h.2 hlt with ⟨sent, hle, hmem⟩
  exact ⟨sent, hle, List.mem_append_left _ hmem⟩

theorem recent_of_asked {now : Nat} (hle : time ≤ now)
    (hquiet : now - heard > smppEsmeDefaultEnquireLinkInterval)
    (hshort : ¬ (now - heard) / smppEsmeDefaultEnquireLinkInterval > 2) :
    Recent (links ++ [(id, now)]) id heard time := by
  unfold smppEsmeDefaultEnquireLinkInterval at hquiet hshort
  -- the quotient is at most two, so fewer than three intervals have passed
  refine ⟨?_, fun _ => ⟨now, by omega, by simp⟩⟩
  unfold smppEsmeDefaultEnquireLinkInterval
  omega

/-! ## Binds of an account -/

theorem mem_accountsOf {key : Octstr} {binds : List EsmeRef} :
    (key, binds) ∈ accountsOf data ↔
      ∃ g, data.esmes.find? key = some g ∧ g.binds = binds := by
  unfold accountsOf
  rw [Keyed.mem_weight]
  constructor
  · rintro ⟨g, hmem, hg⟩
    cases Multiset.mem_singleton.mp hg
    exact ⟨g, Keyed.find?_eq_some_iff.mpr ⟨hmem, rfl⟩, rfl⟩
  · rintro ⟨g, hfind, rfl⟩
    have hentry := Keyed.find?_eq_some_iff.mp hfind
    exact ⟨g, hentry.1, Multiset.mem_singleton.mpr (congrArg (·, g.binds) hentry.2.symm)⟩

theorem bindsOf_of_accounts (h : accountsOf data' = accountsOf data) (key : Octstr) :
    bindsOf data' key = bindsOf data key := by
  cases hfind : data.esmes.find? key with
  | some g =>
      have hmem : (key, g.binds) ∈ accountsOf data' := h ▸ mem_accountsOf.mpr ⟨g, hfind, rfl⟩
      rcases mem_accountsOf.mp hmem with ⟨g', hfind', hbinds⟩
      simp [bindsOf, hfind, hfind', hbinds]
  | none =>
      cases hfind' : data'.esmes.find? key with
      | none => simp [bindsOf, hfind, hfind']
      | some g' =>
          -- an account that was not there before
          have hmem : (key, g'.binds) ∈ accountsOf data := h ▸ mem_accountsOf.mpr ⟨g', hfind', rfl⟩
          rcases mem_accountsOf.mp hmem with ⟨g, hg, -⟩
          rw [hfind] at hg
          cases hg

theorem mem_boundSessions : id ∈ boundSessions data ↔ ∃ key, id ∈ bindsOf data key := by
  rw [← coe_allBinds, Multiset.mem_coe]
  unfold allBinds
  rw [List.mem_flatMap]
  constructor
  · rintro ⟨g, hmem, hid⟩
    have hfind : data.esmes.find? g.systemId = some g := Keyed.find?_eq_some_iff.mpr ⟨hmem, rfl⟩
    exact ⟨g.systemId, by simpa [bindsOf, hfind] using hid⟩
  · rintro ⟨key, hid⟩
    cases hfind : data.esmes.find? key with
    | none => simp [bindsOf, hfind] at hid
    | some g =>
        exact ⟨g, (Keyed.find?_eq_some_iff.mp hfind).1, by simpa [bindsOf, hfind] using hid⟩

/-- The account without its bind `j`; the others keep theirs. -/
theorem bindsOf_withoutBind {key : Octstr} {g : SmppEsmeGlobal} {j : Nat}
    (hfind : data.esmes.find? key = some g) (k : Octstr) :
    bindsOf { data with esmes := data.esmes.put (withoutBind g j) } k =
      if k = key then (bindsOf data k).eraseIdx j else bindsOf data k := by
  have hentry : g.systemId = key := Keyed.key_of_find? hfind
  have hkey : (withoutBind g j).systemId = key := hentry
  split
  · rename_i hk
    subst hk
    simp only [bindsOf, Keyed.find?_put_self hkey, hfind]
    rfl
  · rename_i hk
    have hother : (data.esmes.put (withoutBind g j)).find? k = data.esmes.find? k :=
      Keyed.find?_put_of_ne (fun heq => hk (heq.trans hkey))
    simp [bindsOf, hother]

/-! ## The invariant -/

structure Watched (c : CleanupState n) : Prop where
  completed : c.completed ≤ c.began
  began : c.began ≤ c.server.now
  idle : c.server.cleaning = false → c.keys = [] ∧ c.completed = c.began
  /-- The thread waits for the bind handlers before a pass, and they wait for the pass. -/
  busy : c.server.cleaning = true → c.server.binding = []
  known : ∀ id e, c.server.find? id = some e → id < c.server.esmeCounter
  bound : ∀ id ∈ boundSessions c.server.data, id < c.server.esmeCounter
  -- a bind that is half done was heard after the pass began
  checked : ∀ b ∈ c.server.binding, b.esme < c.server.esmeCounter ∧
    ∀ e, c.server.find? b.esme = some e → c.began ≤ e.timeLastPdu
  -- once it is looked at, recent as of this pass; until then as of the one before
  heard : ∀ id ∈ boundSessions c.server.data, ∀ e, c.server.find? id = some e →
    e.connected = true → Recent c.links id e.timeLastPdu c.completed ∧
      (id ∉ unvisited c → Recent c.links id e.timeLastPdu c.began)

theorem watched_init (smppServer : SmppServer) (ids : Fin n → Option Octstr) :
    Watched (cleanupInit smppServer ids) where
  completed := Nat.le_refl _
  began := Nat.le_refl _
  idle := fun _ => ⟨rfl, rfl⟩
  busy := fun h => by cases h
  known := by simp [cleanupInit, ServerState.find?, serverInit, smppEsmeInit]
  bound := by simp [cleanupInit, serverInit, smppEsmeInit, boundSessions, measure]
  checked := by simp [cleanupInit, serverInit]
  heard := by simp [cleanupInit, serverInit, smppEsmeInit, boundSessions, measure]

/-- Between two passes nothing waits to be looked at. -/
theorem Watched.recent (h : Watched c) (hidle : c.server.cleaning = false)
    (hid : id ∈ boundSessions c.server.data) (hfind : c.server.find? id = some e)
    (hconnected : e.connected = true) : Recent c.links id e.timeLastPdu c.began := by
  have hkeys := (h.idle hidle).1
  refine (h.heard id hid e hfind hconnected).2 ?_
  simp [unvisited, hkeys]

/-- The other threads hear a session, or close its connection. -/
theorem Watched.of_aged (h : Watched c) (haged : Aged c.server t) :
    Watched { c with server := t } where
  completed := h.completed
  began := haged.now ▸ h.began
  idle := fun hidle => h.idle (haged.cleaning ▸ hidle)
  busy := fun hbusy => haged.binding.trans (h.busy (haged.cleaning ▸ hbusy))
  known := by
    intro id e' he'
    rcases haged.sessions id e' he' with ⟨e, he, -, -⟩
    exact haged.esmeCounter ▸ h.known id e he
  bound := by
    intro id hid
    rw [boundSessions_of_accounts haged.accounts] at hid
    exact haged.esmeCounter ▸ h.bound id hid
  checked := by
    intro b hb
    rw [haged.binding] at hb
    rcases h.checked b hb with ⟨hlt, hbegan⟩
    refine ⟨haged.esmeCounter ▸ hlt, ?_⟩
    intro e' he'
    -- the client may be heard again before its bind is finished
    rcases haged.sessions b.esme e' he' with ⟨e, he, -, hsame | hnow⟩
    · exact hsame ▸ hbegan e he
    · exact hnow ▸ h.began
  heard := by
    intro id hid e' he' hconnected'
    rw [boundSessions_of_accounts haged.accounts] at hid
    have hunvisited : unvisited { c with server := t } = unvisited c := by
      have hbinds : bindsOf t.data = bindsOf c.server.data :=
        funext (bindsOf_of_accounts haged.accounts)
      simp only [unvisited, hbinds]
    rcases haged.sessions id e' he' with ⟨e, he, hconnected, hsame | hnow⟩
    · rw [hsame, hunvisited]
      exact h.heard id hid e he (hconnected hconnected')
    · -- heard just now, and so after the pass began
      rw [hnow]
      have hbegan : c.began ≤ c.server.now + smppEsmeDefaultEnquireLinkInterval :=
        Nat.le_trans h.began (Nat.le_add_right _ _)
      exact ⟨recent_of_le_heard (Nat.le_trans h.completed hbegan),
        fun _ => recent_of_le_heard hbegan⟩

/-! ## Steps of the other threads -/

theorem watched_accept (h : Watched c) (ht : step c.server .accept = some t) :
    Watched { c with server := t } := by
  cases ht
  refine ⟨h.completed, h.began, h.idle, h.busy, ?_, ?_, ?_, ?_⟩
  · intro id e' he'
    rcases find?_put_cases he' with ⟨rfl, -⟩ | ⟨-, hold⟩
    · exact Nat.lt_succ_self _
    · exact Nat.lt_succ_of_lt (h.known id e' hold)
  · intro id hid
    exact Nat.lt_succ_of_lt (h.bound id hid)
  · intro b hb
    rcases h.checked b hb with ⟨hlt, hbegan⟩
    refine ⟨Nat.lt_succ_of_lt hlt, ?_⟩
    intro e' he'
    rcases find?_put_cases he' with ⟨hnew, -⟩ | ⟨-, hold⟩
    · exact absurd hlt (hnew ▸ Nat.lt_irrefl _)
    · exact hbegan e' hold
  · intro id hid e' he' hconnected
    rcases find?_put_cases he' with ⟨hnew, -⟩ | ⟨-, hold⟩
    · -- the new session is bound nowhere
      exact absurd (h.bound id hid) (hnew ▸ Nat.lt_irrefl _)
    · exact h.heard id hid e' hold hconnected

theorem watched_bindCheck {i : Nat} {denied : Bool} {authResult : Option SmppEsmeAuthResult}
    (h : Watched c) (ht : step c.server (.bindCheck i denied authResult) = some t) :
    Watched { c with server := t } := by
  rcases bindCheck_cases ht with ⟨esme, p, e, hcleaning, -, hfind, rfl⟩
  have haged : Aged c.server (c.server.put (consumed c.server.now e)) :=
    aged_put (d := e) (find?_id hfind) (fun hc => hc) (Or.inr rfl)
  have hput := h.of_aged haged
  refine ⟨hput.completed, hput.began, hput.idle, ?_, hput.known, hput.bound, ?_, hput.heard⟩
  · intro hbusy
    exact absurd (hcleaning.symm.trans hbusy) Bool.false_ne_true
  · intro b hb
    rcases List.mem_append.mp hb with hold | hnew
    · exact hput.checked b hold
    · -- the client was heard when its bind was taken
      cases List.mem_singleton.mp hnew
      refine ⟨h.known esme e hfind, ?_⟩
      intro e' he'
      rcases find?_put_cases he' with ⟨-, rfl⟩ | ⟨hne, -⟩
      · exact h.began
      · exact absurd (id_of_find? hfind).symm hne

theorem watched_bindFinish {i : Nat} (h : Watched c)
    (ht : step c.server (.bindFinish i) = some t) : Watched { c with server := t } := by
  rcases bindFinish_cases ht with ⟨b, e, data', q, hget, hfind, hhandle, rfl⟩
  have hb : b ∈ c.server.binding := List.mem_of_getElem? hget
  -- no pass is under way
  have hidle : c.server.cleaning = false := by
    by_contra hbusy
    have hnil := h.busy (by simpa using hbusy)
    rw [hnil] at hb
    cases hb
  have hbinding : ∀ x ∈ c.server.binding.eraseIdx i, x ∈ c.server.binding :=
    fun _ => List.mem_of_mem_eraseIdx
  cases hresult : b.authResult with
  -- refused: nothing is registered
  | none =>
      rw [hresult] at hhandle
      cases hhandle
      have haged : Aged c.server (c.server.put (queued { e with pendingDisconnect := true })) :=
        aged_put (d := e) (find?_id hfind) (fun hc => hc) (Or.inl rfl)
      have hput := h.of_aged haged
      refine ⟨hput.completed, hput.began, hput.idle, ?_, hput.known, hput.bound, ?_, hput.heard⟩
      · intro hbusy
        exact absurd (hidle.symm.trans hbusy) Bool.false_ne_true
      · intro x hx
        exact hput.checked x (hbinding x hx)
  -- accepted: the session is one more of the bound ones, and the others stay as they were
  | some r =>
      rw [hresult] at hhandle
      have hbound := boundSessions_handleBind hhandle
      rcases handleBind_sessions hhandle with ⟨-, key, hsessions⟩
      have hcases : ∀ id e', data'.sessions.find? id = some e' →
          (id = e.id ∧ e'.timeLastPdu = e.timeLastPdu) ∨
            (id ≠ e.id ∧ c.server.find? id = some e') := by
        intro id e' he'
        rw [hsessions id] at he'
        rcases find?_put_cases (s := c.server) he' with ⟨hid, rfl⟩ | ⟨hne, hold⟩
        · exact Or.inl ⟨hid, rfl⟩
        · exact Or.inr ⟨hne, hold⟩
      have hbegan : c.began ≤ e.timeLastPdu := (h.checked b hb).2 e hfind
      have hlt : e.id < c.server.esmeCounter := h.known e.id e (find?_id hfind)
      refine ⟨h.completed, h.began, h.idle, ?_, ?_, ?_, ?_, ?_⟩
      · intro hbusy
        exact absurd (hidle.symm.trans hbusy) Bool.false_ne_true
      · intro id e' he'
        rcases hcases id e' he' with ⟨rfl, -⟩ | ⟨-, hold⟩
        · exact hlt
        · exact h.known id e' hold
      · intro id hid
        rw [hbound] at hid
        rcases Multiset.mem_cons.mp hid with rfl | hmem
        · exact hlt
        · exact h.bound id hmem
      · intro x hx
        rcases h.checked x (hbinding x hx) with ⟨hlt', hbegan'⟩
        refine ⟨hlt', ?_⟩
        intro e' he'
        rcases hcases x.esme e' he' with ⟨-, htime⟩ | ⟨-, hold⟩
        · exact htime ▸ hbegan
        · exact hbegan' e' hold
      · intro id hid e' he' hconnected
        rcases hcases id e' he' with ⟨-, htime⟩ | ⟨hne, hold⟩
        · -- registered now, and heard since the last pass began
          rw [htime]
          have hle := Nat.le_trans hbegan (Nat.le_add_right _ smppEsmeDefaultEnquireLinkInterval)
          exact ⟨recent_of_le_heard (Nat.le_trans h.completed hle), fun _ => recent_of_le_heard hle⟩
        · rw [hbound] at hid
          rcases Multiset.mem_cons.mp hid with heq | hmem
          · exact absurd heq hne
          · have hrecent := h.recent hidle hmem hold hconnected
            exact ⟨hrecent.mono h.completed, fun _ => hrecent⟩

theorem watched_shutdown (h : Watched c) (ht : step c.server .shutdown = some t) :
    Watched { c with server := t } := by
  simp only [step] at ht
  split at ht
  · cases ht
  · cases ht
    -- what is destroyed was bound or waited for cleanup, and no bind is left
    have hold : ∀ id e, (List.foldl Keyed.remove c.server.data.sessions
        (allBinds c.server.data ++ c.server.cleanupQueue)).find? id = some e →
          c.server.find? id = some e :=
      fun _ _ he => (Keyed.find?_of_foldl_remove he).2
    refine ⟨h.completed, h.began, h.idle, h.busy, ?_, ?_, ?_, ?_⟩
    · exact fun id e he => h.known id e (hold id e he)
    · simp [boundSessions, measure]
    · exact fun b hb => ⟨(h.checked b hb).1, fun e he => (h.checked b hb).2 e (hold _ e he)⟩
    · simp [boundSessions, measure]

theorem watched_others {l : Label n} (h : Watched c) (hl : ofOthers l = true)
    (ht : step c.server l = some t) : Watched { c with server := t } := by
  cases l with
  | accept => exact watched_accept h ht
  | bindCheck i denied authResult => exact watched_bindCheck h ht
  | bindFinish i => exact watched_bindFinish h ht
  | shutdown => exact watched_shutdown h ht
  | tick seconds =>
      cases ht
      exact ⟨h.completed, Nat.le_trans h.began (Nat.le_add_right _ _), h.idle, h.busy, h.known,
        h.bound, h.checked, h.heard⟩
  | passBegin | passEnd | sweep _ _ | destroy _ => cases hl
  -- no bind comes or goes in these
  | receive _ _ | hangUp _ | inbound _ _ _ _ _ | routingDone _ _ _ _ | bearerbox _
  | addOutbound _ _ | outbound _ | disconnect _ => exact h.of_aged (aged_step trivial ht)

/-! ## Steps of the cleanup thread -/

theorem lookAt_cases {link : BearerboxLink} {timeSent : Option Int → Int} {key : Octstr} {j : Nat}
    {fate : Fate} (h : s.lookAt link timeSent key j = some (u, fate)) :
    ∃ esme e, (bindsOf s.data key)[j]? = some esme ∧ s.find? esme = some e ∧
      ((e.connected = false ∧ fate = .dropped ∧ step s (.sweep key j) = some u) ∨
        (e.connected = true ∧ ∃ t, Aged s t ∧
          ((s.now - e.timeLastPdu > smppEsmeDefaultEnquireLinkInterval ∧
              (s.now - e.timeLastPdu) / smppEsmeDefaultEnquireLinkInterval > 2 ∧
              fate = .dropped ∧ step t (.sweep key j) = some u) ∨
            (s.now - e.timeLastPdu > smppEsmeDefaultEnquireLinkInterval ∧
              ¬ (s.now - e.timeLastPdu) / smppEsmeDefaultEnquireLinkInterval > 2 ∧
              fate = .asked ∧ Aged t u) ∨
            (s.now - e.timeLastPdu ≤ smppEsmeDefaultEnquireLinkInterval ∧ fate = .left ∧
              u = t)))) := by
  rcases Option.bind_eq_some_iff.mp h with ⟨esme, hesme, hrest⟩
  rcases Option.bind_eq_some_iff.mp hrest with ⟨e, hfind, hrest⟩
  refine ⟨esme, e, hesme, hfind, ?_⟩
  -- `smpp_esme_cleanup_thread` looks at the connection first, then at the silence
  split at hrest
  · rename_i hconnected
    rcases Option.bind_eq_some_iff.mp hrest with ⟨t, hexpired, hrest⟩
    refine Or.inr ⟨hconnected, t, aged_expireAll hexpired, ?_⟩
    split at hrest
    · rename_i hquiet
      split at hrest
      · rename_i hlong
        rcases Option.map_eq_some_iff.mp hrest with ⟨u', hsweep, heq⟩
        cases heq
        exact Or.inl ⟨hquiet, hlong, rfl, hsweep⟩
      · rename_i hshort
        rcases Option.bind_eq_some_iff.mp hrest with ⟨e', -, hrest⟩
        rcases Option.map_eq_some_iff.mp hrest with ⟨u', hasked, heq⟩
        cases heq
        exact Or.inr (Or.inl ⟨hquiet, hshort, rfl, aged_addOutbound hasked⟩)
    · rename_i hheard
      cases hrest
      exact Or.inr (Or.inr ⟨Nat.le_of_not_lt hheard, rfl, rfl⟩)
  · rename_i hclosed
    rcases Option.map_eq_some_iff.mp hrest with ⟨u', hsweep, heq⟩
    cases heq
    exact Or.inl ⟨by simpa using hclosed, rfl, hsweep⟩

theorem drop_eq_cons_eraseIdx {α : Type*} {l : List α} {j : Nat} {x : α} (h : l[j]? = some x) :
    l.drop j = x :: (l.eraseIdx j).drop j := by
  rcases List.getElem?_eq_some_iff.mp h with ⟨hlt, hget⟩
  have hlength : (l.take j).length = j := List.length_take_of_le (Nat.le_of_lt hlt)
  rw [List.drop_eq_getElem_cons hlt, hget, List.eraseIdx_eq_take_drop_succ,
    List.drop_left' hlength]

/-- Whatever waited to be looked at and is another session still waits. -/
theorem unvisited_eraseIdx {key : Octstr} {keys : List Octstr} (hkeys : c.keys = key :: keys)
    (hat : (bindsOf c.server.data key)[c.position]? = some esme)
    (hbinds : ∀ k, bindsOf t.data k =
      if k = key then (bindsOf c.server.data k).eraseIdx c.position else bindsOf c.server.data k)
    (hne : id ≠ esme) (hid : id ∈ unvisited c) : id ∈ unvisited { c with server := t } := by
  -- the binds of the accounts that are still to come
  have hkept : ∀ k, id ∈ bindsOf c.server.data k → id ∈ bindsOf t.data k := by
    intro k hk
    rw [hbinds k]
    split
    · rename_i heq
      subst heq
      have hperm := perm_eraseIdx hat
      rcases List.mem_cons.mp (hperm.mem_iff.mp hk) with heq | hmem
      · exact absurd heq hne
      · exact hmem
    · exact hk
  -- and those of this account from the position on, which is that of the next one now
  have hdrop : id ∈ (bindsOf c.server.data key).drop c.position →
      id ∈ (bindsOf t.data key).drop c.position := by
    intro hmem
    rw [hbinds key, if_pos rfl]
    have hsplit : (bindsOf c.server.data key).drop c.position =
        esme :: ((bindsOf c.server.data key).eraseIdx c.position).drop c.position :=
      drop_eq_cons_eraseIdx hat
    rw [hsplit] at hmem
    exact (List.mem_cons.mp hmem).resolve_left hne
  unfold unvisited at hid ⊢
  simp only [hkeys] at hid ⊢
  rcases List.mem_append.mp hid with hhere | hlater
  · exact List.mem_append_left _ (hdrop hhere)
  · rcases List.mem_flatMap.mp hlater with ⟨k, hk, hmem⟩
    exact List.mem_append_right _ (List.mem_flatMap.mpr ⟨k, hk, hkept k hmem⟩)

/-- A bind is taken out of its account; the one behind it has its place then. -/
theorem watched_sweep {key : Octstr} {keys : List Octstr} (h : Watched c)
    (hkeys : c.keys = key :: keys) (ht : step c.server (.sweep key c.position) = some t) :
    Watched { c with server := t } := by
  rcases sweep_cases ht with ⟨g, esme, e, hcleaning, hg, hj, hfind, -, rfl⟩
  let v : ServerState n :=
    { c.server with
      data := { c.server.data with esmes := c.server.data.esmes.put (withoutBind g c.position) } }
  have hbound : esme ::ₘ boundSessions v.data = boundSessions c.server.data :=
    boundSessions_withoutBind hg hj
  have hmem : ∀ id ∈ boundSessions v.data, id ∈ boundSessions c.server.data :=
    fun id hid => hbound ▸ Multiset.mem_cons_of_mem hid
  -- the session itself is closed, and so nothing is claimed of it
  have hsessions : ∀ id e', (v.cleanup e).find? id = some e' → e'.connected = true →
      id ≠ esme ∧ c.server.find? id = some e' := by
    intro id e' he' hconnected
    rcases find?_put_cases (s := v) he' with ⟨-, rfl⟩ | ⟨hne, hold⟩
    · cases hconnected
    · exact ⟨fun heq => hne (heq.trans (id_of_find? hfind).symm), hold⟩
  have haged : Aged v (v.cleanup e) := aged_cleanup (d := e) (find?_id hfind) (Or.inl rfl)
  have hold : ∀ id e', (v.cleanup e).find? id = some e' →
      ∃ e₁, c.server.find? id = some e₁ := by
    intro id e' he'
    rcases haged.sessions id e' he' with ⟨e₁, he₁, -, -⟩
    exact ⟨e₁, he₁⟩
  have hat : (bindsOf c.server.data key)[c.position]? = some esme := by
    simpa [bindsOf, hg] using hj
  have hunvisited : ∀ id, id ≠ esme → id ∈ unvisited c →
      id ∈ unvisited { c with server := v.cleanup e } :=
    fun _ => unvisited_eraseIdx (t := v.cleanup e) hkeys hat (bindsOf_withoutBind hg)
  refine ⟨h.completed, h.began, ?_, h.busy, ?_, ?_, ?_, ?_⟩
  · intro hidle
    exact absurd (hcleaning.symm.trans hidle) Bool.false_ne_true.symm
  · intro id e' he'
    rcases hold id e' he' with ⟨e₁, he₁⟩
    exact h.known id e₁ he₁
  · exact fun id hid => h.bound id (hmem id hid)
  · intro b hb
    have hnil : c.server.binding = [] := h.busy hcleaning
    have hb' : b ∈ c.server.binding := hb
    rw [hnil] at hb'
    cases hb'
  · intro id hid e' he' hconnected
    rcases hsessions id e' he' hconnected with ⟨hne, hsame⟩
    have hheard := h.heard id (hmem id hid) e' hsame hconnected
    exact ⟨hheard.1, fun hvisited => hheard.2 (fun hwaits => hvisited (hunvisited id hne hwaits))⟩

/-- A bind that was looked at and stays. -/
theorem watched_keep {key : Octstr} {keys : List Octstr} (h : Watched c)
    (hkeys : c.keys = key :: keys)
    (hesme : (bindsOf c.server.data key)[c.position]? = some esme)
    (hrecent : ∀ e, c.server.find? esme = some e → e.connected = true →
      Recent c.links esme e.timeLastPdu c.began) :
    Watched { c with position := c.position + 1 } := by
  refine ⟨h.completed, h.began, ?_, h.busy, h.known, h.bound, h.checked, ?_⟩
  · intro hidle
    exact h.idle hidle
  · intro id hid e he hconnected
    have hheard := h.heard id hid e he hconnected
    refine ⟨hheard.1, fun hvisited => ?_⟩
    -- the one that was looked at leaves the list, the rest of it waits as before
    by_cases hid' : id = esme
    · subst hid'
      exact hrecent e he hconnected
    · refine hheard.2 (fun hwaits => hvisited ?_)
      unfold unvisited at hwaits ⊢
      simp only [hkeys] at hwaits ⊢
      rcases List.getElem?_eq_some_iff.mp hesme with ⟨hlt, hget⟩
      rw [List.drop_eq_getElem_cons hlt, hget] at hwaits
      exact (List.mem_cons.mp hwaits).resolve_left hid'

theorem Watched.append (h : Watched c) (x : EsmeRef × Nat) :
    Watched { c with links := c.links ++ [x] } := by
  refine ⟨h.completed, h.began, h.idle, h.busy, h.known, h.bound, h.checked, ?_⟩
  intro id hid e he hconnected
  have hheard := h.heard id hid e he hconnected
  exact ⟨hheard.1.append x, fun hvisited => (hheard.2 hvisited).append x⟩

theorem watched_look {link : BearerboxLink} {timeSent : Option Int → Int} (h : Watched c)
    (ht : cleanupStep c (.look link timeSent) = some c') : Watched c' := by
  simp only [cleanupStep] at ht
  split at ht
  · cases ht
  · rename_i key keys hkeys
    rcases Option.bind_eq_some_iff.mp ht with ⟨esme, hcurrent, hrest⟩
    rcases Option.map_eq_some_iff.mp hrest with ⟨⟨u, fate⟩, hlook, rfl⟩
    rcases lookAt_cases hlook with ⟨esme', e, hesme, hfind, hcases⟩
    have hsame : esme' = esme := by
      simp only [CleanupState.current, hkeys, List.head?_cons, Option.bind_some] at hcurrent
      rw [hcurrent] at hesme
      exact (Option.some.inj hesme).symm
    subst hsame
    rcases hcases with ⟨-, rfl, hsweep⟩ | ⟨-, t, haged, hcases⟩
    · exact watched_sweep h hkeys hsweep
    -- the acks that expire, and the request to the client, leave the binds alone
    · have hbinds : ∀ {v : ServerState n}, Aged c.server v →
          (bindsOf v.data key)[c.position]? = some esme' := by
        intro v hv
        rw [bindsOf_of_accounts hv.accounts]
        exact hesme
      -- the record may have changed since, and then the session was heard
      have hrecord : ∀ {v : ServerState n} {links : List (EsmeRef × Nat)}, Aged c.server v →
          Recent links esme' e.timeLastPdu c.began →
          ∀ e', v.find? esme' = some e' → e'.connected = true →
            Recent links esme' e'.timeLastPdu c.began := by
        intro v links hv hrecent e' he' _
        rcases hv.sessions esme' e' he' with ⟨e₁, he₁, -, hsame | hnow⟩
        · rw [hfind] at he₁
          cases he₁
          exact hsame ▸ hrecent
        · exact hnow ▸ recent_of_le_heard (Nat.le_trans h.began (Nat.le_add_right _ _))
      rcases hcases with ⟨-, -, rfl, hsweep⟩ | ⟨hquiet, hshort, rfl, hqueued⟩ | ⟨hheard, rfl, rfl⟩
      · exact watched_sweep (c := { c with server := t }) (h.of_aged haged) hkeys hsweep
      · have hu := haged.trans hqueued
        have hrecent : Recent (c.links ++ [(esme', c.server.now)]) esme' e.timeLastPdu c.began :=
          recent_of_asked h.began hquiet hshort
        exact watched_keep ((h.of_aged hu).append (esme', c.server.now)) hkeys (hbinds hu)
          (hrecord hu hrecent)
      · have hle : c.began ≤ e.timeLastPdu + smppEsmeDefaultEnquireLinkInterval :=
          Nat.le_trans h.began (by omega)
        exact watched_keep (h.of_aged haged) hkeys (hbinds haged)
          (hrecord haged (recent_of_le_heard hle))

theorem watched_begin (h : Watched c) (ht : cleanupStep c .begin = some c') : Watched c' := by
  rcases Option.map_eq_some_iff.mp ht with ⟨t, hbegin, rfl⟩
  simp only [step] at hbegin
  split at hbegin
  · cases hbegin
  · rename_i hfree
    -- neither a pass nor a bind handler is under way
    rw [not_or, not_not] at hfree
    have hidle : c.server.cleaning = false := by simpa using hfree.1
    cases hbegin
    refine ⟨Nat.le_trans h.completed h.began, Nat.le_refl _, ?_, fun _ => hfree.2, h.known, h.bound,
      ?_, ?_⟩
    · intro hnot
      cases hnot
    · intro b hb
      have hb' : b ∈ c.server.binding := hb
      rw [hfree.2] at hb'
      cases hb'
    · intro id hid e he hconnected
      have hrecent := h.recent hidle hid he hconnected
      refine ⟨hrecent.mono h.completed, fun hvisited => absurd ?_ hvisited⟩
      -- every bind waits to be looked at
      rcases mem_boundSessions.mp hid with ⟨key, hkey⟩
      have hlisted : key ∈ c.server.data.esmes.entries.map SmppEsmeGlobal.systemId := by
        cases hfind : c.server.data.esmes.find? key with
        | none => simp [bindsOf, hfind] at hkey
        | some g =>
            have hentry := Keyed.find?_eq_some_iff.mp hfind
            exact List.mem_map.mpr ⟨g, hentry.1, hentry.2⟩
      unfold unvisited
      dsimp only
      split
      · rename_i hnil
        rw [hnil] at hlisted
        cases hlisted
      · rename_i key' keys' hcons
        rw [hcons] at hlisted
        rcases List.mem_cons.mp hlisted with rfl | hlater
        · exact List.mem_append_left _ hkey
        · exact List.mem_append_right _ (List.mem_flatMap.mpr ⟨key, hlater, hkey⟩)

theorem watched_next (h : Watched c) (ht : cleanupStep c .next = some c') : Watched c' := by
  simp only [cleanupStep] at ht
  split at ht
  · cases ht
  · rename_i key keys hkeys
    split at ht
    · rename_i hdone
      cases ht
      -- the account is done: nothing is left behind the position
      have hunvisited : unvisited { c with keys := keys, position := 0 } = unvisited c := by
        unfold unvisited
        simp only [hkeys, List.drop_of_length_le hdone, List.nil_append]
        cases keys <;> simp
      refine ⟨h.completed, h.began, ?_, h.busy, h.known, h.bound, h.checked, ?_⟩
      · intro hidle
        have hnil := (h.idle hidle).1
        rw [hkeys] at hnil
        cases hnil
      · rw [hunvisited]
        exact h.heard
    · cases ht

theorem watched_destroy (h : Watched c) (ht : step c.server (.destroy esme) = some t) :
    Watched { c with server := t } := by
  rcases destroy_cases ht with ⟨e, -, -, -, -, rfl⟩
  have hold : ∀ id e', (c.server.data.sessions.remove esme).find? id = some e' →
      c.server.find? id = some e' := fun _ _ he => (Keyed.find?_of_remove he).2
  exact ⟨h.completed, h.began, h.idle, h.busy, fun id e he => h.known id e (hold id e he), h.bound,
    fun b hb => ⟨(h.checked b hb).1, fun e he => (h.checked b hb).2 e (hold _ e he)⟩,
    fun id hid e he => h.heard id hid e (hold id e he)⟩

theorem watched_finish (h : Watched c) (hkeys : c.keys = [])
    (ht : step c.server .passEnd = some t) :
    Watched { c with server := t, completed := c.began } := by
  simp only [step] at ht
  split at ht
  · cases ht
    refine ⟨Nat.le_refl _, h.began, fun _ => ⟨hkeys, rfl⟩, ?_, h.known, h.bound, h.checked, ?_⟩
    · intro hbusy
      cases hbusy
    · intro id hid e he hconnected
      -- all were looked at, so what holds as of this pass holds as of the last completed one
      have hrecent := (h.heard id hid e he hconnected).2 (by simp [unvisited, hkeys])
      exact ⟨hrecent, fun _ => hrecent⟩
  · cases ht

theorem watched_step {l : CleanupLabel n} (h : Watched c) (ht : cleanupStep c l = some c') :
    Watched c' := by
  cases l with
  | other l =>
      simp only [cleanupStep] at ht
      split at ht
      · rename_i hl
        rcases Option.map_eq_some_iff.mp ht with ⟨t, hstep, rfl⟩
        exact watched_others h hl hstep
      · cases ht
  | begin => exact watched_begin h ht
  | look link timeSent => exact watched_look h ht
  | next => exact watched_next h ht
  | destroy esme =>
      simp only [cleanupStep] at ht
      split at ht
      · rcases Option.map_eq_some_iff.mp ht with ⟨t, hstep, rfl⟩
        exact watched_destroy h hstep
      · cases ht
  | finish =>
      simp only [cleanupStep] at ht
      split at ht
      · rename_i hkeys
        rcases Option.map_eq_some_iff.mp ht with ⟨t, hstep, rfl⟩
        exact watched_finish h hkeys hstep
      · cases ht

/-! ## Runs -/

variable {smppServer : SmppServer} {ids : Fin n → Option Octstr} {ls : List (CleanupLabel n)}

theorem watched_run (h : Run cleanupStep anyStep (cleanupInit smppServer ids) ls c) : Watched c :=
  h.invariant Watched (fun _ _ _ hc _ hstep => watched_step hc hstep)
    (watched_init smppServer ids)

/-- A client binds and its response is sent. -/
def sampleSession : List (CleanupLabel 0) :=
  [.other .accept, .other (.receive 0 (.bind (sampleBind (octstrImm "test")))),
    .other (.bindCheck 0 false (some { maxBinds := 0 })), .other (.bindFinish 0),
    .other (.outbound 0)]

def sampleLook : CleanupLabel 0 := .look { alive := false, written := false } (fun _ => 0)

/-- The thread asks a client that has been silent for more than one interval. -/
def sampleAsked : List (CleanupLabel 0) :=
  sampleSession ++ [.other (.tick 130), .begin, sampleLook, .next, .finish, .other (.tick 235)]

/-- A client that is dropped for its silence was sent an `enquire_link` during this silence, where the
thread comes back to it within two intervals. -/
theorem dropped_after_enquire_link
    (h : Run cleanupStep anyStep (cleanupInit smppServer ids) ls c)
    {key : Octstr} {keys : List Octstr} (hkeys : c.keys = key :: keys)
    {link : BearerboxLink} {timeSent : Option Int → Int}
    (hdropped : c.server.lookAt link timeSent key c.position = some (t, .dropped))
    (hcurrent : c.current = some esme) (hfind : c.server.find? esme = some e)
    (hconnected : e.connected = true)
    (hsoon : c.server.now < c.completed + 2 * smppEsmeDefaultEnquireLinkInterval) :
    ∃ sent, e.timeLastPdu ≤ sent ∧ (esme, sent) ∈ c.links := by
  have hwatched := watched_run h
  have hbinds : (bindsOf c.server.data key)[c.position]? = some esme := by
    simpa [CleanupState.current, hkeys] using hcurrent
  have hid : esme ∈ boundSessions c.server.data :=
    mem_boundSessions.mpr ⟨key, List.mem_of_getElem? hbinds⟩
  have hrecent := (hwatched.heard esme hid e hfind hconnected).1
  rcases lookAt_cases hdropped with ⟨esme', e', hesme, hfind', hcases⟩
  rw [hbinds] at hesme
  cases hesme
  rw [hfind] at hfind'
  cases hfind'
  -- silent for more than one interval when the last pass began, so it was asked then or before
  rcases hcases with ⟨hclosed, -, -⟩ | ⟨-, _, -, ⟨-, hlong, -, -⟩ | ⟨-, -, hfate, -⟩ | ⟨-, hfate, -⟩⟩
  · exact absurd (hclosed.symm.trans hconnected) Bool.false_ne_true
  · apply hrecent.2
    unfold smppEsmeDefaultEnquireLinkInterval at hlong hsoon ⊢
    omega
  · cases hfate
  · cases hfate

theorem dropped_after_enquire_link_sample :
    ∃ c e, Run cleanupStep anyStep (cleanupInit sampleSettings (fun _ => none))
      (sampleAsked ++ [.begin]) c ∧ c.server.find? 0 = some e ∧
        ∃ sent, e.timeLastPdu ≤ sent ∧ (0, sent) ∈ c.links := by
  have hexec : (execute cleanupStep anyStep (cleanupInit sampleSettings (fun _ => none))
      (sampleAsked ++ [.begin])).any (fun c =>
        decide (c.keys = [octstrImm "test"] ∧ c.current = some 0 ∧
          c.server.now < c.completed + 2 * smppEsmeDefaultEnquireLinkInterval) &&
        ((c.server.find? 0).any SmppEsme.connected &&
          (c.server.lookAt { alive := false, written := false } (fun _ => 0) (octstrImm "test")
            c.position).any (fun r => decide (r.2 = .dropped)))) = true := by
    decide +kernel
  rcases exists_run_of_execute hexec with ⟨c, hrun, hchecked⟩
  simp only [Bool.and_eq_true, decide_eq_true_iff, Option.any_eq_true] at hchecked
  rcases hchecked with ⟨⟨hkeys, hcurrent, hsoon⟩, ⟨e, hfind, hconnected⟩, ⟨t, fate⟩, hlook, hfate⟩
  cases hfate
  exact ⟨c, e, hrun, hfind,
    dropped_after_enquire_link hrun hkeys hlook hcurrent hfind hconnected hsoon⟩

end Sessions
end Ksmppd
