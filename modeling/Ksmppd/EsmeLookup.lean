import Ksmppd.Esme

/-!
# EsmeLookup — which spellings of a system id lead to a session

`smpp_esme_global_add` enters an account under the system id as the client spelled it.  The
receiver search, the bind limit and the unbind command ask for the lower-case spelling, the
reader search for exactly the name a backend lists.  They agree only on lower-case system ids.
-/

namespace Ksmppd

open Lib

variable {smppServer : SmppServer} {data data' : SmppEsmeData} {e : SmppEsme} {s s' : Octstr}

/-! ## What entering a session changes -/

theorem globalAdd_eq (hs : e.systemId = some s)
    (hadd : smppEsmeGlobalAdd smppServer data e = some data') :
    data' = {
      esmes := data.esmes.put ((smppEsmeGlobalOf smppServer data s).produceBind e.id)
      sessions := data.sessions.put (e.setGlobal s) } := by
  simpa [smppEsmeGlobalAdd, hs] using hadd.symm

theorem smppEsmeGlobalOf_spec (smppServer : SmppServer) (data : SmppEsmeData) (s : Octstr) :
    (smppEsmeGlobalOf smppServer data s).systemId = s ∧
      (smppEsmeGlobalOf smppServer data s).binds = bindsOf data s := by
  unfold smppEsmeGlobalOf bindsOf
  cases hf : data.esmes.find? s with
  | none => exact ⟨rfl, rfl⟩
  | some g => exact ⟨Keyed.key_of_find? hf, rfl⟩

/-- The account `e` is entered into gets one more bind, every other account stays. -/
theorem bindsOf_globalAdd (hs : e.systemId = some s)
    (hadd : smppEsmeGlobalAdd smppServer data e = some data') (key : Octstr) :
    bindsOf data' key = if key = s then bindsOf data s ++ [e.id] else bindsOf data key := by
  rcases smppEsmeGlobalOf_spec smppServer data s with ⟨hkey, hbinds⟩
  have hdata' := globalAdd_eq hs hadd
  by_cases hks : key = s
  · subst hks
    have hfind : data'.esmes.find? key =
        some ((smppEsmeGlobalOf smppServer data key).produceBind e.id) := by
      rw [hdata']
      exact Keyed.find?_put_self hkey
    simp [bindsOf, hfind, SmppEsmeGlobal.produceBind, hbinds]
  · have hfind : data'.esmes.find? key = data.esmes.find? key := by
      rw [hdata']
      exact Keyed.find?_put_of_ne (by simpa [SmppEsmeGlobal.produceBind, hkey] using hks)
    simp [bindsOf, hfind, hks]

theorem session_globalAdd (hs : e.systemId = some s)
    (hadd : smppEsmeGlobalAdd smppServer data e = some data') :
    data'.sessions.find? e.id = some (e.setGlobal s) := by
  rw [globalAdd_eq hs hadd]
  exact Keyed.find?_put_self rfl

/-- A session entered for the first time is among the binds of its own account only. -/
theorem mem_bindsOf_globalAdd (hs : e.systemId = some s)
    (hadd : smppEsmeGlobalAdd smppServer data e = some data')
    (hfresh : ∀ key, e.id ∉ bindsOf data key) (key : Octstr) :
    e.id ∈ bindsOf data' key ↔ key = s := by
  rw [bindsOf_globalAdd hs hadd]
  by_cases hks : key = s
  · simp [hks]
  · simp [hks, hfresh key]

theorem mem_bindsOf_globalAdd_self (hs : e.systemId = some s)
    (hadd : smppEsmeGlobalAdd smppServer data e = some data') : e.id ∈ bindsOf data' s := by
  rw [bindsOf_globalAdd hs hadd]
  simp

/-! ## Whom the unbind command reaches -/

/-- The PDUs queued so far stay, whatever is sent next. -/
theorem mem_sendUnbind_of_mem {acc : SmppEsmeData × List SmppQueuedPdu} {esme : EsmeRef}
    {q : SmppQueuedPdu} (h : q ∈ acc.2) : q ∈ (sendUnbind acc esme).2 := by
  unfold sendUnbind
  cases acc.1.sessions.find? esme with
  | none => exact h
  | some e => simp [h]

theorem mem_foldl_sendUnbind_of_mem {targets : List EsmeRef} {q : SmppQueuedPdu}
    {acc : SmppEsmeData × List SmppQueuedPdu} (h : q ∈ acc.2) :
    q ∈ (targets.foldl sendUnbind acc).2 := by
  induction targets generalizing acc with
  | nil => exact h
  | cons esme targets ih => exact ih (mem_sendUnbind_of_mem h)

/-- Sending to one session leaves every session findable. -/
theorem isSome_sendUnbind {acc : SmppEsmeData × List SmppQueuedPdu} {esme r : EsmeRef}
    (h : (acc.1.sessions.find? r).isSome) :
    ((sendUnbind acc esme).1.sessions.find? r).isSome := by
  unfold sendUnbind
  cases hf : acc.1.sessions.find? esme with
  | none => exact h
  | some e =>
      have hid : e.id = esme := Keyed.key_of_find? hf
      by_cases hr : r = esme
      · subst hr
        simp only
        rw [Keyed.find?_put_self (by simpa using hid)]
        rfl
      · simp only
        rw [Keyed.find?_put_of_ne (by simpa [hid] using hr)]
        exact h

/-- Every target with a session record gets an unbind. -/
theorem exists_unbind_of_mem {targets : List EsmeRef} {r : EsmeRef} (hr : r ∈ targets)
    {acc : SmppEsmeData × List SmppQueuedPdu} (h : (acc.1.sessions.find? r).isSome) :
    ∃ q ∈ (targets.foldl sendUnbind acc).2, q.smppEsme = some r := by
  induction targets generalizing acc with
  | nil => cases hr
  | cons esme targets ih =>
      by_cases hre : r = esme
      · -- sent now, and what is sent later takes nothing back
        subst hre
        rcases Option.isSome_iff_exists.mp h with ⟨e, he⟩
        have hid : e.id = r := Keyed.key_of_find? he
        have hq : unbindPdu e ∈ (sendUnbind acc r).2 := by
          simp [sendUnbind, he]
        refine ⟨unbindPdu e, ?_, by simp [hid]⟩
        simpa using mem_foldl_sendUnbind_of_mem hq
      · have hmem : r ∈ targets := by simpa [hre] using hr
        exact ih hmem (isSome_sendUnbind h)

/-! ## The four look-ups -/

/-- The session `r` is among those each look-up goes through when it is asked for `s'`. -/
structure ReachedAs (smppServer : SmppServer) (data : SmppEsmeData) (e : SmppEsme)
    (s' : Octstr) : Prop where
  bestReceiver : e.id ∈ bestReceiverBinds data (some s')
  bindLimit : e.id ∈ authBinds data s'
  unbind : ∃ q ∈ (smppEsmeUnbindCommand data (some s') none true).2.2, q.smppEsme = some e.id
  reader : e.isReader →
    e.id ∈ (smppEsmeGlobalGetReaders smppServer data [s'] false).map SmppEsme.id

theorem mem_bestReceiverBinds {r : EsmeRef} :
    r ∈ bestReceiverBinds data (some s') ↔ s' ≠ [] ∧ r ∈ bindsOf data (octstrToLower s') := by
  by_cases hnil : s' = []
  · simp [bestReceiverBinds, hnil]
  · simp [bestReceiverBinds, hnil]

theorem mem_sessionsOf {binds : List EsmeRef} {x : SmppEsme} :
    x ∈ sessionsOf data binds ↔ x.id ∈ binds ∧ data.sessions.find? x.id = some x := by
  constructor
  · intro hx
    rcases List.mem_filterMap.mp hx with ⟨r, hr, hfind⟩
    have hid : x.id = r := Keyed.key_of_find? hfind
    exact ⟨by simpa [hid] using hr, by simpa [hid] using hfind⟩
  · rintro ⟨hmem, hfind⟩
    exact List.mem_filterMap.mpr ⟨x.id, hmem, hfind⟩

theorem mem_foldl_betterReceiver {es : List SmppEsme} {best : Option SmppEsme}
    (h : es.foldl betterReceiver best = some e) : best = some e ∨ e ∈ es := by
  induction es generalizing best with
  | nil => exact Or.inl h
  | cons x es ih =>
      rcases ih h with hbetter | hmem
      · have hchoice : betterReceiver best x = some x ∨ betterReceiver best x = best := by
          cases best with
          | none => exact Or.inl rfl
          | some b =>
              simp only [betterReceiver]
              split
              · exact Or.inl rfl
              · split
                · exact Or.inl rfl
                · exact Or.inr rfl
        rcases hchoice with hx | hbest
        · rw [hx] at hbetter
          cases hbetter
          exact Or.inr (by simp)
        · rw [hbest] at hbetter
          exact Or.inl hbetter
      · exact Or.inr (by simp [hmem])

/-- The best receiver has room, and is a session of the account. -/
theorem bestReceiver_spec {systemId : Option Octstr}
    (h : smppEsmeFindBestReceiver data systemId = some e) :
    e.hasRoom = true ∧ e.id ∈ bestReceiverBinds data systemId ∧
      data.sessions.find? e.id = some e := by
  rcases mem_foldl_betterReceiver h with hnone | hmem
  · cases hnone
  · rcases List.mem_filter.mp hmem with ⟨hsession, hroom⟩
    exact ⟨hroom, mem_sessionsOf.mp hsession⟩

theorem mem_keys_iff {key : Octstr} :
    key ∈ data.esmes.entries.map SmppEsmeGlobal.systemId ↔ (data.esmes.find? key).isSome := by
  constructor
  · intro h
    rcases List.mem_map.mp h with ⟨g, hg, hkey⟩
    exact Option.isSome_iff_exists.mpr ⟨g, Keyed.find?_eq_some_iff.mpr ⟨hg, hkey⟩⟩
  · intro h
    rcases Option.isSome_iff_exists.mp h with ⟨g, hg⟩
    rcases Keyed.find?_eq_some_iff.mp hg with ⟨hmem, hkey⟩
    exact List.mem_map.mpr ⟨g, hmem, hkey⟩

/-- An account with a bind is an entry of the dictionary. -/
theorem isSome_of_mem_bindsOf {key : Octstr} {r : EsmeRef} (h : r ∈ bindsOf data key) :
    (data.esmes.find? key).isSome := by
  unfold bindsOf at h
  cases hf : data.esmes.find? key with
  | none => simp [hf] at h
  | some g => rfl

theorem mem_readers {x : SmppEsme} {names : List Octstr} :
    x ∈ smppEsmeGlobalGetReaders smppServer data names false ↔
      ∃ key, x ∈ sessionsOf data (bindsOf data key) ∧ x.isReader ∧
        (smppServer.databaseEnableQueue → key ∈ names) := by
  constructor
  · intro hx
    rcases List.mem_flatMap.mp hx with ⟨key, hkey, hreader⟩
    rcases List.mem_filter.mp hreader with ⟨hsession, hcan⟩
    refine ⟨key, hsession, hcan, ?_⟩
    intro hqueue
    simp only [hqueue, if_true, readerKeys, List.mem_filter] at hkey
    exact hkey.1
  · rintro ⟨key, hsession, hcan, hname⟩
    have hin : key ∈ data.esmes.entries.map SmppEsmeGlobal.systemId :=
      mem_keys_iff.mpr (isSome_of_mem_bindsOf (mem_sessionsOf.mp hsession).1)
    refine List.mem_flatMap.mpr ⟨key, ?_, List.mem_filter.mpr ⟨hsession, hcan⟩⟩
    cases hqueue : smppServer.databaseEnableQueue with
    | false => simpa using hin
    | true =>
        -- the backend's names are kept if they are keys of an account with a reader
        have hany : (sessionsOf data (bindsOf data key)).any (·.isReader) = true :=
          List.any_eq_true.mpr ⟨x, hsession, hcan⟩
        have hcontains : (data.esmes.entries.map SmppEsmeGlobal.systemId).contains key = true :=
          List.contains_iff_mem.mpr hin
        simp only [if_true, readerKeys]
        exact List.mem_filter.mpr ⟨hname hqueue, by rw [hcontains, hany]; rfl⟩

theorem unbindCommand_targets (hs' : s' ≠ []) {r : EsmeRef}
    (hr : r ∈ bindsOf data (octstrToLower s')) (hsession : (data.sessions.find? r).isSome) :
    ∃ q ∈ (smppEsmeUnbindCommand data (some s') none true).2.2, q.smppEsme = some r := by
  have hlen : s'.length ≠ 0 := by simpa using hs'
  have hfound := isSome_of_mem_bindsOf hr
  have hsent : (smppEsmeUnbindCommand data (some s') none true).2.2 =
      ((unbindTargets data s' none).foldl sendUnbind (data, [])).2 := by
    simp [smppEsmeUnbindCommand, hlen, hfound]
  rw [hsent]
  exact exists_unbind_of_mem hr hsession

/-! ## When all four agree -/

/-- The spelling a look-up uses is the one the account was entered under. -/
def SpelledAs (smppServer : SmppServer) (e : SmppEsme) (s s' : Octstr) : Prop :=
  s ≠ [] ∧ octstrToLower s = s ∧
    (smppServer.databaseEnableQueue = true ∧ e.isReader = true → s' = s)

theorem reachedAs_of_spelledAs (hs : e.systemId = some s)
    (hspell : octstrToLower s' = octstrToLower s)
    (hadd : smppEsmeGlobalAdd smppServer data e = some data')
    (h : SpelledAs smppServer e s s') : ReachedAs smppServer data' e s' := by
  rcases h with ⟨hne, hlower, hexact⟩
  have hs' : s' ≠ [] := by
    intro hnil
    apply hne
    simpa [hnil, octstrToLower, eq_comm] using hspell
  have hkey : octstrToLower s' = s := hspell.trans hlower
  have hmem := mem_bindsOf_globalAdd_self hs hadd
  have hsession := session_globalAdd hs hadd
  refine ⟨?_, ?_, ?_, ?_⟩
  · exact mem_bestReceiverBinds.mpr ⟨hs', by simpa [hkey] using hmem⟩
  · -- the bind limit looks under the lower-case name too
    simpa [authBinds, hkey] using hmem
  · exact unbindCommand_targets hs' (by simpa [hkey] using hmem) (by simp [hsession])
  · intro hreader
    refine List.mem_map.mpr ⟨e.setGlobal s, mem_readers.mpr ⟨s, ?_, hreader, ?_⟩, rfl⟩
    · exact mem_sessionsOf.mpr ⟨hmem, hsession⟩
    · intro hqueue
      simp [hexact ⟨hqueue, hreader⟩]

theorem spelledAs_of_reachedAs (hs : e.systemId = some s)
    (hspell : octstrToLower s' = octstrToLower s)
    (hadd : smppEsmeGlobalAdd smppServer data e = some data')
    (hfresh : ∀ key, e.id ∉ bindsOf data key) (h : ReachedAs smppServer data' e s') :
    SpelledAs smppServer e s s' := by
  rcases mem_bestReceiverBinds.mp h.bestReceiver with ⟨hs', hbest⟩
  have hkey : octstrToLower s' = s := (mem_bindsOf_globalAdd hs hadd hfresh _).mp hbest
  refine ⟨?_, hspell.symm.trans hkey, ?_⟩
  · intro hnil
    apply hs'
    simpa [hnil, octstrToLower] using hkey
  · -- the readers are looked up under the names as the backend spells them
    rintro ⟨hqueue, hreader⟩
    rcases List.mem_map.mp (h.reader hreader) with ⟨x, hx, hid⟩
    rcases mem_readers.mp hx with ⟨key, hsession, _, hname⟩
    have hbind : e.id ∈ bindsOf data' key := by
      simpa [hid] using (mem_sessionsOf.mp hsession).1
    have hks : key = s := (mem_bindsOf_globalAdd hs hadd hfresh key).mp hbind
    have hks' : key = s' := by simpa using hname hqueue
    exact hks'.symm.trans hks

/-- After a session was entered under `s`, every look-up for the spelling `s'` reaches it where
`s` is a lower-case name and the backend lists it as `s`; and, for a session entered for the first
time, nowhere else. -/
theorem reachedAs_globalAdd (hs : e.systemId = some s)
    (hspell : octstrToLower s' = octstrToLower s)
    (hadd : smppEsmeGlobalAdd smppServer data e = some data') :
    (SpelledAs smppServer e s s' → ReachedAs smppServer data' e s') ∧
      ((∀ key, e.id ∉ bindsOf data key) →
        ReachedAs smppServer data' e s' → SpelledAs smppServer e s s') :=
  ⟨reachedAs_of_spelledAs hs hspell hadd, spelledAs_of_reachedAs hs hspell hadd⟩

/-- A connected receiver of the account `systemId`. -/
def sampleReceiver (systemId : Octstr) : SmppEsme :=
  { smppEsmeCreate 1 with
    systemId := some systemId
    connected := true
    bindType := smppEsmeReceive }

def sampleServer : SmppServer where
  databaseEnableQueue := true
  databaseStorePrimary := false
  waitAckAction := smppWaitackDisconnect

theorem reachedAs_globalAdd_lower :
    ∃ data', smppEsmeGlobalAdd sampleServer smppEsmeInit (sampleReceiver (octstrImm "test")) =
        some data' ∧
      ReachedAs sampleServer data' (sampleReceiver (octstrImm "test")) (octstrImm "test") := by
  have hadd : (smppEsmeGlobalAdd sampleServer smppEsmeInit
      (sampleReceiver (octstrImm "test"))).isSome = true := by decide
  rcases Option.isSome_iff_exists.mp hadd with ⟨data', hdata'⟩
  have hspelled : SpelledAs sampleServer (sampleReceiver (octstrImm "test")) (octstrImm "test")
      (octstrImm "test") := ⟨by decide, by decide, fun _ => rfl⟩
  exact ⟨data', hdata', (reachedAs_globalAdd rfl rfl hdata').1 hspelled⟩

/-- A client that binds as `Test` is not found under its own spelling. -/
theorem reachedAs_globalAdd_mixed_case :
    ∃ data', smppEsmeGlobalAdd sampleServer smppEsmeInit (sampleReceiver (octstrImm "Test")) =
        some data' ∧
      ¬ ReachedAs sampleServer data' (sampleReceiver (octstrImm "Test")) (octstrImm "Test") := by
  have hadd : (smppEsmeGlobalAdd sampleServer smppEsmeInit
      (sampleReceiver (octstrImm "Test"))).isSome = true := by decide
  rcases Option.isSome_iff_exists.mp hadd with ⟨data', hdata'⟩
  refine ⟨data', hdata', ?_⟩
  intro h
  have hbinds := (mem_bestReceiverBinds.mp h.bestReceiver).2
  rw [bindsOf_globalAdd rfl hdata'] at hbinds
  revert hbinds
  decide

end Ksmppd
