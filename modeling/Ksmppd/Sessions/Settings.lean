import Ksmppd.Lib.Transition
import Ksmppd.Sessions.Accounts
import Ksmppd.Sessions.Effects
import Ksmppd.Submit.Settings

/-!
# Settings — whose answer an account is configured by

The throughput, the bind limit, prepaid billing and the store of an account are set by every bind
that is accepted under its name, and by nothing else: whatever the other threads do in between, an
account has the settings of the last answer of the authentication backend.  They hold for all its
sessions, those bound under earlier answers included.
-/

namespace Ksmppd
namespace Sessions

open Lib
open Submit (SmKind Session SubmitCall SameAccount ResultSame uncounted)

variable {n : Nat} {s t u : ServerState n} {data : SmppEsmeData} {e : SmppEsme}
  {session : Session} {calls : List SubmitCall} {kind : SmKind} {inserted : Bool}

/-! ## Settings -/

/-- What a bind sets in its account. -/
structure AccountSettings where
  throughput : Rat
  maxBinds : Int
  enablePrepaidBilling : Bool
  databaseStorePrimary : Bool
  deriving DecidableEq

def accountSettings (g : SmppEsmeGlobal) : AccountSettings where
  throughput := g.throughput
  maxBinds := g.maxBinds
  enablePrepaidBilling := g.enablePrepaidBilling
  databaseStorePrimary := g.databaseStorePrimary

/-- The settings an answer of the backend asks for. -/
def grantedSettings (smppServer : SmppServer) (r : SmppEsmeAuthResult) : AccountSettings where
  throughput := r.throughput
  maxBinds := r.maxBinds
  enablePrepaidBilling := r.enablePrepaidBilling
  databaseStorePrimary := smppEsmeEffectiveDatabaseStorePrimary smppServer r

/-- The settings of the account under a name, where there is one. -/
def settingsUnder (data : SmppEsmeData) (key : Octstr) : Option AccountSettings :=
  (data.esmes.find? key).map accountSettings

/-! ## The binds that were accepted -/

/-- The bind a step accepts: the name as it was typed, and the answer of the backend. -/
def accepts (s : ServerState n) : Label n → Option (Octstr × SmppEsmeAuthResult)
  | .bindFinish i =>
      (s.binding[i]?).bind (fun b => b.authResult.bind (fun r =>
        b.pdu.systemId.map (fun key => (key, r))))
  | _ => none

/-- The binds accepted so far, the last one first; the server forgets them when it shuts down. -/
def acceptedAfter (s : ServerState n) (granted : List (Octstr × SmppEsmeAuthResult))
    (l : Label n) : List (Octstr × SmppEsmeAuthResult) :=
  match l with
  -- the accounts are destroyed
  | .shutdown => []
  | _ => (accepts s l).toList ++ granted

/-- The server and the binds it has accepted. -/
structure GrantState (n : Nat) where
  server : ServerState n
  granted : List (Octstr × SmppEsmeAuthResult)

def grantStep (s : GrantState n) (l : Label n) : Option (GrantState n) :=
  (step s.server l).map (fun t =>
    { server := t, granted := acceptedAfter s.server s.granted l })

def grantInit (smppServer : SmppServer) (ids : Fin n → Option Octstr) : GrantState n where
  server := serverInit smppServer ids
  granted := []

/-! ## What leaves them alone -/

/-- The same settings under every name. -/
structure SameSettings (s t : ServerState n) : Prop where
  settings : settingsUnder t.data = settingsUnder s.data
  smppServer : t.smppServer = s.smppServer

theorem SameSettings.refl (s : ServerState n) : SameSettings s s := ⟨rfl, rfl⟩

theorem SameSettings.trans (h : SameSettings s t) (h' : SameSettings t u) : SameSettings s u :=
  ⟨h'.settings.trans h.settings, h'.smppServer.trans h.smppServer⟩

theorem accountSettings_of_uncounted {a b : SmppEsmeGlobal} (h : uncounted a = uncounted b) :
    a.systemId = b.systemId ∧ accountSettings a = accountSettings b := by
  simp only [uncounted, SmppEsmeGlobal.mk.injEq] at h
  -- the counters of the account are left out on both sides
  rcases h with ⟨hsystemId, hthroughput, -, -, hmaxBinds, hprepaid, hprimary, -⟩
  exact ⟨hsystemId, by simp [accountSettings, hthroughput, hmaxBinds, hprepaid, hprimary]⟩

/-- An account put in place of one with the same settings. -/
theorem settingsUnder_put {g a : SmppEsmeGlobal} (hg : data.esmes.find? a.systemId = some g)
    (h : accountSettings a = accountSettings g) :
    settingsUnder { data with esmes := data.esmes.put a } = settingsUnder data := by
  funext key
  unfold settingsUnder
  -- the name of the account itself, and every other name
  by_cases hkey : key = a.systemId
  · subst hkey
    have hput : (data.esmes.put a).find? a.systemId = some a := Keyed.find?_put_self rfl
    simp [hput, hg, h]
  · have hput : (data.esmes.put a).find? key = data.esmes.find? key := Keyed.find?_put_of_ne hkey
    simp [hput]

/-- A handler writes back the account it has found, with other counters. -/
theorem settingsUnder_putSession (h : SameAccount (sessionOf data e) session) :
    settingsUnder (putSession data session) = settingsUnder data := by
  cases haccount : session.account with
  | none =>
      funext key
      simp [putSession, haccount, settingsUnder]
  | some a =>
      unfold SameAccount at h
      rw [haccount] at h
      rcases Option.map_eq_some_iff.mp h.symm with ⟨g, hg, huncounted⟩
      -- the handler found its account under the name the session points to
      rcases Option.bind_eq_some_iff.mp hg with ⟨key, -, hfind⟩
      rcases accountSettings_of_uncounted huncounted with ⟨hsystemId, hsettings⟩
      -- and writes it back under the name the account has, which is that one
      have hkey : key = a.systemId := (Keyed.key_of_find? hfind).symm.trans hsystemId
      have hput := settingsUnder_put (hkey ▸ hfind) hsettings.symm
      funext k
      simpa [putSession, haccount, settingsUnder] using congrFun hput k

theorem sameSettings_make (h : SameAccount (sessionOf s.data e) session) :
    SameSettings s (s.make kind session calls) :=
  ⟨settingsUnder_putSession h, rfl⟩

theorem sameSettings_put (s : ServerState n) (e : SmppEsme) : SameSettings s (s.put e) := ⟨rfl, rfl⟩

theorem sameSettings_stopListening (s : ServerState n) (e : SmppEsme) :
    SameSettings s (s.stopListening e) := sameSettings_put s _

theorem sameSettings_hangUp (s : ServerState n) (e : SmppEsme) : SameSettings s (s.hangUp e) := by
  unfold ServerState.hangUp
  split <;> exact ⟨rfl, rfl⟩

theorem sameSettings_settle (s : ServerState n) (c : Call) : SameSettings s (s.settle c) := by
  cases c with
  | esmeDisconnect esme =>
      cases hfind : s.find? esme with
      | none => simpa [ServerState.settle, hfind] using SameSettings.refl s
      | some e => simpa [ServerState.settle, hfind] using sameSettings_stopListening s e
  | _ => exact SameSettings.refl s

theorem sameSettings_settleAll (s : ServerState n) (cs : List Call) :
    SameSettings s (cs.foldl ServerState.settle s) := by
  induction cs generalizing s with
  | nil => exact SameSettings.refl s
  | cons c cs ih => exact (sameSettings_settle s c).trans (ih (s.settle c))

/-! ## Handlers and callbacks -/

theorem outlasts_sameSettings (s₀ : ServerState n) : OutlastsCallbacks (SameSettings s₀) where
  bearerbox := fun _ _ h => h.trans ⟨rfl, rfl⟩
  callback := fun _ _ _ _ _ session calls h _ _ hresult =>
    h.trans (sameSettings_make (Submit.resultSame_callbackOf _ _ session calls hresult))

theorem sameSettings_finish {r : Submit.Result} (hr : ResultSame (sessionOf s.data e) r)
    (h : s.finish kind inserted r = some t) : SameSettings s t := by
  refine (outlasts_sameSettings s).finish ?_ h
  intro session calls hresult
  exact sameSettings_make (hr session calls hresult)

theorem sameAccount_handlePdu {smppServer : SmppServer} {link : BearerboxLink} {kannel : Kannel}
    {env : Submit.Env} {pdu : SmppPdu} {handled : Handled} {s₀ : Session}
    (h : handlePdu smppServer link kannel env s₀ pdu = some handled) :
    SameAccount s₀ handled.session := by
  have hsubmit : ∀ {r : Submit.Result}, ResultSame s₀ r → ofSubmit r = some handled →
      SameAccount s₀ handled.session := by
    intro r hr hsome
    rcases Option.map_eq_some_iff.mp hsome with ⟨⟨session, calls⟩, hresult, rfl⟩
    exact hr session calls hresult
  unfold handlePdu at h
  split at h
  · cases h
    exact Submit.sameAccount_of_eq rfl
  · cases h
    exact Submit.sameAccount_of_eq rfl
  · exact hsubmit (Submit.resultSame_handleSm _) h
  · exact hsubmit (Submit.resultSame_handleSm _) h
  · rcases Option.bind_eq_some_iff.mp h with ⟨s₁, hload, hacked⟩
    rcases Option.map_eq_some_iff.mp hload with ⟨a, -, rfl⟩
    rcases Option.map_eq_some_iff.mp hacked with ⟨settled, -, rfl⟩
    exact Submit.sameAccount_of_eq rfl
  · cases h
    exact Submit.sameAccount_of_eq rfl

theorem sameSettings_inbound {i : Nat} {link : BearerboxLink} {kannel : Kannel}
    {env : Submit.Env} {esme : EsmeRef} {pdu : SmppPdu}
    (h : s.inbound i link kannel env inserted esme pdu = some t) : SameSettings s t := by
  rcases Option.bind_eq_some_iff.mp h with ⟨e, -, hrest⟩
  rcases Option.bind_eq_some_iff.mp hrest with ⟨handled, hhandle, hfinish⟩
  rcases Option.map_eq_some_iff.mp hfinish with ⟨s', hs', rfl⟩
  let u : ServerState n := { s with inboundQueue := s.inboundQueue.eraseIdx i }
  have hu : SameSettings s u := ⟨rfl, rfl⟩
  have hcalls : SameSettings u s' := by
    refine sameSettings_finish (e := consumed s.now e) ?_ hs'
    intro session calls hr
    cases hr
    exact sameAccount_handlePdu hhandle
  -- the callbacks of acks come last, and at most close a connection
  exact hu.trans (hcalls.trans (sameSettings_settleAll s' handled.settled))

/-! ## Binds -/

/-- An accepted bind sets the account under its name, and no other. -/
theorem settingsUnder_handleBind {smppServer : SmppServer} {p : Bind} {r : SmppEsmeAuthResult}
    {data' : SmppEsmeData} {q : SmppQueuedPdu}
    (h : smppQueuesHandleBindPdu smppServer data e p (some r) = some (data', q)) :
    ∃ key, p.systemId = some key ∧ settingsUnder data' =
      Function.update (settingsUnder data) key (some (grantedSettings smppServer r)) := by
  rcases handleBind_some h with ⟨key, data₁, hkey, hadd, rfl, -⟩
  refine ⟨key, hkey, ?_⟩
  have hsystemId : (authenticate e p).systemId = some key := hkey
  simp only [smppEsmeGlobalAdd, hsystemId, Option.some.injEq] at hadd
  -- the account is put twice, each time under the name that was typed
  have hentered : ((smppEsmeGlobalOf smppServer data key).produceBind
      (authenticate e p).id).systemId = key := smppEsmeGlobalOf_systemId _ _ _
  have hconfigured : (configureGlobal smppServer r
      (smppEsmeGlobalOf smppServer data₁ key)).systemId = key := smppEsmeGlobalOf_systemId _ _ _
  have hesmes : data₁.esmes = data.esmes.put ((smppEsmeGlobalOf smppServer data key).produceBind
      (authenticate e p).id) := by rw [← hadd]
  funext k
  dsimp only [settingsUnder]
  by_cases hk : k = key
  · rw [hk, Keyed.find?_put_self hconfigured, Function.update_self]
    rfl
  · have hk : k ≠ key := hk
    rw [Keyed.find?_put_of_ne (hk.trans_eq hconfigured.symm), hesmes,
      Keyed.find?_put_of_ne (hk.trans_eq hentered.symm), Function.update_of_ne hk]
    rfl

/-- A step that accepts no bind and is not the shutdown leaves all settings alone. -/
theorem sameSettings_step {l : Label n} (hl : l ≠ .shutdown) (haccepts : accepts s l = none)
    (h : step s l = some t) : SameSettings s t := by
  cases l with
  | accept =>
      cases h
      exact ⟨rfl, rfl⟩
  | receive esme pdu =>
      rcases Option.map_eq_some_iff.mp h with ⟨e, -, rfl⟩
      exact ⟨rfl, rfl⟩
  | hangUp esme =>
      rcases Option.map_eq_some_iff.mp h with ⟨e, -, rfl⟩
      exact sameSettings_hangUp s e
  | inbound i link kannel env inserted =>
      simp only [step] at h
      split at h
      · cases h
      · split at h
        · cases h
        · exact sameSettings_inbound h
        · cases h
  | bindCheck i denied authResult =>
      rcases bindCheck_cases h with ⟨esme, p, e, -, -, -, rfl⟩
      exact ⟨rfl, rfl⟩
  | bindFinish i =>
      rcases bindFinish_cases h with ⟨b, e, data, q, hget, -, hhandle, rfl⟩
      cases hauth : b.authResult with
      | none =>
          -- a refused bind changes the record of its session only
          simp only [hauth, smppQueuesHandleBindPdu, Option.some.injEq, Prod.mk.injEq] at hhandle
          rcases hhandle with ⟨rfl, -⟩
          exact ⟨rfl, rfl⟩
      -- an accepted bind is what the hypothesis rules out
      | some r =>
          rw [hauth] at hhandle
          rcases settingsUnder_handleBind hhandle with ⟨key, hkey, -⟩
          simp [accepts, hget, hauth, hkey] at haccepts
  | routingDone i routeStatus env inserted =>
      cases hget : s.routing[i]? with
      | none => simp [step, hget] at h
      | some x =>
          rcases x with ⟨kind, q⟩
          simp only [step, hget] at h
          rcases Option.bind_eq_some_iff.mp h with ⟨esme, -, hrest⟩
          rcases Option.bind_eq_some_iff.mp hrest with ⟨e, -, hfinish⟩
          let u : ServerState n := { s with routing := s.routing.eraseIdx i }
          have hu : SameSettings s u := ⟨rfl, rfl⟩
          exact hu.trans (sameSettings_finish (e := e) (Submit.resultSame_routingDoneOf _ _) hfinish)
  | bearerbox l =>
      simp only [step] at h
      split at h
      · rcases Option.bind_eq_some_iff.mp h with ⟨b, -, hb⟩
        exact (outlasts_sameSettings s).absorb (SameSettings.refl s) hb
      · cases h
  | addOutbound esme q =>
      simp only [step] at h
      split at h
      · rcases Option.map_eq_some_iff.mp h with ⟨e, -, rfl⟩
        exact ⟨rfl, rfl⟩
      · cases h
  | outbound i =>
      rcases outbound_cases h with ⟨q, esme, e, -, -, -, rfl⟩
      have hu : SameSettings s { s with outboundQueue := s.outboundQueue.eraseIdx i } := ⟨rfl, rfl⟩
      split
      · exact hu.trans (sameSettings_hangUp _ _)
      · exact hu.trans (sameSettings_put _ _)
  | disconnect esme =>
      rcases Option.map_eq_some_iff.mp h with ⟨e, -, rfl⟩
      exact sameSettings_stopListening s e
  | passBegin =>
      simp only [step] at h
      split at h
      · cases h
      · cases h
        exact ⟨rfl, rfl⟩
  | passEnd =>
      simp only [step] at h
      split at h
      · cases h
        exact ⟨rfl, rfl⟩
      · cases h
  | sweep key j =>
      -- the account loses a bind, and nothing else of it is touched
      rcases sweep_cases h with ⟨g, esme, e, -, hg, -, -, -, rfl⟩
      have hfind : s.data.esmes.find? (withoutBind g j).systemId = some g := Keyed.find?_key hg
      exact ⟨settingsUnder_put hfind rfl, rfl⟩
  | destroy esme =>
      rcases destroy_cases h with ⟨e, -, -, -, -, rfl⟩
      exact ⟨rfl, rfl⟩
  | tick seconds =>
      cases h
      exact ⟨rfl, rfl⟩
  | shutdown => exact absurd rfl hl

/-! ## Runs -/

/-- The settings the binds accepted so far have asked for. -/
def lastGranted (smppServer : SmppServer) (granted : List (Octstr × SmppEsmeAuthResult))
    (key : Octstr) : Option AccountSettings :=
  (granted.lookup key).map (grantedSettings smppServer)

theorem lastGranted_cons (smppServer : SmppServer) (key : Octstr) (r : SmppEsmeAuthResult)
    (granted : List (Octstr × SmppEsmeAuthResult)) :
    lastGranted smppServer ((key, r) :: granted) =
      Function.update (lastGranted smppServer granted) key (some (grantedSettings smppServer r)) := by
  funext k
  -- the last answer shadows the earlier ones under its name
  by_cases hk : k = key
  · simp [lastGranted, hk]
  · have hne : (k == key) = false := by simpa using hk
    simp [lastGranted, List.lookup_cons, hne, Function.update_of_ne hk]

/-- The accounts are those with an accepted bind, under its settings. -/
structure Configured (smppServer : SmppServer) (s : GrantState n) : Prop where
  server : s.server.smppServer = smppServer
  settings : settingsUnder s.server.data = lastGranted smppServer s.granted

theorem configured_init (smppServer : SmppServer) (ids : Fin n → Option Octstr) :
    Configured smppServer (grantInit smppServer ids) where
  server := rfl
  settings := rfl

theorem configured_step {smppServer : SmppServer} {s t : GrantState n} {l : Label n}
    (h : Configured smppServer s) (hstep : grantStep s l = some t) : Configured smppServer t := by
  rcases Option.map_eq_some_iff.mp hstep with ⟨server, hserver, rfl⟩
  by_cases hl : l = .shutdown
  · -- all accounts are gone, and so are the binds that were accepted
    subst hl
    simp only [step] at hserver
    split at hserver
    · cases hserver
    · cases hserver
      exact ⟨h.server, rfl⟩
  cases haccepts : accepts s.server l with
  -- any other step leaves the accounts and the list of binds as they are
  | none =>
      have hsame := sameSettings_step hl haccepts hserver
      have hgranted : acceptedAfter s.server s.granted l = s.granted := by
        unfold acceptedAfter
        split
        · exact absurd rfl hl
        · simp [haccepts]
      refine ⟨hsame.smppServer.trans h.server, ?_⟩
      rw [hgranted]
      exact hsame.settings.trans h.settings
  | some x =>
      -- only the second half of a bind accepts one
      cases l with
      | bindFinish i =>
          rcases bindFinish_cases hserver with ⟨b, e, data, q, hget, -, hhandle, rfl⟩
          simp only [accepts, hget, Option.bind_some] at haccepts
          rcases Option.bind_eq_some_iff.mp haccepts with ⟨r, hauth, hname⟩
          rcases Option.map_eq_some_iff.mp hname with ⟨key, hkey, rfl⟩
          rw [hauth, h.server] at hhandle
          rcases settingsUnder_handleBind hhandle with ⟨key', hkey', hsettings⟩
          have hgranted : acceptedAfter s.server s.granted (.bindFinish i) =
              (key, r) :: s.granted := by
            simp [acceptedAfter, accepts, hget, hauth, hkey]
          obtain rfl : key = key' := Option.some.inj (hkey.symm.trans hkey')
          refine ⟨h.server, ?_⟩
          rw [hgranted, lastGranted_cons, ← h.settings]
          exact hsettings
      | _ => cases haccepts

theorem configured_run {smppServer : SmppServer} {ids : Fin n → Option Octstr}
    {ok : GrantState n → Label n → Prop} {ls : List (Label n)} {s : GrantState n}
    (hrun : Run grantStep ok (grantInit smppServer ids) ls s) : Configured smppServer s :=
  hrun.invariant (Configured smppServer) (fun _ _ _ h _ hstep => configured_step h hstep)
    (configured_init smppServer ids)

/-- A client binds twice, and is asked to pay the second time. -/
def sampleRebound : List (Label 0) :=
  [.accept, .accept, .receive 0 (.bind (sampleBind (octstrImm "test"))),
    .bindCheck 0 false (some { maxBinds := 0 }), .bindFinish 0,
    .receive 1 (.bind (sampleBind (octstrImm "test"))),
    .bindCheck 0 false (some { maxBinds := 2, enablePrepaidBilling := true }), .bindFinish 0]

end Sessions
end Ksmppd
