import Ksmppd.Sessions.Accounts
import Ksmppd.Sessions.Effects

/-!
# Quiet — steps that leave the lists of sessions alone

Most steps only move PDUs and counters.  They enter no session anywhere, take none out, and
neither connect nor authenticate one.
-/

namespace Ksmppd
namespace Sessions

open Lib
open Submit (SmKind Session SubmitCall Keeps ResultKeeps accountBinds)

variable {n : Nat} {s t u : ServerState n} {data : SmppEsmeData} {e e' d : SmppEsme}
  {session : Session} {calls : List SubmitCall} {kind : SmKind} {inserted : Bool}

/-! ## Quiet steps -/

structure Quiet (s t : ServerState n) : Prop where
  accounts : accountsOf t.data = accountsOf s.data
  cleanupQueue : t.cleanupQueue = s.cleanupQueue
  destroyed : t.destroyed = s.destroyed
  binding : t.binding = s.binding
  esmeCounter : t.esmeCounter = s.esmeCounter
  sessions : ∀ id e', t.find? id = some e' → ∃ e, s.find? id = some e ∧
    (e'.connected = true → e.connected = true) ∧ e'.authenticated = e.authenticated

theorem Quiet.refl (s : ServerState n) : Quiet s s :=
  ⟨rfl, rfl, rfl, rfl, rfl, fun _ e h => ⟨e, h, fun hc => hc, rfl⟩⟩

theorem Quiet.trans (h : Quiet s t) (h' : Quiet t u) : Quiet s u where
  accounts := h'.accounts.trans h.accounts
  cleanupQueue := h'.cleanupQueue.trans h.cleanupQueue
  destroyed := h'.destroyed.trans h.destroyed
  binding := h'.binding.trans h.binding
  esmeCounter := h'.esmeCounter.trans h.esmeCounter
  sessions := by
    intro id e'' h''
    rcases h'.sessions id e'' h'' with ⟨e', he', hconnected', hauth'⟩
    rcases h.sessions id e' he' with ⟨e, he, hconnected, hauth⟩
    exact ⟨e, he, fun hc => hconnected (hconnected' hc), hauth'.trans hauth⟩

theorem quiet_sessions_put {id : EsmeRef} (hfind : s.find? e.id = some d)
    (hconnected : e.connected = true → d.connected = true)
    (hauth : e.authenticated = d.authenticated) (h : (s.put e).find? id = some e') :
    ∃ e₁, s.find? id = some e₁ ∧ (e'.connected = true → e₁.connected = true) ∧
      e'.authenticated = e₁.authenticated := by
  rcases find?_put_cases h with ⟨rfl, rfl⟩ | ⟨-, hold⟩
  · exact ⟨d, hfind, hconnected, hauth⟩
  · exact ⟨e', hold, fun hc => hc, rfl⟩

theorem quiet_put (hfind : s.find? e.id = some d)
    (hconnected : e.connected = true → d.connected = true)
    (hauth : e.authenticated = d.authenticated) : Quiet s (s.put e) :=
  ⟨rfl, rfl, rfl, rfl, rfl, fun _ _ h => quiet_sessions_put hfind hconnected hauth h⟩

/-- The queues do not matter. -/
theorem Quiet.of_eq (h : Quiet s t) (hdata : u.data = t.data)
    (hcleanup : u.cleanupQueue = t.cleanupQueue) (hdestroyed : u.destroyed = t.destroyed)
    (hbinding : u.binding = t.binding) (hcounter : u.esmeCounter = t.esmeCounter) : Quiet s u where
  accounts := by rw [hdata]; exact h.accounts
  cleanupQueue := hcleanup.trans h.cleanupQueue
  destroyed := hdestroyed.trans h.destroyed
  binding := hbinding.trans h.binding
  esmeCounter := hcounter.trans h.esmeCounter
  sessions := by
    intro id e' he'
    apply h.sessions id e'
    unfold ServerState.find? at he' ⊢
    rw [hdata] at he'
    exact he'

theorem quiet_stopListening (hfind : s.find? e.id = some d)
    (hauth : e.authenticated = d.authenticated) : Quiet s (s.stopListening e) :=
  quiet_put hfind (fun h => by cases h) hauth

/-! ## Calls of the handlers -/

theorem quiet_make (hfind : s.find? session.esme.id = some d)
    (hconnected : session.esme.connected = true → d.connected = true)
    (hauth : session.esme.authenticated = d.authenticated)
    (haccount : session.account.map accountBinds = (sessionOf s.data e).account.map accountBinds) :
    Quiet s (s.make kind session calls) where
  accounts := accountsOf_putSession haccount
  cleanupQueue := rfl
  destroyed := rfl
  binding := rfl
  esmeCounter := rfl
  sessions := fun _ _ h => quiet_sessions_put hfind hconnected hauth h

/-- The handlers and callbacks leave the session and the account they are given as they are. -/
theorem quiet_make_of_keeps (hfind : s.find? e.id = some d)
    (hconnected : e.connected = true → d.connected = true)
    (hauth : e.authenticated = d.authenticated)
    (hkeeps : Keeps (sessionOf s.data e) session calls) : Quiet s (s.make kind session calls) := by
  have hid : session.esme.id = e.id := by
    rw [hkeeps.esme]
    rfl
  refine quiet_make (hid ▸ hfind) ?_ ?_ hkeeps.account
  · rw [hkeeps.esme]
    exact hconnected
  · rw [hkeeps.esme]
    exact hauth

/-! ## Labels -/

theorem steady_quiet (s₀ : ServerState n) : Steady (Quiet s₀) where
  bearerbox := fun _ _ h => h.of_eq rfl rfl rfl rfl rfl
  make := fun _ e _ _ _ h hfind hkeeps =>
    h.trans (quiet_make_of_keeps (e := e) (d := e) hfind (fun hc => hc) rfl hkeeps)
  stopListening := fun _ _ h hfind => h.trans (quiet_stopListening hfind rfl)

theorem quiet_finish {r : Submit.Result} (hfind : s.find? e.id = some d)
    (hconnected : e.connected = true → d.connected = true)
    (hauth : e.authenticated = d.authenticated) (hkeeps : ResultKeeps (sessionOf s.data e) r)
    (h : s.finish kind inserted r = some t) : Quiet s t := by
  refine (steady_quiet s).finish ?_ h
  intro session calls hr
  exact quiet_make_of_keeps hfind hconnected hauth (hkeeps session calls hr)

theorem quiet_inbound {i : Nat} {link : BearerboxLink} {kannel : Kannel} {env : Submit.Env}
    {esme : EsmeRef} {pdu : SmppPdu}
    (h : s.inbound i link kannel env inserted esme pdu = some t) : Quiet s t := by
  rcases Option.bind_eq_some_iff.mp h with ⟨e, hfind, hrest⟩
  rcases Option.bind_eq_some_iff.mp hrest with ⟨handled, hhandle, hfinish⟩
  rcases Option.map_eq_some_iff.mp hfinish with ⟨s', hs', rfl⟩
  rcases keeps_handlePdu hhandle with ⟨openAcks, hkeeps⟩
  -- the entry leaves the queue, the handler makes its calls, and the callback it ran makes its own
  let u : ServerState n := { s with inboundQueue := s.inboundQueue.eraseIdx i }
  have hu : Quiet s u := (Quiet.refl s).of_eq rfl rfl rfl rfl rfl
  have hs'' : Quiet u s' := by
    refine quiet_finish (e := { consumed s.now e with openAcks := openAcks }) (d := e)
      (find?_id hfind) (fun hc => hc) rfl ?_ hs'
    intro session calls hr
    cases hr
    exact hkeeps
  exact (steady_quiet s).settleAll (hu.trans hs'') handled.settled

theorem quiet_routingDone {i : Nat} {routeStatus : Submit.SmppRouteStatus} {env : Submit.Env}
    (h : step s (.routingDone i routeStatus env inserted) = some t) : Quiet s t := by
  cases hget : s.routing[i]? with
  | none => simp [step, hget] at h
  | some r =>
      rcases r with ⟨kind, q⟩
      simp only [step, hget] at h
      rcases Option.bind_eq_some_iff.mp h with ⟨esme, hq, hrest⟩
      rcases Option.bind_eq_some_iff.mp hrest with ⟨e, hfind, hfinish⟩
      let u : ServerState n := { s with routing := s.routing.eraseIdx i }
      have hu : Quiet s u := (Quiet.refl s).of_eq rfl rfl rfl rfl rfl
      have howner : q.smppEsme = some (sessionOf s.data e).esme.id :=
        hq.trans (congrArg some (id_of_find? hfind).symm)
      -- only the count of pending routing requests differs from the stored record
      refine hu.trans (quiet_finish (e := (sessionOf s.data e).routingDone.esme) (d := e)
        (find?_id hfind) (fun hc => hc) rfl ?_ hfinish)
      exact Submit.resultKeeps_routingDoneOf howner routeStatus

/-- The steps that only move PDUs and counters, or close a connection. -/
def IsQuietLabel : Label n → Prop
  | .receive _ _ | .inbound _ _ _ _ _ | .routingDone _ _ _ _ | .bearerbox _ | .addOutbound _ _
  | .disconnect _ | .passBegin | .passEnd | .tick _ => True
  | _ => False

theorem quiet_step {l : Label n} (hl : IsQuietLabel l) (h : step s l = some t) : Quiet s t := by
  cases l with
  | receive esme pdu =>
      rcases Option.map_eq_some_iff.mp h with ⟨e, hfind, rfl⟩
      have hput : Quiet s (s.put { e with inboundQueued := e.inboundQueued + 1 }) :=
        quiet_put (d := e) (find?_id hfind) (fun hc => hc) rfl
      exact hput.of_eq rfl rfl rfl rfl rfl
  | inbound i link kannel env inserted =>
      simp only [step] at h
      split at h
      · cases h
      · split at h
        · -- binds have their own two steps
          cases h
        · exact quiet_inbound h
        · cases h
  | routingDone i routeStatus env inserted => exact quiet_routingDone h
  | bearerbox l =>
      simp only [step] at h
      split at h
      · rcases Option.bind_eq_some_iff.mp h with ⟨b, -, hb⟩
        exact (steady_quiet s).absorb (Quiet.refl s) hb
      · cases h
  | addOutbound esme q =>
      simp only [step] at h
      split at h
      · rcases Option.map_eq_some_iff.mp h with ⟨e, hfind, rfl⟩
        have hput : Quiet s (s.put (numbered q e)) :=
          quiet_put (d := e) (find?_id hfind) (fun hc => hc) rfl
        exact hput.of_eq rfl rfl rfl rfl rfl
      · cases h
  | disconnect esme =>
      rcases Option.map_eq_some_iff.mp h with ⟨e, hfind, rfl⟩
      exact quiet_stopListening (find?_id hfind) rfl
  | passBegin =>
      simp only [step] at h
      split at h
      · cases h
      · cases h
        exact (Quiet.refl s).of_eq rfl rfl rfl rfl rfl
  | passEnd =>
      simp only [step] at h
      split at h
      · cases h
        exact (Quiet.refl s).of_eq rfl rfl rfl rfl rfl
      · cases h
  | tick seconds =>
      cases h
      exact (Quiet.refl s).of_eq rfl rfl rfl rfl rfl
  | _ => cases hl

end Sessions
end Ksmppd
