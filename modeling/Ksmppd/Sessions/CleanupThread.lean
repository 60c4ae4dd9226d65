import Ksmppd.Dispatch.Model
import Ksmppd.Sessions.Lists

/-!
# CleanupThread — one bind after the other

`smpp_esme_cleanup_thread` goes through the binds of every account, then through the cleanup queue,
and sleeps.  A bind whose connection is gone or that has been silent for three enquire-link intervals
is not taken over into the new list of binds; one that has been silent for more than one is sent an
`enquire_link`.  The other threads run between two binds as they do between two passes, as far as
the locks let them.
-/

namespace Ksmppd
namespace Sessions

open Lib
open Submit (SmKind Session SubmitCall Keeps ResultKeeps accountBinds)

variable {n : Nat}

/-! ## One bind -/

/-- `smpp_queues_send_enquire_link`. -/
def enquireLinkPdu (e : SmppEsme) : SmppQueuedPdu :=
  { smppQueuedPduCreate with
    pdu := some (.enquireLink e.sequenceNumber)
    smppEsme := some e.id }

/-- An open ack that was sent too long ago is taken out, and its callback is called. -/
def ServerState.expireOne (s : ServerState n) (link : BearerboxLink) (timeSent : Option Int → Int)
    (esme : EsmeRef) (id : Option Int) : Option (ServerState n) :=
  (s.find? esme).bind (fun e =>
    match e.openAcks.find? id with
    -- 'Could have been removed by another thread'
    | none => some s
    | some q =>
        if 0 < timeSent id ∧ (s.now : Int) - timeSent id > Dispatch.smppEsmeWaitAckTime then
          q.callback.bind (fun cb =>
            (runCallback s.smppServer link { q with smppServer := true }
              smppEsmeCommandStatusWaitAckTimeout cb).map (fun calls =>
                calls.foldl ServerState.settle (s.put { e with openAcks := e.openAcks.remove id })))
        else some s)

def ServerState.expireAll (s : ServerState n) (link : BearerboxLink) (timeSent : Option Int → Int)
    (esme : EsmeRef) : List (Option Int) → Option (ServerState n)
  | [] => some s
  | id :: ids =>
      (s.expireOne link timeSent esme id).bind (fun t => t.expireAll link timeSent esme ids)

/-- What becomes of a bind the thread looks at. -/
inductive Fate
  | dropped
  | asked
  | left
  deriving DecidableEq, Repr

/-- The body of the loop over the binds, for bind `j` of an account.  The silence is measured before
the open acks are looked at, whose callbacks may close the connection. -/
def ServerState.lookAt (s : ServerState n) (link : BearerboxLink) (timeSent : Option Int → Int)
    (key : Octstr) (j : Nat) : Option (ServerState n × Fate) :=
  ((bindsOf s.data key)[j]?).bind (fun esme => (s.find? esme).bind (fun e =>
    if e.connected then
      let diff := s.now - e.timeLastPdu
      (s.expireAll link timeSent esme (e.openAcks.entries.map SmppQueuedPdu.id)).bind (fun t =>
        if diff > smppEsmeDefaultEnquireLinkInterval then
          if diff / smppEsmeDefaultEnquireLinkInterval > 2 then
            (step t (.sweep key j)).map (fun u => (u, .dropped))
          else
            (t.find? esme).bind (fun e' =>
              (step t (.addOutbound esme (enquireLinkPdu e'))).map (fun u => (u, .asked)))
        else some (t, .left))
    else (step s (.sweep key j)).map (fun u => (u, .dropped))))

/-! ## The thread -/

/-- The server with the place the cleanup thread has reached. -/
structure CleanupState (n : Nat) where
  server : ServerState n
  /-- The accounts of this pass, from the one the thread is at. -/
  keys : List Octstr
  /-- The bind of that account it looks at next. -/
  position : Nat
  /-- When the thread has begun this pass, and when the last pass that it has completed. -/
  began : Nat
  completed : Nat
  /-- The `enquire_link`s it has queued, each with the time. -/
  links : List (EsmeRef × Nat)

inductive CleanupLabel (n : Nat)
  | other (l : Label n)
  | begin
  | look (link : BearerboxLink) (timeSent : Option Int → Int)
  /-- The new list of binds of an account is complete. -/
  | next
  | destroy (esme : EsmeRef)
  | finish

/-- The step is not one of the cleanup thread. -/
def ofOthers : Label n → Bool
  | .passBegin | .passEnd | .sweep _ _ | .destroy _ => false
  | _ => true

/-- The session the thread looks at next. -/
def CleanupState.current (c : CleanupState n) : Option EsmeRef :=
  c.keys.head?.bind (fun key => (bindsOf c.server.data key)[c.position]?)

/-- Go on from a bind: the next one has its place, if it was taken out. -/
def CleanupState.advance (c : CleanupState n) (esme : EsmeRef) (r : ServerState n × Fate) :
    CleanupState n :=
  { c with
    server := r.1
    position := if r.2 = .dropped then c.position else c.position + 1
    links := if r.2 = .asked then c.links ++ [(esme, c.server.now)] else c.links }

def cleanupStep (c : CleanupState n) : CleanupLabel n → Option (CleanupState n)
  | .other l =>
      if ofOthers l then (step c.server l).map (fun t => { c with server := t }) else none
  | .begin =>
      (step c.server .passBegin).map (fun t =>
        { c with
          server := t
          keys := t.data.esmes.entries.map SmppEsmeGlobal.systemId
          position := 0
          began := t.now })
  | .look link timeSent =>
      match c.keys with
      | [] => none
      | key :: _ =>
          c.current.bind (fun esme =>
            (c.server.lookAt link timeSent key c.position).map (c.advance esme))
  | .next =>
      match c.keys with
      | [] => none
      | key :: keys =>
          if (bindsOf c.server.data key).length ≤ c.position then
            some { c with keys := keys, position := 0 }
          else none
  -- the cleanup queue comes after the accounts
  | .destroy esme =>
      if c.keys = [] then (step c.server (.destroy esme)).map (fun t => { c with server := t })
      else none
  | .finish =>
      if c.keys = [] then
        (step c.server .passEnd).map (fun t => { c with server := t, completed := c.began })
      else none

def cleanupInit (smppServer : SmppServer) (ids : Fin n → Option Octstr) : CleanupState n where
  server := serverInit smppServer ids
  keys := []
  position := 0
  began := 0
  completed := 0
  links := []

/-- The binds the thread has still to look at in this pass. -/
def unvisited (c : CleanupState n) : List EsmeRef :=
  match c.keys with
  | [] => []
  | key :: keys =>
      (bindsOf c.server.data key).drop c.position ++ keys.flatMap (bindsOf c.server.data)

/-! ## What the other threads leave of a session -/

variable {s t u : ServerState n} {data : SmppEsmeData} {e e' d : SmppEsme} {session : Session}
  {calls : List SubmitCall} {kind : SmKind} {inserted : Bool} {id esme : EsmeRef}

/-- The accounts, the binds under way and the clock stay; a session was last heard when it was, or
it is heard now. -/
structure Aged (s t : ServerState n) : Prop where
  now : t.now = s.now
  cleaning : t.cleaning = s.cleaning
  binding : t.binding = s.binding
  esmeCounter : t.esmeCounter = s.esmeCounter
  accounts : accountsOf t.data = accountsOf s.data
  sessions : ∀ id e', t.find? id = some e' → ∃ e, s.find? id = some e ∧
    (e'.connected = true → e.connected = true) ∧
    (e'.timeLastPdu = e.timeLastPdu ∨ e'.timeLastPdu = s.now)

theorem Aged.refl (s : ServerState n) : Aged s s :=
  ⟨rfl, rfl, rfl, rfl, rfl, fun _ e h => ⟨e, h, fun hc => hc, Or.inl rfl⟩⟩

theorem Aged.trans (h : Aged s t) (h' : Aged t u) : Aged s u where
  now := h'.now.trans h.now
  cleaning := h'.cleaning.trans h.cleaning
  binding := h'.binding.trans h.binding
  esmeCounter := h'.esmeCounter.trans h.esmeCounter
  accounts := h'.accounts.trans h.accounts
  sessions := by
    intro id e'' he''
    rcases h'.sessions id e'' he'' with ⟨e', he', hconnected', htime'⟩
    rcases h.sessions id e' he' with ⟨e, he, hconnected, htime⟩
    refine ⟨e, he, fun hc => hconnected (hconnected' hc), ?_⟩
    rcases htime' with hsame | hheard
    · rw [hsame]
      exact htime
    · exact Or.inr (hheard.trans h.now)

theorem aged_put (hfind : s.find? e.id = some d)
    (hconnected : e.connected = true → d.connected = true)
    (htime : e.timeLastPdu = d.timeLastPdu ∨ e.timeLastPdu = s.now) : Aged s (s.put e) where
  now := rfl
  cleaning := rfl
  binding := rfl
  esmeCounter := rfl
  accounts := rfl
  sessions := by
    intro id e' he'
    rcases find?_put_cases he' with ⟨rfl, rfl⟩ | ⟨-, hold⟩
    · exact ⟨d, hfind, hconnected, htime⟩
    · exact ⟨e', hold, fun hc => hc, Or.inl rfl⟩

/-- The queues do not matter. -/
theorem Aged.of_eq (h : Aged s t) (hdata : u.data = t.data) (hnow : u.now = t.now)
    (hcleaning : u.cleaning = t.cleaning) (hbinding : u.binding = t.binding)
    (hcounter : u.esmeCounter = t.esmeCounter) : Aged s u where
  now := hnow.trans h.now
  cleaning := hcleaning.trans h.cleaning
  binding := hbinding.trans h.binding
  esmeCounter := hcounter.trans h.esmeCounter
  accounts := by rw [hdata]; exact h.accounts
  sessions := by
    intro id e' he'
    apply h.sessions id e'
    unfold ServerState.find? at he' ⊢
    rw [hdata] at he'
    exact he'

theorem aged_stopListening (hfind : s.find? e.id = some d)
    (htime : e.timeLastPdu = d.timeLastPdu ∨ e.timeLastPdu = s.now) : Aged s (s.stopListening e) :=
  aged_put hfind (fun h => by cases h) htime

theorem aged_cleanup (hfind : s.find? e.id = some d)
    (htime : e.timeLastPdu = d.timeLastPdu ∨ e.timeLastPdu = s.now) : Aged s (s.cleanup e) :=
  (aged_stopListening hfind htime).of_eq rfl rfl rfl rfl rfl

theorem aged_hangUp (hfind : s.find? e.id = some d)
    (htime : e.timeLastPdu = d.timeLastPdu ∨ e.timeLastPdu = s.now) : Aged s (s.hangUp e) := by
  unfold ServerState.hangUp
  split
  · exact aged_stopListening hfind htime
  · exact aged_cleanup hfind htime

theorem aged_make (hfind : s.find? e.id = some d)
    (hconnected : e.connected = true → d.connected = true)
    (htime : e.timeLastPdu = d.timeLastPdu ∨ e.timeLastPdu = s.now)
    (hkeeps : Keeps (sessionOf s.data e) session calls) : Aged s (s.make kind session calls) := by
  have hesme : session.esme = { e with
      outboundQueued := e.outboundQueued + (Submit.responsesOf calls).length
      pendingRouting := e.pendingRouting + (Submit.routesOf calls).length
      mtCounter := session.esme.mtCounter
      errorCounter := session.esme.errorCounter } := hkeeps.esme
  have hput : Aged s (s.put session.esme) := by
    rw [hesme]
    exact aged_put (d := d) hfind hconnected htime
  refine ⟨rfl, rfl, rfl, rfl, accountsOf_putSession hkeeps.account, ?_⟩
  exact hput.sessions

theorem steady_aged (s₀ : ServerState n) : Steady (Aged s₀) where
  bearerbox := fun _ _ h => h.of_eq rfl rfl rfl rfl rfl
  make := fun _ e _ _ _ h hfind hkeeps =>
    h.trans (aged_make (e := e) (d := e) hfind (fun hc => hc) (Or.inl rfl) hkeeps)
  stopListening := fun _ _ h hfind => h.trans (aged_stopListening hfind (Or.inl rfl))

theorem aged_finish {r : Submit.Result} (hfind : s.find? e.id = some d)
    (hconnected : e.connected = true → d.connected = true)
    (htime : e.timeLastPdu = d.timeLastPdu ∨ e.timeLastPdu = s.now)
    (hkeeps : ResultKeeps (sessionOf s.data e) r) (h : s.finish kind inserted r = some t) :
    Aged s t := by
  refine (steady_aged s).finish ?_ h
  intro session calls hr
  exact aged_make hfind hconnected htime (hkeeps session calls hr)

theorem aged_inbound {i : Nat} {link : BearerboxLink} {kannel : Kannel} {env : Submit.Env}
    {pdu : SmppPdu} (h : s.inbound i link kannel env inserted esme pdu = some t) : Aged s t := by
  rcases Option.bind_eq_some_iff.mp h with ⟨e, hfind, hrest⟩
  rcases Option.bind_eq_some_iff.mp hrest with ⟨handled, hhandle, hfinish⟩
  rcases Option.map_eq_some_iff.mp hfinish with ⟨s', hs', rfl⟩
  rcases keeps_handlePdu hhandle with ⟨openAcks, hkeeps⟩
  let v : ServerState n := { s with inboundQueue := s.inboundQueue.eraseIdx i }
  have hv : Aged s v := (Aged.refl s).of_eq rfl rfl rfl rfl rfl
  have hs'' : Aged v s' := by
    refine aged_finish (e := { consumed s.now e with openAcks := openAcks }) (d := e)
      (find?_id hfind) (fun hc => hc) (Or.inr rfl) ?_ hs'
    intro session calls hr
    cases hr
    exact hkeeps
  exact (steady_aged s).settleAll (hv.trans hs'') handled.settled

theorem aged_routingDone {i : Nat} {routeStatus : Submit.SmppRouteStatus} {env : Submit.Env}
    (h : step s (.routingDone i routeStatus env inserted) = some t) : Aged s t := by
  cases hget : s.routing[i]? with
  | none => simp [step, hget] at h
  | some r =>
      rcases r with ⟨kind, q⟩
      simp only [step, hget] at h
      rcases Option.bind_eq_some_iff.mp h with ⟨esme, hq, hrest⟩
      rcases Option.bind_eq_some_iff.mp hrest with ⟨e, hfind, hfinish⟩
      let v : ServerState n := { s with routing := s.routing.eraseIdx i }
      have hv : Aged s v := (Aged.refl s).of_eq rfl rfl rfl rfl rfl
      have howner : q.smppEsme = some (sessionOf s.data e).esme.id :=
        hq.trans (congrArg some (id_of_find? hfind).symm)
      refine hv.trans (aged_finish (e := (sessionOf s.data e).routingDone.esme) (d := e)
        (find?_id hfind) (fun hc => hc) (Or.inl rfl) ?_ hfinish)
      exact Submit.resultKeeps_routingDoneOf howner routeStatus

theorem aged_addOutbound {q : SmppQueuedPdu} (h : step s (.addOutbound esme q) = some t) :
    Aged s t := by
  simp only [step] at h
  split at h
  · rcases Option.map_eq_some_iff.mp h with ⟨e, hfind, rfl⟩
    have hput : Aged s (s.put (numbered q e)) :=
      aged_put (d := e) (find?_id hfind) (fun hc => hc) (Or.inl rfl)
    exact hput.of_eq rfl rfl rfl rfl rfl
  · cases h

theorem aged_outbound {i : Nat} (h : step s (.outbound i) = some t) : Aged s t := by
  rcases outbound_cases h with ⟨q, esme, e, -, -, hfind, rfl⟩
  let v : ServerState n := { s with outboundQueue := s.outboundQueue.eraseIdx i }
  have hv : Aged s v := (Aged.refl s).of_eq rfl rfl rfl rfl rfl
  have hfind' : v.find? (dequeued s.now e).id = some e := find?_id hfind
  split
  · exact hv.trans (aged_hangUp hfind' (Or.inl rfl))
  · exact hv.trans (aged_put (d := e) hfind' (fun hc => hc) (Or.inl rfl))

/-- A step of another thread that registers nothing and ends nothing. -/
theorem aged_step {l : Label n}
    (hl : match l with
      | .receive .. | .hangUp .. | .inbound .. | .routingDone .. | .bearerbox .. | .addOutbound ..
      | .outbound .. | .disconnect .. => True
      | _ => False)
    (ht : step s l = some t) : Aged s t := by
  cases l with
  | receive esme pdu =>
      rcases Option.map_eq_some_iff.mp ht with ⟨e, hfind, rfl⟩
      have hput : Aged s (s.put { e with inboundQueued := e.inboundQueued + 1 }) :=
        aged_put (d := e) (find?_id hfind) (fun hc => hc) (Or.inl rfl)
      exact hput.of_eq rfl rfl rfl rfl rfl
  | hangUp esme =>
      rcases Option.map_eq_some_iff.mp ht with ⟨e, hfind, rfl⟩
      exact aged_hangUp (find?_id hfind) (Or.inl rfl)
  | inbound i link kannel env inserted =>
      simp only [step] at ht
      split at ht
      · cases ht
      · split at ht
        · cases ht
        · exact aged_inbound ht
        · cases ht
  | routingDone i routeStatus env inserted => exact aged_routingDone ht
  | bearerbox l =>
      simp only [step] at ht
      split at ht
      · rcases Option.bind_eq_some_iff.mp ht with ⟨b, -, hb⟩
        exact (steady_aged s).absorb (Aged.refl s) hb
      · cases ht
  | addOutbound esme q => exact aged_addOutbound ht
  | outbound i => exact aged_outbound ht
  | disconnect esme =>
      rcases Option.map_eq_some_iff.mp ht with ⟨e, hfind, rfl⟩
      exact aged_stopListening (find?_id hfind) (Or.inl rfl)
  | accept | bindCheck _ _ _ | bindFinish _ | passBegin | passEnd | sweep _ _ | destroy _ | tick _
  | shutdown => exact absurd hl (fun h => h)

/-! ## Open acks that expire -/

theorem aged_expireOne {link : BearerboxLink} {timeSent : Option Int → Int} {k : Option Int}
    (h : s.expireOne link timeSent esme k = some t) : Aged s t := by
  rcases Option.bind_eq_some_iff.mp h with ⟨e, hfind, hrest⟩
  split at hrest
  · cases hrest
    exact Aged.refl s
  · split at hrest
    · rcases Option.bind_eq_some_iff.mp hrest with ⟨cb, -, hcalled⟩
      rcases Option.map_eq_some_iff.mp hcalled with ⟨calls, -, rfl⟩
      refine (steady_aged s).settleAll ?_ calls
      exact aged_put (d := e) (find?_id hfind) (fun hc => hc) (Or.inl rfl)
    · cases hrest
      exact Aged.refl s

theorem aged_expireAll {link : BearerboxLink} {timeSent : Option Int → Int}
    {ks : List (Option Int)} (h : s.expireAll link timeSent esme ks = some t) : Aged s t := by
  induction ks generalizing s with
  | nil =>
      cases h
      exact Aged.refl _
  | cons k ks ih =>
      rcases Option.bind_eq_some_iff.mp h with ⟨s', hfirst, hrest⟩
      exact (aged_expireOne hfirst).trans (ih hrest)

end Sessions
end Ksmppd
