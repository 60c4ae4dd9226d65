import Ksmppd.Delivery.Ledger
import Ksmppd.Dispatch.Model

/-!
# Effects — what a step does to the open acks

All steps come down to five effects on the open acks and the outbound queue: nothing, PDUs are sent
to a session, an open ack is closed, a PDU gets its `time_sent`, or it is sent.  What holds in every
run is proved over these.
-/

namespace Ksmppd
namespace Dispatch

open Lib
open Delivery (StoredPdu PduStore Origin numberPdu partPdu invoke)

/-! ## Frames -/

/-- A session record whose open acks stay as they are, and whose counter only grows. -/
structure SameAcks (e e' : SmppEsme) : Prop where
  id : e'.id = e.id
  openAcks : e'.openAcks = e.openAcks
  sequenceNumber : e.sequenceNumber ≤ e'.sequenceNumber
  maxOpenAcks : e'.maxOpenAcks = e.maxOpenAcks

theorem SameAcks.refl (e : SmppEsme) : SameAcks e e := ⟨rfl, rfl, Nat.le_refl _, rfl⟩

/-- The deliver_sm in the outbound queue. -/
def waiting (s : DispatchState) : List SmppQueuedPdu :=
  s.outboundQueue.filter (fun q => q.callback.isSome)

/-- The deliver_sm the outbound threads are about to send. -/
def inHand (s : DispatchState) : List SmppQueuedPdu :=
  s.sending.filter (fun q => q.callback.isSome)

/-- A deliver_sm with a callback. -/
structure Deliverable (q : SmppQueuedPdu) : Prop where
  callback : q.callback.isSome
  pdu : ∃ p, q.pdu = some (.deliverSm p)

/-- Nothing happens to the open acks; `F` is what the requeue thread gets. -/
structure Quiet (F : SmppQueuedPdu → Prop) (s t : DispatchState) : Prop where
  sessions : ∀ e' ∈ t.data.sessions.entries, (∃ e ∈ s.data.sessions.entries, SameAcks e e') ∨
    (isNew s e' ∧ e'.id ∈ t.esmeIds)
  esmeIds : ∀ esme ∈ s.esmeIds, esme ∈ t.esmeIds
  waiting : (waiting t).Sublist (waiting s)
  inHand : inHand t = inHand s
  log : t.log = s.log
  stored : ∀ q ∈ t.stored, q ∈ s.stored ∨ (F q ∧ Deliverable q)
  smppServer : t.smppServer = s.smppServer
  backend : t.backend = s.backend

/-- Only the PDU store has changed. -/
def OnlyStore (s t : DispatchState) : Prop := t = { s with store := t.store, times := t.times }

variable {s t u : DispatchState} {e e' : SmppEsme} {q : SmppQueuedPdu} {qs : List SmppQueuedPdu}
  {F : SmppQueuedPdu → Prop} {answers : Answers} {l : Label} {status : Int}

theorem quiet_refl (F : SmppQueuedPdu → Prop) (s : DispatchState) : Quiet F s s where
  sessions := fun e' he' => Or.inl ⟨e', he', SameAcks.refl e'⟩
  esmeIds := fun _ h => h
  waiting := List.Sublist.refl _
  inHand := rfl
  log := rfl
  stored := fun _ h => Or.inl h
  smppServer := rfl
  backend := rfl

theorem OnlyStore.refl (s : DispatchState) : OnlyStore s s := rfl

theorem OnlyStore.trans (hst : OnlyStore s t) (htu : OnlyStore t u) : OnlyStore s u := by
  unfold OnlyStore at *
  rw [htu, hst]

/-- A change of the store alone goes unnoticed. -/
theorem Quiet.onlyStore (h : Quiet F s t) (htu : OnlyStore t u) : Quiet F s u := by
  unfold OnlyStore at htu
  rw [htu]
  exact ⟨h.sessions, h.esmeIds, h.waiting, h.inHand, h.log, h.stored, h.smppServer, h.backend⟩

/-! ## The store -/

theorem onlyStore_addPdu (s : DispatchState) (q : SmppQueuedPdu) (globalId : Option Octstr) :
    OnlyStore s (s.addPdu q globalId) := by
  unfold DispatchState.addPdu
  split
  · split
    · rfl
    · rfl
  · rfl

theorem onlyStore_settle (h : s.settle q status answers = some t) : OnlyStore s t := by
  rcases Option.map_eq_some_iff.mp h with ⟨calls, -, rfl⟩
  -- the calls are made one after the other, whatever they are
  clear h
  induction calls generalizing s with
  | nil => exact OnlyStore.refl s
  | cons call calls ih =>
      have hcall : OnlyStore s (s.applyCall answers call) := by
        unfold DispatchState.applyCall
        split
        · exact onlyStore_addPdu _ _ _
        · rfl
      exact hcall.trans ih

theorem onlyStore_settleAll (h : s.settleAll answers qs = some t) : OnlyStore s t := by
  induction qs generalizing s with
  | nil =>
      rw [← Option.some.inj h]
      exact OnlyStore.refl s
  | cons q qs ih =>
      rcases Option.bind_eq_some_iff.mp h with ⟨u, hu, hrest⟩
      exact (onlyStore_settle hu).trans (ih hrest)

/-- The PDUs a fetch of the requeue thread may put into its list. -/
def fetchedBy (s : DispatchState) : Label → SmppQueuedPdu → Prop
  | .getQueued _ globalIds _, q => q.timeSent = 0 ∨
      ∃ service row, row.globalId ∈ globalIds ∧ q = fetchedPdu s service row
  | _, _ => False

/-! ## Sessions -/

/-- A record in place of one with the same open acks. -/
theorem quiet_put (hfind : s.data.sessions.find? e.id = some e) (hsame : SameAcks e e')
    (hsessions : t.data.sessions = s.data.sessions.put e')
    (ht : t = { s with data := t.data, cleanupQueue := t.cleanupQueue }) : Quiet F s t := by
  have hmem := (Keyed.find?_eq_some_iff.mp hfind).1
  refine ⟨?_, ?_, ?_, ?_, ?_, ?_, ?_, ?_⟩
  · -- every other session keeps its record
    intro x hx
    rw [hsessions] at hx
    rcases Keyed.mem_put.mp hx with rfl | ⟨hold, -⟩
    · exact Or.inl ⟨e, hmem, hsame⟩
    · exact Or.inl ⟨x, hold, SameAcks.refl x⟩
  · rw [ht]
    exact fun _ h => h
  · rw [ht]
    exact List.Sublist.refl _
  · rw [ht]
    rfl
  · rw [ht]
  · rw [ht]
    exact fun _ h => Or.inl h
  · rw [ht]
  · rw [ht]

/-! ## Open acks -/

/-- A condition on every open ack, which may speak about its session. -/
def OpenAcks (P : SmppEsme → SmppQueuedPdu → Prop) (s : DispatchState) : Prop :=
  ∀ e ∈ s.data.sessions.entries, ∀ q ∈ e.openAcks.entries, P e q

variable {P P' : SmppEsme → SmppQueuedPdu → Prop}

theorem openAcks_quiet (h : OpenAcks P s) (hquiet : Quiet F s t)
    (hsame : ∀ e e' q, SameAcks e e' → P e q → P' e' q) : OpenAcks P' t := by
  intro e' he' q hq
  rcases hquiet.sessions e' he' with ⟨e, he, hacks⟩ | ⟨hnew, -⟩
  · rw [hacks.openAcks] at hq
    exact hsame e e' q hacks (h e he q hq)
  · -- a session that was just bound has no open acks
    rw [hnew.2.1] at hq
    cases hq

theorem openAcks_setSession (h : OpenAcks P s) (hnew : ∀ q ∈ e'.openAcks.entries, P e' q) :
    OpenAcks P (s.setSession e') := by
  intro x hx
  rcases Keyed.mem_put.mp hx with rfl | ⟨hold, -⟩
  · exact hnew
  · exact h x hold

/-- Open acks that are left after one was closed. -/
theorem openAcks_close (h : OpenAcks P s) (hfind : s.data.sessions.find? e.id = some e)
    (id : Option Int) (hsame : ∀ q, P e q → P (closeAck e id) q) :
    OpenAcks P (s.setSession (closeAck e id)) := by
  apply openAcks_setSession h
  intro q hq
  exact hsame q (h e (Keyed.find?_eq_some_iff.mp hfind).1 q (Keyed.mem_remove.mp hq).1)

theorem find?_send (s : DispatchState) (e : SmppEsme) (q : SmppQueuedPdu) :
    (s.send e q).data.sessions.find? e.id = some (queueFor e (numberPdu e q)) :=
  Keyed.find?_put_self rfl

/-- What one PDU after the other keeps, all of them keep; `I` may speak about those still to come. -/
theorem sendAll_rule {esme : EsmeRef} {I : DispatchState → List SmppQueuedPdu → Prop}
    (hone : ∀ s e q qs, I s (q :: qs) → s.data.sessions.find? e.id = some e → e.id = esme →
      I (s.send e q) qs)
    (h : I s qs) (hsend : s.sendAll esme qs = some t) : I t [] := by
  induction qs generalizing s with
  | nil =>
      rw [← Option.some.inj hsend]
      exact h
  | cons q qs ih =>
      cases hfind : s.data.sessions.find? esme with
      | none =>
          simp [DispatchState.sendAll, hfind] at hsend
      | some e =>
          have hrest : (s.send e q).sendAll esme qs = some t := by
            simpa [DispatchState.sendAll, hfind] using hsend
          exact ih (hone s e q qs h (Keyed.find?_key hfind) (Keyed.key_of_find? hfind)) hrest

/-! ## Effects -/

/-- The session a dispatcher chooses. -/
def chosen (s : DispatchState) : Label → Option SmppEsme
  | .dispatch _ => s.stored.head?.bind (fun q => smppEsmeFindBestReceiver s.data q.systemId)
  | .deliver _ systemId _ => smppEsmeFindBestReceiver s.data systemId
  | .simulate systemId _ _ => smppEsmeFindBestReceiver s.data systemId
  | _ => none

/-- How many deliver_sm the chosen session gets. -/
def sentBy : Label → Nat
  | .dispatch _ => 1
  | .deliver _ _ parts => parts.length
  | .simulate _ _ _ => 1
  | _ => 0

inductive Effect (l : Label) (s t : DispatchState) : Prop
  | quiet (h : Quiet (fetchedBy s l) s t)
  /-- PDUs are sent to the best receiver: one, or the parts of a message. -/
  | sends {stored : List SmppQueuedPdu} {e : SmppEsme} {qs : List SmppQueuedPdu}
      (hstored : ∀ q ∈ stored, q ∈ s.stored) (hchosen : chosen s l = some e)
      (hcount : qs.length = sentBy l)
      (hfrom : ∀ q ∈ qs, q ∈ s.stored ∨ (q.timeSent = 0 ∧ Deliverable q))
      (hsend : { s with stored := stored }.sendAll e.id qs = some t)
  /-- An open ack is closed. -/
  | closes {e : SmppEsme} {id : Option Int} (hfind : s.data.sessions.find? e.id = some e)
      (h : Quiet (fun _ => False) (s.setSession (closeAck e id)) t)
  /-- A deliver_sm leaves the queue and gets its `time_sent`. -/
  | stamps {q : SmppQueuedPdu} {outboundQueue : List SmppQueuedPdu} {e : SmppEsme} {now : Int}
      (hqueue : s.outboundQueue = q :: outboundQueue) (hcallback : q.callback.isSome)
      (hesme : q.smppEsme = some e.id) (hfind : s.data.sessions.find? e.id = some e)
      (ht : t = ({ s with outboundQueue := outboundQueue }.setSession
        (stampAck (unqueueOne e) q.id now)).hold { q with timeSent := now })
  /-- An outbound thread sends what it has in hand. -/
  | transmits {i : Nat} {q : SmppQueuedPdu} (hq : s.sending[i]? = some q)
      (ht : t = { s with sending := s.sending.eraseIdx i, log := s.log ++ [.sent q] })

/-! ## Quiet steps -/

theorem quiet_bind (h : act s (.bind e) = some t) : Quiet F s t := by
  simp only [act] at h
  split at h
  · rename_i hnew
    rcases Option.map_eq_some_iff.mp h with ⟨data, hadd, rfl⟩
    -- the session is put under its id, with the account it was added to
    have hsessions : ∃ key, data.sessions = s.data.sessions.put (e.setGlobal key) := by
      cases hkey : e.systemId with
      | none => simp [smppEsmeGlobalAdd, hkey] at hadd
      | some key => exact ⟨key, by rw [globalAdd_eq hkey hadd]⟩
    rcases hsessions with ⟨key, hsessions⟩
    refine ⟨?_, fun _ h => List.mem_cons_of_mem _ h, List.Sublist.refl _, rfl, rfl,
      fun _ h => Or.inl h, rfl, rfl⟩
    intro x hx
    simp only [hsessions, Keyed.mem_put] at hx
    rcases hx with rfl | ⟨hold, -⟩
    · exact Or.inr ⟨hnew, List.mem_cons_self⟩
    · exact Or.inl ⟨x, hold, SameAcks.refl x⟩
  · cases h

theorem quiet_rebind {esme : EsmeRef} {systemId : Octstr} {bindType : Nat}
    (h : act s (.rebind esme systemId bindType) = some t) : Quiet F s t := by
  rcases Option.bind_eq_some_iff.mp h with ⟨e, he, hrest⟩
  rcases Option.map_eq_some_iff.mp hrest with ⟨data, hadd, rfl⟩
  have hsame : SameAcks e (SmppEsme.setGlobal
      { e with systemId := some systemId, bindType := bindType } systemId) :=
    ⟨rfl, rfl, Nat.le_refl _, rfl⟩
  refine quiet_put (Keyed.find?_key he) hsame ?_ rfl
  rw [globalAdd_eq rfl hadd]

theorem quiet_cleanup {esme : EsmeRef} (h : act s (.cleanup esme) = some t) : Quiet F s t := by
  rcases Option.map_eq_some_iff.mp h with ⟨e, he, rfl⟩
  have hsame : SameAcks e { e with connected := false } := ⟨rfl, rfl, Nat.le_refl _, rfl⟩
  exact quiet_put (Keyed.find?_key he) hsame (Delivery.sessions_dropBind _ _) rfl

/-- A session that is destroyed leaves the others as they are. -/
theorem quiet_destroy {esme : EsmeRef} (h : act s (.destroy esme answers) = some t) :
    Quiet F s t := by
  rcases Option.bind_eq_some_iff.mp h with ⟨e, -, hrest⟩
  split at hrest
  · rcases Option.map_eq_some_iff.mp hrest with ⟨u, hu, rfl⟩
    -- the callbacks of its open acks change the store only
    have hstore := onlyStore_settleAll hu
    have hquiet : Quiet F s u := (quiet_refl F s).onlyStore hstore
    refine ⟨?_, hquiet.esmeIds, hquiet.waiting, hquiet.inHand, hquiet.log, hquiet.stored,
      hquiet.smppServer, hquiet.backend⟩
    intro x hx
    exact hquiet.sessions x (Keyed.mem_remove.mp hx).1
  · cases hrest

theorem quiet_addOutbound {esme : EsmeRef} {numbered : Bool}
    (h : act s (.addOutbound esme q numbered) = some t) : Quiet F s t := by
  rcases Option.bind_eq_some_iff.mp h with ⟨e, he, hrest⟩
  split at hrest
  · rename_i hplain
    cases hrest
    have hsame : SameAcks e (queuePlain e numbered) := by
      refine ⟨rfl, rfl, ?_, rfl⟩
      simp only [queuePlain]
      split
      · exact Nat.le_succ _
      · exact Nat.le_refl _
    have hset : Quiet F s (s.setSession (queuePlain e numbered)) :=
      quiet_put (Keyed.find?_key he) hsame rfl rfl
    refine ⟨hset.sessions, hset.esmeIds, ?_, hset.inHand, hset.log, hset.stored,
      hset.smppServer, hset.backend⟩
    -- a PDU without callback is none of those that wait for an ack
    simp [waiting, hplain.1]
  · cases hrest

/-! ## The requeue thread's fetch -/

theorem deliverable_fetchedPdu (service : Octstr) (row : StoredPdu) :
    Deliverable (fetchedPdu s service row) := ⟨rfl, row.pdu, rfl⟩

theorem deliverable_of_msgPdus {msgs : List QueuedMsg} (h : q ∈ msgPdus e msgs) :
    Deliverable q ∧ q.timeSent = 0 := by
  rcases List.mem_flatMap.mp h with ⟨m, -, hm⟩
  rcases List.mem_map.mp hm with ⟨p, -, rfl⟩
  exact ⟨⟨rfl, p, rfl⟩, rfl⟩

/-- Taking rows changes the store and the list of the requeue thread only. -/
theorem takeRows_spec {service : Octstr} {globalIds : List Octstr}
    (h : s.takeRows service globalIds = some t) :
    t = { s with store := t.store, stored := t.stored } ∧
      ∀ q ∈ t.stored, q ∈ s.stored ∨
        ∃ row, row.globalId ∈ globalIds ∧ q = fetchedPdu s service row := by
  induction globalIds generalizing s with
  | nil =>
      cases Option.some.inj h
      exact ⟨rfl, fun _ h => Or.inl h⟩
  -- the first row, and the rows after it
  | cons g gs ih =>
      rcases Option.bind_eq_some_iff.mp h with ⟨u, hu, hrest⟩
      rcases ih hrest with ⟨ht, hstored⟩
      unfold DispatchState.takeRow at hu
      split at hu
      · rename_i row hrow
        split at hu
        · cases hu
          refine ⟨ht, ?_⟩
          intro q hq
          rcases hstored q hq with hold | ⟨row', hmem, rfl⟩
          · rcases List.mem_append.mp hold with hs | hnew
            · exact Or.inl hs
            · refine Or.inr ⟨row, ?_, List.mem_singleton.mp hnew⟩
              rw [Keyed.key_of_find? hrow]
              exact List.mem_cons_self
          · exact Or.inr ⟨row', List.mem_cons_of_mem g hmem, rfl⟩
        · cases hu
      · cases hu

theorem quiet_getQueued {esme : EsmeRef} {globalIds : List Octstr} {msgs : List QueuedMsg}
    (h : act s (.getQueued esme globalIds msgs) = some t) :
    Quiet (fetchedBy s (.getQueued esme globalIds msgs)) s t := by
  rcases Option.bind_eq_some_iff.mp h with ⟨e, -, hroom⟩
  split at hroom
  · rcases Option.bind_eq_some_iff.mp hroom with ⟨service, -, hrest⟩
    rcases Option.map_eq_some_iff.mp hrest with ⟨u, hu, rfl⟩
    rcases takeRows_spec hu with ⟨heq, hstored⟩
    have hquiet : Quiet (fetchedBy s (.getQueued esme globalIds msgs)) s
        { s with store := u.store } := (quiet_refl _ s).onlyStore rfl
    rw [heq]
    refine ⟨hquiet.sessions, hquiet.esmeIds, hquiet.waiting, hquiet.inHand, hquiet.log, ?_,
      hquiet.smppServer, hquiet.backend⟩
    intro q hq
    -- a PDU of the store, or one of a message
    rcases List.mem_append.mp hq with hfetched | hmsg
    · rcases hstored q hfetched with hold | ⟨row, hmem, rfl⟩
      · exact Or.inl hold
      · exact Or.inr ⟨Or.inr ⟨service, row, hmem, rfl⟩, deliverable_fetchedPdu service row⟩
    · rcases deliverable_of_msgPdus hmsg with ⟨hdeliver, htime⟩
      exact Or.inr ⟨Or.inl htime, hdeliver⟩
  · cases hroom

/-! ## Dispatchers -/

/-- A dispatcher of one PDU sends it, or runs its callback. -/
theorem effect_dispatchOne {stored : List SmppQueuedPdu} {systemId : Option Octstr}
    {pduFor : SmppEsme → SmppQueuedPdu} {refuse : DispatchState → Option DispatchState}
    (hstored : ∀ q ∈ stored, q ∈ s.stored)
    (hchosen : chosen s l = smppEsmeFindBestReceiver s.data systemId) (hcount : sentBy l = 1)
    (hfrom : ∀ e, pduFor e ∈ s.stored ∨ ((pduFor e).timeSent = 0 ∧ Deliverable (pduFor e)))
    (hrefuse : ∀ t, refuse { s with stored := stored } = some t →
      OnlyStore { s with stored := stored } t)
    (h : { s with stored := stored }.dispatchOne systemId pduFor refuse = some t) :
    Effect l s t := by
  unfold DispatchState.dispatchOne at h
  split at h
  · rename_i e hbest
    refine .sends hstored (hchosen.trans hbest) ?_ ?_ h
    · rw [hcount]
      rfl
    · intro q hq
      rw [List.mem_singleton.mp hq]
      exact hfrom e
  · -- without a receiver only its callback runs
    have hshorter : Quiet (fetchedBy s l) s { s with stored := stored } :=
      ⟨fun e' he' => Or.inl ⟨e', he', SameAcks.refl e'⟩, fun _ h => h, List.Sublist.refl _, rfl,
        rfl, fun q hq => Or.inl (hstored q hq), rfl, rfl⟩
    exact .quiet (hshorter.onlyStore (hrefuse t h))

theorem onlyStore_parkSimulated (h : s.parkSimulated q answers = some t) : OnlyStore s t := by
  unfold DispatchState.parkSimulated at h
  split at h
  · split at h
    · exact (onlyStore_addPdu s q answers.globalId).trans (onlyStore_settle h)
    · exact onlyStore_settle h
  · exact onlyStore_settle h

theorem effect_dispatch (h : act s (.dispatch answers) = some t) :
    Effect (.dispatch answers) s t := by
  simp only [act] at h
  split at h
  · cases h
  · rename_i q stored hqueue
    refine effect_dispatchOne ?_ (by simp [chosen, hqueue]) rfl ?_ (fun _ => onlyStore_settle) h
    · intro q' hq'
      rw [hqueue]
      exact List.mem_cons_of_mem q hq'
    · intro e
      left
      rw [hqueue]
      exact List.mem_cons_self

theorem effect_deliver {origin : Origin} {systemId : Option Octstr} {parts : List DeliverSm}
    (h : act s (.deliver origin systemId parts) = some t) :
    Effect (.deliver origin systemId parts) s t := by
  rcases Option.bind_eq_some_iff.mp h with ⟨e, hbest, hsend⟩
  refine .sends (fun _ h => h) hbest (List.length_map _) ?_ hsend
  intro q hq
  rcases List.mem_map.mp hq with ⟨p, -, rfl⟩
  right
  cases origin with
  | bearerbox b id => exact ⟨rfl, rfl, p, rfl⟩
  | stored globalId => exact ⟨rfl, rfl, p, rfl⟩

theorem effect_simulate {systemId : Option Octstr} {p : DeliverSm}
    (h : act s (.simulate systemId p answers) = some t) :
    Effect (.simulate systemId p answers) s t := by
  have hone : { s with stored := s.stored }.dispatchOne systemId
      (fun e => { simulationPdu systemId p with sequence := e.sequenceNumber })
      (fun s' => s'.parkSimulated (simulationPdu systemId p) answers) = some t := h
  refine effect_dispatchOne (fun _ h => h) rfl rfl ?_ (fun _ => onlyStore_parkSimulated) hone
  intro e
  exact Or.inr ⟨rfl, rfl, p, rfl⟩

/-! ## The outbound threads -/

theorem effect_consume {now : Int} (h : act s (.consume now) = some t) : Effect l s t := by
  simp only [act] at h
  split at h
  · cases h
  · rename_i q outboundQueue hqueue
    rcases Option.map_eq_some_iff.mp h with ⟨e, he, ht⟩
    rcases Option.bind_eq_some_iff.mp he with ⟨esme, hesme, hfind⟩
    have hid : e.id = esme := Keyed.key_of_find? hfind
    subst hid
    -- the queue is shorter by its first PDU
    have hshorter : (waiting { s with outboundQueue := outboundQueue }).Sublist (waiting s) := by
      have hsub : outboundQueue.Sublist s.outboundQueue := by
        rw [hqueue]
        exact List.sublist_cons_self q outboundQueue
      exact hsub.filter _
    have hsame : SameAcks e (unqueueOne e) := ⟨rfl, rfl, Nat.le_refl _, rfl⟩
    have hset : Quiet (fetchedBy s l) s (s.setSession (unqueueOne e)) :=
      quiet_put hfind hsame rfl rfl
    split at ht
    · split at ht
      · rename_i hcallback
        exact .stamps hqueue hcallback hesme hfind ht.symm
      · -- a PDU without callback is only passed on
        rename_i hplain
        subst ht
        refine .quiet ⟨hset.sessions, hset.esmeIds, hshorter, ?_, hset.log, hset.stored,
          hset.smppServer, hset.backend⟩
        simp [inHand, DispatchState.hold, DispatchState.setSession, hplain]
    · subst ht
      exact .quiet ⟨hset.sessions, hset.esmeIds, hshorter, hset.inHand, hset.log, hset.stored,
        hset.smppServer, hset.backend⟩

/-! ## Acks -/

theorem effect_ack {esme : EsmeRef} {sequenceNumber commandStatus : Int}
    (h : act s (.ack esme sequenceNumber commandStatus answers) = some t) : Effect l s t := by
  rcases Option.bind_eq_some_iff.mp h with ⟨e, hfind, hrest⟩
  split at hrest
  · exact .closes (Keyed.find?_key hfind) ((quiet_refl _ _).onlyStore (onlyStore_settle hrest))
  · -- nothing stands under the number
    rw [← Option.some.inj hrest]
    exact .quiet (quiet_refl _ s)

/-- What the cleanup thread holds of an open ack is not seen. -/
theorem quiet_examined (x : Option Examined) : Quiet F s { s with examined := x } :=
  ⟨fun e' he' => Or.inl ⟨e', he', SameAcks.refl e'⟩, fun _ h => h, List.Sublist.refl _, rfl, rfl,
    fun _ h => Or.inl h, rfl, rfl⟩

theorem quiet_examine {esme : EsmeRef} {sequenceNumber now : Int}
    (h : act s (.examine esme sequenceNumber now) = some t) : Quiet F s t := by
  rcases Option.bind_eq_some_iff.mp h with ⟨e, -, hrest⟩
  split at hrest
  · rw [← Option.some.inj hrest]
    exact quiet_examined _
  · cases hrest

theorem effect_decide (h : act s (.decide answers) = some t) : Effect l s t := by
  rcases Option.bind_eq_some_iff.mp h with ⟨x, -, hrest⟩
  rcases Option.bind_eq_some_iff.mp hrest with ⟨e, hfind, hrest⟩
  split at hrest
  · split at hrest
    · -- the open ack is closed before its callback runs
      have hquiet : Quiet (fun _ => False) (s.setSession (closeAck e (some x.sequenceNumber)))
          ({ s with examined := none }.setSession (closeAck e (some x.sequenceNumber))) :=
        quiet_examined none
      exact .closes (Keyed.find?_key hfind) (hquiet.onlyStore (onlyStore_settle hrest))
    · rw [← Option.some.inj hrest]
      exact .quiet (quiet_examined none)
  · rw [← Option.some.inj hrest]
    exact .quiet (quiet_examined none)

/-- A chosen session is the best receiver of an account. -/
theorem bestReceiver_of_chosen (h : chosen s l = some e) :
    ∃ systemId, smppEsmeFindBestReceiver s.data systemId = some e := by
  cases l with
  | dispatch answers =>
      rcases Option.bind_eq_some_iff.mp h with ⟨q, -, hbest⟩
      exact ⟨q.systemId, hbest⟩
  | deliver origin systemId parts => exact ⟨systemId, h⟩
  | simulate systemId p answers => exact ⟨systemId, h⟩
  | _ => cases h

/-- Every step has one of the five effects. -/
theorem step_effect (h : step s l = some t) : Effect l s t := by
  have hact : act s l = some t := by
    unfold step at h
    split at h
    · cases h
    · exact h
  cases l with
  | bind e => exact .quiet (quiet_bind hact)
  | rebind esme systemId bindType => exact .quiet (quiet_rebind hact)
  | disconnect esme =>
      rcases Option.map_eq_some_iff.mp hact with ⟨e, hfind, rfl⟩
      have hsame : SameAcks e { e with connected := false } := ⟨rfl, rfl, Nat.le_refl _, rfl⟩
      exact .quiet (quiet_put (Keyed.find?_key hfind) hsame rfl rfl)
  | cleanup esme => exact .quiet (quiet_cleanup hact)
  | destroy esme answers => exact .quiet (quiet_destroy hact)
  | getQueued esme globalIds msgs => exact .quiet (quiet_getQueued hact)
  | dispatch answers => exact effect_dispatch hact
  | deliver origin systemId parts => exact effect_deliver hact
  | simulate systemId p answers => exact effect_simulate hact
  | addOutbound esme q numbered => exact .quiet (quiet_addOutbound hact)
  | consume now => exact effect_consume hact
  | transmit i =>
      rcases Option.map_eq_some_iff.mp hact with ⟨q, hq, rfl⟩
      exact .transmits hq rfl
  | ack esme sequenceNumber commandStatus answers => exact effect_ack hact
  | examine esme sequenceNumber now => exact .quiet (quiet_examine hact)
  | decide answers => exact effect_decide hact

end Dispatch
end Ksmppd
