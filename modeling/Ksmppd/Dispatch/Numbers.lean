import Ksmppd.Dispatch.AckLimit

/-!
# Numbers — sequence numbers of deliver_sm and their acks

A session has one counter for its deliver_sm, its enquire_link and its unbind.  An open ack stands
under the decimal text of the number it got; Kannel packs the low 32 bits of the number, and they
are what the client echoes.
-/

namespace Ksmppd
namespace Dispatch

open Lib
open Delivery (numberPdu partPdu)

variable {s t : DispatchState} {e e' : SmppEsme} {q q' : SmppQueuedPdu} {qs : List SmppQueuedPdu}
  {F : SmppQueuedPdu → Prop} {l : Label} {ls : List Label}

/-! ## On the wire -/

/-- The sequence number in a deliver_sm. -/
def pduNumber (q : SmppQueuedPdu) : Option Int :=
  match q.pdu with
  | some (.deliverSm p) => some p.sequenceNumber
  | _ => none

/-- What is packed of a sequence number. -/
def wireNumber (n : Int) : Int := n % 2 ^ 32

theorem wireNumber_of_lt {k : Nat} (h : k < 2 ^ 32) : wireNumber k = k := by
  unfold wireNumber
  omega

/-- The open ack `smpp_queues_process_ack` finds for a sequence number. -/
def ackFor (e : SmppEsme) (sequenceNumber : Int) : Option SmppQueuedPdu :=
  e.openAcks.find? (some sequenceNumber)

/-! ## Numbering -/

/-- The session is the PDU's, and the number under which it stands is in the PDU and was used up. -/
structure Numbered (e : SmppEsme) (q : SmppQueuedPdu) : Prop where
  smppEsme : q.smppEsme = some e.id
  number : ∃ k : Nat, q.id = some (k : Int) ∧ pduNumber q = some (k : Int) ∧ k < e.sequenceNumber

structure Numbering (s : DispatchState) : Prop where
  ids : ∀ e ∈ s.data.sessions.entries, e.id ∈ s.esmeIds
  openAcks : OpenAcks Numbered s
  stored : ∀ q ∈ s.stored, Deliverable q

theorem Numbered.of_sameAcks (hsame : SameAcks e e') (h : Numbered e q) : Numbered e' q := by
  rcases h.number with ⟨k, hid, hpdu, hlt⟩
  refine ⟨?_, k, hid, hpdu, Nat.lt_of_lt_of_le hlt hsame.sequenceNumber⟩
  rw [hsame.id]
  exact h.smppEsme

theorem numbering_init (smppServer : SmppServer) (backend : Backend) (store : Delivery.PduStore)
    (times : Octstr → Int) : Numbering (dispatchInit smppServer backend store times) where
  ids := by simp [dispatchInit, smppEsmeInit]
  openAcks := by
    intro e he
    simp [dispatchInit, smppEsmeInit] at he
  stored := by simp [dispatchInit]

theorem numbering_quiet (h : Numbering s) (hquiet : Quiet F s t) : Numbering t where
  ids := by
    intro e' he'
    rcases hquiet.sessions e' he' with ⟨e, he, hsame⟩ | ⟨-, hmem⟩
    · rw [hsame.id]
      exact hquiet.esmeIds _ (h.ids e he)
    · exact hmem
  openAcks := openAcks_quiet h.openAcks hquiet (fun _ _ _ hsame hq => hq.of_sameAcks hsame)
  stored := by
    intro q hq
    rcases hquiet.stored q hq with hold | ⟨-, hdeliver⟩
    · exact h.stored q hold
    · exact hdeliver

theorem numbering_setSession (h : Numbering s) (hfind : s.data.sessions.find? e.id = some e)
    (hid : e'.id = e.id) (hacks : ∀ q ∈ e'.openAcks.entries, Numbered e' q) :
    Numbering (s.setSession e') where
  ids := by
    intro x hx
    rcases Keyed.mem_put.mp hx with rfl | ⟨hold, -⟩
    · -- the record is of a session that was there
      rw [hid]
      exact h.ids e (Keyed.find?_eq_some_iff.mp hfind).1
    · exact h.ids x hold
  openAcks := openAcks_setSession h.openAcks hacks
  stored := h.stored

theorem numbering_close (h : Numbering s) (hfind : s.data.sessions.find? e.id = some e)
    (id : Option Int) : Numbering (s.setSession (closeAck e id)) := by
  refine numbering_setSession h hfind rfl ?_
  intro q hq
  have hold := h.openAcks e (Keyed.find?_eq_some_iff.mp hfind).1 q (Keyed.mem_remove.mp hq).1
  exact ⟨hold.smppEsme, hold.number⟩

/-- The entries after one of them got its `time_sent`. -/
theorem mem_stampAck {id : Option Int} {now : Int}
    (h : q ∈ (stampAck e id now).openAcks.entries) :
    (q ∈ e.openAcks.entries ∧ q.id ≠ id) ∨
      ∃ q', e.openAcks.find? id = some q' ∧ q = { q' with timeSent := now } := by
  unfold stampAck at h
  split at h
  · rename_i q' hq'
    have hid : q'.id = id := Keyed.key_of_find? hq'
    rcases Keyed.mem_put.mp h with rfl | ⟨hold, hne⟩
    · exact Or.inr ⟨q', hq', rfl⟩
    · exact Or.inl ⟨hold, fun heq => hne (heq.trans hid.symm)⟩
  · rename_i hnone
    exact Or.inl ⟨h, Keyed.find?_eq_none_iff.mp hnone q h⟩

theorem stampAck_frame (e : SmppEsme) (id : Option Int) (now : Int) :
    (stampAck e id now).id = e.id ∧ (stampAck e id now).sequenceNumber = e.sequenceNumber := by
  unfold stampAck
  split
  · exact ⟨rfl, rfl⟩
  · exact ⟨rfl, rfl⟩

theorem numbering_stamp (h : Numbering s) (hfind : s.data.sessions.find? e.id = some e)
    (id : Option Int) (now : Int) : Numbering (s.setSession (stampAck (unqueueOne e) id now)) := by
  rcases stampAck_frame (unqueueOne e) id now with ⟨hid, hnumber⟩
  have hold := h.openAcks e (Keyed.find?_eq_some_iff.mp hfind).1
  refine numbering_setSession h hfind hid ?_
  intro q hq
  -- a new `time_sent` changes neither number nor session
  have hsame : Numbered e q := by
    rcases mem_stampAck hq with ⟨hmem, -⟩ | ⟨q', hq', rfl⟩
    · exact hold q hmem
    · have hq' := hold q' (Keyed.find?_eq_some_iff.mp hq').1
      exact ⟨hq'.smppEsme, hq'.number⟩
  refine ⟨?_, ?_⟩
  · rw [hid]
    exact hsame.smppEsme
  · rw [hnumber]
    exact hsame.number

theorem numbered_numberPdu (hdeliver : Deliverable q) :
    Numbered (queueFor e (numberPdu e q)) (numberPdu e q) := by
  rcases hdeliver.pdu with ⟨p, hp⟩
  refine ⟨rfl, e.sequenceNumber, rfl, ?_, Nat.lt_succ_self _⟩
  simp [pduNumber, numberPdu, hp]

theorem numbering_send (h : Numbering s) (hfind : s.data.sessions.find? e.id = some e)
    (hdeliver : Deliverable q) : Numbering (s.send e q) := by
  have hset : Numbering (s.setSession (queueFor e (numberPdu e q))) := by
    refine numbering_setSession h hfind rfl ?_
    intro x hx
    rcases Keyed.mem_put.mp hx with rfl | ⟨hold, -⟩
    · -- the PDU has the number the counter had
      exact numbered_numberPdu hdeliver
    · have hx := h.openAcks e (Keyed.find?_eq_some_iff.mp hfind).1 x hold
      rcases hx.number with ⟨k, hid, hpdu, hlt⟩
      exact ⟨hx.smppEsme, k, hid, hpdu, Nat.lt_succ_of_lt hlt⟩
  exact ⟨hset.ids, hset.openAcks, hset.stored⟩

/-- The number a session gives next is not in use. -/
theorem find?_next (h : Numbering s) (hfind : s.data.sessions.find? e.id = some e) :
    e.openAcks.find? (some (e.sequenceNumber : Int)) = none := by
  refine Keyed.find?_eq_none_iff.mpr ?_
  intro q hq hid
  have hnumber := h.openAcks e (Keyed.find?_eq_some_iff.mp hfind).1 q hq
  -- all numbers in use are below the counter
  rcases hnumber.number with ⟨k, hk, -, hlt⟩
  rw [hk] at hid
  have hkn : (k : Int) = e.sequenceNumber := Option.some.inj hid
  omega

/-- What a dispatcher sends is a deliver_sm with a callback. -/
theorem deliverable_of_sent (h : Numbering s)
    (hfrom : ∀ q ∈ qs, q ∈ s.stored ∨ (q.timeSent = 0 ∧ Deliverable q)) :
    ∀ q ∈ qs, Deliverable q := by
  intro q hq
  rcases hfrom q hq with hstored | ⟨-, hdeliver⟩
  · exact h.stored q hstored
  · exact hdeliver

/-! ## Acks -/

/-- Every open ack can be acknowledged, and none was replaced. -/
structure Acknowledgeable (s : DispatchState) : Prop where
  noCollision : ∀ q collision, .queued q collision ∈ s.log → collision = false
  distinct : ∀ e ∈ s.data.sessions.entries, ∀ q ∈ e.openAcks.entries, ∀ q' ∈ e.openAcks.entries,
    (pduNumber q).map wireNumber = (pduNumber q').map wireNumber → q = q'
  found : ∀ e ∈ s.data.sessions.entries, ∀ q ∈ e.openAcks.entries,
    ∃ n, pduNumber q = some n ∧ ackFor e (wireNumber n) = some q

/-- The numbers this step gives to deliver_sm fit into 32 bits. -/
def NumbersFit (s : DispatchState) (l : Label) : Prop :=
  ∀ e, chosen s l = some e → e.sequenceNumber + sentBy l ≤ 2 ^ 32

/-- The invariant: the numbers of all open acks fit, and nothing was replaced so far. -/
structure Fitting (s : DispatchState) : Prop extends Numbering s where
  fits : OpenAcks (fun _ q => ∃ k : Nat, q.id = some (k : Int) ∧ k < 2 ^ 32) s
  noCollision : ∀ q collision, .queued q collision ∈ s.log → collision = false

theorem fitting_quiet (h : Fitting s) (hquiet : Quiet F s t) : Fitting t where
  toNumbering := numbering_quiet h.toNumbering hquiet
  fits := openAcks_quiet h.fits hquiet (fun _ _ _ _ hq => hq)
  noCollision := by
    rw [hquiet.log]
    exact h.noCollision

theorem fitting_send (h : Fitting s) (hfind : s.data.sessions.find? e.id = some e)
    (hdeliver : Deliverable q) (hfits : e.sequenceNumber < 2 ^ 32) : Fitting (s.send e q) where
  toNumbering := numbering_send h.toNumbering hfind hdeliver
  fits := by
    refine openAcks_setSession h.fits ?_
    intro x hx
    rcases Keyed.mem_put.mp hx with rfl | ⟨hold, -⟩
    · exact ⟨e.sequenceNumber, rfl, hfits⟩
    · exact h.fits e (Keyed.find?_eq_some_iff.mp hfind).1 x hold
  noCollision := by
    intro q' collision hmem
    rcases List.mem_append.mp hmem with hold | hnew
    · exact h.noCollision q' collision hold
    · have hnext := find?_next h.toNumbering hfind
      have heq : q' = numberPdu e q ∧
          collision = (e.openAcks.find? (numberPdu e q).id).isSome := by simpa using hnew
      -- the event of the PDU itself
      rw [heq.2]
      simp [numberPdu, hnext]

/-- Parts take numbers one after the other, and the last still fits. -/
theorem fitting_sendAll {esme : EsmeRef} (h : Fitting s) (hdeliver : ∀ q ∈ qs, Deliverable q)
    (hfits : ∀ e, s.data.sessions.find? esme = some e →
      e.sequenceNumber + qs.length ≤ 2 ^ 32)
    (hsend : s.sendAll esme qs = some t) : Fitting t := by
  refine (sendAll_rule (I := fun s qs => Fitting s ∧ (∀ q ∈ qs, Deliverable q) ∧
    ∀ e, s.data.sessions.find? esme = some e → e.sequenceNumber + qs.length ≤ 2 ^ 32)
    ?_ ⟨h, hdeliver, hfits⟩ hsend).1
  rintro s e q qs ⟨h, hdeliver, hfits⟩ hfind rfl
  have hfirst := hfits e hfind
  rw [List.length_cons] at hfirst
  refine ⟨fitting_send h hfind (hdeliver q List.mem_cons_self) (by omega), ?_, ?_⟩
  · exact fun q' hq' => hdeliver q' (List.mem_cons_of_mem q hq')
  · intro e' he'
    -- after the first part the counter is higher by one
    rw [find?_send] at he'
    cases he'
    simp only [queueFor]
    omega

theorem fitting_step (h : Fitting s) (hfit : NumbersFit s l) (hstep : step s l = some t) :
    Fitting t := by
  cases step_effect hstep with
  | quiet hquiet => exact fitting_quiet h hquiet
  | closes hfind hquiet =>
      rename_i e id
      have hclosed : Fitting (s.setSession (closeAck e id)) :=
        ⟨numbering_close h.toNumbering hfind id,
          openAcks_close h.fits hfind id (fun _ hq => hq), h.noCollision⟩
      exact fitting_quiet hclosed hquiet
  | stamps hqueue hcallback hesme hfind ht =>
      rename_i q outboundQueue e now
      rw [ht]
      have hnumbering := numbering_stamp h.toNumbering hfind q.id now
      refine ⟨⟨hnumbering.ids, hnumbering.openAcks, hnumbering.stored⟩, ?_, h.noCollision⟩
      refine openAcks_setSession h.fits ?_
      intro x hx
      have hold := h.fits e (Keyed.find?_eq_some_iff.mp hfind).1
      rcases mem_stampAck hx with ⟨hmem, -⟩ | ⟨q', hq', rfl⟩
      · exact hold x hmem
      · exact hold q' (Keyed.find?_eq_some_iff.mp hq').1
  | transmits hq ht =>
      rw [ht]
      refine ⟨⟨h.ids, h.openAcks, h.stored⟩, h.fits, ?_⟩
      intro q' collision hmem
      rcases List.mem_append.mp hmem with hold | hnew
      · exact h.noCollision q' collision hold
      · simp at hnew
  | sends hstored hchosen hcount hfrom hsend =>
      rename_i stored e qs
      -- the chosen session is the one the parts are sent to
      rcases bestReceiver_of_chosen hchosen with ⟨systemId, hbest⟩
      have hshorter : Fitting { s with stored := stored } :=
        ⟨⟨h.ids, h.openAcks, fun q hq => h.stored q (hstored q hq)⟩, h.fits, h.noCollision⟩
      refine fitting_sendAll hshorter (deliverable_of_sent h.toNumbering hfrom) ?_ hsend
      intro e' he'
      have heq : e' = e :=
        Option.some.inj (he'.symm.trans (bestReceiver_spec hbest).2.2)
      rw [heq, hcount]
      exact hfit e hchosen

theorem acknowledgeable_of_fitting (h : Fitting s) : Acknowledgeable s where
  noCollision := h.noCollision
  distinct := by
    intro e he q hq q' hq' hwire
    rcases (h.openAcks e he q hq).number with ⟨k, hid, hpdu, -⟩
    rcases (h.openAcks e he q' hq').number with ⟨k', hid', hpdu', -⟩
    rcases h.fits e he q hq with ⟨m, hm, hlt⟩
    rcases h.fits e he q' hq' with ⟨m', hm', hlt'⟩
    rw [hid] at hm
    rw [hid'] at hm'
    have hkm : k = m := by exact_mod_cast Option.some.inj hm
    have hkm' : k' = m' := by exact_mod_cast Option.some.inj hm'
    subst hkm hkm'
    -- numbers that fit are what is on the wire, and an open ack stands under its own
    rw [hpdu, hpdu', Option.map_some, Option.map_some, wireNumber_of_lt hlt,
      wireNumber_of_lt hlt'] at hwire
    refine Keyed.eq_of_key_eq hq hq' ?_
    rw [hid, hid', hwire]
  found := by
    intro e he q hq
    rcases (h.openAcks e he q hq).number with ⟨k, hid, hpdu, -⟩
    rcases h.fits e he q hq with ⟨m, hm, hlt⟩
    rw [hid] at hm
    have hkm : k = m := by exact_mod_cast Option.some.inj hm
    subst hkm
    refine ⟨k, hpdu, ?_⟩
    rw [wireNumber_of_lt hlt]
    exact Keyed.find?_eq_some_iff.mpr ⟨hq, hid⟩

/-- As long as the numbers given to deliver_sm stay below 2^32, every deliver_sm that is outstanding
can be acknowledged. -/
theorem deliver_sm_acknowledgeable {smppServer : SmppServer} {backend : Backend}
    {store : Delivery.PduStore} {times : Octstr → Int}
    (hrun : Run step NumbersFit (dispatchInit smppServer backend store times) ls s) :
    Acknowledgeable s := by
  have hinit : Fitting (dispatchInit smppServer backend store times) := by
    refine ⟨numbering_init smppServer backend store times, ?_, ?_⟩
    · intro e he
      simp [dispatchInit, smppEsmeInit] at he
    · intro q collision hmem
      cases hmem
  -- the invariant holds from the start and is kept by every step
  have hfitting : Fitting s :=
    hrun.invariant Fitting (fun _ _ _ h hok hstep => fitting_step h hok hstep) hinit
  exact acknowledgeable_of_fitting hfitting

instance (s : DispatchState) (l : Label) : Decidable (NumbersFit s l) :=
  inferInstanceAs (Decidable (∀ e ∈ chosen s l, e.sequenceNumber + sentBy l ≤ 2 ^ 32))

theorem deliver_sm_acknowledgeable_sample :
    ∃ s, Run step NumbersFit (sampleInit .redis) [.bind sampleEsme, sampleDeliver 2] s ∧
      ackCounts s = [2] ∧ Acknowledgeable s := by
  have hexec : (execute step NumbersFit (sampleInit .redis)
      [.bind sampleEsme, sampleDeliver 2]).any (fun s => ackCounts s == [2]) = true := by
    decide +kernel
  rcases exists_run_of_execute hexec with ⟨s, hrun, hcounts⟩
  exact ⟨s, hrun, by simpa using hcounts, deliver_sm_acknowledgeable hrun⟩

/-! ## A long bind -/

/-- `smpp_queues_send_enquire_link` for the session 0. -/
def enquireLinkPdu (n : Nat) : SmppQueuedPdu :=
  { smppQueuedPduCreate with smppEsme := some 0, pdu := some (.enquireLink n) }

/-- An enquire_link under the number `n` is queued and sent. -/
def enquireOnce (n : Nat) : List Label :=
  [.addOutbound 0 (enquireLinkPdu n) true, .consume 0, .transmit 0]

/-- A session is bound and sent `n` enquire_link, one at a time. -/
def enquireLabels : Nat → List Label
  | 0 => [.bind sampleEsme]
  | n + 1 => enquireLabels n ++ enquireOnce (n + 1)

/-- The session with its next number. -/
def idleEsme (n : Nat) : SmppEsme :=
  { sampleEsme with sequenceNumber := n, smppEsmeGlobal := some (octstrImm "test") }

/-- Everything is sent, and the session gives the number `n` next. -/
def idleState (n : Nat) (log : List Event) : DispatchState :=
  { sampleInit .mysql with
    data := {
      esmes := Keyed.empty.put
        ((smppEsmeGlobalCreate sampleServer (octstrImm "test")).produceBind 0)
      sessions := Keyed.empty.put (idleEsme n) }
    esmeIds := [0]
    log := log }

theorem run_enquireOnce (n : Nat) (log : List Event) :
    Run step anyStep (idleState n log) (enquireOnce n)
      (idleState (n + 1) (log ++ [.sent (enquireLinkPdu n)])) :=
  run_of_execute rfl

theorem run_enquireLabels (n : Nat) :
    ∃ log, Run step anyStep (sampleInit .mysql) (enquireLabels n) (idleState (n + 1) log) := by
  induction n with
  | zero => exact ⟨[], run_of_execute rfl⟩
  | succ n ih =>
      rcases ih with ⟨log, hrun⟩
      exact ⟨_, hrun.append (run_enquireOnce (n + 1) log)⟩

/-- After 2^32 - 1 enquire_link the session gives a deliver_sm the number 2^32: what the client
echoes is 0, and no open ack stands under it. -/
theorem deliver_sm_not_acknowledgeable :
    ∃ s, Run step anyStep (sampleInit .mysql) (enquireLabels (2 ^ 32 - 1) ++ [sampleDeliver 1]) s ∧
      ¬ Acknowledgeable s := by
  rcases run_enquireLabels (2 ^ 32 - 1) with ⟨log, hrun⟩
  let q := numberPdu (idleEsme (2 ^ 32)) (partPdu (.bearerbox 0 (octstrImm "id"))
    (some (octstrImm "test")) samplePart)
  let e := queueFor (idleEsme (2 ^ 32)) q
  have hdeliver : ∃ t, step (idleState (2 ^ 32) log) (sampleDeliver 1) = some t ∧
      t.data.sessions.entries = [e] := ⟨_, rfl, rfl⟩
  rcases hdeliver with ⟨t, hstep, hentries⟩
  refine ⟨t, hrun.snoc trivial hstep, ?_⟩
  intro hack
  have he : e ∈ t.data.sessions.entries := by
    rw [hentries]
    exact List.mem_singleton_self e
  rcases hack.found e he q (List.mem_singleton_self q) with ⟨n, hn, hfound⟩
  -- the low 32 bits of the number are zero
  have hwrapped : n = 2 ^ 32 := Option.some.inj hn.symm
  have hnone : ackFor e 0 = none := rfl
  rw [hwrapped] at hfound
  exact absurd (hnone.symm.trans hfound) (by simp)

end Dispatch
end Ksmppd
