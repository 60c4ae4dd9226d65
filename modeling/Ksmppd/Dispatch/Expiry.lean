import Ksmppd.Dispatch.Numbers

/-!
# Expiry — open acks the cleanup thread gives up

A PDU has a `time_sent` once an outbound thread has taken it, and the cleanup thread only looks at
open acks that have one.  What has to hold beside this is that no PDU comes into the queues with a
time already set, and that the time a PDU has is the time of its transmission.
-/

namespace Ksmppd
namespace Dispatch

open Lib
open Delivery (numberPdu)

variable {s t : DispatchState} {e e' : SmppEsme} {q q' p : SmppQueuedPdu}
  {qs : List SmppQueuedPdu} {F : SmppQueuedPdu → Prop} {l : Label} {ls : List Label}
  {log : List Event} {esme : EsmeRef} {id : Option Int} {answers : Answers} {x : Examined}

/-! ## What the cleanup thread decides -/

/-- The open ack that is about to be expired. -/
def expiring (s : DispatchState) : Option (Examined × SmppQueuedPdu) :=
  s.examined.bind (fun x =>
    (s.data.sessions.find? x.esme).bind (fun e =>
      (e.openAcks.find? (some x.sequenceNumber)).bind (fun q =>
        if 0 < q.timeSent ∧ x.timediff > smppEsmeWaitAckTime then some (x, q) else none)))

/-- What is known about an open ack that is about to be expired. -/
structure Expires (s : DispatchState) (e : SmppEsme) (x : Examined) (q : SmppQueuedPdu) :
    Prop where
  examined : s.examined = some x
  session : s.data.sessions.find? x.esme = some e
  openAck : e.openAcks.find? (some x.sequenceNumber) = some q
  timeSent : 0 < q.timeSent
  timediff : x.timediff > smppEsmeWaitAckTime

theorem expires_of_expiring (h : expiring s = some (x, q)) : ∃ e, Expires s e x q := by
  rcases Option.bind_eq_some_iff.mp h with ⟨x', hx, hrest⟩
  rcases Option.bind_eq_some_iff.mp hrest with ⟨e, he, hrest⟩
  rcases Option.bind_eq_some_iff.mp hrest with ⟨q', hq, hrest⟩
  split at hrest
  · rename_i htimes
    cases hrest
    exact ⟨e, hx, he, hq, htimes.1, htimes.2⟩
  · cases hrest

theorem Expires.expiring (h : Expires s e x q) : expiring s = some (x, q) := by
  simp [Dispatch.expiring, h.examined, h.session, h.openAck, h.timeSent, h.timediff]

/-- An open ack that is expired is closed, and its callback gets `WAIT_ACK_TIMEOUT`. -/
theorem decide_expires (h : Expires s e x q) :
    step s (.decide answers) =
      ({ s with examined := none }.setSession (closeAck e (some x.sequenceNumber))).settle
        { q with smppServer := true } smppEsmeCommandStatusWaitAckTimeout answers := by
  have hact : step s (.decide answers) = act s (.decide answers) := by simp [step, takesLock]
  rw [hact]
  simp [act, h.examined, h.session, h.openAck, h.timeSent, h.timediff]

/-- Otherwise the cleanup thread leaves everything as it is. -/
theorem decide_keeps (hnone : expiring s = none) (h : step s (.decide answers) = some t) :
    t = { s with examined := none } := by
  have hact : act s (.decide answers) = some t := by simpa [step, takesLock] using h
  rcases Option.bind_eq_some_iff.mp hact with ⟨x, hx, hrest⟩
  rcases Option.bind_eq_some_iff.mp hrest with ⟨e, he, hrest⟩
  split at hrest
  · rename_i q hq
    split at hrest
    · rename_i htimes
      -- it would be expiring
      have hexpires : Expires s e x q := ⟨hx, he, hq, htimes.1, htimes.2⟩
      rw [hexpires.expiring] at hnone
      cases hnone
    · exact (Option.some.inj hrest).symm
  · exact (Option.some.inj hrest).symm

/-! ## What has happened since -/

/-- The PDU is queued for this session under this key. -/
def Names (q : SmppQueuedPdu) (esme : EsmeRef) (id : Option Int) : Prop :=
  q.smppEsme = some esme ∧ q.id = id

instance (q : SmppQueuedPdu) (esme : EsmeRef) (id : Option Int) : Decidable (Names q esme id) :=
  inferInstanceAs (Decidable (q.smppEsme = some esme ∧ q.id = id))

/-- A PDU was put into the open acks of the session under the key, and these events came after. -/
def Since (log : List Event) (esme : EsmeRef) (id : Option Int) (after : List Event) : Prop :=
  ∃ before q collision, log = before ++ .queued q collision :: after ∧ Names q esme id ∧
    ∀ q' collision', .queued q' collision' ∈ after → ¬ Names q' esme id

/-- It was transmitted since, with this `time_sent`. -/
def TransmittedAt (log : List Event) (esme : EsmeRef) (id : Option Int) (time : Int) : Prop :=
  ∃ after, Since log esme id after ∧
    ∃ p, .sent p ∈ after ∧ Names p esme id ∧ p.callback.isSome ∧ p.timeSent = time

/-- An event that is not about the key comes after what was there. -/
theorem Since.append {after : List Event} {event : Event} (h : Since log esme id after)
    (hother : ∀ q collision, event = .queued q collision → ¬ Names q esme id) :
    Since (log ++ [event]) esme id (after ++ [event]) := by
  rcases h with ⟨before, q, collision, rfl, hq, hafter⟩
  refine ⟨before, q, collision, by simp, hq, ?_⟩
  intro q' collision' hmem
  -- nothing was queued under the key by the new event either
  rcases List.mem_append.mp hmem with hold | hnew
  · exact hafter q' collision' hold
  · exact hother q' collision' (List.mem_singleton.mp hnew).symm

theorem TransmittedAt.append {time : Int} {event : Event} (h : TransmittedAt log esme id time)
    (hother : ∀ q collision, event = .queued q collision → ¬ Names q esme id) :
    TransmittedAt (log ++ [event]) esme id time := by
  rcases h with ⟨after, hsince, p, hp, hnames⟩
  exact ⟨_, hsince.append hother, p, List.mem_append_left _ hp, hnames⟩

/-- An open ack is expired only after its PDU was transmitted, and not while it waits. -/
structure SentBefore (s : DispatchState) (x : Examined) : Prop where
  transmitted : ∃ time, TransmittedAt s.log x.esme (some x.sequenceNumber) time ∧
    x.now - time > smppEsmeWaitAckTime
  notWaiting : ∀ p ∈ waiting s, ¬ Names p x.esme (some x.sequenceNumber)

/-! ## Open acks in time -/

/-- The PDU is in the hands of an outbound thread, or was transmitted, at its `time_sent`. -/
def OnItsWay (s : DispatchState) (e : SmppEsme) (q : SmppQueuedPdu) : Prop :=
  (∃ p ∈ inHand s, Names p e.id q.id ∧ p.timeSent = q.timeSent) ∨
    TransmittedAt s.log e.id q.id q.timeSent

structure InTime (s : DispatchState) (e : SmppEsme) (q : SmppQueuedPdu) : Prop where
  since : ∃ after, Since s.log e.id q.id after
  onItsWay : 0 < q.timeSent → OnItsWay s e q
  notWaiting : 0 < q.timeSent → ∀ p ∈ waiting s, ¬ Names p e.id q.id

/-- A PDU has a number that its session will not give again. -/
def UsedNumber (s : DispatchState) (q : SmppQueuedPdu) : Prop :=
  ∃ esme, ∃ k : Nat, Names q esme (some (k : Int)) ∧ esme ∈ s.esmeIds ∧
    ∀ e ∈ s.data.sessions.entries, e.id = esme → k < e.sequenceNumber

/-- The invariant. -/
structure Timing (s : DispatchState) : Prop extends Numbering s where
  inTime : OpenAcks (InTime s) s
  used : ∀ q ∈ waiting s, UsedNumber s q
  distinct : (waiting s).Pairwise (fun q q' => ∀ esme id, Names q esme id → ¬ Names q' esme id)
  noTime : ∀ q ∈ s.stored, q.timeSent ≤ 0

/-- What the open acks rely on has only grown, and less is waiting. -/
theorem InTime.mono (h : InTime s e q) (hlog : t.log = s.log)
    (hinHand : ∀ p ∈ inHand s, p ∈ inHand t) (hwaiting : ∀ p ∈ waiting t, p ∈ waiting s) :
    InTime t e q where
  since := by
    rw [hlog]
    exact h.since
  onItsWay := by
    intro htime
    rcases h.onItsWay htime with ⟨p, hp, hnames⟩ | hsent
    · exact Or.inl ⟨p, hinHand p hp, hnames⟩
    · right
      rw [hlog]
      exact hsent
  notWaiting := fun htime p hp => h.notWaiting htime p (hwaiting p hp)

/-- The session is known under its id only. -/
theorem InTime.of_id (h : InTime s e q) (hid : e'.id = e.id) : InTime s e' q where
  since := by
    rw [hid]
    exact h.since
  onItsWay := by
    unfold OnItsWay
    rw [hid]
    exact h.onItsWay
  notWaiting := by
    rw [hid]
    exact h.notWaiting

theorem timing_quiet (h : Timing s) (hquiet : Quiet F s t) (htimes : ∀ q, F q → q.timeSent ≤ 0) :
    Timing t where
  toNumbering := numbering_quiet h.toNumbering hquiet
  inTime := by
    refine openAcks_quiet h.inTime hquiet ?_
    intro e e' q hsame hq
    refine (hq.of_id hsame.id).mono hquiet.log ?_ (fun p hp => hquiet.waiting.subset hp)
    intro p hp
    rw [hquiet.inHand]
    exact hp
  used := by
    intro q hq
    rcases h.used q (hquiet.waiting.subset hq) with ⟨esme, k, hnames, hmem, hlt⟩
    refine ⟨esme, k, hnames, hquiet.esmeIds _ hmem, ?_⟩
    intro e' he' hid
    rcases hquiet.sessions e' he' with ⟨e, he, hsame⟩ | ⟨hnew, -⟩
    · exact Nat.lt_of_lt_of_le (hlt e he (hsame.id.symm.trans hid)) hsame.sequenceNumber
    · -- the id of a session that was just bound was not given before
      rw [← hid] at hmem
      exact absurd hmem hnew.1
  distinct := h.distinct.sublist hquiet.waiting
  noTime := by
    intro q hq
    rcases hquiet.stored q hq with hold | ⟨hnew, -⟩
    · exact h.noTime q hold
    · exact htimes q hnew

/-! ## Sessions -/

theorem usedNumber_setSession (h : UsedNumber s q) (he : e ∈ s.data.sessions.entries)
    (hid : e'.id = e.id) (hnumber : e.sequenceNumber ≤ e'.sequenceNumber) :
    UsedNumber (s.setSession e') q := by
  rcases h with ⟨esme, k, hnames, hmem, hlt⟩
  refine ⟨esme, k, hnames, hmem, ?_⟩
  intro x hx hxid
  rcases Keyed.mem_put.mp hx with rfl | ⟨hold, -⟩
  · exact Nat.lt_of_lt_of_le (hlt e he (hid.symm.trans hxid)) hnumber
  · exact hlt x hold hxid

theorem timing_close (h : Timing s) (hfind : s.data.sessions.find? e.id = some e)
    (id : Option Int) : Timing (s.setSession (closeAck e id)) where
  toNumbering := numbering_close h.toNumbering hfind id
  inTime := by
    -- the open acks that are left are those there were
    have hclosed : OpenAcks (InTime s) (s.setSession (closeAck e id)) :=
      openAcks_close h.inTime hfind id (fun q hq => hq.of_id rfl)
    exact fun e he q hq => (hclosed e he q hq).mono rfl (fun _ h => h) (fun _ h => h)
  used := fun q hq => usedNumber_setSession (h.used q hq) (Keyed.find?_eq_some_iff.mp hfind).1 rfl
    (Nat.le_refl _)
  distinct := h.distinct
  noTime := h.noTime

/-- A PDU leaves the queue: it is in hand, and its open ack has the same time. -/
theorem timing_stamp {outboundQueue : List SmppQueuedPdu} (h : Timing s)
    (hqueue : s.outboundQueue = q :: outboundQueue) (hcallback : q.callback.isSome)
    (hesme : q.smppEsme = some e.id) (hfind : s.data.sessions.find? e.id = some e) (now : Int) :
    Timing (({ s with outboundQueue := outboundQueue }.setSession
      (stampAck (unqueueOne e) q.id now)).hold { q with timeSent := now }) := by
  let t := ({ s with outboundQueue := outboundQueue }.setSession
    (stampAck (unqueueOne e) q.id now)).hold { q with timeSent := now }
  have hmem := (Keyed.find?_eq_some_iff.mp hfind).1
  rcases stampAck_frame (unqueueOne e) q.id now with ⟨hid, hnumber⟩
  -- the first PDU of the queue is now in hand
  have hwaiting : waiting s = q :: waiting t := by
    simp [waiting, hqueue, hcallback, t, DispatchState.hold, DispatchState.setSession]
  have hinHand : inHand t = inHand s ++ [{ q with timeSent := now }] := by
    simp [inHand, hcallback, t, DispatchState.hold, DispatchState.setSession]
  have hdistinct := h.distinct
  rw [hwaiting] at hdistinct
  rcases List.pairwise_cons.mp hdistinct with ⟨hhead, htail⟩
  have hkept : ∀ e q, InTime s e q → InTime t e q := by
    intro e q hq
    refine hq.mono rfl ?_ ?_
    · intro p hp
      rw [hinHand]
      exact List.mem_append_left _ hp
    · intro p hp
      rw [hwaiting]
      exact List.mem_cons_of_mem _ hp
  have hnumbering := numbering_stamp h.toNumbering hfind q.id now
  refine ⟨⟨hnumbering.ids, hnumbering.openAcks, hnumbering.stored⟩, ?_, ?_, htail, h.noTime⟩
  · refine openAcks_setSession (P := InTime t) (fun e he q hq => hkept e q (h.inTime e he q hq)) ?_
    intro y hy
    rcases mem_stampAck hy with ⟨hold, -⟩ | ⟨y', hy', rfl⟩
    · exact (hkept e y (h.inTime e hmem y hold)).of_id hid
    · -- the open ack of the PDU that is in hand now
      have hyid : y'.id = q.id := Keyed.key_of_find? hy'
      have hold := hkept e y' (h.inTime e hmem y' (Keyed.find?_eq_some_iff.mp hy').1)
      have hnew : InTime t e { y' with timeSent := now } := by
        refine ⟨hold.since, ?_, ?_⟩
        · intro _
          refine Or.inl ⟨{ q with timeSent := now }, ?_, ⟨hesme, hyid.symm⟩, rfl⟩
          rw [hinHand]
          exact List.mem_append_right _ (List.mem_singleton_self _)
        · -- no other PDU under its key waits
          intro _ p hp
          exact hhead p hp e.id y'.id ⟨hesme, hyid.symm⟩
      exact hnew.of_id hid
  · intro p hp
    have hused : UsedNumber s p := by
      refine h.used p ?_
      rw [hwaiting]
      exact List.mem_cons_of_mem _ hp
    exact usedNumber_setSession hused hmem hid (Nat.le_of_eq hnumber.symm)

/-! ## Transmitting and queueing -/

/-- What an outbound thread holds, it still holds or has sent. -/
theorem timing_transmit {i : Nat} (h : Timing s) (hq : s.sending[i]? = some q) :
    Timing { s with sending := s.sending.eraseIdx i, log := s.log ++ [.sent q] } := by
  let t : DispatchState :=
    { s with sending := s.sending.eraseIdx i, log := s.log ++ [.sent q] }
  have hother : ∀ (esme : EsmeRef) (id : Option Int) (q' : SmppQueuedPdu) (collision : Bool),
      Event.sent q = .queued q' collision → ¬ Names q' esme id := by
    intro esme id q' collision heq
    cases heq
  -- what an outbound thread held it still holds, or it is this PDU
  have hheld : ∀ p ∈ inHand s, p ∈ inHand t ∨ (p = q ∧ p.callback.isSome) := by
    intro p hp
    rcases List.mem_filter.mp hp with ⟨hsending, hcallback⟩
    rcases List.mem_iff_getElem?.mp hsending with ⟨j, hj⟩
    by_cases hij : j = i
    · subst hij
      exact Or.inr ⟨Option.some.inj (hj.symm.trans hq), hcallback⟩
    · exact Or.inl (List.mem_filter.mpr
        ⟨List.mem_eraseIdx_iff_getElem?.mpr ⟨j, hij, hj⟩, hcallback⟩)
  refine ⟨⟨h.ids, h.openAcks, h.stored⟩, ?_, h.used, h.distinct, h.noTime⟩
  intro e he y hy
  have hold := h.inTime e he y hy
  rcases hold.since with ⟨after, hsince⟩
  have hnow := hsince.append (hother e.id y.id)
  refine ⟨⟨_, hnow⟩, ?_, hold.notWaiting⟩
  intro htime
  -- in hand before: still in hand, or sent by this step
  rcases hold.onItsWay htime with ⟨p, hp, hnames, hptime⟩ | hsent
  · rcases hheld p hp with hstill | ⟨rfl, hcallback⟩
    · exact Or.inl ⟨p, hstill, hnames, hptime⟩
    · exact Or.inr ⟨_, hnow, p, List.mem_append_right _ (List.mem_singleton_self _), hnames,
        hcallback, hptime⟩
  · exact Or.inr (hsent.append (hother e.id y.id))

/-- No open ack and no waiting PDU has the number a session gives next. -/
theorem not_names_next (h : Timing s) (hfind : s.data.sessions.find? e.id = some e) :
    (∀ y ∈ s.data.sessions.entries, ∀ x ∈ y.openAcks.entries,
      ¬ Names (numberPdu e q) y.id x.id) ∧
    ∀ p ∈ waiting s, ∀ esme id, Names p esme id → ¬ Names (numberPdu e q) esme id := by
  have he := (Keyed.find?_eq_some_iff.mp hfind).1
  constructor
  · rintro y hy x hx ⟨hesme, hid⟩
    have hsame : e = y := Keyed.eq_of_key_eq he hy (Option.some.inj hesme)
    subst hsame
    -- an open ack of the same session has a lower number
    have hnone := Keyed.find?_eq_none_iff.mp (find?_next h.toNumbering hfind) x hx
    exact hnone hid.symm
  · rintro p hp esme id ⟨hpesme, hpid⟩ ⟨hesme, hid⟩
    rcases h.used p hp with ⟨esme', k, ⟨hpesme', hpid'⟩, -, hlt⟩
    -- a waiting PDU of the same session has a lower number
    have hk : (k : Int) = e.sequenceNumber := by
      have hsome : some (k : Int) = some (e.sequenceNumber : Int) :=
        hpid'.symm.trans (hpid.trans hid.symm)
      exact Option.some.inj hsome
    have hsame : e.id = esme' := by
      have hsome : some e.id = some esme' := hesme.trans (hpesme.symm.trans hpesme')
      exact Option.some.inj hsome
    have hless := hlt e he hsame
    omega

theorem timing_send (h : Timing s) (hfind : s.data.sessions.find? e.id = some e)
    (hdeliver : Deliverable q) (htime : q.timeSent ≤ 0) : Timing (s.send e q) := by
  have he := (Keyed.find?_eq_some_iff.mp hfind).1
  rcases not_names_next (q := q) h hfind with ⟨hacks, hqueue⟩
  have hwaiting : waiting (s.send e q) = waiting s ++ [numberPdu e q] := by
    have hcallback : (numberPdu e q).callback.isSome := hdeliver.callback
    simp [waiting, DispatchState.send, DispatchState.setSession, hcallback]
  have hother : ∀ y ∈ s.data.sessions.entries, ∀ x ∈ y.openAcks.entries, ∀ q' collision,
      Event.queued (numberPdu e q) (e.openAcks.find? (numberPdu e q).id).isSome =
        .queued q' collision → ¬ Names q' y.id x.id := by
    intro y hy x hx q' collision heq
    cases heq
    exact hacks y hy x hx
  -- the open acks there were are not touched by the new PDU
  have hkept : OpenAcks (InTime (s.send e q)) s := by
    intro y hy x hx
    have hold := h.inTime y hy x hx
    rcases hold.since with ⟨after, hsince⟩
    refine ⟨⟨_, hsince.append (hother y hy x hx)⟩, ?_, ?_⟩
    · intro hpos
      rcases hold.onItsWay hpos with hhand | hsent
      · exact Or.inl hhand
      · exact Or.inr (hsent.append (hother y hy x hx))
    · intro hpos p hp
      rw [hwaiting] at hp
      rcases List.mem_append.mp hp with hp | hp
      · exact hold.notWaiting hpos p hp
      · rw [List.mem_singleton.mp hp]
        exact hacks y hy x hx
  -- the new open ack has no time yet
  have hnew : InTime (s.send e q) (queueFor e (numberPdu e q)) (numberPdu e q) := by
    refine ⟨⟨[], s.log, numberPdu e q, _, rfl, ⟨rfl, rfl⟩, ?_⟩, ?_, ?_⟩
    · intro q' collision' hmem
      cases hmem
    · exact fun hpos => absurd htime (Int.not_le.mpr hpos)
    · exact fun hpos => absurd htime (Int.not_le.mpr hpos)
  refine ⟨numbering_send h.toNumbering hfind hdeliver, ?_, ?_, ?_, h.noTime⟩
  · refine openAcks_setSession hkept ?_
    intro x hx
    rcases Keyed.mem_put.mp hx with rfl | ⟨hold, -⟩
    · exact hnew
    · exact (hkept e he x hold).of_id rfl
  · intro p hp
    rw [hwaiting] at hp
    rcases List.mem_append.mp hp with hp | hp
    · exact usedNumber_setSession (h.used p hp) he rfl (Nat.le_succ _)
    · rw [List.mem_singleton.mp hp]
      refine ⟨e.id, e.sequenceNumber, ⟨rfl, rfl⟩, h.ids e he, ?_⟩
      intro y hy hyid
      rcases Keyed.mem_put.mp hy with rfl | ⟨-, hne⟩
      · exact Nat.lt_succ_self _
      · exact absurd hyid hne
  · rw [hwaiting]
    refine List.pairwise_append.mpr ⟨h.distinct, List.pairwise_singleton _ _, ?_⟩
    intro p hp p' hp' esme id hnames
    rw [List.mem_singleton.mp hp']
    exact hqueue p hp esme id hnames

theorem timing_sendAll {esme : EsmeRef} (h : Timing s)
    (hqs : ∀ q ∈ qs, Deliverable q ∧ q.timeSent ≤ 0) (hsend : s.sendAll esme qs = some t) :
    Timing t := by
  refine (sendAll_rule (I := fun s qs => Timing s ∧ ∀ q ∈ qs, Deliverable q ∧ q.timeSent ≤ 0)
    ?_ ⟨h, hqs⟩ hsend).1
  rintro s e q qs ⟨h, hqs⟩ hfind rfl
  rcases hqs q List.mem_cons_self with ⟨hdeliver, htime⟩
  exact ⟨timing_send h hfind hdeliver htime, fun q' hq' => hqs q' (List.mem_cons_of_mem q hq')⟩

/-! ## Runs -/

/-- The PDUs that are fetched were stored without a time.  At the second access of the cleanup
thread the `time_sent` is what it was at the first, and no outbound thread has the PDU in hand for
longer than the client may take. -/
def TimesHold (s : DispatchState) : Label → Prop
  | .getQueued _ globalIds _ => s.backend = .redis → ∀ g ∈ globalIds, s.times g ≤ 0
  | .decide _ => ∀ x, s.examined = some x → ∀ e, s.data.sessions.find? x.esme = some e →
      ∀ q, e.openAcks.find? (some x.sequenceNumber) = some q →
        q.timeSent = x.timeSent ∧
          ∀ p ∈ inHand s, Names p x.esme q.id → x.now - p.timeSent ≤ smppEsmeWaitAckTime
  | _ => True

/-- What is fetched has no time: the MySQL backend reads none, and Redis what was stored. -/
theorem timeSent_of_fetchedBy (hok : TimesHold s l) (hfetched : fetchedBy s l q) :
    q.timeSent ≤ 0 := by
  cases l with
  | getQueued esme globalIds msgs =>
      rcases hfetched with htime | ⟨service, row, hrow, rfl⟩
      · exact Int.le_of_eq htime
      · cases hbackend : s.backend with
        | mysql => simp [fetchedPdu, hbackend]
        | redis =>
            simp only [fetchedPdu, hbackend]
            exact hok hbackend row.globalId hrow
  | _ => cases hfetched

theorem timing_step (h : Timing s) (hok : TimesHold s l) (hstep : step s l = some t) :
    Timing t := by
  cases step_effect hstep with
  | quiet hquiet => exact timing_quiet h hquiet (fun q hq => timeSent_of_fetchedBy hok hq)
  | closes hfind hquiet =>
      exact timing_quiet (timing_close h hfind _) hquiet (fun _ hfalse => hfalse.elim)
  | stamps hqueue hcallback hesme hfind ht =>
      rw [ht]
      exact timing_stamp h hqueue hcallback hesme hfind _
  | transmits hq ht =>
      rw [ht]
      exact timing_transmit h hq
  | sends hstored hchosen hcount hfrom hsend =>
      rename_i stored e qs
      -- the list of the requeue thread is shorter
      have hshorter : Timing { s with stored := stored } :=
        ⟨⟨h.ids, h.openAcks, fun q hq => h.stored q (hstored q hq)⟩,
          fun e he q hq => (h.inTime e he q hq).mono rfl (fun _ hp => hp) (fun _ hp => hp),
          h.used, h.distinct, fun q hq => h.noTime q (hstored q hq)⟩
      refine timing_sendAll hshorter ?_ hsend
      intro q hq
      refine ⟨deliverable_of_sent h.toNumbering hfrom q hq, ?_⟩
      rcases hfrom q hq with hold | ⟨hzero, -⟩
      · exact h.noTime q hold
      · exact Int.le_of_eq hzero

theorem timing_init (smppServer : SmppServer) (backend : Backend) (store : Delivery.PduStore)
    (times : Octstr → Int) : Timing (dispatchInit smppServer backend store times) where
  toNumbering := numbering_init smppServer backend store times
  inTime := by
    intro e he
    simp [dispatchInit, smppEsmeInit] at he
  used := by simp [dispatchInit, waiting]
  distinct := by simp [dispatchInit, waiting]
  noTime := by simp [dispatchInit]

instance (s : DispatchState) : (l : Label) → Decidable (TimesHold s l)
  | .getQueued _ globalIds _ =>
      inferInstanceAs (Decidable (s.backend = .redis → ∀ g ∈ globalIds, s.times g ≤ 0))
  | .decide _ =>
      inferInstanceAs (Decidable (∀ x ∈ s.examined, ∀ e ∈ s.data.sessions.find? x.esme,
        ∀ q ∈ e.openAcks.find? (some x.sequenceNumber), q.timeSent = x.timeSent ∧
          ∀ p ∈ inHand s, Names p x.esme q.id → x.now - p.timeSent ≤ smppEsmeWaitAckTime))
  | .bind _ | .rebind .. | .disconnect _ | .cleanup _ | .destroy .. | .dispatch _ | .deliver .. |
    .simulate .. | .addOutbound .. | .consume _ | .transmit _ | .ack .. | .examine .. =>
      isTrue trivial

def sampleAnswers : Answers where
  link := { alive := true, written := true }
  globalId := some (octstrImm "pdu")

/-- A MO is sent at 100 and not acknowledged until 200. -/
def unanswered : List Label :=
  [.bind sampleEsme, sampleDeliver 1, .consume 100, .transmit 0, .examine 0 1 200]

def sampleMsg : QueuedMsg where
  globalId := 7
  fromDlrTable := false
  parts := [samplePart]

/-- A message of the store is refused after it was sent at 100, and parked with this time. -/
def refused : List Label :=
  [.bind sampleEsme, .getQueued 0 [] [sampleMsg], .dispatch sampleAnswers, .consume 100,
    .transmit 0, .ack 0 1 8 sampleAnswers]

/-- It is fetched and queued again, and looked at while it waits. -/
def queuedAgain : List Label :=
  refused ++ [.getQueued 0 [octstrImm "pdu"] [], .dispatch sampleAnswers, .examine 0 2 200]

end Dispatch
end Ksmppd
