import Ksmppd.CallbackOutcome
import Ksmppd.Delivery.Ledger

/-!
# Retention — what becomes of PDUs taken from the store

A PDU that `get_stored_pdu` has taken is answered by an ESME it was written to, or back in the
store for a later poll, or still on its way, as long as every step keeps: the requeue thread finds
a receiver for each PDU it has taken, no ESME answers what was not written to it, and where the
store is a list no ack times out and no session is destroyed with such a PDU.
-/

namespace Ksmppd
namespace Delivery

open Lib

variable {L L' : Ledger} {s : DeliveryState} {q q' : SmppQueuedPdu} {g : Octstr}
  {backend : Backend} {log : List Event}

/-! ## Copies of a stored PDU -/

/-- A queued PDU that was taken from the store under this id. -/
structure CopyOf (backend : Backend) (g : Octstr) (q : SmppQueuedPdu) : Prop where
  callback : q.callback = some backend.queuedPduHandler
  bearerboxId : q.bearerboxId = some g
  smppServer : q.smppServer = true

theorem copyOf_storedPdu (service : Octstr) (row : StoredPdu) :
    CopyOf backend row.globalId (storedPdu backend service row) := ⟨rfl, rfl, rfl⟩

theorem copyOf_renumbers (h : CopyOf backend g q) (hsame : renumbers q q' = true) :
    CopyOf backend g q' := by
  simp only [renumbers, Bool.and_eq_true, decide_eq_true_eq] at hsame
  exact ⟨hsame.1.1.trans h.callback, hsame.1.2.trans h.bearerboxId, hsame.2.trans h.smppServer⟩

theorem copyOf_unique {g' : Octstr} (h : CopyOf backend g q) (h' : CopyOf backend g' q) : g = g' := by
  have heq : some g = some g' := h.bearerboxId.symm.trans h'.bearerboxId
  exact Option.some.inj heq

theorem AnsweredAfterWrite.append (h : AnsweredAfterWrite log q) (es : List Event) :
    AnsweredAfterWrite (log ++ es) q := by
  rcases h with ⟨esme, sequenceNumber, status, before, after, hlog, hrest⟩
  exact ⟨esme, sequenceNumber, status, before, after ++ es, by simp [hlog], hrest⟩

/-! ## Where a taken PDU is -/

/-- An ESME has answered the PDU after it was written to it. -/
def Ledger.Answered (L : Ledger) (g : Octstr) : Prop :=
  ∃ q, CopyOf L.backend g q ∧ AnsweredAfterWrite L.log q

/-- The PDU is in the store, and a later poll can take it. -/
def PduStore.Available (store : PduStore) (g : Octstr) : Prop :=
  (store.rows.find? g).isSome ∧ g ∉ store.pendingPdu

/-- The requeue thread or a session has the PDU. -/
def Ledger.InFlight (L : Ledger) (g : Octstr) : Prop :=
  ∃ q, (q ∈ L.stored ∨ q ∈ L.openAcks) ∧ CopyOf L.backend g q

/-- A PDU in flight has its row where the store is a table. -/
def Kept (L : Ledger) (g : Octstr) : Prop :=
  L.Answered g ∨ L.store.Available g ∨
    (L.InFlight g ∧ (L.backend = .mysql → (L.store.rows.find? g).isSome))

structure Retaining (L : Ledger) : Prop where
  stored : ∀ q ∈ L.stored, ∃ g, CopyOf L.backend g q
  openAcks : ∀ q ∈ L.openAcks, q.callback = some .deliverSmResp ∨ ∃ g, CopyOf L.backend g q
  kept : ∀ g, .took g ∈ L.log → Kept L g

/-! ## What the callbacks do to the store -/

/-- Calls that leave the PDU store alone. -/
def sparesStore : Call → Bool
  | .removeStoredPdu _ => false
  | .pendingPduRemove _ => false
  | _ => true

theorem foldl_sparesStore {calls : List Call} (h : ∀ c ∈ calls, sparesStore c = true)
    (store : PduStore) : calls.foldl applyCall store = store := by
  induction calls with
  | nil => rfl
  | cons c calls ih =>
      have hc : applyCall store c = store := by
        have hspares := h c (by simp)
        cases c with
        | removeStoredPdu globalId => cases hspares
        | pendingPduRemove globalId => cases hspares
        | _ => rfl
      simpa [hc] using ih (fun d hd => h d (by simp [hd]))

theorem acknowledge_sparesStore {link : BearerboxLink} {b : Option BearerboxRef}
    {id : Option Octstr} {status : Int} {calls : List Call}
    (h : smppBearerboxAcknowledge link b id status = some calls) :
    ∀ c ∈ calls, sparesStore c = true := by
  unfold smppBearerboxAcknowledge at h
  split at h
  · cases h
    simp
  · split at h
    · cases h
      simp [sparesStore]
    · cases h

theorem settleOrigin_sparesStore {link : BearerboxLink} {calls : List Call}
    (h : settleOrigin link q = some calls) : ∀ c ∈ calls, sparesStore c = true := by
  unfold settleOrigin at h
  split at h
  · exact acknowledge_sparesStore h
  · split at h
    · unfold smppDatabaseRemove at h
      split at h
      · cases h
        simp [sparesStore]
      · cases h
    · cases h
      simp

theorem countDelivery_sparesStore {calls : List Call} (h : countDelivery q = some calls) :
    ∀ c ∈ calls, sparesStore c = true := by
  unfold countDelivery at h
  repeat' split at h
  all_goals cases h
  all_goals simp [sparesStore]

theorem disconnectEsme_sparesStore {calls : List Call} (h : disconnectEsme q = some calls) :
    ∀ c ∈ calls, sparesStore c = true := by
  unfold disconnectEsme at h
  split at h
  · cases h
    simp [sparesStore]
  · cases h

theorem reaction_sparesStore {smppServer : SmppServer} {link : BearerboxLink} {status : Int}
    {calls : List Call} (h : deliverSmRespReaction smppServer link q status = some calls) :
    ∀ c ∈ calls, sparesStore c = true := by
  intro c hc
  rcases deliverSmRespReaction_cases h with ⟨-, counted, settled, rfl, hcounted, hsettled⟩ |
    ⟨acked, ended, rfl, hacked, hended⟩
  · rcases List.mem_append.mp hc with hc | hc
    · rcases hcounted with rfl | hcounted
      · cases hc
      · exact countDelivery_sparesStore hcounted c hc
    · exact settleOrigin_sparesStore hsettled c hc
  · rcases List.mem_append.mp hc with hc | hc
    · rcases hacked with rfl | hacked
      · cases hc
      · exact acknowledge_sparesStore hacked c hc
    · rcases hended with rfl | hended
      · cases hc
      · exact disconnectEsme_sparesStore hended c hc

/-- The callback of a live delivery leaves the PDU store alone. -/
theorem deliverSmResp_store {smppServer : SmppServer} {link : BearerboxLink} {status : Int}
    {calls : List Call} (hcallback : q.callback = some .deliverSmResp)
    (h : invoke smppServer link q status = some calls) (store : PduStore) :
    calls.foldl applyCall store = store := by
  simp only [invoke, hcallback, runCallback] at h
  rcases Option.map_eq_some_iff.mp h with ⟨reaction, hreaction, rfl⟩
  refine foldl_sparesStore ?_ store
  intro c hc
  rcases List.mem_append.mp hc with hc | hc
  · exact reaction_sparesStore hreaction c hc
  · rw [List.mem_singleton.mp hc]
    rfl

/-- The store after the callback of a stored PDU: its mark is gone, and its row too where it is
deleted. -/
def PduStore.closed (store : PduStore) (g : Octstr) (deleted : Bool) : PduStore :=
  { store with
    rows := if deleted then store.rows.remove g else store.rows
    pendingPdu := store.pendingPdu.filter (fun g' => g' ≠ g) }

theorem handler_store {smppServer : SmppServer} {link : BearerboxLink} {status : Int}
    {calls : List Call} (hcopy : CopyOf backend g q)
    (h : invoke smppServer link q status = some calls) (store : PduStore) :
    ∃ deleted, calls.foldl applyCall store = store.closed g deleted ∧
      (status = smppQueuedPduDestroyed ∨ status = smppEsmeCommandStatusWaitAckTimeout →
        deleted = false) := by
  cases backend with
  | mysql =>
      have hcallback : q.callback = some .mysqlQueuedPdu := hcopy.callback
      simp only [invoke, hcallback, runCallback, smppDatabaseMysqlQueuedPduHandler,
        hcopy.smppServer, hcopy.bearerboxId, if_true] at h
      split at h
      · rename_i hfinal
        cases h
        refine ⟨true, rfl, fun hkeep => ?_⟩
        exact absurd hkeep (not_or.mpr hfinal)
      · cases h
        exact ⟨false, rfl, fun _ => rfl⟩
  | redis =>
      have hcallback : q.callback = some .redisQueuedPdu := hcopy.callback
      simp only [invoke, hcallback, runCallback, smppDatabaseRedisQueuedPduHandler,
        hcopy.smppServer, hcopy.bearerboxId, if_true] at h
      cases h
      exact ⟨false, rfl, fun _ => rfl⟩

/-- Another row is as present as it was. -/
theorem find?_closed {g' : Octstr} (hne : g' ≠ g) (store : PduStore) (deleted : Bool) :
    (store.closed g deleted).rows.find? g' = store.rows.find? g' := by
  cases deleted with
  | false => rfl
  | true => exact Keyed.find?_remove_of_ne hne

theorem available_closed {g' : Octstr} {deleted : Bool} {store : PduStore} (hne : g' ≠ g)
    (h : store.Available g') : (store.closed g deleted).Available g' := by
  refine ⟨by rw [find?_closed hne]; exact h.1, ?_⟩
  intro hpending
  exact h.2 (List.mem_of_mem_filter hpending)

/-- Once its mark is gone, a row that was not deleted can be taken again. -/
theorem available_released {store : PduStore} (h : (store.rows.find? g).isSome) :
    (store.closed g false).Available g := by
  refine ⟨h, ?_⟩
  simp [PduStore.closed]

/-! ## Entries -/

theorem Ledger.Answered.append (h : L.Answered g) {t : Ledger} (hbackend : t.backend = L.backend)
    {es : List Event} (hlog : t.log = L.log ++ es) : t.Answered g := by
  rcases h with ⟨q, hcopy, hanswered⟩
  exact ⟨q, hbackend ▸ hcopy, hlog ▸ hanswered.append es⟩

/-- A taken PDU stays kept where the log grows and neither the row nor the copies of it go. -/
theorem Kept.frame (h : Kept L g) (hbackend : L'.backend = L.backend) {es : List Event}
    (hlog : L'.log = L.log ++ es) (havailable : L.store.Available g → L'.store.Available g)
    (hflight : L.InFlight g → L'.InFlight g)
    (hrow : L.backend = .mysql → (L.store.rows.find? g).isSome → (L'.store.rows.find? g).isSome) :
    Kept L' g := by
  rcases h with hanswered | hrest | ⟨hin, hmysql⟩
  · exact Or.inl (hanswered.append hbackend hlog)
  · exact Or.inr (Or.inl (havailable hrest))
  · refine Or.inr (Or.inr ⟨hflight hin, fun hb => ?_⟩)
    have hb' : L.backend = .mysql := hbackend ▸ hb
    exact hrow hb' (hmysql hb')

/-- The store stays, and so do the copies. -/
theorem Kept.sameStore (h : Kept L g) (hbackend : L'.backend = L.backend) {es : List Event}
    (hlog : L'.log = L.log ++ es) (hstore : L'.store = L.store)
    (hflight : L.InFlight g → L'.InFlight g) : Kept L' g :=
  h.frame hbackend hlog (fun ha => hstore ▸ ha) hflight (fun _ hrow => hstore ▸ hrow)

/-- A PDU that is closed gives up its own open ack only. -/
theorem Ledger.InFlight.erase (h : L.InFlight g) (hother : ¬ CopyOf L.backend g q)
    (hbackend : L'.backend = L.backend) (hstored : L'.stored = L.stored)
    (hacks : L'.openAcks = L.openAcks.erase q) : L'.InFlight g := by
  rcases h with ⟨x, hx, hcopy⟩
  have hne : x ≠ q := fun heq => hother (heq ▸ hcopy)
  refine ⟨x, ?_, hbackend ▸ hcopy⟩
  rw [hstored, hacks]
  exact hx.imp_right (fun hmem => (Multiset.mem_erase_of_ne hne).mpr hmem)

theorem not_copyOf_deliverSmResp (h : q.callback = some .deliverSmResp) :
    ¬ CopyOf backend g q := by
  intro hcopy
  have hcallback := hcopy.callback
  rw [h] at hcallback
  cases backend with
  | mysql => cases hcallback
  | redis => cases hcallback

theorem find?_put_isSome {row : StoredPdu} {rows : Keyed StoredPdu.globalId}
    (h : (rows.find? g).isSome) : ((rows.put row).find? g).isSome := by
  by_cases hg : g = row.globalId
  · simp [Keyed.find?_put_self hg.symm]
  · simpa [Keyed.find?_put_of_ne hg] using h

section Entries

variable {status : Int} {link : BearerboxLink} {server : Bool}

theorem kept_take {service : Octstr} {row : StoredPdu} (h : Retaining L)
    (hrow : L.store.rows.find? row.globalId = some row)
    (htook : .took g ∈ L.log ++ [.took row.globalId]) :
    Kept ({ L with
      store := L.store.take L.backend row.globalId
      stored := L.stored ++ [storedPdu L.backend service row] }.record [.took row.globalId]) g := by
  by_cases hg : g = row.globalId
  · -- the row just taken: the requeue thread has its PDU
    subst hg
    refine Or.inr (Or.inr ⟨⟨storedPdu L.backend service row, ?_, copyOf_storedPdu service row⟩, ?_⟩)
    · exact Or.inl (by simp [Ledger.record])
    · intro hmysql
      have hb : L.backend = .mysql := hmysql
      simp [Ledger.record, PduStore.take, hb, hrow]
  · -- any other row is as present and as marked as before
    have hold : .took g ∈ L.log := by simpa [hg] using htook
    have hfind : ((L.store.take L.backend row.globalId).rows.find? g) = L.store.rows.find? g := by
      cases hb : L.backend with
      | mysql => rfl
      | redis => exact Keyed.find?_remove_of_ne hg
    refine (h.kept g hold).frame rfl rfl ?_ ?_ ?_
    · intro ha
      refine ⟨hfind ▸ ha.1, ?_⟩
      intro hpending
      rcases List.mem_cons.mp hpending with heq | hmem
      · exact hg heq
      · exact ha.2 hmem
    · rintro ⟨x, hx, hcopy⟩
      exact ⟨x, hx.imp_left (fun hmem => List.mem_append_left _ hmem), hcopy⟩
    · intro _ hsome
      exact hfind ▸ hsome

/-- Closing the open ack of a stored PDU keeps it if the entry does. -/
theorem kept_closeCopy {g₀ : Octstr} {calls : List Call} (h : Kept L g)
    (hcopy : CopyOf L.backend g₀ q) (hkeep : KeepsEntry L (.close q status link server))
    (hcalls : invoke L.smppServer link { q with smppServer := server || q.smppServer } status =
      some calls) :
    Kept ({ L with
      openAcks := L.openAcks.erase q
      store := calls.foldl applyCall L.store }.record [.callback q status calls]) g := by
  have hcopy' : CopyOf L.backend g₀ { q with smppServer := server || q.smppServer } :=
    ⟨hcopy.callback, hcopy.bearerboxId, by simp [hcopy.smppServer]⟩
  rcases handler_store hcopy' hcalls L.store with ⟨deleted, hstore, hspared⟩
  rw [hstore]
  by_cases hg : g = g₀
  · subst hg
    rcases hkeep hcopy.callback with hanswered | ⟨hmysql, hstatus⟩
    · exact Or.inl ⟨q, hcopy, hanswered.append _⟩
    · -- a timeout or the end of the session deletes no row, and clears its mark
      have hdeleted := hspared hstatus
      subst hdeleted
      rcases h with hanswered | havailable | ⟨-, hrow⟩
      · exact Or.inl (hanswered.append rfl rfl)
      · exact Or.inr (Or.inl (available_released havailable.1))
      · exact Or.inr (Or.inl (available_released (hrow hmysql)))
  · have hother : ¬ CopyOf L.backend g q := fun hc => hg (copyOf_unique hc hcopy)
    refine h.frame rfl rfl (available_closed hg) ?_ ?_
    · intro hin
      exact hin.erase hother rfl rfl rfl
    · intro _ hrow
      exact (find?_closed hg L.store deleted) ▸ hrow

theorem retaining_close (h : Retaining L) (hkeep : KeepsEntry L (.close q status link server))
    (hpost : post L (.close q status link server) = some L') : Retaining L' := by
  simp only [post] at hpost
  split at hpost
  · rename_i hq
    rcases Option.map_eq_some_iff.mp hpost with ⟨calls, hcalls, rfl⟩
    refine ⟨h.stored, fun x hx => h.openAcks x (Multiset.mem_of_mem_erase hx), ?_⟩
    intro g htook
    have hkept := h.kept g (by simpa [Ledger.record] using htook)
    rcases h.openAcks q hq with hdeliver | ⟨g₀, hcopy⟩
    · -- a live delivery, whose callback does not touch the store
      have hstore := deliverSmResp_store
        (q := { q with smppServer := server || q.smppServer }) hdeliver hcalls L.store
      refine hkept.sameStore rfl rfl hstore ?_
      intro hin
      exact hin.erase (not_copyOf_deliverSmResp hdeliver) rfl rfl rfl
    · exact kept_closeCopy hkept hcopy hkeep hcalls
  · cases hpost

theorem retaining_dispatch (h : Retaining L) (hpost : post L (.dispatch q') = some L') :
    Retaining L' := by
  simp only [post] at hpost
  split at hpost
  · rename_i q stored hstored
    split at hpost
    · rename_i hsame
      cases hpost
      have hcopy : ∀ {g}, CopyOf L.backend g q → CopyOf L.backend g q' :=
        fun hc => copyOf_renumbers hc hsame
      refine ⟨?_, ?_, ?_⟩
      · intro x hx
        refine h.stored x ?_
        rw [hstored]
        exact List.mem_cons_of_mem q hx
      · intro x hx
        rcases Multiset.mem_cons.mp hx with rfl | hold
        · rcases h.stored q (by simp [hstored]) with ⟨g, hc⟩
          exact Or.inr ⟨g, hcopy hc⟩
        · exact h.openAcks x hold
      · intro g htook
        refine (h.kept g (by simpa [Ledger.record] using htook)).sameStore rfl rfl rfl ?_
        rintro ⟨x, hx | hx, hc⟩
        · rw [hstored] at hx
          rcases List.mem_cons.mp hx with rfl | hrest
          · -- the copy at the head is now an open ack, under a new number
            exact ⟨q', Or.inr (Multiset.mem_cons_self q' _), hcopy hc⟩
          · exact ⟨x, Or.inl hrest, hc⟩
        · exact ⟨x, Or.inr (Multiset.mem_cons_of_mem hx), hc⟩
    · cases hpost
  · cases hpost

/-- An entry that loses nothing retains the taken PDUs. -/
theorem retaining_post {a : Entry} (h : Retaining L) (hkeep : KeepsEntry L a)
    (hpost : post L a = some L') : Retaining L' := by
  cases a with
  | note e =>
      simp only [post] at hpost
      split at hpost
      · rename_i hnote
        cases hpost
        refine ⟨h.stored, h.openAcks, fun g htook => ?_⟩
        have hold : .took g ∈ L.log := by
          rcases List.mem_append.mp htook with hold | hnew
          · exact hold
          · rw [← List.mem_singleton.mp hnew] at hnote
            cases hnote
        exact (h.kept g hold).sameStore rfl rfl rfl id
      · cases hpost
  | send q =>
      simp only [post] at hpost
      split at hpost
      · rename_i hdeliver
        cases hpost
        refine ⟨h.stored, ?_, fun g htook => ?_⟩
        · intro x hx
          rcases Multiset.mem_cons.mp hx with rfl | hold
          · exact Or.inl hdeliver
          · exact h.openAcks x hold
        · refine (h.kept g (by simpa [Ledger.record] using htook)).sameStore rfl rfl rfl ?_
          rintro ⟨x, hx, hcopy⟩
          exact ⟨x, hx.imp_right (fun hmem => Multiset.mem_cons_of_mem hmem), hcopy⟩
      · cases hpost
  | dispatch q' => exact retaining_dispatch h hpost
  | reject link => exact hkeep.elim
  | close q status link server => exact retaining_close h hkeep hpost
  | take service row =>
      simp only [post] at hpost
      split at hpost
      · rename_i hfree
        cases hpost
        refine ⟨?_, h.openAcks, fun g htook => kept_take h hfree.1 htook⟩
        intro x hx
        rcases List.mem_append.mp hx with hold | hnew
        · exact h.stored x hold
        · rw [List.mem_singleton.mp hnew]
          exact ⟨row.globalId, copyOf_storedPdu service row⟩
      · cases hpost
  | add row =>
      simp only [post] at hpost
      split at hpost
      · cases hpost
        refine ⟨h.stored, h.openAcks, fun g htook => ?_⟩
        refine (h.kept g htook).frame rfl (List.append_nil L.log).symm ?_ id ?_
        · exact fun ha => ⟨find?_put_isSome ha.1, ha.2⟩
        · exact fun _ hrow => find?_put_isSome hrow
      · cases hpost

end Entries

/-! ## Runs -/

theorem retaining_init (smppServer : SmppServer) (backend : Backend) :
    Retaining (ledgerOf (deliveryInit smppServer backend)) := by
  refine ⟨?_, ?_, ?_⟩
  · simp [ledgerOf, deliveryInit]
  · simp [ledgerOf, mem_openAcksOf, deliveryInit, smppEsmeInit]
  · simp [ledgerOf, deliveryInit]

/-- A PDU taken from the store is answered by an ESME it was written to, or it is in the store for
a later poll, or it is still on its way, in every run whose steps all keep. -/
theorem stored_pdu_retained {smppServer : SmppServer} {ls : List Label}
    (hrun : Run step Keeps (deliveryInit smppServer backend) ls s) (htook : .took g ∈ s.log) :
    (ledgerOf s).Answered g ∨ s.store.Available g ∨ (ledgerOf s).InFlight g := by
  rcases (run_posts (K := True) (fun _ _ _ hkeeps => hkeeps) hrun
    (consistent_init smppServer backend)).2 with ⟨entries, hentries⟩
  have hretaining : Retaining (ledgerOf s) :=
    hentries.invariant Retaining (fun _ _ _ h hkeep hpost => retaining_post h (hkeep trivial) hpost)
      (retaining_init smppServer backend)
  exact (hretaining.kept g htook).imp_right (Or.imp_right And.left)

instance decidableKeeps (s : DeliveryState) : (l : Label) → Decidable (Keeps s l)
  | .dispatch _ => inferInstanceAs (Decidable
      (∀ q ∈ s.stored.head?, (smppEsmeFindBestReceiver s.data q.systemId).isSome))
  | .ack esme sequenceNumber _ _ => inferInstanceAs (Decidable
      ((storedAck? s esme sequenceNumber).isSome → .written esme (some sequenceNumber) ∈ s.log))
  | .expire esme sequenceNumber _ => inferInstanceAs (Decidable
      (s.backend = .mysql ∨ storedAck? s esme sequenceNumber = none))
  | .destroy esme _ => inferInstanceAs (Decidable (s.backend = .mysql ∨ storedAcks s esme = []))
  | .bind _ | .disconnect _ | .cleanup _ | .addPdu _ | .getStoredPdu _ _ | .deliver _ _ _
  | .addOutbound _ _ _ | .write => isTrue trivial

def sampleRow : StoredPdu where
  globalId := octstrImm "7"
  systemId := octstrImm "test"
  pdu := { sequenceNumber := 0, esmClass := 0 }

/-- A PDU is stored, and the requeue thread takes it for the receiver. -/
def samplePoll : List Label :=
  [.bind (sampleReceiver (octstrImm "test")), .addPdu sampleRow,
    .getStoredPdu 1 [sampleRow.globalId]]

theorem stored_pdu_retained_sample :
    ∃ s, Run step Keeps (deliveryInit sampleServer .redis)
        (samplePoll ++ [.dispatch sampleLink, .write, .ack 1 1 smppEsmeRok sampleLink]) s ∧
      .took sampleRow.globalId ∈ s.log ∧
        ((ledgerOf s).Answered sampleRow.globalId ∨ s.store.Available sampleRow.globalId ∨
          (ledgerOf s).InFlight sampleRow.globalId) := by
  have hexec : (execute step Keeps (deliveryInit sampleServer .redis)
      (samplePoll ++ [.dispatch sampleLink, .write, .ack 1 1 smppEsmeRok sampleLink])).map
        (fun s => decide (.took sampleRow.globalId ∈ s.log)) = some true := by decide +kernel
  rcases Option.map_eq_some_iff.mp hexec with ⟨s, hs, htook⟩
  have hrun := run_of_execute hs
  exact ⟨s, hrun, of_decide_eq_true htook, stored_pdu_retained hrun (of_decide_eq_true htook)⟩

/-- The receiver goes between the poll and the dispatch. -/
def sampleLoss : List Label := samplePoll ++ [.disconnect 1, .dispatch sampleLink]

/-- Nobody has the PDU, nobody was sent it, and the store is empty. -/
def lostSample (s : DeliveryState) : Bool :=
  .took sampleRow.globalId ∈ s.log && s.log.all (fun e => match e with
      | .answered _ _ _ => false
      | _ => true) &&
    s.store.rows.entries.isEmpty && s.stored.isEmpty &&
      s.data.sessions.entries.all (fun e => e.openAcks.entries.isEmpty)

theorem lost_of_lostSample (h : lostSample s = true) :
    .took sampleRow.globalId ∈ s.log ∧ ¬ ((ledgerOf s).Answered sampleRow.globalId ∨
      s.store.Available sampleRow.globalId ∨ (ledgerOf s).InFlight sampleRow.globalId) := by
  simp only [lostSample, Bool.and_eq_true, decide_eq_true_eq, List.all_eq_true,
    List.isEmpty_iff] at h
  rcases h with ⟨⟨⟨⟨htook, hlog⟩, hrows⟩, hstored⟩, hacks⟩
  refine ⟨htook, ?_⟩
  rintro (⟨q, -, esme, sequenceNumber, status, before, after, hsplit, -⟩ | ⟨hrow, -⟩ |
    ⟨q, hq | hq, -⟩)
  · have hanswered : Event.answered esme sequenceNumber status ∈ s.log := by
      change s.log = before ++ _ at hsplit
      simp [hsplit]
    simpa using hlog _ hanswered
  · simp [Keyed.find?, hrows] at hrow
  · change q ∈ s.stored at hq
    simp [hstored] at hq
  · rcases mem_openAcksOf.mp hq with ⟨e, he, hmem⟩
    simp [hacks e he] at hmem

/-- The sample run on this backend ends with the PDU lost. -/
def LosesSample (backend : Backend) : Prop :=
  ∃ s, Run step anyStep (deliveryInit sampleServer backend) sampleLoss s ∧
    .took sampleRow.globalId ∈ s.log ∧ ¬ ((ledgerOf s).Answered sampleRow.globalId ∨
      s.store.Available sampleRow.globalId ∨ (ledgerOf s).InFlight sampleRow.globalId)

theorem losesSample_of_execute
    (h : (execute step anyStep (deliveryInit sampleServer backend) sampleLoss).map lostSample =
      some true) : LosesSample backend := by
  rcases Option.map_eq_some_iff.mp h with ⟨s, hs, hlost⟩
  exact ⟨s, run_of_execute hs, lost_of_lostSample hlost⟩

/-- On both backends a PDU that finds no receiver is lost. -/
theorem stored_pdu_lost_without_receiver : LosesSample .mysql ∧ LosesSample .redis := by
  constructor
  · apply losesSample_of_execute
    decide +kernel
  · apply losesSample_of_execute
    decide +kernel

end Delivery
end Ksmppd
