import Ksmppd.Lib.Transition
import Ksmppd.EsmeLookup
import Ksmppd.Delivery.Model

/-!
# Ledger — deliveries without sessions

The abstract model of the delivery threads.  A ledger forgets sessions, windows and the outbound
queue: it has the bag of all open acks, the PDU store, the list of the requeue thread and the log.
An entry opens an ack, closes one by running its callback, or moves a PDU between the store and
the requeue thread.  Every step of the delivery threads posts a list of entries, as sequence
numbers never collide.
-/

namespace Ksmppd
namespace Delivery

open Lib

/-! ## The ledger -/

structure Ledger where
  smppServer : SmppServer
  backend : Backend
  openAcks : Multiset SmppQueuedPdu
  store : PduStore
  stored : List SmppQueuedPdu
  log : List Event

inductive Entry
  /-- Something was written to a session, or received from it. -/
  | note (e : Event)
  /-- A part of a message is queued. -/
  | send (q : SmppQueuedPdu)
  /-- The next PDU of the requeue thread is queued as `q`. -/
  | dispatch (q : SmppQueuedPdu)
  /-- The next PDU of the requeue thread finds no receiver. -/
  | reject (link : BearerboxLink)
  /-- An open ack is closed; `server` says that the server pointer is set before. -/
  | close (q : SmppQueuedPdu) (status : Int) (link : BearerboxLink) (server : Bool)
  | take (service : Octstr) (row : StoredPdu)
  | add (row : StoredPdu)

def isNote : Event → Bool
  | .written _ _ => true
  | .answered _ _ _ => true
  | _ => false

/-- The callback, the row and the server pointer stay when a PDU gets its number. -/
def renumbers (q q' : SmppQueuedPdu) : Bool :=
  q'.callback = q.callback && q'.bearerboxId = q.bearerboxId && q'.smppServer = q.smppServer

def Ledger.record (L : Ledger) (es : List Event) : Ledger := { L with log := L.log ++ es }

def Ledger.settle (L : Ledger) (q : SmppQueuedPdu) (status : Int) (calls : Option (List Call)) :
    Option Ledger :=
  calls.map (fun cs =>
    { L with store := cs.foldl applyCall L.store }.record [.callback q status cs])

def post (L : Ledger) : Entry → Option Ledger
  | .note e => if isNote e then some (L.record [e]) else none
  | .send q =>
      if q.callback = some .deliverSmResp then
        some ({ L with openAcks := q ::ₘ L.openAcks }.record [.queued q])
      else none
  | .dispatch q' =>
      match L.stored with
      | q :: stored =>
          if renumbers q q' then
            some ({ L with stored := stored, openAcks := q' ::ₘ L.openAcks }.record [.queued q'])
          else none
      | [] => none
  | .reject link =>
      match L.stored with
      | q :: stored =>
          { L with stored := stored }.settle q smppEsmeRmsgqful
            (invoke L.smppServer link q smppEsmeRmsgqful)
      | [] => none
  | .close q status link server =>
      if q ∈ L.openAcks then
        { L with openAcks := L.openAcks.erase q }.settle q status
          (invoke L.smppServer link { q with smppServer := server || q.smppServer } status)
      else none
  | .take service row =>
      if L.store.rows.find? row.globalId = some row ∧ row.globalId ∉ L.store.pendingPdu then
        some ({ L with
          store := L.store.take L.backend row.globalId
          stored := L.stored ++ [storedPdu L.backend service row] }.record [.took row.globalId])
      else none
  | .add row =>
      if row.globalId ∉ L.store.globalIds then some { L with store := L.store.add row } else none

/-! ## Entries that lose nothing -/

/-- The ESME answered a PDU that had been written to it. -/
def AnsweredAfterWrite (log : List Event) (q : SmppQueuedPdu) : Prop :=
  ∃ esme sequenceNumber status before after,
    log = before ++ .answered esme sequenceNumber status :: after ∧
      q.smppEsme = some esme ∧ q.id = some sequenceNumber ∧ .queued q ∈ before ∧
        .written esme (some sequenceNumber) ∈ before

/-- The open ack of a stored PDU may be closed by an answer to what was written, or, where the row
is still in the table, by a timeout or the end of the session; and a stored PDU has a receiver. -/
def KeepsEntry (L : Ledger) : Entry → Prop
  | .close q status _ _ => q.callback = some L.backend.queuedPduHandler →
      AnsweredAfterWrite L.log q ∨ (L.backend = .mysql ∧
        (status = smppQueuedPduDestroyed ∨ status = smppEsmeCommandStatusWaitAckTimeout))
  | .reject _ => False
  | _ => True

/-- The open ack of a stored PDU under a session's sequence number. -/
def storedAck? (s : DeliveryState) (esme : EsmeRef) (sequenceNumber : Int) :
    Option SmppQueuedPdu :=
  ((s.data.sessions.find? esme).bind (fun e => e.openAcks.find? (some sequenceNumber))).filter
    (fun q => q.callback = some s.backend.queuedPduHandler)

/-- The open acks of stored PDUs a session has. -/
def storedAcks (s : DeliveryState) (esme : EsmeRef) : List SmppQueuedPdu :=
  ((s.data.sessions.find? esme).elim [] (fun e => e.openAcks.entries)).filter
    (fun q => q.callback = some s.backend.queuedPduHandler)

/-- A stored PDU that is dispatched finds a receiver; a stored PDU that is answered was written
before; and a list entry neither times out nor goes with its session. -/
def Keeps (s : DeliveryState) : Label → Prop
  | .dispatch _ =>
      ∀ q ∈ s.stored.head?, (smppEsmeFindBestReceiver s.data q.systemId).isSome
  | .ack esme sequenceNumber _ _ =>
      (storedAck? s esme sequenceNumber).isSome → .written esme (some sequenceNumber) ∈ s.log
  | .expire esme sequenceNumber _ =>
      s.backend = .mysql ∨ storedAck? s esme sequenceNumber = none
  | .destroy esme _ => s.backend = .mysql ∨ storedAcks s esme = []
  | _ => True

/-! ## The ledger of a state -/

/-- The open acks of all sessions. -/
def openAcksOf (s : DeliveryState) : Multiset SmppQueuedPdu :=
  s.data.sessions.weight (fun e => (e.openAcks.entries : Multiset SmppQueuedPdu))

def ledgerOf (s : DeliveryState) : Ledger where
  smppServer := s.smppServer
  backend := s.backend
  openAcks := openAcksOf s
  store := s.store
  stored := s.stored
  log := s.log

theorem mem_openAcksOf {s : DeliveryState} {q : SmppQueuedPdu} :
    q ∈ openAcksOf s ↔ ∃ e ∈ s.data.sessions.entries, q ∈ e.openAcks.entries := by
  simp [openAcksOf, Keyed.mem_weight]

/-- An open ack stands under its session's address and a number the session has used. -/
structure OpenAck (log : List Event) (e : SmppEsme) (q : SmppQueuedPdu) : Prop where
  smppEsme : q.smppEsme = some e.id
  id : ∃ k : Nat, q.id = some (k : Int) ∧ k < e.sequenceNumber
  queued : .queued q ∈ log

/-- Session ids were given by the listener, and open acks are `OpenAck`s. -/
structure Consistent (s : DeliveryState) : Prop where
  ids : ∀ e ∈ s.data.sessions.entries, e.id ∈ s.esmeIds
  openAcks : ∀ e ∈ s.data.sessions.entries, ∀ q ∈ e.openAcks.entries, OpenAck s.log e q

variable {s t : DeliveryState} {e e' : SmppEsme} {q : SmppQueuedPdu} {K : Prop}

theorem consistent_init (smppServer : SmppServer) (backend : Backend) :
    Consistent (deliveryInit smppServer backend) where
  ids := by simp [deliveryInit, smppEsmeInit]
  openAcks := by simp [deliveryInit, smppEsmeInit]

theorem consistent_record (h : Consistent s) (es : List Event) : Consistent (s.record es) where
  ids := h.ids
  openAcks := by
    intro e he q hq
    have hack := h.openAcks e he q hq
    exact ⟨hack.smppEsme, hack.id, List.mem_append_left es hack.queued⟩

theorem consistent_setSession (h : Consistent s) (hfind : s.data.sessions.find? e'.id = some e)
    (hacks : ∀ q ∈ e'.openAcks.entries, OpenAck s.log e' q) : Consistent (s.setSession e') where
  ids := by
    intro x hx
    rcases Keyed.mem_put.mp hx with rfl | ⟨hold, -⟩
    · rcases Keyed.find?_eq_some_iff.mp hfind with ⟨hmem, hid⟩
      rw [← hid]
      exact h.ids e hmem
    · exact h.ids x hold
  openAcks := by
    intro x hx
    rcases Keyed.mem_put.mp hx with rfl | ⟨hold, -⟩
    · exact hacks
    · exact h.openAcks x hold

/-- What the open acks lose and gain when one session record is replaced. -/
theorem openAcksOf_setSession (hfind : s.data.sessions.find? e'.id = some e) :
    openAcksOf (s.setSession e') + (e.openAcks.entries : Multiset SmppQueuedPdu) =
      openAcksOf s + (e'.openAcks.entries : Multiset SmppQueuedPdu) :=
  Keyed.weight_put_of_find _ hfind

/-! ## Steps post entries -/

/-- The state after is consistent, and its ledger is reached by posting entries; they lose nothing
if `K` holds. -/
def Posts (K : Prop) (s t : DeliveryState) : Prop :=
  Consistent t ∧ Reach post (fun L a => K → KeepsEntry L a) (ledgerOf s) (ledgerOf t)

theorem Posts.refl (h : Consistent s) : Posts K s s := ⟨h, [], Run.nil⟩

theorem Posts.trans {u : DeliveryState} (hst : Posts K s t) (htu : Posts K t u) : Posts K s u := by
  rcases hst with ⟨-, ls, hls⟩
  rcases htu with ⟨hu, ms, hms⟩
  exact ⟨hu, ls ++ ms, hls.append hms⟩

theorem Posts.single (h : Consistent t) {a : Entry} (hkeep : K → KeepsEntry (ledgerOf s) a)
    (hpost : post (ledgerOf s) a = some (ledgerOf t)) : Posts K s t :=
  ⟨h, [a], Run.single hkeep hpost⟩

/-- A change the ledger does not see. -/
theorem Posts.unseen (h : Consistent t) (hledger : ledgerOf t = ledgerOf s) : Posts K s t :=
  ⟨h, [], hledger ▸ Run.nil⟩

theorem posts_note (h : Consistent s) {ev : Event} (hev : isNote ev = true) :
    Posts K s (s.record [ev]) := by
  refine Posts.single (a := .note ev) (consistent_record h [ev]) (fun _ => trivial) ?_
  simp [post, hev, ledgerOf, DeliveryState.record, Ledger.record, openAcksOf]

/-- A session record whose open acks stay is not seen by the ledger. -/
theorem unseen_setSession (h : Consistent s) (hfind : s.data.sessions.find? e'.id = some e)
    (hacks : e'.openAcks = e.openAcks) (hseq : e.sequenceNumber ≤ e'.sequenceNumber) :
    Consistent (s.setSession e') ∧ ledgerOf (s.setSession e') = ledgerOf s := by
  rcases Keyed.find?_eq_some_iff.mp hfind with ⟨hmem, hid⟩
  constructor
  · refine consistent_setSession h hfind ?_
    intro q hq
    have hack := h.openAcks e hmem q (by simpa [hacks] using hq)
    rcases hack.id with ⟨k, hk, hlt⟩
    exact ⟨by simpa [hid] using hack.smppEsme, ⟨k, hk, by omega⟩, hack.queued⟩
  · have hsum := openAcksOf_setSession hfind
    rw [hacks] at hsum
    have hopen : openAcksOf (s.setSession e') = openAcksOf s := add_right_cancel hsum
    simp only [ledgerOf, hopen]
    rfl

/-- So a step that sets such a record posts nothing, whatever it does to the outbound queue. -/
theorem posts_setSession (e' : SmppEsme) (outboundQueue : List SmppQueuedPdu) (h : Consistent s)
    {esme : EsmeRef} (hfind : s.data.sessions.find? esme = some e) (hid : e'.id = e.id)
    (hacks : e'.openAcks = e.openAcks) (hseq : e.sequenceNumber ≤ e'.sequenceNumber) :
    Posts K s { s.setSession e' with outboundQueue := outboundQueue } := by
  have hfind' : s.data.sessions.find? e'.id = some e := hid ▸ Keyed.find?_key hfind
  have hunseen := unseen_setSession h hfind' hacks hseq
  exact Posts.unseen ⟨hunseen.1.ids, hunseen.1.openAcks⟩ hunseen.2

/-! ## Opening acks -/

/-- The number a session gives next is not in use. -/
theorem find?_next_eq_none (h : Consistent s) (he : e ∈ s.data.sessions.entries) :
    e.openAcks.find? (some (e.sequenceNumber : Int)) = none := by
  refine Keyed.find?_eq_none_iff.mpr ?_
  intro q hq hid
  rcases (h.openAcks e he q hq).id with ⟨k, hk, hlt⟩
  have hkn : (k : Int) = e.sequenceNumber := by
    simpa [hk] using hid
  omega

theorem consistent_send (h : Consistent s) (hfind : s.data.sessions.find? e.id = some e)
    (q : SmppQueuedPdu) : Consistent (s.send e q) := by
  have hmem := (Keyed.find?_eq_some_iff.mp hfind).1
  have hs' := consistent_record h [.queued (numberPdu e q)]
  have hset : Consistent ((s.record [.queued (numberPdu e q)]).setSession
      (SmppEsme.queueOne (SmppEsme.openAck (SmppEsme.takeNumber e) (numberPdu e q)))) := by
    refine consistent_setSession hs' hfind ?_
    intro x hx
    rcases Keyed.mem_put.mp hx with rfl | ⟨hold, -⟩
    · -- the new ack stands under the number just taken, the others stay below it
      refine ⟨rfl, ⟨e.sequenceNumber, rfl, ?_⟩, ?_⟩
      · simp [SmppEsme.queueOne, SmppEsme.openAck, SmppEsme.takeNumber]
      · simp [DeliveryState.record]
    · have hack := hs'.openAcks e hmem x hold
      rcases hack.id with ⟨k, hk, hlt⟩
      refine ⟨hack.smppEsme, ⟨k, hk, ?_⟩, hack.queued⟩
      simp only [SmppEsme.queueOne, SmppEsme.openAck, SmppEsme.takeNumber]
      omega
  exact ⟨hset.ids, hset.openAcks⟩

theorem openAcksOf_send (h : Consistent s) (hfind : s.data.sessions.find? e.id = some e)
    (q : SmppQueuedPdu) : openAcksOf (s.send e q) = numberPdu e q ::ₘ openAcksOf s := by
  have hmem := (Keyed.find?_eq_some_iff.mp hfind).1
  have hsum : openAcksOf (s.send e q) + (e.openAcks.entries : Multiset SmppQueuedPdu) =
      openAcksOf s + ((e.openAcks.put (numberPdu e q)).entries : Multiset SmppQueuedPdu) :=
    @openAcksOf_setSession s e
      (SmppEsme.queueOne (SmppEsme.openAck (SmppEsme.takeNumber e) (numberPdu e q))) hfind
  have hput := @Keyed.coe_entries_put _ _ _ _ _ e.openAcks (numberPdu e q)
    (find?_next_eq_none h hmem)
  rw [hput, Multiset.add_cons, ← Multiset.cons_add] at hsum
  exact add_right_cancel hsum

theorem ledgerOf_send (h : Consistent s) (hfind : s.data.sessions.find? e.id = some e)
    (q : SmppQueuedPdu) : ledgerOf (s.send e q) =
      { ledgerOf s with openAcks := numberPdu e q ::ₘ openAcksOf s }.record
        [.queued (numberPdu e q)] := by
  simp only [ledgerOf, openAcksOf_send h hfind q]
  rfl

theorem posts_send (h : Consistent s) (hfind : s.data.sessions.find? e.id = some e)
    (hq : q.callback = some .deliverSmResp) : Posts K s (s.send e q) := by
  refine Posts.single (a := .send (numberPdu e q)) (consistent_send h hfind q)
    (fun _ => trivial) ?_
  have hcallback : (numberPdu e q).callback = some .deliverSmResp := hq
  rw [ledgerOf_send h hfind q]
  simp [post, hcallback, ledgerOf]

theorem posts_dispatch {stored : List SmppQueuedPdu} (h : Consistent s)
    (hfind : s.data.sessions.find? e.id = some e) (hstored : s.stored = q :: stored) :
    Posts K s ({ s with stored := stored }.send e q) := by
  have hs' : Consistent { s with stored := stored } := ⟨h.ids, h.openAcks⟩
  refine Posts.single (a := .dispatch (numberPdu e q)) (consistent_send hs' hfind q)
    (fun _ => trivial) ?_
  have hnumber : renumbers q (numberPdu e q) = true := by
    simp [renumbers, numberPdu]
  rw [ledgerOf_send hs' hfind q]
  simp only [post, ledgerOf, hstored, hnumber, if_true]
  rfl

theorem posts_sendAll {esme : EsmeRef} {qs : List SmppQueuedPdu} (h : Consistent s)
    (hqs : ∀ q ∈ qs, q.callback = some .deliverSmResp) (hsend : s.sendAll esme qs = some t) :
    Posts K s t := by
  induction qs generalizing s with
  | nil =>
      cases hsend
      exact Posts.refl h
  | cons q qs ih =>
      simp only [DeliveryState.sendAll] at hsend
      split at hsend
      · rename_i e hfind
        have hfirst : Posts K s (s.send e q) :=
          posts_send h (Keyed.find?_key hfind) (hqs q (by simp))
        exact hfirst.trans (ih hfirst.1 (fun x hx => hqs x (by simp [hx])) hsend)
      · cases hsend

/-! ## Closing acks -/

theorem openAcksOf_close {id : Option Int} (hfind : s.data.sessions.find? e.id = some e)
    (hack : e.openAcks.find? id = some q) :
    openAcksOf s = q ::ₘ openAcksOf (s.setSession (SmppEsme.closeAck e id)) := by
  have hsum : openAcksOf (s.setSession (SmppEsme.closeAck e id)) +
        (e.openAcks.entries : Multiset SmppQueuedPdu) =
      openAcksOf s + ((e.openAcks.remove id).entries : Multiset SmppQueuedPdu) :=
    @openAcksOf_setSession s e (SmppEsme.closeAck e id) hfind
  rw [← Keyed.coe_entries_remove hack, Multiset.add_cons, ← Multiset.cons_add] at hsum
  exact (add_right_cancel hsum).symm

theorem consistent_close {id : Option Int} (h : Consistent s)
    (hfind : s.data.sessions.find? e.id = some e) :
    Consistent (s.setSession (SmppEsme.closeAck e id)) := by
  have hmem := (Keyed.find?_eq_some_iff.mp hfind).1
  refine consistent_setSession h hfind ?_
  intro q hq
  have hack := h.openAcks e hmem q (Keyed.mem_remove.mp hq).1
  exact ⟨hack.smppEsme, hack.id, hack.queued⟩

theorem consistent_settle {status : Int} {calls : Option (List Call)} (h : Consistent s)
    (hsettle : s.settle q status calls = some t) : Consistent t := by
  rcases Option.map_eq_some_iff.mp hsettle with ⟨cs, -, rfl⟩
  have hrecord := consistent_record h [.callback q status cs]
  exact ⟨hrecord.ids, hrecord.openAcks⟩

/-- An open ack is closed and its callback run; the server pointer may be set before. -/
theorem posts_close {id : Option Int} {status : Int} {link : BearerboxLink} (server : Bool)
    (h : Consistent s) (hfind : s.data.sessions.find? e.id = some e)
    (hack : e.openAcks.find? id = some q)
    (hkeep : K → KeepsEntry (ledgerOf s) (.close q status link server))
    (hsettle : (s.setSession (SmppEsme.closeAck e id)).settle q status
      (invoke s.smppServer link { q with smppServer := server || q.smppServer } status) = some t) :
    Posts K s t := by
  have hopen := openAcksOf_close hfind hack
  refine Posts.single (consistent_settle (consistent_close h hfind) hsettle) hkeep ?_
  rcases Option.map_eq_some_iff.mp hsettle with ⟨calls, hcalls, rfl⟩
  have hmem : q ∈ openAcksOf s := by
    rw [hopen]
    exact Multiset.mem_cons_self q _
  have herase : (openAcksOf s).erase q =
      openAcksOf (s.setSession (SmppEsme.closeAck e id)) := by
    rw [hopen]
    exact Multiset.erase_cons_head q _
  simp only [post, ledgerOf, hmem, if_true, hcalls, herase, Ledger.settle, Option.map_some]
  rfl

/-- The open acks of a session that is destroyed are closed one by one. -/
theorem posts_destroyOpenAcks {esme : EsmeRef} {link : BearerboxLink} {qs : List SmppQueuedPdu}
    (h : Consistent s) (hfind : s.data.sessions.find? esme = some e) (hqs : e.openAcks.entries = qs)
    (hkeep : K → s.backend = .mysql ∨ ∀ q ∈ qs, q.callback ≠ some s.backend.queuedPduHandler)
    (hdestroy : s.destroyOpenAcks esme link qs = some t) :
    Posts K s t ∧ ∃ e', t.data.sessions.find? esme = some e' ∧ e'.openAcks.entries = [] := by
  induction qs generalizing s e with
  | nil =>
      cases hdestroy
      exact ⟨Posts.refl h, e, hfind, hqs⟩
  | cons q qs ih =>
      have hid := Keyed.key_of_find? hfind
      have hfind' : s.data.sessions.find? e.id = some e := Keyed.find?_key hfind
      simp only [DeliveryState.destroyOpenAcks, hfind] at hdestroy
      rcases Option.bind_eq_some_iff.mp hdestroy with ⟨s', hfirst, hrest⟩
      have hack : e.openAcks.find? q.id = some q :=
        Keyed.find?_eq_some_iff.mpr ⟨by simp [hqs], rfl⟩
      have hclose : Posts K s s' := by
        refine posts_close false h hfind' hack ?_ (by simpa using hfirst)
        intro hK hstored
        rcases hkeep hK with hmysql | hnone
        · exact Or.inr ⟨hmysql, Or.inl rfl⟩
        · exact absurd hstored (hnone q (by simp))
      rcases Option.map_eq_some_iff.mp hfirst with ⟨calls, -, hs'⟩
      have hdata : s'.data.sessions = s.data.sessions.put (SmppEsme.closeAck e q.id) := by
        rw [← hs']
        rfl
      have hfindNext : s'.data.sessions.find? esme = some (SmppEsme.closeAck e q.id) := by
        rw [hdata]
        exact Keyed.find?_put_self hid
      have hbackend : s'.backend = s.backend := by
        rw [← hs']
        rfl
      have hkeepNext : K → s'.backend = .mysql ∨
          ∀ x ∈ qs, x.callback ≠ some s'.backend.queuedPduHandler := by
        intro hK
        rw [hbackend]
        exact (hkeep hK).imp_right (fun hnone x hx => hnone x (by simp [hx]))
      have hrestPosts := ih hclose.1 hfindNext (Keyed.entries_remove_head hqs) hkeepNext hrest
      exact ⟨hclose.trans hrestPosts.1, hrestPosts.2⟩

/-- A session without open acks leaves unseen. -/
theorem posts_removeSession {esme : EsmeRef} (h : Consistent s)
    (hfind : s.data.sessions.find? esme = some e) (hempty : e.openAcks.entries = []) :
    Posts K s (s.removeSession esme) := by
  have hopen : openAcksOf (s.removeSession esme) = openAcksOf s := by
    have hsum := Keyed.weight_remove
      (fun e : SmppEsme => (e.openAcks.entries : Multiset SmppQueuedPdu)) hfind
    rw [hempty, Multiset.coe_nil, add_zero] at hsum
    exact hsum
  refine Posts.unseen ⟨?_, ?_⟩ ?_
  · intro x hx
    exact h.ids x (Keyed.mem_remove.mp hx).1
  · intro x hx
    exact h.openAcks x (Keyed.mem_remove.mp hx).1
  · simp only [ledgerOf, hopen]
    rfl

/-! ## The store -/

theorem posts_take {service : Octstr} {row : StoredPdu} (h : Consistent s)
    (hrow : s.store.rows.find? row.globalId = some row)
    (hpending : row.globalId ∉ s.store.pendingPdu) : Posts K s (s.take service row) := by
  have hconsistent := consistent_record h [.took row.globalId]
  refine Posts.single (a := .take service row) ⟨hconsistent.ids, hconsistent.openAcks⟩
    (fun _ => trivial) ?_
  simp only [post, ledgerOf, hrow, hpending, not_false_eq_true, and_self, if_true]
  rfl

theorem posts_takeAll {service : Octstr} {globalIds : List Octstr} (h : Consistent s)
    (htake : s.takeAll service globalIds = some t) : Posts K s t := by
  induction globalIds generalizing s with
  | nil =>
      cases htake
      exact Posts.refl h
  | cons globalId globalIds ih =>
      simp only [DeliveryState.takeAll] at htake
      split at htake
      · cases htake
      · rename_i row hrow
        split at htake
        · rename_i hfree
          have hid := Keyed.key_of_find? hrow
          have hfirst : Posts K s (s.take service row) :=
            posts_take h (Keyed.find?_key hrow) (by rw [hid]; exact hfree.2)
          exact hfirst.trans (ih hfirst.1 htake)
        · cases htake

/-! ## Every step posts entries -/

theorem posts_bind {data : SmppEsmeData} (h : Consistent s) (hfresh : e.id ∉ s.esmeIds)
    (hempty : e.openAcks.entries = [])
    (hadd : smppEsmeGlobalAdd s.smppServer s.data e = some data) :
    Posts K s { s with data := data, esmeIds := e.id :: s.esmeIds } := by
  have hsystemId : ∃ key, e.systemId = some key := by
    cases hkey : e.systemId with
    | none => simp [smppEsmeGlobalAdd, hkey] at hadd
    | some key => exact ⟨key, rfl⟩
  rcases hsystemId with ⟨key, hkey⟩
  have hsessions : data.sessions = s.data.sessions.put (e.setGlobal key) := by
    rw [globalAdd_eq hkey hadd]
  have hnone : s.data.sessions.find? (e.setGlobal key).id = none := by
    refine Keyed.find?_eq_none_iff.mpr ?_
    intro x hx hid
    exact hfresh (hid ▸ h.ids x hx)
  refine Posts.unseen ⟨?_, ?_⟩ ?_
  · intro x hx
    simp only [hsessions, Keyed.mem_put] at hx
    rcases hx with rfl | ⟨hold, -⟩
    · simp [SmppEsme.setGlobal]
    · exact List.mem_cons_of_mem _ (h.ids x hold)
  · intro x hx q hq
    simp only [hsessions, Keyed.mem_put] at hx
    rcases hx with rfl | ⟨hold, -⟩
    · simp [SmppEsme.setGlobal, hempty] at hq
    · exact h.openAcks x hold q hq
  · have hopen : openAcksOf { s with data := data, esmeIds := e.id :: s.esmeIds } =
        openAcksOf s := by
      simp only [openAcksOf, hsessions, Keyed.weight_put, Keyed.weight_remove_of_none _ hnone]
      simp [SmppEsme.setGlobal, hempty]
    simp only [ledgerOf, hopen]

theorem sessions_dropBind (data : SmppEsmeData) (e : SmppEsme) :
    (dropBind data e).sessions = data.sessions := by
  unfold dropBind
  split
  · rfl
  · rfl

theorem storedAck?_eq_some {esme : EsmeRef} {sequenceNumber : Int}
    (hfind : s.data.sessions.find? esme = some e)
    (hack : e.openAcks.find? (some sequenceNumber) = some q)
    (hstored : q.callback = some s.backend.queuedPduHandler) :
    storedAck? s esme sequenceNumber = some q := by
  simp [storedAck?, hfind, hack, Option.filter, hstored]

theorem posts_ack {esme : EsmeRef} {sequenceNumber commandStatus : Int} {link : BearerboxLink}
    (h : Consistent s) (hkeep : K → Keeps s (.ack esme sequenceNumber commandStatus link))
    (hstep : step s (.ack esme sequenceNumber commandStatus link) = some t) : Posts K s t := by
  simp only [step] at hstep
  split at hstep
  · rename_i e hfind
    rcases Keyed.find?_eq_some_iff.mp hfind with ⟨hmem, hid⟩
    -- the answer is noted, whether an open ack waits for it or not
    have hnote : Posts K s (s.record [.answered esme sequenceNumber commandStatus]) :=
      posts_note h rfl
    split at hstep
    · rename_i q hack
      refine hnote.trans (posts_close false hnote.1 (Keyed.find?_key hfind) hack ?_
        (by simpa [DeliveryState.record] using hstep))
      intro hK hstored
      have hopen := h.openAcks e hmem q (Keyed.find?_eq_some_iff.mp hack).1
      have hwritten := hkeep hK (by simp [storedAck?_eq_some hfind hack hstored])
      exact Or.inl ⟨esme, sequenceNumber, commandStatus, s.log, [], rfl, by rw [← hid]; exact hopen.smppEsme,
        Keyed.key_of_find? hack, hopen.queued, hwritten⟩
    · cases hstep
      exact hnote
  · cases hstep

theorem posts_expire {esme : EsmeRef} {sequenceNumber : Int} {link : BearerboxLink}
    (h : Consistent s) (hkeep : K → Keeps s (.expire esme sequenceNumber link))
    (hstep : step s (.expire esme sequenceNumber link) = some t) : Posts K s t := by
  simp only [step] at hstep
  split at hstep
  · rename_i e hfind
    split at hstep
    · rename_i q hconnected hack
      refine posts_close true h (Keyed.find?_key hfind) hack ?_
        (by simpa using hstep)
      intro hK hstored
      rcases hkeep hK with hmysql | hnone
      · exact Or.inr ⟨hmysql, Or.inr rfl⟩
      · rw [storedAck?_eq_some hfind hack hstored] at hnone
        cases hnone
    · cases hstep
  · cases hstep

theorem posts_dispatchStep {link : BearerboxLink} (h : Consistent s)
    (hkeep : K → Keeps s (.dispatch link)) (hstep : step s (.dispatch link) = some t) :
    Posts K s t := by
  simp only [step] at hstep
  split at hstep
  · cases hstep
  · rename_i q stored hstored
    split at hstep
    · rename_i e hbest
      cases hstep
      exact posts_dispatch h (bestReceiver_spec hbest).2.2 hstored
    · -- no receiver: the callback is run as for an ESME whose queue is full
      rename_i hnone
      have hs' : Consistent { s with stored := stored } := ⟨h.ids, h.openAcks⟩
      refine Posts.single (a := .reject link) (consistent_settle hs' hstep) ?_ ?_
      · intro hK
        have hsome := hkeep hK q (by simp [hstored])
        simp [hnone] at hsome
      · rcases Option.map_eq_some_iff.mp hstep with ⟨calls, hcalls, rfl⟩
        simp only [post, ledgerOf, hstored, hcalls, Ledger.settle, Option.map_some]
        rfl

/-- Every step posts a list of entries, and entries that lose nothing if the step keeps. -/
theorem posts_step {l : Label} (h : Consistent s) (hkeep : K → Keeps s l)
    (hstep : step s l = some t) : Posts K s t := by
  cases l with
  | bind e =>
      simp only [step] at hstep
      split at hstep
      · rename_i hfresh
        rcases Option.map_eq_some_iff.mp hstep with ⟨data, hadd, rfl⟩
        exact posts_bind h hfresh.1 hfresh.2 hadd
      · cases hstep
  | disconnect esme =>
      rcases Option.map_eq_some_iff.mp hstep with ⟨e, hfind, rfl⟩
      exact posts_setSession { e with connected := false } s.outboundQueue h hfind rfl rfl le_rfl
  | cleanup esme =>
      -- the account loses the bind; the session and its open acks stay
      rcases Option.map_eq_some_iff.mp hstep with ⟨e, hfind, rfl⟩
      have hunseen := @unseen_setSession s e { e with connected := false } h
        (Keyed.find?_key hfind) rfl le_rfl
      refine Posts.unseen ⟨?_, ?_⟩ ?_
      · simpa [sessions_dropBind] using hunseen.1.ids
      · simpa [sessions_dropBind] using hunseen.1.openAcks
      · rw [← hunseen.2]
        simp only [ledgerOf, openAcksOf, sessions_dropBind]
  | destroy esme link =>
      simp only [step] at hstep
      split at hstep
      · rename_i e hfind
        split at hstep
        · -- the open acks go first, then the session, which has none left
          rcases Option.map_eq_some_iff.mp hstep with ⟨u, hdestroy, rfl⟩
          have hkeepAcks : K → s.backend = .mysql ∨
              ∀ q ∈ e.openAcks.entries, q.callback ≠ some s.backend.queuedPduHandler := by
            intro hK
            refine (hkeep hK).imp_right (fun hnone q hq hstored => ?_)
            have hmem : q ∈ storedAcks s esme := by
              simp [storedAcks, hfind, hq, hstored]
            simp [hnone] at hmem
          rcases posts_destroyOpenAcks h hfind rfl hkeepAcks hdestroy with
            ⟨hposts, e', hfind', hempty⟩
          exact hposts.trans (posts_removeSession hposts.1 hfind' hempty)
        · cases hstep
      · cases hstep
  | addPdu row =>
      simp only [step] at hstep
      split at hstep
      · rename_i hfresh
        cases hstep
        refine Posts.single (a := .add row) ⟨h.ids, h.openAcks⟩ (fun _ => trivial) ?_
        simp only [post, ledgerOf, hfresh, not_false_eq_true, if_true]
        rfl
      · cases hstep
  | getStoredPdu esme globalIds =>
      simp only [step] at hstep
      split at hstep
      · split at hstep
        · rcases Option.bind_eq_some_iff.mp hstep with ⟨service, -, htake⟩
          exact posts_takeAll h htake
        · cases hstep
      · cases hstep
  | dispatch link => exact posts_dispatchStep h hkeep hstep
  | deliver origin systemId parts =>
      simp only [step] at hstep
      split at hstep
      · refine posts_sendAll h ?_ hstep
        intro q hq
        rcases List.mem_map.mp hq with ⟨p, -, rfl⟩
        cases origin with
        | bearerbox b id => rfl
        | stored globalId => rfl
      · cases hstep
  | addOutbound esme q numbered =>
      simp only [step] at hstep
      split at hstep
      · rename_i e hfind
        split at hstep
        · cases hstep
          cases numbered with
          | true =>
              exact posts_setSession (SmppEsme.queueOne (SmppEsme.takeNumber e)) _ h hfind rfl rfl
                (Nat.le_succ _)
          | false =>
              exact posts_setSession (SmppEsme.queueOne e) _ h hfind rfl rfl le_rfl
        · cases hstep
      · cases hstep
  | write =>
      simp only [step] at hstep
      split at hstep
      · cases hstep
      · rename_i q outboundQueue hqueue
        split at hstep
        · rename_i e hfind
          rcases Option.bind_eq_some_iff.mp hfind with ⟨esme, -, hfind⟩
          have hquiet : Posts K s
              { s.setSession (SmppEsme.unqueueOne e) with outboundQueue := outboundQueue } :=
            posts_setSession _ _ h hfind rfl rfl le_rfl
          cases hstep
          split
          · exact hquiet.trans (posts_note hquiet.1 rfl)
          · -- the connection is closed, and the PDU leaves the queue unwritten
            exact hquiet
        · cases hstep
  | ack esme sequenceNumber commandStatus link => exact posts_ack h hkeep hstep
  | expire esme sequenceNumber link => exact posts_expire h hkeep hstep

/-- A run of the delivery threads is a run of the ledger. -/
theorem run_posts {ok : DeliveryState → Label → Prop} {ls : List Label}
    (hok : K → ∀ s l, ok s l → Keeps s l) (hrun : Run step ok s ls t) (h : Consistent s) :
    Posts K s t := by
  induction hrun with
  | nil => exact Posts.refl h
  | snoc _ hl hstep ih => exact ih.trans (posts_step ih.1 (fun hK => hok hK _ _ hl) hstep)

end Delivery
end Ksmppd
