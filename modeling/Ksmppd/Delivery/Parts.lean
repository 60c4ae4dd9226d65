import Mathlib.Data.Multiset.Count
import Ksmppd.CallbackOutcome
import Ksmppd.Delivery.Ledger

/-!
# Parts — what a message with several parts tells its origin

All parts of a message carry the same bearerbox id or the same `global_id`, and each settles on
its own.  Over any run the origin is told at most once per part, and that it is done with at most
once per part the ESME accepted or the server gave up: so more than once for a message with
several parts, and before the other parts are through.
-/

namespace Ksmppd
namespace Delivery

open Lib

/-! ## Parts and calls -/

/-- The origin `smpp_queues_callback_deliver_sm_resp` settles with. -/
def originOf (q : SmppQueuedPdu) : Option Origin :=
  match q.bearerbox, q.bearerboxId with
  | some b, some id => some (.bearerbox b id)
  | _, _ => if q.globalId > 0 then some (.stored q.globalId) else none

def isPartOf (o : Origin) (q : SmppQueuedPdu) : Bool :=
  q.callback = some .deliverSmResp && originOf q = some o

/-- The call tells the origin what became of a message: an acknowledgement or a removal. -/
def reaches (o : Origin) : Call → Bool
  | .bearerboxAcknowledge b id _ _ => o = .bearerbox b id
  | .databaseRemove globalId _ => o = .stored globalId
  | _ => false

/-- The call tells the origin that it is done with the message: `ack_success` or a permanent
removal. -/
def confirms (o : Origin) : Call → Bool
  | .bearerboxAcknowledge b id status _ => o = .bearerbox b id && status = ackSuccess
  | .databaseRemove globalId temporary => o = .stored globalId && !temporary
  | _ => false

def queuedParts (o : Origin) (log : List Event) : Nat :=
  log.countP (fun e => match e with
    | .queued q => isPartOf o q
    | _ => false)

/-- The parts whose callback was run. -/
def closedParts (o : Origin) (log : List Event) : Nat :=
  log.countP (fun e => match e with
    | .callback q _ _ => isPartOf o q
    | _ => false)

/-- Those among them that the ESME accepted, or that were reported queued or dropped. -/
def finishedParts (smppServer : SmppServer) (o : Origin) (log : List Event) : Nat :=
  log.countP (fun e => match e with
    | .callback q status _ => isPartOf o q && finished smppServer status
    | _ => false)

/-- The calls all callbacks have made. -/
def callsOf (log : List Event) : List Call :=
  log.flatMap (fun e => match e with
    | .callback _ _ calls => calls
    | _ => [])

def openParts (o : Origin) (openAcks : Multiset SmppQueuedPdu) : Nat :=
  openAcks.countP (fun q => isPartOf o q = true)

/-! ## The calls of one callback -/

variable {smppServer : SmppServer} {link : BearerboxLink} {q : SmppQueuedPdu} {status : Int}
  {calls : List Call} {o : Origin}

/-- At most one of the calls satisfies `p`, and none unless `limit`. -/
def Bounded (p : Call → Bool) (limit : Bool) (calls : List Call) : Prop :=
  calls.countP p ≤ if limit then 1 else 0

theorem bounded_singleton {p : Call → Bool} {limit : Bool} {c : Call}
    (h : p c = true → limit = true) : Bounded p limit [c] := by
  cases hp : p c with
  | true => simp [Bounded, hp, h hp]
  | false => simp [Bounded, hp]

/-- What the calls of one callback tell an origin: nothing unless the PDU is a part of its message,
and that it is done with it only if the part is `done`. -/
structure Reports (o : Origin) (part done : Bool) (calls : List Call) : Prop where
  reached : Bounded (reaches o) part calls
  confirmed : Bounded (confirms o) (part && done) calls

/-- A call no origin sees. -/
def silent : Call → Bool
  | .bearerboxAcknowledge _ _ _ _ => false
  | .databaseRemove _ _ => false
  | _ => true

theorem Bounded.silent {p : Call → Bool} {limit : Bool} {front back : List Call}
    (hfront : front.countP p = 0) (hback : back.countP p = 0) (h : Bounded p limit calls) :
    Bounded p limit (front ++ calls ++ back) := by
  simpa [Bounded, List.countP_append, hfront, hback] using h

theorem countP_silent {front : List Call} (h : ∀ c ∈ front, silent c = true) :
    front.countP (reaches o) = 0 ∧ front.countP (confirms o) = 0 := by
  have hnone : ∀ c ∈ front, reaches o c = false ∧ confirms o c = false := by
    intro c hc
    have hsilent := h c hc
    cases c with
    | bearerboxAcknowledge b id st sent => cases hsilent
    | databaseRemove globalId temporary => cases hsilent
    | _ => exact ⟨rfl, rfl⟩
  constructor
  · exact List.countP_eq_zero.mpr (fun c hc => by simp [(hnone c hc).1])
  · exact List.countP_eq_zero.mpr (fun c hc => by simp [(hnone c hc).2])

variable {part done : Bool}

theorem reports_silent (h : ∀ c ∈ calls, silent c = true) : Reports o part done calls := by
  rcases @countP_silent o calls h with ⟨hreaches, hconfirms⟩
  exact ⟨by simp [Bounded, hreaches], by simp [Bounded, hconfirms]⟩

/-- Silent calls may stand around the others. -/
theorem Reports.around (front back : List Call) (h : Reports o part done calls)
    (hfront : ∀ c ∈ front, silent c = true) (hback : ∀ c ∈ back, silent c = true) :
    Reports o part done (front ++ calls ++ back) := by
  rcases @countP_silent o front hfront with ⟨hfr, hfc⟩
  rcases @countP_silent o back hback with ⟨hbr, hbc⟩
  exact ⟨h.reached.silent hfr hbr, h.confirmed.silent hfc hbc⟩

theorem Reports.mono {done' : Bool} (hle : done = true → done' = true)
    (h : Reports o part done calls) : Reports o part done' calls := by
  refine ⟨h.reached, ?_⟩
  cases part with
  | false => exact h.confirmed
  | true =>
      cases done with
      | true => simpa [hle rfl] using h.confirmed
      | false =>
          have hzero : calls.countP (confirms o) = 0 := by simpa [Bounded] using h.confirmed
          simp [Bounded, hzero]

theorem acknowledge_calls {st : Int}
    (h : smppBearerboxAcknowledge link q.bearerbox q.bearerboxId st = some calls) :
    calls = [] ∨ ∃ b id sent, originOf q = some (.bearerbox b id) ∧
      calls = [.bearerboxAcknowledge b id st sent] := by
  unfold smppBearerboxAcknowledge at h
  split at h
  · cases h
    exact Or.inl rfl
  · split at h
    · rename_i b id hb hid
      cases h
      exact Or.inr ⟨b, id, _, by simp [originOf, hb, hid], rfl⟩
    · cases h

theorem settleOrigin_calls (h : settleOrigin link q = some calls) :
    calls = [] ∨ (∃ b id sent, originOf q = some (.bearerbox b id) ∧
      calls = [.bearerboxAcknowledge b id ackSuccess sent]) ∨
        ∃ globalId, originOf q = some (.stored globalId) ∧
          calls = [.databaseRemove globalId false] := by
  unfold settleOrigin at h
  split at h
  · exact (acknowledge_calls h).imp_right Or.inl
  · rename_i hnot
    split at h
    · rename_i hpositive
      unfold smppDatabaseRemove at h
      split at h
      · cases h
        refine Or.inr (Or.inr ⟨q.globalId, ?_, rfl⟩)
        cases hb : q.bearerbox with
        | none => simp [originOf, hb, hpositive]
        | some b =>
            cases hid : q.bearerboxId with
            | none => simp [originOf, hb, hid, hpositive]
            | some id => simp [hb, hid] at hnot
      · cases h
    · cases h
      exact Or.inl rfl

theorem reports_ack {b : BearerboxRef} {id : Octstr} {st : Int} {sent : Bool}
    (horigin : originOf q = some (.bearerbox b id)) :
    Reports o (originOf q = some o) (st = ackSuccess) [.bearerboxAcknowledge b id st sent] := by
  constructor
  · refine bounded_singleton (fun h => ?_)
    have ho : o = .bearerbox b id := by simpa [reaches] using h
    simp [horigin, ho]
  · refine bounded_singleton (fun h => ?_)
    have ho : o = .bearerbox b id ∧ st = ackSuccess := by simpa [confirms] using h
    simp [horigin, ho.1, ho.2]

theorem reports_remove {globalId : Nat} (horigin : originOf q = some (.stored globalId)) :
    Reports o (originOf q = some o) true [.databaseRemove globalId false] := by
  constructor
  · refine bounded_singleton (fun h => ?_)
    have ho : o = .stored globalId := by simpa [reaches] using h
    simp [horigin, ho]
  · refine bounded_singleton (fun h => ?_)
    have ho : o = .stored globalId := by simpa [confirms] using h
    simp [horigin, ho]

theorem reports_acknowledge {st : Int}
    (h : smppBearerboxAcknowledge link q.bearerbox q.bearerboxId st = some calls) :
    Reports o (originOf q = some o) (st = ackSuccess) calls := by
  rcases acknowledge_calls h with rfl | ⟨b, id, sent, horigin, rfl⟩
  · -- no id to acknowledge, and nothing is sent
    exact reports_silent (by simp)
  · exact reports_ack horigin

theorem reports_settleOrigin (h : settleOrigin link q = some calls) :
    Reports o (originOf q = some o) true calls := by
  rcases settleOrigin_calls h with rfl | ⟨b, id, sent, horigin, rfl⟩ | ⟨globalId, horigin, rfl⟩
  · exact reports_silent (by simp)
  · simpa using @reports_ack q o b id ackSuccess sent horigin
  · exact reports_remove horigin

theorem countDelivery_silent (h : countDelivery q = some calls) : ∀ c ∈ calls, silent c = true := by
  unfold countDelivery at h
  split at h
  · split at h
    · cases h
      simp [silent]
    · cases h
  · cases h
    simp

theorem disconnectEsme_silent (h : disconnectEsme q = some calls) :
    ∀ c ∈ calls, silent c = true := by
  unfold disconnectEsme at h
  split at h
  · cases h
    simp [silent]
  · cases h

/-- The origin is told that it is done with the message only when the part is finished. -/
theorem reports_reaction (h : deliverSmRespReaction smppServer link q status = some calls) :
    Reports o (originOf q = some o) (finished smppServer status) calls := by
  rcases deliverSmRespReaction_cases h with ⟨hfinished, counted, settled, rfl, hcounted, hsettled⟩ |
    ⟨acked, ended, rfl, hacked, hended⟩
  · have hsilent : ∀ c ∈ counted, silent c = true := by
      rcases hcounted with rfl | hcounted
      · simp
      · exact countDelivery_silent hcounted
    have hreports := (@reports_settleOrigin link q settled o hsettled).around counted []
      hsilent (by simp)
    simpa [hfinished] using hreports
  · have hfailed : Reports o (originOf q = some o) false acked := by
      rcases hacked with rfl | hacked
      · exact reports_silent (by simp)
      · simpa [ackFailedTmp, ackSuccess] using
          @reports_acknowledge link q acked o ackFailedTmp hacked
    have hsilent : ∀ c ∈ ended, silent c = true := by
      rcases hended with rfl | hended
      · simp
      · exact disconnectEsme_silent hended
    have hreports := hfailed.around [] ended (by simp) hsilent
    -- whatever the status, nothing here says that the message is done
    exact Reports.mono (by simp) hreports

/-- The callback of a delivery or of a stored PDU tells an origin at most what its part is worth. -/
theorem reports_invoke
    (hcallback : q.callback = some .deliverSmResp ∨ q.callback = some .mysqlQueuedPdu ∨
      q.callback = some .redisQueuedPdu)
    (h : invoke smppServer link q status = some calls) :
    Reports o (isPartOf o q) (finished smppServer status) calls := by
  -- the callbacks of stored PDUs tell no origin anything
  rcases hcallback with hdeliver | hmysql | hredis
  · simp only [invoke, hdeliver, runCallback] at h
    rcases Option.map_eq_some_iff.mp h with ⟨reaction, hreaction, rfl⟩
    have hreports := (@reports_reaction smppServer link q status reaction o hreaction).around
      [] [.queuedPduDestroy] (by simp) (by simp [silent])
    simpa [isPartOf, hdeliver] using hreports
  · simp only [invoke, hmysql, runCallback, smppDatabaseMysqlQueuedPduHandler] at h
    apply reports_silent
    split at h
    · split at h
      · cases h
        simp [silent]
      · cases h
        simp [silent]
    · cases h
      simp
  · simp only [invoke, hredis, runCallback, smppDatabaseRedisQueuedPduHandler] at h
    apply reports_silent
    split at h
    · cases h
      simp [silent]
    · cases h
      simp

/-! ## Tallies of a ledger -/

/-- The callbacks queued PDUs can have here. -/
def Dispatchable (q : SmppQueuedPdu) : Prop :=
  q.callback = some .deliverSmResp ∨ q.callback = some .mysqlQueuedPdu ∨
    q.callback = some .redisQueuedPdu

structure Tallied (smppServer : SmppServer) (o : Origin) (L : Ledger) : Prop where
  server : L.smppServer = smppServer
  openAcks : ∀ q ∈ L.openAcks, Dispatchable q
  stored : ∀ q ∈ L.stored, q.callback = some L.backend.queuedPduHandler
  balance : openParts o L.openAcks + closedParts o L.log = queuedParts o L.log
  reached : (callsOf L.log).countP (reaches o) ≤ closedParts o L.log
  confirmed : (callsOf L.log).countP (confirms o) ≤ finishedParts smppServer o L.log

theorem dispatchable_handler {backend : Backend} (h : q.callback = some backend.queuedPduHandler) :
    Dispatchable q := by
  cases backend with
  | mysql => exact Or.inr (Or.inl h)
  | redis => exact Or.inr (Or.inr h)

/-- A PDU from the store is no part of a message. -/
theorem isPartOf_handler {backend : Backend} (h : q.callback = some backend.queuedPduHandler) :
    isPartOf o q = false := by
  cases backend with
  | mysql => simp [isPartOf, h, Backend.queuedPduHandler]
  | redis => simp [isPartOf, h, Backend.queuedPduHandler]

theorem openParts_cons (q : SmppQueuedPdu) (openAcks : Multiset SmppQueuedPdu) :
    openParts o (q ::ₘ openAcks) = openParts o openAcks + if isPartOf o q then 1 else 0 := by
  simp [openParts, Multiset.countP_cons]

theorem queuedParts_snoc (log : List Event) (q : SmppQueuedPdu) :
    queuedParts o (log ++ [.queued q]) = queuedParts o log + if isPartOf o q then 1 else 0 := by
  simp [queuedParts, List.countP_append, List.countP_cons]

theorem closedParts_snoc (log : List Event) (q : SmppQueuedPdu) (status : Int)
    (calls : List Call) : closedParts o (log ++ [.callback q status calls]) =
      closedParts o log + if isPartOf o q then 1 else 0 := by
  simp [closedParts, List.countP_append, List.countP_cons]

theorem finishedParts_snoc (log : List Event) (q : SmppQueuedPdu) (status : Int)
    (calls : List Call) : finishedParts smppServer o (log ++ [.callback q status calls]) =
      finishedParts smppServer o log +
        if isPartOf o q && finished smppServer status then 1 else 0 := by
  simp [finishedParts, List.countP_append, List.countP_cons]

theorem countP_callsOf_snoc (p : Call → Bool) (log : List Event) (q : SmppQueuedPdu) (status : Int)
    (calls : List Call) : (callsOf (log ++ [.callback q status calls])).countP p =
      (callsOf log).countP p + calls.countP p := by
  simp [callsOf, List.countP_append]

variable {L L' : Ledger}

/-- The ledger after an event that none of the tallies counts. -/
theorem tallied_quiet (h : Tallied smppServer o L) {e : Event}
    (he : ∀ q status calls, e ≠ .queued q ∧ e ≠ .callback q status calls) :
    Tallied smppServer o (L.record [e]) := by
  cases e with
  | queued q => exact absurd rfl (he q 0 []).1
  | callback q status calls => exact absurd rfl (he q status calls).2
  | _ =>
      refine ⟨h.server, h.openAcks, h.stored, ?_, ?_, ?_⟩
      · simpa [Ledger.record, closedParts, queuedParts] using h.balance
      · simpa [Ledger.record, closedParts, callsOf] using h.reached
      · simpa [Ledger.record, finishedParts, callsOf] using h.confirmed

/-- An ack is opened. -/
theorem tallied_open (h : Tallied smppServer o L) (hq : Dispatchable q) :
    Tallied smppServer o ({ L with openAcks := q ::ₘ L.openAcks }.record [.queued q]) := by
  refine ⟨h.server, ?_, h.stored, ?_, ?_, ?_⟩
  · intro x hx
    rcases Multiset.mem_cons.mp hx with rfl | hold
    · exact hq
    · exact h.openAcks x hold
  · have hbalance := h.balance
    have hclosed : closedParts o (L.log ++ [.queued q]) = closedParts o L.log := by
      simp [closedParts]
    simp only [Ledger.record, openParts_cons, queuedParts_snoc, hclosed]
    omega
  · simpa [Ledger.record, closedParts, callsOf] using h.reached
  · simpa [Ledger.record, finishedParts, callsOf] using h.confirmed

/-- A callback is run for a PDU that is no longer among the open acks `L` has. -/
theorem tallied_settle {openAcks : Multiset SmppQueuedPdu} (h : Tallied smppServer o L)
    (hopen : openParts o L.openAcks = openParts o openAcks + if isPartOf o q then 1 else 0)
    (hsub : ∀ x ∈ openAcks, x ∈ L.openAcks)
    {store : PduStore} (hcalls : Reports o (isPartOf o q) (finished smppServer status) calls) :
    Tallied smppServer o
      ({ L with openAcks := openAcks, store := store }.record [.callback q status calls]) := by
  have hreached := hcalls.reached
  have hconfirmed := hcalls.confirmed
  unfold Bounded at hreached hconfirmed
  refine ⟨h.server, fun x hx => h.openAcks x (hsub x hx), h.stored, ?_, ?_, ?_⟩
  · have hbalance := h.balance
    have hqueued : queuedParts o (L.log ++ [.callback q status calls]) = queuedParts o L.log := by
      simp [queuedParts]
    simp only [Ledger.record, closedParts_snoc, hqueued]
    omega
  · have hold := h.reached
    simp only [Ledger.record, closedParts_snoc, countP_callsOf_snoc]
    omega
  · have hold := h.confirmed
    simp only [Ledger.record, finishedParts_snoc, countP_callsOf_snoc]
    omega

/-- Taking a stored PDU in hand opens no ack and closes none. -/
theorem Tallied.takeStored (h : Tallied smppServer o L) {stored : List SmppQueuedPdu}
    (hstored : L.stored = q :: stored) : Tallied smppServer o { L with stored := stored } := by
  refine ⟨h.server, h.openAcks, ?_, h.balance, h.reached, h.confirmed⟩
  intro x hx
  exact h.stored x (hstored ▸ List.mem_cons_of_mem q hx)

theorem tallied_post {a : Entry} (h : Tallied smppServer o L) (hpost : post L a = some L') :
    Tallied smppServer o L' := by
  cases a with
  | note e =>
      simp only [post] at hpost
      split at hpost
      · rename_i hnote
        cases hpost
        apply tallied_quiet h
        intro q status calls
        constructor
        · intro he
          simp [he, isNote] at hnote
        · intro he
          simp [he, isNote] at hnote
      · cases hpost
  | send q =>
      simp only [post] at hpost
      split at hpost
      · rename_i hdeliver
        cases hpost
        exact tallied_open h (Or.inl hdeliver)
      · cases hpost
  | dispatch q' =>
      simp only [post] at hpost
      split at hpost
      · rename_i q stored hstored
        split at hpost
        · rename_i hsame
          cases hpost
          have hcallback : q'.callback = some L.backend.queuedPduHandler := by
            have heq : q'.callback = q.callback := by
              simp only [renumbers, Bool.and_eq_true, decide_eq_true_eq] at hsame
              exact hsame.1.1
            rw [heq]
            exact h.stored q (by simp [hstored])
          exact tallied_open (h.takeStored hstored) (dispatchable_handler hcallback)
        · cases hpost
      · cases hpost
  | reject link =>
      simp only [post] at hpost
      split at hpost
      · rename_i q stored hstored
        rcases Option.map_eq_some_iff.mp hpost with ⟨calls, hcalls, rfl⟩
        have hcallback := h.stored q (by simp [hstored])
        rw [h.server] at hcalls
        refine tallied_settle (h.takeStored hstored) ?_ (fun x hx => hx)
          (reports_invoke (dispatchable_handler hcallback) hcalls)
        simp [isPartOf_handler hcallback]
      · cases hpost
  | close q status link server =>
      simp only [post] at hpost
      split at hpost
      · rename_i hq
        rcases Option.map_eq_some_iff.mp hpost with ⟨calls, hcalls, rfl⟩
        rw [h.server] at hcalls
        -- the server pointer does not make a PDU a part of another message
        have hreports : Reports o (isPartOf o q) (finished smppServer status) calls :=
          reports_invoke (q := { q with smppServer := server || q.smppServer })
            (h.openAcks q hq) hcalls
        refine tallied_settle h ?_ (fun x hx => Multiset.mem_of_mem_erase hx) hreports
        rw [← openParts_cons, Multiset.cons_erase hq]
      · cases hpost
  | take service row =>
      simp only [post] at hpost
      split at hpost
      · cases hpost
        have htaken : Tallied smppServer o { L with
            store := L.store.take L.backend row.globalId
            stored := L.stored ++ [storedPdu L.backend service row] } := by
          refine ⟨h.server, h.openAcks, ?_, h.balance, h.reached, h.confirmed⟩
          intro x hx
          rcases List.mem_append.mp hx with hold | hnew
          · exact h.stored x hold
          · rw [List.mem_singleton.mp hnew]
            rfl
        exact tallied_quiet htaken (fun q status calls => ⟨by simp, by simp⟩)
      · cases hpost
  | add row =>
      simp only [post] at hpost
      split at hpost
      · cases hpost
        exact ⟨h.server, h.openAcks, h.stored, h.balance, h.reached, h.confirmed⟩
      · cases hpost

/-! ## Runs -/

theorem tallied_init (smppServer : SmppServer) (backend : Backend) (o : Origin) :
    Tallied smppServer o (ledgerOf (deliveryInit smppServer backend)) := by
  refine ⟨rfl, ?_, ?_, ?_, ?_, ?_⟩
  · simp [ledgerOf, mem_openAcksOf, deliveryInit, smppEsmeInit]
  · simp [ledgerOf, deliveryInit]
  · simp [ledgerOf, openAcksOf, deliveryInit, smppEsmeInit, openParts, closedParts, queuedParts]
  · simp [ledgerOf, deliveryInit, callsOf]
  · simp [ledgerOf, deliveryInit, callsOf]

/-- Each part is open or closed, the origin is told at most once for each part that is closed, and
that it is done with the message at most once for each part that was finished itself. -/
theorem parts_settle_separately {backend : Backend} {ls : List Label} {s : DeliveryState}
    (hrun : Run step anyStep (deliveryInit smppServer backend) ls s) (o : Origin) :
    openParts o (openAcksOf s) + closedParts o s.log = queuedParts o s.log ∧
      (callsOf s.log).countP (reaches o) ≤ closedParts o s.log ∧
        (callsOf s.log).countP (confirms o) ≤ finishedParts smppServer o s.log := by
  rcases (run_posts (K := False) (fun hK => hK.elim) hrun
    (consistent_init smppServer backend)).2 with ⟨entries, hentries⟩
  have htallied : Tallied smppServer o (ledgerOf s) :=
    hentries.invariant (Tallied smppServer o) (fun _ _ _ h _ hpost => tallied_post h hpost)
      (tallied_init smppServer backend o)
  exact ⟨htallied.balance, htallied.reached, htallied.confirmed⟩

/-- A bearerbox message that becomes two parts: the ESME accepts the first, and then the second. -/
def sampleMessage : Origin := .bearerbox 0 (octstrImm "11")

def sampleDelivery : List Label :=
  [.bind (sampleReceiver (octstrImm "test")),
    .deliver sampleMessage (some (octstrImm "test"))
      [{ sequenceNumber := 0, esmClass := 64 }, { sequenceNumber := 0, esmClass := 64 }],
    .write, .write, .ack 1 1 smppEsmeRok { alive := true, written := true },
    .ack 1 2 smppEsmeRok { alive := true, written := true }]

theorem parts_settle_separately_sample :
    ∃ s, Run step anyStep (deliveryInit sampleServer .mysql) sampleDelivery s ∧
      openParts sampleMessage (openAcksOf s) + closedParts sampleMessage s.log =
          queuedParts sampleMessage s.log ∧
        (callsOf s.log).countP (reaches sampleMessage) ≤ closedParts sampleMessage s.log ∧
          (callsOf s.log).countP (confirms sampleMessage) ≤
            finishedParts sampleServer sampleMessage s.log := by
  have hexec : (execute step anyStep (deliveryInit sampleServer .mysql)
      sampleDelivery).isSome = true := by decide +kernel
  rcases Option.isSome_iff_exists.mp hexec with ⟨s, hs⟩
  exact ⟨s, run_of_execute hs, parts_settle_separately (run_of_execute hs) sampleMessage⟩

/-- After the first ack the bearerbox has its `ack_success` while the second part is open; after
the second ack it has two. -/
theorem parts_acknowledged_early_and_twice :
    (∃ s, Run step anyStep (deliveryInit sampleServer .mysql) (sampleDelivery.take 5) s ∧
      (callsOf s.log).countP (confirms sampleMessage) = 1 ∧
        openParts sampleMessage (openAcksOf s) = 1) ∧
      ∃ s, Run step anyStep (deliveryInit sampleServer .mysql) sampleDelivery s ∧
        (callsOf s.log).countP (reaches sampleMessage) = 2 := by
  constructor
  · have hexec : (execute step anyStep (deliveryInit sampleServer .mysql)
        (sampleDelivery.take 5)).map (fun s => ((callsOf s.log).countP (confirms sampleMessage),
          openParts sampleMessage (openAcksOf s))) = some (1, 1) := by decide +kernel
    rcases Option.map_eq_some_iff.mp hexec with ⟨s, hs, hcounts⟩
    rcases Prod.mk.inj hcounts with ⟨hconfirmed, hopen⟩
    exact ⟨s, run_of_execute hs, hconfirmed, hopen⟩
  · have hexec : (execute step anyStep (deliveryInit sampleServer .mysql) sampleDelivery).map
        (fun s => (callsOf s.log).countP (reaches sampleMessage)) = some 2 := by decide +kernel
    rcases Option.map_eq_some_iff.mp hexec with ⟨s, hs, htwice⟩
    exact ⟨s, run_of_execute hs, htwice⟩

end Delivery
end Ksmppd
