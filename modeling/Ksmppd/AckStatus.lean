import Ksmppd.CallbackOutcome

/-!
# AckStatus — statuses read from the wire

`smpp_queues_process_ack` passes the `command_status` of a `deliver_sm_resp` unchanged to the
callback of the message, which gives some statuses a meaning of its own.  A status is *ordinary*
for a message if the message is treated as on any other refusal.
-/

namespace Ksmppd

open Lib

variable {smppServer : SmppServer} {link : BearerboxLink} {q : SmppQueuedPdu} {status : Int}

/-! ## What a refusal leads to -/

/-- The calls tell the origin that the message was delivered. -/
def ReportsDelivered (calls : List Call) : Prop :=
  (∃ b id sent, Call.bearerboxAcknowledge b id ackSuccess sent ∈ calls) ∨
    ((∃ g, Call.databaseRemove g false ∈ calls ∨ Call.databaseRemoveDlr g ∈ calls) ∧
      ∀ q, Call.databaseAddPdu q ∉ calls)

/-- The status of a response is treated as any refusal, which never reports a delivery. -/
def TreatedAsRefusal (smppServer : SmppServer) (link : BearerboxLink) (smppEsme : SmppEsme)
    (sequenceNumber status : Int) : Prop :=
  smppQueuesProcessAck smppServer link smppEsme sequenceNumber status =
      smppQueuesProcessAck smppServer link smppEsme sequenceNumber smppEsmeRsyserr ∧
    ∀ calls, (smppQueuesProcessAck smppServer link smppEsme sequenceNumber status).2 = some calls →
      ¬ ReportsDelivered calls

/-- A queued PDU as the functions that queue one build it: the rows of the store carry the
server pointer. -/
structure WellQueued (q : SmppQueuedPdu) : Prop where
  dbQueue : q.callback = some .dbQueue → q.smppServer = true
  mysql : q.callback = some .mysqlQueuedPdu → q.smppServer = true

/-- The origin has to be told about the message. -/
def HasOrigin (q : SmppQueuedPdu) : Prop :=
  if q.bearerbox.isSome ∧ q.bearerboxId.isSome then octstrLen q.bearerboxId ≠ 0
  else q.globalId > 0

/-- The status stands for a notification of the server itself, and the callback of the message
reacts to it in a way of its own. -/
def Reserved (smppServer : SmppServer) (q : SmppQueuedPdu) (status : Int) : Prop :=
  match q.callback with
  | some .deliverSmResp =>
      (status = smppEsmeCommandStatusQueued ∧ HasOrigin q) ∨
        (status = smppEsmeCommandStatusWaitAckTimeout ∧
          (q.smppServer = false ∨ smppServer.waitAckAction = smppWaitackDisconnect ∨
            (smppServer.waitAckAction = smppWaitackDrop ∧ HasOrigin q))) ∨
        (status = smppQueuedPduDestroyed ∧ octstrLen q.bearerboxId ≠ 0)
  | some .dbQueue => status = smppEsmeCommandStatusQueued
  | some .mysqlQueuedPdu =>
      status = smppEsmeCommandStatusWaitAckTimeout ∨ status = smppQueuedPduDestroyed
  | some .redisQueuedPdu => False
  | none => False

/-- What an ordinary refusal leads to, for each callback. -/
def refusal (q : SmppQueuedPdu) : Callback → Option (List Call)
  | .deliverSmResp => some [.queuedPduDestroy]
  | .dbQueue =>
      if q.smppServer then some [.databaseAddPdu q, removeSource q, .queuedPduDestroy] else none
  | .mysqlQueuedPdu =>
      if q.smppServer then
        some [.removeStoredPdu q.bearerboxId, .pendingPduRemove q.bearerboxId, .queuedPduDestroy]
      else some []
  | .redisQueuedPdu =>
      if q.smppServer then some [.pendingPduRemove q.bearerboxId, .queuedPduDestroy] else some []

theorem runCallback_ordinary (hrok : status ≠ smppEsmeRok)
    (hqueued : status ≠ smppEsmeCommandStatusQueued)
    (htimeout : status ≠ smppEsmeCommandStatusWaitAckTimeout)
    (hdestroyed : status ≠ smppQueuedPduDestroyed) (cb : Callback) :
    runCallback smppServer link q status cb = refusal q cb := by
  cases cb with
  | deliverSmResp =>
      simp [runCallback, refusal, smppQueuesCallbackDeliverSmResp, deliverSmRespReaction, hrok,
        hqueued, htimeout, hdestroyed]
  | dbQueue =>
      simp [runCallback, refusal, smppEsmeDbQueueCallback, hrok, hqueued]
  | mysqlQueuedPdu =>
      simp [runCallback, refusal, smppDatabaseMysqlQueuedPduHandler, htimeout, hdestroyed]
  | redisQueuedPdu => rfl

theorem runCallback_rsyserr (cb : Callback) :
    runCallback smppServer link q smppEsmeRsyserr cb = refusal q cb :=
  runCallback_ordinary (by decide) (by decide) (by decide) (by decide) cb

theorem refusal_not_reportsDelivered {cb : Callback} {calls : List Call}
    (h : refusal q cb = some calls) : ¬ ReportsDelivered calls := by
  cases cb with
  | deliverSmResp =>
      cases h
      simp [ReportsDelivered]
  | dbQueue =>
      cases hserver : q.smppServer with
      | false => simp [refusal, hserver] at h
      | true =>
          have hcalls : [.databaseAddPdu q, removeSource q, .queuedPduDestroy] = calls := by
            simpa [refusal, hserver] using h
          subst hcalls
          have hsource : ∀ b id st sent, removeSource q ≠ .bearerboxAcknowledge b id st sent := by
            intro b id st sent
            unfold removeSource
            split <;> simp
          rintro (⟨b, id, sent, hmem⟩ | ⟨_, hnone⟩)
          · simp [(hsource b id ackSuccess sent).symm] at hmem
          · exact hnone q (by simp)
  | mysqlQueuedPdu =>
      cases hserver : q.smppServer with
      | false =>
          have hcalls : [] = calls := by simpa [refusal, hserver] using h
          simp [← hcalls, ReportsDelivered]
      | true =>
          have hcalls : [.removeStoredPdu q.bearerboxId, .pendingPduRemove q.bearerboxId,
              .queuedPduDestroy] = calls := by simpa [refusal, hserver] using h
          simp [← hcalls, ReportsDelivered]
  | redisQueuedPdu =>
      cases hserver : q.smppServer with
      | false =>
          have hcalls : [] = calls := by simpa [refusal, hserver] using h
          simp [← hcalls, ReportsDelivered]
      | true =>
          have hcalls : [.pendingPduRemove q.bearerboxId, .queuedPduDestroy] = calls := by
            simpa [refusal, hserver] using h
          simp [← hcalls, ReportsDelivered]

/-! ## Which statuses are ordinary -/

theorem acknowledge_eq_nil_iff {b : Option BearerboxRef} {id : Option Octstr} {st : Int} :
    smppBearerboxAcknowledge link b id st = some [] ↔ octstrLen id = 0 := by
  unfold smppBearerboxAcknowledge
  by_cases hlen : octstrLen id = 0
  · simp [hlen]
  · cases b with
    | none => simp [hlen]
    | some r =>
        cases id with
        | none => simp [octstrLen] at hlen
        | some os => simp [hlen]

theorem settleOrigin_eq_nil_iff : settleOrigin link q = some [] ↔ ¬ HasOrigin q := by
  unfold settleOrigin HasOrigin
  by_cases hbox : q.bearerbox.isSome ∧ q.bearerboxId.isSome
  · simp only [hbox, and_self, if_true, ne_eq, not_not]
    exact acknowledge_eq_nil_iff
  · by_cases hstored : q.globalId > 0
    · cases hserver : q.smppServer with
      | true => simp [hbox, hstored, smppDatabaseRemove, hserver]
      | false => simp [hbox, hstored, smppDatabaseRemove, hserver]
    · simp [hbox, hstored]

/-- A disconnect leaves a trace whatever was acknowledged before it. -/
theorem disconnect_ne_nil (acked : Option (List Call)) :
    acked.bind (fun calls => (disconnectEsme q).map (calls ++ ·)) ≠ some [] := by
  cases acked with
  | none => simp
  | some calls =>
      unfold disconnectEsme
      cases q.pdu with
      | none => simp
      | some p =>
          cases q.smppEsme with
          | none => simp
          | some esme => simp

theorem timeoutReaction_eq_nil_iff :
    deliverSmRespReaction smppServer link q smppEsmeCommandStatusWaitAckTimeout = some [] ↔
      ¬ (q.smppServer = false ∨ smppServer.waitAckAction = smppWaitackDisconnect ∨
        (smppServer.waitAckAction = smppWaitackDrop ∧ HasOrigin q)) := by
  have hdistinct := reserved_statuses_distinct
  have hdrop : smppWaitackDrop ≠ smppWaitackDisconnect := by decide
  cases hserver : q.smppServer with
  | false => simp [deliverSmRespReaction, hdistinct, hserver]
  | true =>
      by_cases hdisconnect : smppServer.waitAckAction = smppWaitackDisconnect
      · simpa [deliverSmRespReaction, hdistinct, hserver, hdisconnect] using disconnect_ne_nil _
      · -- what is left is to keep the message, or to drop it with its origin
        by_cases haction : smppServer.waitAckAction = smppWaitackDrop
        · simp [deliverSmRespReaction, hdistinct, hserver, haction, hdrop,
            settleOrigin_eq_nil_iff]
        · simp [deliverSmRespReaction, hdistinct, hserver, hdisconnect, haction]

/-- The callback of live and stored messages has no reaction of its own to a refusal, unless the
status is reserved for this message. -/
theorem reaction_eq_nil_iff (hrok : status ≠ smppEsmeRok) (hq : q.callback = some .deliverSmResp) :
    deliverSmRespReaction smppServer link q status = some [] ↔ ¬ Reserved smppServer q status := by
  have hdistinct := reserved_statuses_distinct
  by_cases hqueued : status = smppEsmeCommandStatusQueued
  · subst hqueued
    have hother : smppEsmeCommandStatusQueued ≠ smppEsmeCommandStatusWaitAckTimeout ∧
        smppEsmeCommandStatusQueued ≠ smppQueuedPduDestroyed := by decide
    simp [deliverSmRespReaction, Reserved, hq, hrok, hother, settleOrigin_eq_nil_iff]
  · by_cases htimeout : status = smppEsmeCommandStatusWaitAckTimeout
    · subst htimeout
      have hother : smppEsmeCommandStatusWaitAckTimeout ≠ smppQueuedPduDestroyed := by decide
      simp only [timeoutReaction_eq_nil_iff, Reserved, hq, hqueued, hother, false_and, true_and,
        false_or, or_false]
    · by_cases hdestroyed : status = smppQueuedPduDestroyed
      · subst hdestroyed
        simp [deliverSmRespReaction, Reserved, hq, hdistinct, acknowledge_eq_nil_iff]
      · simp [deliverSmRespReaction, Reserved, hq, hrok, hqueued, htimeout, hdestroyed]

theorem runCallback_eq_refusal_iff (hrok : status ≠ smppEsmeRok) {cb : Callback}
    (hq : q.callback = some cb) (hwell : WellQueued q) :
    runCallback smppServer link q status cb = refusal q cb ↔ ¬ Reserved smppServer q status := by
  cases cb with
  | deliverSmResp =>
      have hmap : runCallback smppServer link q status .deliverSmResp = refusal q .deliverSmResp ↔
          deliverSmRespReaction smppServer link q status = some [] := by
        cases hr : deliverSmRespReaction smppServer link q status with
        | none => simp [runCallback, refusal, smppQueuesCallbackDeliverSmResp, hr]
        | some calls => simp [runCallback, refusal, smppQueuesCallbackDeliverSmResp, hr]
      exact hmap.trans (reaction_eq_nil_iff hrok hq)
  | dbQueue =>
      have hserver := hwell.dbQueue hq
      by_cases hqueued : status = smppEsmeCommandStatusQueued
      · simp [runCallback, refusal, smppEsmeDbQueueCallback, Reserved, hq, hserver, hqueued,
          reserved_statuses_distinct.1]
      · simp [runCallback, refusal, smppEsmeDbQueueCallback, Reserved, hq, hserver, hqueued, hrok]
  | mysqlQueuedPdu =>
      -- the two statuses that keep the row are the reserved ones
      have hserver := hwell.mysql hq
      by_cases hkept : status = smppEsmeCommandStatusWaitAckTimeout ∨
          status = smppQueuedPduDestroyed
      · have hnot : ¬ (status ≠ smppQueuedPduDestroyed ∧
            status ≠ smppEsmeCommandStatusWaitAckTimeout) := by tauto
        simp [runCallback, refusal, smppDatabaseMysqlQueuedPduHandler, Reserved, hq, hserver, hnot,
          hkept]
      · have hboth : status ≠ smppQueuedPduDestroyed ∧
            status ≠ smppEsmeCommandStatusWaitAckTimeout := by tauto
        simp [runCallback, refusal, smppDatabaseMysqlQueuedPduHandler, Reserved, hq, hserver,
          hboth]
  | redisQueuedPdu =>
      simp [runCallback, refusal, smppDatabaseRedisQueuedPduHandler, Reserved, hq]

/-- A response with a non-zero status, for whatever sequence number, is treated as any refusal
exactly if its status is not reserved for the message that waits under that number. -/
theorem processAck_treatedAsRefusal_iff {smppEsme : SmppEsme} {sequenceNumber : Int}
    {commandStatus : UInt32} (hrefused : commandStatus ≠ 0)
    (hwell : ∀ q ∈ smppEsme.openAcks.entries, WellQueued q) :
    TreatedAsRefusal smppServer link smppEsme sequenceNumber commandStatus.toNat ↔
      ∀ q, smppEsme.openAcks.find? (some sequenceNumber) = some q →
        ¬ Reserved smppServer q commandStatus.toNat := by
  have hrok : (commandStatus.toNat : Int) ≠ smppEsmeRok := by
    intro h
    apply hrefused
    have hzero : commandStatus.toNat = 0 := by simpa [smppEsmeRok] using h
    exact UInt32.toNat_inj.mp (by simpa using hzero)
  cases hfind : smppEsme.openAcks.find? (some sequenceNumber) with
  | none =>
      simp [TreatedAsRefusal, smppQueuesProcessAck, hfind, ReportsDelivered]
  | some q =>
      have hq := hwell q (Keyed.find?_eq_some_iff.mp hfind).1
      cases hcb : q.callback with
      | none =>
          simp [TreatedAsRefusal, smppQueuesProcessAck, hfind, hcb, ReportsDelivered, Reserved]
      | some cb =>
          have hkey := @runCallback_eq_refusal_iff smppServer link q commandStatus.toNat hrok cb
            hcb hq
          constructor
          · rintro ⟨hsame, _⟩ q' hq'
            cases hq'
            apply hkey.mp
            simpa [smppQueuesProcessAck, hfind, hcb, runCallback_rsyserr] using hsame
          · intro hfree
            have hrun := hkey.mpr (hfree q rfl)
            refine ⟨?_, ?_⟩
            · simp [smppQueuesProcessAck, hfind, hcb, runCallback_rsyserr, hrun]
            · intro calls hcalls
              have hrefusal : refusal q cb = some calls := by
                simpa [smppQueuesProcessAck, hfind, hcb, hrun] using hcalls
              exact refusal_not_reportsDelivered hrefusal

/-- A session with one message from a bearerbox that waits under sequence number 7. -/
def sampleWaiting : SmppEsme :=
  { smppEsmeCreate 1 with openAcks := Keyed.empty.put sampleLiveMo }

theorem processAck_treatedAsRefusal_sample :
    TreatedAsRefusal sampleDropServer sampleLink sampleWaiting 7 ((0x0B : UInt32).toNat : Int) := by
  refine (processAck_treatedAsRefusal_iff (by decide) ?_).mpr ?_
  · intro q hq
    have hsample : q = sampleLiveMo := by simpa [sampleWaiting] using hq
    subst hsample
    exact ⟨fun h => absurd h (by decide), fun h => absurd h (by decide)⟩
  · intro q hq
    have hsample : q = sampleLiveMo := by
      have hfind : sampleWaiting.openAcks.find? (some 7) = some sampleLiveMo := by decide
      simpa [hfind, eq_comm] using hq
    subst hsample
    rintro (⟨hqueued, _⟩ | ⟨htimeout, _⟩ | ⟨hdestroyed, _⟩)
    · exact absurd hqueued (by decide)
    · exact absurd htimeout (by decide)
    · exact absurd hdestroyed (by decide)

/-- An ESME that answers `0x401` makes the server acknowledge the message it has refused. -/
theorem processAck_queued_status_reports :
    ¬ TreatedAsRefusal sampleDropServer sampleLink sampleWaiting 7
      ((0x401 : UInt32).toNat : Int) := by
  rintro ⟨_, hsilent⟩
  refine hsilent [.bearerboxAcknowledge 0 (octstrImm "id") ackSuccess true, .queuedPduDestroy]
    (by decide) (Or.inl ⟨0, octstrImm "id", true, by simp⟩)

end Ksmppd
