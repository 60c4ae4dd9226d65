import Ksmppd.Callbacks

/-!
# CallbackOutcome — who is told what when a delivery ends

Two questions about the callbacks of `Ksmppd.Callbacks`: for which statuses the origin of a
message, a bearerbox or the store, is told exactly once that the message is done with; and for
which statuses an ESME can trigger what the server reserves for its own notifications, as both
share one number space.
-/

namespace Ksmppd

open Lib

variable {smppServer : SmppServer} {link : BearerboxLink} {q : SmppQueuedPdu} {status : Int}

/-! ## The origin of a delivery -/

/-- A `deliver_sm` queued for a session with `smpp_queues_callback_deliver_sm_resp`. -/
structure QueuedDelivery (q : SmppQueuedPdu) : Prop where
  pdu : ∃ p, q.pdu = some (.deliverSm p)
  smppEsme : ∃ esme, q.smppEsme = some esme
  callback : q.callback = some .deliverSmResp

/-- It came from a bearerbox that waits for an acknowledgement. -/
structure FromBearerbox (q : SmppQueuedPdu) (b : BearerboxRef) (id : Octstr) : Prop where
  bearerbox : q.bearerbox = some b
  bearerboxId : q.bearerboxId = some id
  nonempty : id ≠ []

/-- It came from the store, where its row is pending. -/
structure FromStore (q : SmppQueuedPdu) : Prop where
  bearerbox : q.bearerbox = none
  bearerboxId : q.bearerboxId = none
  globalId : q.globalId > 0
  smppServer : q.smppServer = true

/-- What reaches the origin: an acknowledgement that was sent, or a removal. -/
def isSettlement : Call → Bool
  | .bearerboxAcknowledge _ _ _ sent => sent
  | .databaseRemove _ _ => true
  | _ => false

def Settles (q : SmppQueuedPdu) (temporary : Bool) : Call → Prop
  | .bearerboxAcknowledge b id _ _ => q.bearerbox = some b ∧ q.bearerboxId = some id
  | .databaseRemove globalId t => q.bearerbox = none ∧ globalId = q.globalId ∧ t = temporary
  | _ => False

/-- The ESME has accepted the message, or it was queued elsewhere, or it is given up. -/
def finished (smppServer : SmppServer) (status : Int) : Bool :=
  status = smppEsmeRok || status = smppEsmeCommandStatusQueued ||
    (status = smppEsmeCommandStatusWaitAckTimeout && smppServer.waitAckAction = smppWaitackDrop)

/-- What the callback of a delivery can do: settle the origin of a finished message, after it has
counted the delivery or without; or tell the bearerbox to try again, end the session, both, or
nothing. -/
theorem deliverSmRespReaction_cases {calls : List Call}
    (h : deliverSmRespReaction smppServer link q status = some calls) :
    (finished smppServer status = true ∧ ∃ counted settled, calls = counted ++ settled ∧
      (counted = [] ∨ countDelivery q = some counted) ∧ settleOrigin link q = some settled) ∨
      ∃ acked ended, calls = acked ++ ended ∧ (acked = [] ∨
        smppBearerboxAcknowledge link q.bearerbox q.bearerboxId ackFailedTmp = some acked) ∧
          (ended = [] ∨ disconnectEsme q = some ended) := by
  unfold deliverSmRespReaction at h
  split at h
  · rename_i hrok
    rcases Option.bind_eq_some_iff.mp h with ⟨counted, hcounted, hrest⟩
    rcases Option.map_eq_some_iff.mp hrest with ⟨settled, hsettled, rfl⟩
    exact Or.inl ⟨by simp [finished, hrok], counted, settled, rfl, Or.inr hcounted, hsettled⟩
  · split at h
    · rename_i hqueued
      exact Or.inl ⟨by simp [finished, hqueued], [], calls, rfl, Or.inl rfl, h⟩
    · split at h
      · rename_i htimeout
        split at h
        · split at h
          · -- the session ends, and a bearerbox is told first
            rcases Option.bind_eq_some_iff.mp h with ⟨acked, hacked, hrest⟩
            rcases Option.map_eq_some_iff.mp hrest with ⟨ended, hended, rfl⟩
            refine Or.inr ⟨acked, ended, rfl, ?_, Or.inr hended⟩
            split at hacked
            · exact Or.inr hacked
            · exact Or.inl (Option.some.inj hacked).symm
          · split at h
            · rename_i hdrop
              exact Or.inl ⟨by simp [finished, htimeout, hdrop], [], calls, rfl, Or.inl rfl, h⟩
            · exact Or.inr ⟨[], [], (Option.some.inj h).symm, Or.inl rfl, Or.inl rfl⟩
        · cases h
      · split at h
        · exact Or.inr ⟨calls, [], (List.append_nil calls).symm, Or.inr h, Or.inl rfl⟩
        · exact Or.inr ⟨[], [], (Option.some.inj h).symm, Or.inl rfl, Or.inl rfl⟩

def settlements (calls : Option (List Call)) : Option (List Call) :=
  calls.map (fun cs => cs.filter isSettlement)

/-- The origin is told exactly once; a stored message is removed for good when it is finished,
and released for a later try otherwise. -/
def SettledOnce (smppServer : SmppServer) (q : SmppQueuedPdu) (status : Int)
    (calls : Option (List Call)) : Prop :=
  ∃ c, settlements calls = some [c] ∧ Settles q (!finished smppServer status) c

/-! ## What the callback tells the origin -/

/-- The statuses the callback looks for are distinct. -/
theorem reserved_statuses_distinct :
    smppEsmeCommandStatusQueued ≠ smppEsmeRok ∧
      smppEsmeCommandStatusWaitAckTimeout ≠ smppEsmeRok ∧
      smppEsmeCommandStatusWaitAckTimeout ≠ smppEsmeCommandStatusQueued ∧
      smppQueuedPduDestroyed ≠ smppEsmeRok ∧
      smppQueuedPduDestroyed ≠ smppEsmeCommandStatusQueued ∧
      smppQueuedPduDestroyed ≠ smppEsmeCommandStatusWaitAckTimeout := by
  decide

/-- The acknowledgement a bearerbox is sent. -/
def announcedAck (smppServer : SmppServer) (status : Int) : Option Int :=
  if status = smppEsmeRok ∨ status = smppEsmeCommandStatusQueued then some ackSuccess
  else if status = smppEsmeCommandStatusWaitAckTimeout then
    if smppServer.waitAckAction = smppWaitackDisconnect then some ackFailedTmp
    else if smppServer.waitAckAction = smppWaitackDrop then some ackSuccess
    else none
  else if status = smppQueuedPduDestroyed then some ackFailedTmp
  else none

theorem acknowledge_fromBearerbox {b : BearerboxRef} {id : Octstr}
    (horigin : FromBearerbox q b id) (st : Int) :
    smppBearerboxAcknowledge link q.bearerbox q.bearerboxId st =
      some [.bearerboxAcknowledge b id st (link.alive && link.written)] := by
  have hlen : id.length ≠ 0 := by simpa using horigin.nonempty
  simp [smppBearerboxAcknowledge, horigin.bearerbox, horigin.bearerboxId, octstrLen, hlen]

theorem settleOrigin_fromBearerbox {b : BearerboxRef} {id : Octstr}
    (horigin : FromBearerbox q b id) :
    settleOrigin link q =
      some [.bearerboxAcknowledge b id ackSuccess (link.alive && link.written)] := by
  have hack := @acknowledge_fromBearerbox link q b id horigin ackSuccess
  simpa [settleOrigin, horigin.bearerbox, horigin.bearerboxId] using hack

theorem settleOrigin_fromStore (horigin : FromStore q) :
    settleOrigin link q = some [.databaseRemove q.globalId false] := by
  simp [settleOrigin, smppDatabaseRemove, horigin.bearerbox, horigin.globalId, horigin.smppServer]

theorem countDelivery_settlements (hq : QueuedDelivery q) :
    ∃ cs, countDelivery q = some cs ∧ cs.filter isSettlement = [] := by
  rcases hq.pdu with ⟨p, hp⟩
  rcases hq.smppEsme with ⟨esme, hesme⟩
  exact ⟨[.countDelivery esme (isDlr p)], by simp [countDelivery, hp, hesme], rfl⟩

/-- The settlements of the callback are those of its reaction. -/
theorem settlements_callback :
    settlements (smppQueuesCallbackDeliverSmResp smppServer link q status) =
      settlements (deliverSmRespReaction smppServer link q status) := by
  unfold smppQueuesCallbackDeliverSmResp settlements
  cases deliverSmRespReaction smppServer link q status with
  | none => rfl
  | some cs => simp [isSettlement]

/-- An accepted or queued message is settled as `settleOrigin` does it. -/
theorem settlements_accepted (hq : QueuedDelivery q) {cs : List Call}
    (hsettle : settleOrigin link q = some cs)
    (hstatus : status = smppEsmeRok ∨ status = smppEsmeCommandStatusQueued) :
    settlements (deliverSmRespReaction smppServer link q status) =
      some (cs.filter isSettlement) := by
  rcases hstatus with hrok | hqueued
  · rcases countDelivery_settlements hq with ⟨counted, hcounted, hnone⟩
    simp [deliverSmRespReaction, settlements, hrok, hcounted, hsettle, hnone]
  · have hne := reserved_statuses_distinct.1
    simp [deliverSmRespReaction, settlements, hqueued, hne, hsettle]

/-- A message dropped after its ack has timed out is settled in the same way. -/
theorem settlements_dropped {cs : List Call} (hsettle : settleOrigin link q = some cs)
    (hserver : q.smppServer = true) (hdrop : smppServer.waitAckAction = smppWaitackDrop) :
    settlements (deliverSmRespReaction smppServer link q smppEsmeCommandStatusWaitAckTimeout) =
      some (cs.filter isSettlement) := by
  rcases reserved_statuses_distinct with ⟨_, hrok, hqueued, _, _, _⟩
  have haction : smppWaitackDrop ≠ smppWaitackDisconnect := by decide
  simp [deliverSmRespReaction, settlements, hrok, hqueued, hserver, hdrop, haction, hsettle]

/-- A time-out that is neither answered by a disconnect nor by a drop settles nothing. -/
theorem settlements_timeout_ignored (hserver : q.smppServer = true)
    (hdisconnect : smppServer.waitAckAction ≠ smppWaitackDisconnect)
    (hdrop : smppServer.waitAckAction ≠ smppWaitackDrop) :
    settlements (deliverSmRespReaction smppServer link q smppEsmeCommandStatusWaitAckTimeout) =
      some [] := by
  rcases reserved_statuses_distinct with ⟨_, hrok, hqueued, _, _, _⟩
  simp [deliverSmRespReaction, settlements, hrok, hqueued, hserver, hdisconnect, hdrop]

/-- Every status the callback does not look for settles nothing. -/
theorem settlements_refused (hrok : status ≠ smppEsmeRok)
    (hqueued : status ≠ smppEsmeCommandStatusQueued)
    (htimeout : status ≠ smppEsmeCommandStatusWaitAckTimeout)
    (hdestroyed : status ≠ smppQueuedPduDestroyed) :
    settlements (deliverSmRespReaction smppServer link q status) = some [] := by
  simp [deliverSmRespReaction, settlements, hrok, hqueued, htimeout, hdestroyed]

/-- A time-out is followed by a disconnect: the bearerbox is told to try again, the store is told
nothing. -/
theorem settlements_disconnected (hq : QueuedDelivery q) (hserver : q.smppServer = true)
    (hdisconnect : smppServer.waitAckAction = smppWaitackDisconnect) {cs : List Call}
    (hacked : (if q.bearerbox.isSome ∧ q.bearerboxId.isSome then
      smppBearerboxAcknowledge link q.bearerbox q.bearerboxId ackFailedTmp else some []) = some cs) :
    settlements (deliverSmRespReaction smppServer link q smppEsmeCommandStatusWaitAckTimeout) =
      some (cs.filter isSettlement) := by
  rcases hq.pdu with ⟨p, hp⟩
  rcases hq.smppEsme with ⟨esme, hesme⟩
  rcases reserved_statuses_distinct with ⟨_, hrok, hqueued, _, _, _⟩
  have hstop : disconnectEsme q = some [.esmeDisconnect esme] := by simp [disconnectEsme, hp, hesme]
  simp [deliverSmRespReaction, settlements, hrok, hqueued, hserver, hdisconnect, hacked, hstop,
    isSettlement]

theorem settlements_destroyed :
    settlements (deliverSmRespReaction smppServer link q smppQueuedPduDestroyed) =
      settlements (smppBearerboxAcknowledge link q.bearerbox q.bearerboxId ackFailedTmp) := by
  rcases reserved_statuses_distinct with ⟨_, _, _, hrok, hqueued, htimeout⟩
  simp [deliverSmRespReaction, hrok, hqueued, htimeout]

/-- The acknowledgement as a list of settlements: none if the connection cannot carry it. -/
def sentAck (link : BearerboxLink) (b : BearerboxRef) (id : Octstr) (st : Int) : List Call :=
  [Call.bearerboxAcknowledge b id st (link.alive && link.written)].filter isSettlement

theorem settlements_fromBearerbox {b : BearerboxRef} {id : Octstr} (hq : QueuedDelivery q)
    (horigin : FromBearerbox q b id)
    (hserver : status = smppEsmeCommandStatusWaitAckTimeout → q.smppServer = true) :
    settlements (deliverSmRespReaction smppServer link q status) =
      some ((announcedAck smppServer status).elim [] (sentAck link b id)) := by
  have hsettle := @settleOrigin_fromBearerbox link q b id horigin
  have hack := @acknowledge_fromBearerbox link q b id horigin ackFailedTmp
  by_cases haccepted : status = smppEsmeRok ∨ status = smppEsmeCommandStatusQueued
  · simp [settlements_accepted hq hsettle haccepted, announcedAck, haccepted, sentAck]
  · rcases not_or.mp haccepted with ⟨hrok, hqueued⟩
    by_cases htimeout : status = smppEsmeCommandStatusWaitAckTimeout
    · have hserver' := hserver htimeout
      subst htimeout
      by_cases hdisconnect : smppServer.waitAckAction = smppWaitackDisconnect
      · have hacked : (if q.bearerbox.isSome ∧ q.bearerboxId.isSome then
            smppBearerboxAcknowledge link q.bearerbox q.bearerboxId ackFailedTmp else some []) =
            some [.bearerboxAcknowledge b id ackFailedTmp (link.alive && link.written)] := by
          simpa [horigin.bearerbox, horigin.bearerboxId] using hack
        simp [settlements_disconnected hq hserver' hdisconnect hacked, announcedAck, haccepted,
          hdisconnect, sentAck]
      · by_cases hdrop : smppServer.waitAckAction = smppWaitackDrop
        · have haction : smppWaitackDrop ≠ smppWaitackDisconnect := by decide
          simp [settlements_dropped hsettle hserver' hdrop, announcedAck, haccepted, haction,
            hdrop, sentAck]
        · simp [settlements_timeout_ignored hserver' hdisconnect hdrop, announcedAck, haccepted,
            hdisconnect, hdrop]
    · by_cases hdestroyed : status = smppQueuedPduDestroyed
      · subst hdestroyed
        rw [settlements_destroyed, hack]
        simp [settlements, announcedAck, haccepted, htimeout, sentAck]
      · simp [settlements_refused hrok hqueued htimeout hdestroyed, announcedAck, haccepted,
          htimeout, hdestroyed]

theorem settlements_fromStore (hq : QueuedDelivery q) (horigin : FromStore q) :
    settlements (deliverSmRespReaction smppServer link q status) =
      some (if finished smppServer status then [.databaseRemove q.globalId false] else []) := by
  have hsettle := @settleOrigin_fromStore link q horigin
  have hserver := horigin.smppServer
  by_cases haccepted : status = smppEsmeRok ∨ status = smppEsmeCommandStatusQueued
  · have hfinished : finished smppServer status = true := by
      rcases haccepted with h | h
      · simp [finished, h]
      · simp [finished, h]
    simp [settlements_accepted hq hsettle haccepted, hfinished, isSettlement]
  · rcases not_or.mp haccepted with ⟨hrok, hqueued⟩
    by_cases htimeout : status = smppEsmeCommandStatusWaitAckTimeout
    · subst htimeout
      by_cases hdisconnect : smppServer.waitAckAction = smppWaitackDisconnect
      · have haction : smppServer.waitAckAction ≠ smppWaitackDrop := by
          rw [hdisconnect]
          decide
        have hacked : (if q.bearerbox.isSome ∧ q.bearerboxId.isSome then
            smppBearerboxAcknowledge link q.bearerbox q.bearerboxId ackFailedTmp else some []) =
            some [] := by
          simp [horigin.bearerbox]
        simp [settlements_disconnected hq hserver hdisconnect hacked, finished, hrok, hqueued,
          haction]
      · by_cases hdrop : smppServer.waitAckAction = smppWaitackDrop
        · simp [settlements_dropped hsettle hserver hdrop, finished, hdrop, isSettlement]
        · simp [settlements_timeout_ignored hserver hdisconnect hdrop, finished, hrok, hqueued,
            hdrop]
    · have hunfinished : finished smppServer status = false := by
        simp [finished, hrok, hqueued, htimeout]
      by_cases hdestroyed : status = smppQueuedPduDestroyed
      · subst hdestroyed
        rw [settlements_destroyed]
        simp [smppBearerboxAcknowledge, horigin.bearerboxId, octstrLen, settlements, hunfinished]
      · simp [settlements_refused hrok hqueued htimeout hdestroyed, hunfinished]

/-! ## When the origin is told exactly once -/

/-- A bearerbox is told for the statuses below, while its connection can carry the answer. -/
def TellsBearerbox (smppServer : SmppServer) (link : BearerboxLink) (q : SmppQueuedPdu)
    (status : Int) : Prop :=
  (link.alive = true ∧ link.written = true) ∧
    (status = smppEsmeRok ∨ status = smppEsmeCommandStatusQueued ∨
      status = smppQueuedPduDestroyed ∨
      (status = smppEsmeCommandStatusWaitAckTimeout ∧ q.smppServer = true ∧
        (smppServer.waitAckAction = smppWaitackDisconnect ∨
          smppServer.waitAckAction = smppWaitackDrop)))

/-- The store is told when the message was accepted, queued elsewhere, or dropped. -/
def TellsStore (smppServer : SmppServer) (status : Int) : Prop :=
  status = smppEsmeRok ∨ status = smppEsmeCommandStatusQueued ∨
    (status = smppEsmeCommandStatusWaitAckTimeout ∧
      smppServer.waitAckAction = smppWaitackDrop)

theorem finished_iff : finished smppServer status = true ↔ TellsStore smppServer status := by
  simp [finished, TellsStore, or_assoc]

theorem announcedAck_isSome_iff :
    (announcedAck smppServer status).isSome ↔
      status = smppEsmeRok ∨ status = smppEsmeCommandStatusQueued ∨
        status = smppQueuedPduDestroyed ∨
        (status = smppEsmeCommandStatusWaitAckTimeout ∧
          (smppServer.waitAckAction = smppWaitackDisconnect ∨
            smppServer.waitAckAction = smppWaitackDrop)) := by
  have hdistinct := reserved_statuses_distinct
  unfold announcedAck
  grind

/-- Where the callback finds the settings, the statuses are those it has an ack for. -/
theorem tellsBearerbox_iff
    (hserver : status = smppEsmeCommandStatusWaitAckTimeout → q.smppServer = true) :
    TellsBearerbox smppServer link q status ↔
      (link.alive = true ∧ link.written = true) ∧ (announcedAck smppServer status).isSome := by
  have htimeout (actions : Prop) :
      (status = smppEsmeCommandStatusWaitAckTimeout ∧ q.smppServer = true ∧ actions) ↔
        (status = smppEsmeCommandStatusWaitAckTimeout ∧ actions) :=
    and_congr_right (fun hstatus => and_iff_right (hserver hstatus))
  rw [TellsBearerbox, htimeout, announcedAck_isSome_iff]

theorem settledOnce_iff_fromBearerbox {b : BearerboxRef} {id : Octstr} (hq : QueuedDelivery q)
    (horigin : FromBearerbox q b id) :
    SettledOnce smppServer q status (smppQueuesCallbackDeliverSmResp smppServer link q status) ↔
      TellsBearerbox smppServer link q status := by
  have hdistinct := reserved_statuses_distinct
  unfold SettledOnce
  rw [settlements_callback]
  by_cases hserver : status = smppEsmeCommandStatusWaitAckTimeout → q.smppServer = true
  · rw [settlements_fromBearerbox hq horigin hserver, tellsBearerbox_iff hserver]
    constructor
    · rintro ⟨c, hc, _⟩
      cases hack : announcedAck smppServer status with
      | none =>
          simp [hack] at hc
      | some st =>
          have hsent : link.alive = true ∧ link.written = true := by
            cases hlink : link.alive && link.written with
            | true => simpa using hlink
            | false => simp [hack, sentAck, hlink, isSettlement] at hc
          exact ⟨hsent, rfl⟩
    · rintro ⟨⟨halive, hwritten⟩, hsome⟩
      rcases Option.isSome_iff_exists.mp hsome with ⟨st, hst⟩
      refine ⟨.bearerboxAcknowledge b id st true, ?_, horigin.bearerbox, horigin.bearerboxId⟩
      simp [hst, sentAck, halive, hwritten, isSettlement]
  · -- the server pointer is followed before anything else is looked at
    rcases Classical.not_imp.mp hserver with ⟨htimeout, hnull⟩
    have hcrash : deliverSmRespReaction smppServer link q status = none := by
      simp [deliverSmRespReaction, htimeout, hdistinct, hnull]
    constructor
    · rintro ⟨c, hc, _⟩
      simp [settlements, hcrash] at hc
    · rintro ⟨_, hstatus⟩
      grind

theorem settledOnce_iff_fromStore (hq : QueuedDelivery q) (horigin : FromStore q) :
    SettledOnce smppServer q status (smppQueuesCallbackDeliverSmResp smppServer link q status) ↔
      TellsStore smppServer status := by
  unfold SettledOnce
  rw [settlements_callback, settlements_fromStore hq horigin, ← finished_iff]
  cases hfinished : finished smppServer status with
  | true => simp [Settles, horigin.bearerbox]
  | false => simp

/-- The condition for a message of either origin. -/
def TellsOrigin (smppServer : SmppServer) (link : BearerboxLink) (q : SmppQueuedPdu)
    (status : Int) : Prop :=
  if q.bearerbox.isSome then TellsBearerbox smppServer link q status
  else TellsStore smppServer status

/-- The callback settles the origin of a message exactly once for the statuses of `TellsOrigin`,
and for no other. -/
theorem deliverSmResp_settledOnce_iff (hq : QueuedDelivery q)
    (horigin : (∃ b id, FromBearerbox q b id) ∨ FromStore q) :
    SettledOnce smppServer q status (smppQueuesCallbackDeliverSmResp smppServer link q status) ↔
      TellsOrigin smppServer link q status := by
  rcases horigin with ⟨b, id, hbox⟩ | hstore
  · simpa [TellsOrigin, hbox.bearerbox] using settledOnce_iff_fromBearerbox hq hbox
  · simpa [TellsOrigin, hstore.bearerbox] using settledOnce_iff_fromStore hq hstore

/-- A message from bearerbox 0, queued for session 1 under sequence number 7. -/
def sampleLiveMo : SmppQueuedPdu :=
  { smppQueuedPduCreate with
    pdu := some (.deliverSm { sequenceNumber := 7, esmClass := 0 })
    smppEsme := some 1
    id := some 7
    callback := some .deliverSmResp
    bearerbox := some 0
    bearerboxId := some (octstrImm "id") }

/-- The same message from row 12 of the store. -/
def sampleStoredMo : SmppQueuedPdu :=
  { sampleLiveMo with
    bearerbox := none
    bearerboxId := none
    smppServer := true
    globalId := 12 }

def sampleDropServer : SmppServer where
  databaseEnableQueue := true
  databaseStorePrimary := false
  waitAckAction := smppWaitackDrop

def sampleLink : BearerboxLink where
  alive := true
  written := true

theorem deliverSmResp_settledOnce_dropped :
    SettledOnce sampleDropServer sampleStoredMo smppEsmeCommandStatusWaitAckTimeout
      (smppQueuesCallbackDeliverSmResp sampleDropServer sampleLink sampleStoredMo
        smppEsmeCommandStatusWaitAckTimeout) :=
  (deliverSmResp_settledOnce_iff ⟨⟨_, rfl⟩, ⟨_, rfl⟩, rfl⟩
    (Or.inr ⟨rfl, rfl, by decide, rfl⟩)).mpr (Or.inr (Or.inr ⟨rfl, rfl⟩))

/-- An ordinary refusal by the ESME leaves the bearerbox without an answer. -/
theorem deliverSmResp_refusal_unsettled :
    ¬ SettledOnce sampleDropServer sampleLiveMo smppEsmeRsyserr
      (smppQueuesCallbackDeliverSmResp sampleDropServer sampleLink sampleLiveMo
        smppEsmeRsyserr) := by
  intro h
  have htold := (settledOnce_iff_fromBearerbox ⟨⟨_, rfl⟩, ⟨_, rfl⟩, rfl⟩
    ⟨rfl, rfl, by decide⟩).mp h
  rcases htold with ⟨_, hrok | hqueued | hdestroyed | ⟨htimeout, _⟩⟩
  · exact absurd hrok (by decide)
  · exact absurd hqueued (by decide)
  · exact absurd hdestroyed (by decide)
  · exact absurd htimeout (by decide)

end Ksmppd
