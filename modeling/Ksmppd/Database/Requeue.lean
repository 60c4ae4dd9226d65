import Ksmppd.Database.Handout

/-!
# Requeue — what a refused message leaves behind

`smpp_esme_db_queue_callback` moves a PDU that the ESME has refused from its source row to the PDU
store: it inserts the copy and removes the row.  It does not look at whether the copy was inserted.
-/

namespace Ksmppd
namespace Database

open Lib

variable {s t : HandoutState} {q : SmppQueuedPdu} {status : Int}

/-! ## The callback on the tables -/

/-- What the database answers to the statements of a callback: the id of the inserted copy, if there
is one, and whether the row is removed. -/
structure DbAnswers where
  inserted : Option Octstr
  removed : Bool

/-- `smpp_database_add_pdu`, with the success it reports. -/
def smppDatabaseAddPdu (s : HandoutState) (q : SmppQueuedPdu) (inserted : Option Octstr) :
    HandoutState × Bool :=
  match inserted, q.pdu with
  | none, _ => (s, false)
  | some globalId, some (.deliverSm p) =>
      let row : Delivery.StoredPdu :=
        { globalId := globalId, systemId := q.systemId.getD [], pdu := p }
      ({ s with pdus := s.pdus.add row }, true)
  | some _, _ => (s, true)

/-- `smpp_database_remove_dlr`; the Redis one does nothing, as an entry is popped when it is
fetched. -/
def smppDatabaseRemoveDlr (s : HandoutState) (globalId : Nat) (updated : Bool) : HandoutState :=
  match s.store.backend with
  | .mysql => smppDatabaseMysqlRemoveDlr s globalId updated
  | .redis => s

/-- What a call of the callback does to the database. -/
def dbCall (answers : DbAnswers) (s : HandoutState) : Call → HandoutState
  | .databaseAddPdu q => (smppDatabaseAddPdu s q answers.inserted).1
  | .databaseRemove globalId temporary =>
      { s with store := smppDatabaseRemove s.store globalId temporary answers.removed }
  | .databaseRemoveDlr globalId => smppDatabaseRemoveDlr s globalId answers.removed
  | _ => s

/-- The database after `smpp_esme_db_queue_callback`. -/
def afterDbQueueCallback (s : HandoutState) (q : SmppQueuedPdu) (status : Int)
    (answers : DbAnswers) : Option HandoutState :=
  (smppEsmeDbQueueCallback q status).map (fun calls => calls.foldl (dbCall answers) s)

/-! ## Sources -/

/-- The row or entry a PDU was built from. -/
inductive Source
  | dlr (globalId : Nat)
  | stored (m : StoredMsg)
  deriving DecidableEq, Repr

/-- A PDU as `smpp_esme_global_get_queued` builds it from its source. -/
structure BuiltFrom (q : SmppQueuedPdu) (src : Source) : Prop where
  callback : q.callback = some .dbQueue
  smppServer : q.smppServer = true
  pdu : ∃ p, q.pdu = some (.deliverSm p)
  smppEsme : ∃ esme, q.smppEsme = some esme
  source : match src with
    | .dlr globalId => q.fromDlrTable = true ∧ q.sequence = globalId
    | .stored m => q.fromDlrTable = false ∧ q.sequence = m.globalId

/-- The source is where it was, and not processed. -/
def Source.There (s : HandoutState) : Source → Prop
  | .dlr globalId => ∃ row ∈ s.dlrs.entries, row.globalId = globalId ∧ row.processed = false
  | .stored m => m ∈ s.store.stores m.storeTable

/-- No mark keeps it from being fetched again. -/
def Source.Unmarked (s : HandoutState) : Source → Prop
  | .dlr _ => True
  | .stored m => s.store.pendingMsg.find? m.globalId = none

/-- The table `smpp_database_mysql_remove` deletes from. -/
def claimedTable (s : StoreState) (globalId : Nat) : Octstr :=
  ((s.pendingMsgStore.find? globalId).map Prod.snd).getD s.settings.databaseStoreTable

/-- The removal takes the source away: there is a statement for it, and it succeeds. -/
def Source.Removed (s : HandoutState) (answers : DbAnswers) : Source → Prop
  | .dlr _ => s.store.backend = .mysql ∧ octstrLen s.databaseDlrTable ≠ 0 ∧ answers.removed = true
  | .stored m => s.store.backend = .mysql ∧ claimedTable s.store m.globalId = m.storeTable ∧
      answers.removed = true

/-- The ESME has taken the PDU, or it is queued elsewhere. -/
def Accepted (status : Int) : Prop :=
  status = smppEsmeRok ∨ status = smppEsmeCommandStatusQueued

/-- `smpp_database_add_pdu` reports the insertion, and the copy is in the PDU store. -/
def CopyStored (s t : HandoutState) (q : SmppQueuedPdu) (answers : DbAnswers) : Prop :=
  (smppDatabaseAddPdu s q answers.inserted).2 = true ∧
    ∃ row ∈ t.pdus.rows.entries, answers.inserted = some row.globalId ∧
      q.pdu = some (.deliverSm row.pdu)

/-- The message is somewhere: with the ESME, in the PDU store, or where it was. -/
def NotLost (s t : HandoutState) (q : SmppQueuedPdu) (src : Source) (status : Int)
    (answers : DbAnswers) : Prop :=
  Accepted status ∨ CopyStored s t q answers ∨ (src.There t ∧ src.Unmarked t)

/-! ## The copy -/

theorem addPdu_store (inserted : Option Octstr) :
    (smppDatabaseAddPdu s q inserted).1.store = s.store := by
  unfold smppDatabaseAddPdu
  split <;> simp

theorem addPdu_dlrs (inserted : Option Octstr) :
    (smppDatabaseAddPdu s q inserted).1.dlrs = s.dlrs := by
  unfold smppDatabaseAddPdu
  split <;> simp

theorem addPdu_databaseDlrTable (inserted : Option Octstr) :
    (smppDatabaseAddPdu s q inserted).1.databaseDlrTable = s.databaseDlrTable := by
  unfold smppDatabaseAddPdu
  split <;> simp

/-- Success is reported exactly if the database gives an id. -/
theorem addPdu_reported (inserted : Option Octstr) :
    (smppDatabaseAddPdu s q inserted).2 = true ↔ inserted.isSome = true := by
  unfold smppDatabaseAddPdu
  split <;> simp

theorem addPdu_copy {p : DeliverSm} {globalId : Octstr} (hpdu : q.pdu = some (.deliverSm p)) :
    ∃ row ∈ (smppDatabaseAddPdu s q (some globalId)).1.pdus.rows.entries,
      row.globalId = globalId ∧ row.pdu = p := by
  refine ⟨{ globalId := globalId, systemId := q.systemId.getD [], pdu := p }, ?_, rfl, rfl⟩
  simp [smppDatabaseAddPdu, hpdu, Delivery.PduStore.add]

/-! ## The removal -/

/-- What `removeSource` does for a PDU built from `src`. -/
def Source.remove (s : HandoutState) (removed : Bool) : Source → HandoutState
  | .dlr globalId => smppDatabaseRemoveDlr s globalId removed
  | .stored m => { s with store := smppDatabaseRemove s.store m.globalId false removed }

theorem BuiltFrom.dbCall_removeSource {src : Source} (h : BuiltFrom q src) (answers : DbAnswers) :
    dbCall answers s (removeSource q) = src.remove s answers.removed := by
  have hsource := h.source
  cases src with
  | dlr globalId => simp [removeSource, hsource.1, hsource.2, dbCall, Source.remove]
  | stored m => simp [removeSource, hsource.1, hsource.2, dbCall, Source.remove]

/-- A DLR is only touched where `Removed` says so. -/
theorem remove_dlr (s : HandoutState) (globalId : Nat) (answers : DbAnswers) :
    ((Source.dlr globalId).Removed s answers ∧
      ((Source.dlr globalId).remove s answers.removed).dlrs = removeDlrRow s globalId) ∨
    (¬ (Source.dlr globalId).Removed s answers ∧
      (Source.dlr globalId).remove s answers.removed = s) := by
  simp only [Source.Removed, Source.remove, smppDatabaseRemoveDlr]
  cases hbackend : s.store.backend with
  | redis => right; simp
  | mysql =>
      by_cases htable : octstrLen s.databaseDlrTable = 0
      · right; simp [smppDatabaseMysqlRemoveDlr, htable]
      · cases hremoved : answers.removed with
        | true => left; simp [smppDatabaseMysqlRemoveDlr, htable]
        | false => right; simp [smppDatabaseMysqlRemoveDlr, htable]

/-- Deleted or marked as processed, the row is no longer there to be fetched. -/
theorem not_there_removeDlrRow {globalId : Nat} {row : DlrRow}
    (hrow : row ∈ (removeDlrRow s globalId).entries) (hid : row.globalId = globalId)
    (hfree : row.processed = false) : False := by
  unfold removeDlrRow at hrow
  split at hrow
  · exact (Keyed.mem_remove.mp hrow).2 hid
  · split at hrow
    · rename_i found hfound
      have hkey : found.globalId = globalId := Keyed.key_of_find? hfound
      rcases Keyed.mem_put.mp hrow with rfl | ⟨-, hne⟩
      · cases hfree
      · exact hne (hid.trans hkey.symm)
    · rename_i hnone
      exact Keyed.find?_eq_none_iff.mp hnone row hrow hid

theorem dlr_there_remove {globalId : Nat} {answers : DbAnswers} :
    (Source.dlr globalId).There ((Source.dlr globalId).remove s answers.removed) ↔
      (Source.dlr globalId).There s ∧ ¬ (Source.dlr globalId).Removed s answers := by
  rcases remove_dlr s globalId answers with ⟨hremoved, hdlrs⟩ | ⟨hkept, hsame⟩
  · constructor
    · rintro ⟨row, hrow, hid, hfree⟩
      rw [hdlrs] at hrow
      exact absurd hfree (fun hfree => not_there_removeDlrRow hrow hid hfree)
    · rintro ⟨-, hkept⟩
      exact absurd hremoved hkept
  · rw [hsame]
    exact ⟨fun hthere => ⟨hthere, hkept⟩, And.left⟩

theorem stores_mysqlRemove (s : StoreState) (globalId : Nat) :
    (smppDatabaseMysqlRemove s globalId false true).stores =
      Function.update s.stores (claimedTable s globalId)
        ((s.stores (claimedTable s globalId)).filter (fun m => m.globalId ≠ globalId)) := rfl

/-- The `DELETE` of a store row takes the message out of the one table it names. -/
theorem mem_mysqlRemove (s : StoreState) (m : StoredMsg) (deleted : Bool) :
    m ∈ (smppDatabaseMysqlRemove s m.globalId false deleted).stores m.storeTable ↔
      m ∈ s.stores m.storeTable ∧
        ¬ (claimedTable s m.globalId = m.storeTable ∧ deleted = true) := by
  cases deleted with
  | false => simp [smppDatabaseMysqlRemove, StoreState.release]
  | true =>
      rw [stores_mysqlRemove]
      by_cases htable : m.storeTable = claimedTable s m.globalId
      · simp [htable]
      · simp [Function.update_of_ne htable, Ne.symm htable]

/-- An entry of a Redis list was popped when it was fetched; the removal leaves the lists alone. -/
theorem redisRemove_stores (s : StoreState) (globalId : Nat) (pushed : Bool) :
    (smppDatabaseRedisRemove s globalId false pushed).stores = s.stores := by
  unfold smppDatabaseRedisRemove
  cases s.pendingMsg.find? globalId with
  | none => rfl
  | some m => simp [StoreState.release]

theorem stored_there_remove {m : StoredMsg} {answers : DbAnswers} :
    (Source.stored m).There ((Source.stored m).remove s answers.removed) ↔
      (Source.stored m).There s ∧ ¬ (Source.stored m).Removed s answers := by
  cases hbackend : s.store.backend with
  | mysql =>
      simpa [Source.There, Source.remove, Source.Removed, smppDatabaseRemove, hbackend] using
        mem_mysqlRemove s.store m answers.removed
  | redis =>
      simp [Source.There, Source.remove, Source.Removed, smppDatabaseRemove, hbackend,
        redisRemove_stores]

theorem there_remove (src : Source) (answers : DbAnswers) :
    src.There (src.remove s answers.removed) ↔ src.There s ∧ ¬ src.Removed s answers := by
  cases src with
  | dlr globalId => exact dlr_there_remove
  | stored m => exact stored_there_remove

/-- The removal takes the mark of a store row away, whether or not the row goes. -/
theorem unmarked_remove (src : Source) (removed : Bool) :
    src.Unmarked (src.remove s removed) := by
  cases src with
  | dlr globalId => exact trivial
  | stored m =>
      simp only [Source.Unmarked, Source.remove, smppDatabaseRemove]
      cases s.store.backend with
      | mysql =>
          exact Keyed.find?_remove_self _ m.globalId
      | redis =>
          unfold smppDatabaseRedisRemove
          cases hfound : s.store.pendingMsg.find? m.globalId with
          | none => exact hfound
          | some n => exact Keyed.find?_remove_self _ m.globalId

theorem remove_pdus (src : Source) (removed : Bool) : (src.remove s removed).pdus = s.pdus := by
  cases src with
  | dlr globalId =>
      simp only [Source.remove, smppDatabaseRemoveDlr]
      cases s.store.backend with
      | redis => simp
      | mysql =>
          simp only [smppDatabaseMysqlRemoveDlr]
          split
          · simp
          · split <;> simp
  | stored m => simp [Source.remove]

/-! ## The whole callback -/

theorem afterDbQueueCallback_accepted {src : Source} {answers : DbAnswers} (h : BuiltFrom q src)
    (haccepted : Accepted status) :
    afterDbQueueCallback s q status answers = some (src.remove s answers.removed) := by
  have hcalls : ∃ counted, smppEsmeDbQueueCallback q status =
      some (counted ++ [removeSource q, .queuedPduDestroy]) ∧
        counted.foldl (dbCall answers) s = s := by
    rcases h.pdu with ⟨p, hpdu⟩
    rcases h.smppEsme with ⟨esme, hesme⟩
    unfold Accepted at haccepted
    by_cases hok : status = smppEsmeRok
    · -- the delivery is counted
      refine ⟨[.countDelivery esme (isDlr p)], ?_, ?_⟩
      · simp [smppEsmeDbQueueCallback, h.smppServer, hok, hesme, countDelivery, hpdu]
      · simp [dbCall]
    · refine ⟨[], ?_, ?_⟩
      · have hqueued : status = smppEsmeCommandStatusQueued := haccepted.resolve_left hok
        have hne : smppEsmeCommandStatusQueued ≠ smppEsmeRok := by decide
        simp [smppEsmeDbQueueCallback, h.smppServer, hqueued, hne]
      · simp
  rcases hcalls with ⟨counted, hcallback, hcounted⟩
  calc
    afterDbQueueCallback s q status answers
        = some (dbCall answers (dbCall answers s (removeSource q)) .queuedPduDestroy) := by
          simp [afterDbQueueCallback, hcallback, hcounted]
    _ = some (dbCall answers s (removeSource q)) := by simp [dbCall]
    _ = some (src.remove s answers.removed) := by rw [h.dbCall_removeSource]

theorem afterDbQueueCallback_refused {src : Source} {answers : DbAnswers} (h : BuiltFrom q src)
    (hrefused : ¬ Accepted status) :
    afterDbQueueCallback s q status answers =
      some (src.remove (smppDatabaseAddPdu s q answers.inserted).1 answers.removed) := by
  unfold Accepted at hrefused
  calc
    afterDbQueueCallback s q status answers
        = some (dbCall answers (smppDatabaseAddPdu s q answers.inserted).1 (removeSource q)) := by
          simp [afterDbQueueCallback, smppEsmeDbQueueCallback, h.smppServer, hrefused, dbCall]
    _ = some (src.remove (smppDatabaseAddPdu s q answers.inserted).1 answers.removed) := by
          rw [h.dbCall_removeSource]

theorem there_addPdu (src : Source) (inserted : Option Octstr) :
    src.There (smppDatabaseAddPdu s q inserted).1 ↔ src.There s := by
  cases src with
  | dlr globalId => simp [Source.There, addPdu_dlrs]
  | stored m => simp [Source.There, addPdu_store]

theorem removed_addPdu (src : Source) (answers : DbAnswers) :
    src.Removed (smppDatabaseAddPdu s q answers.inserted).1 answers ↔ src.Removed s answers := by
  cases src with
  | dlr globalId => simp [Source.Removed, addPdu_store, addPdu_databaseDlrTable]
  | stored m => simp [Source.Removed, addPdu_store]

/-- Once the database has inserted the copy, the removal leaves it there. -/
theorem copyStored_remove {src : Source} {answers : DbAnswers} (h : BuiltFrom q src) :
    CopyStored s (src.remove (smppDatabaseAddPdu s q answers.inserted).1 answers.removed) q
      answers ↔ answers.inserted.isSome = true := by
  constructor
  · intro hcopy
    exact (addPdu_reported answers.inserted).mp hcopy.1
  · intro hinserted
    refine ⟨(addPdu_reported answers.inserted).mpr hinserted, ?_⟩
    rcases Option.isSome_iff_exists.mp hinserted with ⟨globalId, hid⟩
    rcases h.pdu with ⟨p, hpdu⟩
    rcases @addPdu_copy s q p globalId hpdu with ⟨row, hrow, hrowId, hrowPdu⟩
    refine ⟨row, ?_, ?_, ?_⟩
    · rw [remove_pdus, hid]
      exact hrow
    · rw [hid, hrowId]
    · rw [hpdu, hrowPdu]

/-- A PDU that the ESME has refused and that is not copied is only kept where the removal of its
source misses: the callback runs it in every case. -/
theorem requeue_keeps_message_iff {src : Source} (answers : DbAnswers) (h : BuiltFrom q src) :
    ∃ t, afterDbQueueCallback s q status answers = some t ∧
      (NotLost s t q src status answers ↔
        Accepted status ∨ answers.inserted.isSome = true ∨
          (src.There s ∧ ¬ src.Removed s answers)) := by
  by_cases haccepted : Accepted status
  · refine ⟨_, afterDbQueueCallback_accepted h haccepted, ?_⟩
    exact ⟨fun _ => Or.inl haccepted, fun _ => Or.inl haccepted⟩
  · refine ⟨_, afterDbQueueCallback_refused h haccepted, ?_⟩
    have hthere := (there_remove (s := (smppDatabaseAddPdu s q answers.inserted).1) src
      answers).trans (and_congr (there_addPdu src answers.inserted)
        (not_congr (removed_addPdu src answers)))
    unfold NotLost
    apply or_congr Iff.rfl
    apply or_congr (copyStored_remove h)
    constructor
    · rintro ⟨hkept, -⟩
      exact hthere.mp hkept
    · intro hkept
      exact ⟨hthere.mpr hkept, unmarked_remove src answers.removed⟩

/-- The PDU of `sampleDlr`, as it is queued for its ESME. -/
def sampleDlrPdu : SmppQueuedPdu :=
  { smppQueuedPduCreate with
    callback := some .dbQueue
    smppServer := true
    pdu := some (.deliverSm { sequenceNumber := 0, esmClass := 4 })
    smppEsme := some 0
    fromDlrTable := true
    sequence := 1 }

/-- The DLR is in the table. -/
def sampleRequeue : HandoutState := { sampleHandout with dlrs := Keyed.empty.put sampleDlr }

theorem sampleDlrPdu_builtFrom : BuiltFrom sampleDlrPdu (.dlr 1) :=
  ⟨rfl, rfl, ⟨_, rfl⟩, ⟨_, rfl⟩, rfl, rfl⟩

/-- Refused and copied. -/
theorem requeue_keeps_message_sample :
    ∃ t, afterDbQueueCallback sampleRequeue sampleDlrPdu smppEsmeRmsgqful ⟨some [], true⟩ =
        some t ∧
      NotLost sampleRequeue t sampleDlrPdu (.dlr 1) smppEsmeRmsgqful ⟨some [], true⟩ := by
  rcases @requeue_keeps_message_iff sampleRequeue sampleDlrPdu smppEsmeRmsgqful (.dlr 1)
    ⟨some [], true⟩ sampleDlrPdu_builtFrom with ⟨t, hafter, hkept⟩
  exact ⟨t, hafter, hkept.mpr (Or.inr (Or.inl rfl))⟩

/-- The queue of the ESME is full, the insertion of the copy fails, and the DLR is deleted. -/
theorem requeue_loses_message :
    BuiltFrom sampleDlrPdu (.dlr 1) ∧ (Source.dlr 1).There sampleRequeue ∧
      ∃ t, afterDbQueueCallback sampleRequeue sampleDlrPdu smppEsmeRmsgqful ⟨none, true⟩ =
          some t ∧
        ¬ NotLost sampleRequeue t sampleDlrPdu (.dlr 1) smppEsmeRmsgqful ⟨none, true⟩ := by
  have hrefused : ¬ Accepted smppEsmeRmsgqful := by unfold Accepted; decide
  refine ⟨sampleDlrPdu_builtFrom, ⟨sampleDlr, by decide, rfl, rfl⟩, _,
    afterDbQueueCallback_refused sampleDlrPdu_builtFrom hrefused, ?_⟩
  rintro (haccepted | hcopy | ⟨hthere, -⟩)
  · exact hrefused haccepted
  · exact absurd ((addPdu_reported none).mp hcopy.1) (by decide)
  · exact ((there_remove _ _).mp hthere).2 ⟨rfl, by decide, rfl⟩

end Database
end Ksmppd
