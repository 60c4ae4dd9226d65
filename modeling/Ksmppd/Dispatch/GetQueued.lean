import Ksmppd.Database.Requeue
import Ksmppd.Receipts.External
import Ksmppd.Redis.PduStore
import Ksmppd.Redis.Removal

/-!
# GetQueued — what the requeue thread fetches for the sessions with room

`smpp_esme_global_get_queued` goes through the readers and hands the free window of each down
through three fetchers: refused PDUs, then DLRs, then stored reports.  What a fetcher gives is
subtracted before the next one is asked.  Rows are listed here in the order in which the database
gives them.
-/

namespace Ksmppd
namespace Dispatch

open Lib
open Database (HandoutState DlrRow StoreSettings StoredMsg StoreKind StoreState BuiltFrom Source
  getStoredTable smppDatabaseBatchLimit)
open Redis (RedisStore PduSettings Claim JsonObject smppRedisJsonGetLong smppRedisLpush
  smppRedisPduListKey redisPop lpopCount requestFor)
open Receipts (MsgKannel DlrContext DlrRecord DeliverSmPdu smppPduMsgToPdu redisDlrRecord)

/-! ## Data -/

/-- The code around the fetchers that is not the server's own, and what the database answers. -/
structure QueueEnv where
  kannel : MsgKannel
  dlrContext : DlrContext
  pduSettings : PduSettings
  catenatedSmsCounter : Nat
  /-- Whether a statement that removes a refused row succeeds. -/
  removed : Nat → Bool
  /-- What is read of the number of a message that is destroyed already. -/
  freed : Nat → Nat

/-- The lists of Redis with the settings their keys are made of. -/
structure RedisQueues where
  settings : StoreSettings
  databaseDlrTable : Option Octstr
  store : RedisStore

inductive QueueStore
  | mysql (s : HandoutState)
  | redis (s : RedisQueues)

/-- `SMPPDatabaseMsg`, as far as it is read. -/
structure SmppDatabaseMsg where
  globalId : Nat
  msg : Sms
  deriving DecidableEq, Repr

/-! ## The fetchers on tables -/

/-- The rows of the PDU table that wait for a service. -/
def waitingPduRows (s : HandoutState) (service : Option Octstr) : List Delivery.StoredPdu :=
  s.pdus.rows.entries.filter (fun row => !s.pdus.pendingPdu.contains row.globalId &&
    s.store.settings.sameService (some row.systemId) service)

/-- The PDU `smpp_database_mysql_get_stored_pdu` makes of a row. -/
def storedRowPdu (service : Option Octstr) (row : Delivery.StoredPdu) : SmppQueuedPdu :=
  { smppQueuedPduCreate with
    bearerboxId := some row.globalId
    callback := some .mysqlQueuedPdu
    systemId := service
    pdu := some (.deliverSm row.pdu)
    smppServer := true }

/-- `smpp_database_mysql_get_stored_pdu`. -/
def mysqlGetStoredPdu (s : HandoutState) (service : Option Octstr) (limit : Int) :
    HandoutState × List SmppQueuedPdu :=
  let rows := (waitingPduRows s service).take limit.toNat
  let globalIds := rows.map Delivery.StoredPdu.globalId
  ({ s with
      pdus := globalIds.foldl (fun pdus globalId => pdus.take .mysql globalId) s.pdus
      outPdus := s.outPdus ++ globalIds },
    rows.map (storedRowPdu service))

/-- The rows of the DLR table that wait for a service. -/
def waitingDlrRows (s : HandoutState) (service : Option Octstr) : List DlrRow :=
  if octstrLen s.databaseDlrTable = 0 then []
  else s.dlrs.entries.filter (s.selectsDlr service)

/-- The columns of a row, as `get_dlrs` reads them. -/
def dlrRowRecord (row : DlrRow) : DlrRecord where
  messageId := row.messageId
  status := row.status
  errCode := row.errCode
  submitDate := row.submitDate
  doneDate := row.doneDate
  destinationAddr := row.destinationAddr
  sourceAddr := row.sourceAddr
  smscId := row.smscId
  text := row.text

/-- `if(!limit) limit = SMPP_DATABASE_BATCH_LIMIT`; a statement with a negative limit fails. -/
def batchLimit (limit : Int) : Nat := if limit = 0 then smppDatabaseBatchLimit else limit.toNat

def dlrRowMsg (env : QueueEnv) (service : Option Octstr) (row : DlrRow) : SmppDatabaseMsg where
  globalId := row.globalId
  msg := (dlrRowRecord row).toMsg env.dlrContext (service.getD [])

/-- `smpp_database_mysql_get_dlrs`; nothing marks the rows it has given. -/
def mysqlGetDlrs (env : QueueEnv) (s : HandoutState) (service : Option Octstr) (limit : Int) :
    HandoutState × List SmppDatabaseMsg :=
  let rows := (waitingDlrRows s service).take (batchLimit limit)
  ({ s with outDlrs := s.outDlrs ++ rows.map DlrRow.globalId },
    rows.map (dlrRowMsg env service))

/-- The rows of the store table that wait for a service. -/
def waitingStoredRows (s : HandoutState) (smsType : Int) (service : Option Octstr) :
    List StoredMsg :=
  (s.store.stores (getStoredTable s.store.settings smsType .auto)).filter
    (s.store.selects smsType service .auto)

/-- The message of a row or an entry of a store. -/
def storedMsgMsg (m : StoredMsg) : SmppDatabaseMsg where
  globalId := m.globalId
  msg := m.msg

/-- `smpp_database_mysql_get_stored`. -/
def mysqlGetStored (s : HandoutState) (smsType : Int) (service : Option Octstr) (_limit : Int) :
    HandoutState × List SmppDatabaseMsg :=
  -- `LIMIT` is followed by the limit of a batch, whatever limit the caller gives
  let rows := (waitingStoredRows s smsType service).take smppDatabaseBatchLimit
  ({ s with
      store := rows.foldl StoreState.claim s.store
      outMsgs := s.outMsgs ++ rows },
    rows.map storedMsgMsg)

/-! ## The fetchers on lists -/

def RedisQueues.setLists (s : RedisQueues) (key : Octstr) (items : List Octstr) : RedisQueues :=
  { s with store := { s.store with lists := Function.update s.store.lists key items } }

/-- `smpp_redis_lpop_json_batch`, with what it leaves. -/
def RedisQueues.pop (s : RedisQueues) (key : Octstr) (limit : Int) : RedisQueues × List Octstr :=
  (s.setLists key ((s.store.lists key).drop (lpopCount limit)),
    redisPop s.store.lists key (lpopCount limit))

/-- `smpp_database_redis_get_stored_pdu`. -/
def redisGetStoredPdu (env : QueueEnv) (s : RedisQueues) (service : Option Octstr) (limit : Int) :
    RedisQueues × List SmppQueuedPdu :=
  let (t, items) := s.pop (smppRedisPduListKey env.pduSettings service) limit
  (t, items.filterMap (Redis.storedPdu env.pduSettings service))

/-- `smpp_redis_dlr_list_key`. -/
def smppRedisDlrListKey (s : RedisQueues) (service : Option Octstr) : Octstr :=
  s.databaseDlrTable.getD [] ++ octstrImm ":" ++ Database.smppRedisNormService service

/-- The report `smpp_database_redis_get_dlrs` makes of an entry.  An entry that is no object is
dropped. -/
def dlrEntryMsg (env : QueueEnv) (service : Option Octstr) (jsonstr : Octstr) :
    Option SmppDatabaseMsg :=
  (env.pduSettings.parser.jsonLoads jsonstr).map (fun root =>
    { globalId := (smppRedisJsonGetLong root "global_id" % 2 ^ 64).toNat
      msg := (redisDlrRecord root).toMsg env.dlrContext (service.getD []) })

/-- `smpp_database_redis_get_dlrs`. -/
def redisGetDlrs (env : QueueEnv) (s : RedisQueues) (service : Option Octstr) (limit : Int) :
    RedisQueues × List SmppDatabaseMsg :=
  if octstrLen s.databaseDlrTable = 0 then (s, [])
  else
    let (t, items) := s.pop (smppRedisDlrListKey s service) limit
    (t, items.filterMap (dlrEntryMsg env service))

/-- `smpp_database_redis_get_stored`; its loop ends. -/
def redisGetStored (env : QueueEnv) (s : RedisQueues) (smsType : Int) (service : Option Octstr)
    (limit : Int) : RedisQueues × List SmppDatabaseMsg :=
  -- `picked < limit` fails at once
  if limit < 0 then (s, [])
  else
    match Redis.smppDatabaseRedisGetStored env.pduSettings.parser smppRedisLpush s.store
        (requestFor s.settings smsType service .auto) limit.toNat with
    | none => (s, [])
    | some (store, claims) => ({ s with store := store }, claims.map (fun c => storedMsgMsg c.msg))

/-! ## Either backend -/

/-- `smpp_database_get_stored_pdu`. -/
def smppDatabaseGetStoredPdu (env : QueueEnv) (s : QueueStore) (service : Option Octstr)
    (limit : Int) : QueueStore × List SmppQueuedPdu :=
  match s with
  | .mysql s => (mysqlGetStoredPdu s service limit).map .mysql id
  | .redis s => (redisGetStoredPdu env s service limit).map .redis id

/-- `smpp_database_get_dlrs`. -/
def smppDatabaseGetDlrs (env : QueueEnv) (s : QueueStore) (service : Option Octstr) (limit : Int) :
    QueueStore × List SmppDatabaseMsg :=
  match s with
  | .mysql s => (mysqlGetDlrs env s service limit).map .mysql id
  | .redis s => (redisGetDlrs env s service limit).map .redis id

/-- `smpp_database_get_stored`. -/
def smppDatabaseGetStored (env : QueueEnv) (s : QueueStore) (smsType : Int)
    (service : Option Octstr) (limit : Int) : QueueStore × List SmppDatabaseMsg :=
  match s with
  | .mysql s => (mysqlGetStored s smsType service limit).map .mysql id
  | .redis s => (redisGetStored env s smsType service limit).map .redis id

/-- `smpp_database_remove_dlr` or `smpp_database_remove` of a row whose message is refused. -/
def removeRefused (env : QueueEnv) (fromDlrTable : Bool) (globalId : Nat) :
    QueueStore → QueueStore
  | .mysql s =>
      .mysql (if fromDlrTable then
          Database.smppDatabaseMysqlRemoveDlr s globalId (env.removed globalId)
        else { s with
          store := Database.smppDatabaseMysqlRemove s.store globalId false (env.removed globalId)
          outMsgs := s.outMsgs.filter (fun m => m.globalId ≠ globalId) })
  | .redis s =>
      -- a DLR was popped when it was fetched
      .redis (if fromDlrTable then s
        else { s with
          store := (Redis.smppDatabaseRedisRemove smppRedisLpush s.store globalId false).1 })

/-! ## The readers -/

/-- What the fetchers give for one session. -/
structure Fetched where
  esmeQueue : List SmppQueuedPdu
  dlrQueue : List SmppDatabaseMsg
  msgQueue : List SmppDatabaseMsg

/-- The three fetchers, each with the limit that is left for it. -/
def fetchQueues (env : QueueEnv) (s : QueueStore) (e : SmppEsme) : QueueStore × Fetched :=
  if e.window > 0 then
    let (s, esmeQueue) := smppDatabaseGetStoredPdu env s e.systemId e.window
    let limit := e.window - esmeQueue.length
    if limit > 0 then
      -- DLRs come before reports; those that are refused later count here all the same
      let (s, dlrQueue) := smppDatabaseGetDlrs env s e.systemId limit
      let (s, msgQueue) := smppDatabaseGetStored env s smsTypeReportMo e.systemId
        (limit - dlrQueue.length)
      (s, { esmeQueue := esmeQueue, dlrQueue := dlrQueue, msgQueue := msgQueue })
    else (s, { esmeQueue := esmeQueue, dlrQueue := [], msgQueue := [] })
  -- a reader has room, so that this is no turn of one
  else (s, { esmeQueue := [], dlrQueue := [], msgQueue := [] })

/-- A part of a message, as it is queued. -/
def queuedPart (e : SmppEsme) (fromDlrTable : Bool) (globalId : Nat) (p : DeliverSmPdu) :
    SmppQueuedPdu :=
  { smppQueuedPduCreate with
    pdu := some (.deliverSm p.toDeliverSm)
    smppServer := true
    sequence := globalId
    fromDlrTable := fromDlrTable
    systemId := e.systemId
    bearerboxId := some (octstrFormatLong globalId)
    smppEsme := some e.id
    callback := some .dbQueue }

/-- The loop over `dlr_queue` or `msg_queue`. -/
def queueMsgs (env : QueueEnv) (e : SmppEsme) (fromDlrTable : Bool) :
    QueueStore → List SmppDatabaseMsg → Option (QueueStore × List SmppQueuedPdu)
  | s, [] => some (s, [])
  | s, m :: ms =>
      match smppPduMsgToPdu env.kannel e env.catenatedSmsCounter m.msg with
      | .crash => none
      | .refused =>
          -- the message is destroyed before its number is read
          queueMsgs env e fromDlrTable (removeRefused env fromDlrTable (env.freed m.globalId) s) ms
      | .pdus ps =>
          -- every part keeps the number of the row
          (queueMsgs env e fromDlrTable s ms).map (fun (t, qs) =>
            (t, ps.map (queuedPart e fromDlrTable m.globalId) ++ qs))

/-- One session's turn: the store before it, what is fetched, and what is queued. -/
structure Turn where
  before : QueueStore
  esme : SmppEsme
  fetched : Fetched
  queued : List SmppQueuedPdu

/-- A turn, and the store after it; `none` is a crash. -/
def getQueuedFor (env : QueueEnv) (s : QueueStore) (e : SmppEsme) : Option (QueueStore × Turn) :=
  let (t, fetched) := fetchQueues env s e
  (queueMsgs env e true t fetched.dlrQueue).bind (fun (t, dlrs) =>
    (queueMsgs env e false t fetched.msgQueue).map (fun (t, msgs) =>
      (t, { before := s, esme := e, fetched := fetched,
            queued := fetched.esmeQueue ++ dlrs ++ msgs })))

/-- The turns of all readers. -/
def getQueuedTurns (env : QueueEnv) : QueueStore → List SmppEsme → Option (QueueStore × List Turn)
  | s, [] => some (s, [])
  | s, e :: es =>
      (getQueuedFor env s e).bind (fun (t, turn) =>
        (getQueuedTurns env t es).map (fun (t, turns) => (t, turn :: turns)))

/-- `smpp_esme_global_get_queued`, where the database lists these accounts. -/
def smppEsmeGlobalGetQueued (env : QueueEnv) (smppServer : SmppServer) (data : SmppEsmeData)
    (esmesWithQueued : List Octstr) (s : QueueStore) : Option (QueueStore × List SmppQueuedPdu) :=
  (getQueuedTurns env s (smppEsmeGlobalGetReaders smppServer data esmesWithQueued true)).map
    (fun (t, turns) => (t, turns.flatMap Turn.queued))

/-! ## The statements behind the fetchers -/

section

variable {s : HandoutState} {service : Option Octstr}

/-- On tables a fetcher makes its query with the rows that wait, as many as it takes. -/
theorem mysqlGetStored_query (hrows : (s.store.stores
      (getStoredTable s.store.settings smsTypeReportMo .auto)).Nodup) (limit : Int) :
    Database.smppDatabaseMysqlGetStored s.store smsTypeReportMo service .auto
        ((waitingStoredRows s smsTypeReportMo service).take smppDatabaseBatchLimit) =
      some ((mysqlGetStored s smsTypeReportMo service limit).1.store,
        (waitingStoredRows s smsTypeReportMo service).take smppDatabaseBatchLimit) := by
  have hquery : ((waitingStoredRows s smsTypeReportMo service).take
        smppDatabaseBatchLimit).Nodup ∧
      ((waitingStoredRows s smsTypeReportMo service).take smppDatabaseBatchLimit).length ≤
        smppDatabaseBatchLimit ∧
      ∀ m ∈ (waitingStoredRows s smsTypeReportMo service).take smppDatabaseBatchLimit,
        m ∈ s.store.stores (getStoredTable s.store.settings smsTypeReportMo .auto) ∧
          s.store.selects smsTypeReportMo service .auto m = true := by
    refine ⟨?_, List.length_take_le _ _, ?_⟩
    · exact (hrows.sublist List.filter_sublist).sublist (List.take_sublist _ _)
    · intro m hm
      exact List.mem_filter.mp (List.mem_of_mem_take hm)
  simp only [Database.smppDatabaseMysqlGetStored, if_pos hquery, mysqlGetStored]

theorem mysqlGetDlrs_query (env : QueueEnv) {limit : Int} (hlimit : 0 ≤ limit) :
    Database.smppDatabaseMysqlGetDlrs s service limit.toNat
        ((waitingDlrRows s service).take (batchLimit limit)) =
      some (mysqlGetDlrs env s service limit).1 := by
  by_cases htable : octstrLen s.databaseDlrTable = 0
  · simp [Database.smppDatabaseMysqlGetDlrs, htable, mysqlGetDlrs, waitingDlrRows]
  · have hbatch : batchLimit limit = Database.effectiveLimit limit.toNat := by
      unfold batchLimit Database.effectiveLimit
      by_cases hzero : limit = 0
      · simp [hzero]
      · have hpos : ¬ limit.toNat = 0 := by omega
        simp [hzero, hpos]
    have hquery : ((waitingDlrRows s service).take (batchLimit limit)).Nodup ∧
        ((waitingDlrRows s service).take (batchLimit limit)).length ≤
          Database.effectiveLimit limit.toNat ∧
        ∀ row ∈ (waitingDlrRows s service).take (batchLimit limit),
          row ∈ s.dlrs.entries ∧ s.selectsDlr service row = true := by
      refine ⟨?_, hbatch ▸ List.length_take_le _ _, ?_⟩
      · apply List.Nodup.sublist (List.take_sublist _ _)
        simpa [waitingDlrRows, htable] using
          (List.Nodup.of_map _ s.dlrs.nodup).filter (s.selectsDlr service)
      · intro row hrow
        exact List.mem_filter.mp (by simpa [waitingDlrRows, htable] using List.mem_of_mem_take hrow)
    simp only [Database.smppDatabaseMysqlGetDlrs, if_neg htable, if_pos hquery, mysqlGetDlrs]

theorem mysqlGetStoredPdu_query (systemId : Octstr) (limit : Int) :
    Database.smppDatabaseMysqlGetStoredPdu s systemId limit.toNat
        (((waitingPduRows s (some systemId)).take limit.toNat).map Delivery.StoredPdu.globalId) =
      some (mysqlGetStoredPdu s (some systemId) limit).1 := by
  have hsublist : ((waitingPduRows s (some systemId)).take limit.toNat).Sublist
      s.pdus.rows.entries := (List.take_sublist _ _).trans List.filter_sublist
  have hquery : (((waitingPduRows s (some systemId)).take limit.toNat).map
        Delivery.StoredPdu.globalId).Nodup ∧
      (((waitingPduRows s (some systemId)).take limit.toNat).map
        Delivery.StoredPdu.globalId).length ≤ limit.toNat ∧
      ∀ globalId ∈ ((waitingPduRows s (some systemId)).take limit.toNat).map
          Delivery.StoredPdu.globalId,
        globalId ∉ s.pdus.pendingPdu ∧ ∃ row ∈ s.pdus.rows.entries, row.globalId = globalId ∧
          s.store.settings.sameService (some row.systemId) (some systemId) = true := by
    refine ⟨s.pdus.rows.nodup.sublist (hsublist.map _), by simp, ?_⟩
    intro globalId hid
    rcases List.mem_map.mp hid with ⟨row, hrow, rfl⟩
    have hwaits := (List.mem_filter.mp (List.mem_of_mem_take hrow)).2
    simp only [Bool.and_eq_true, Bool.not_eq_true', List.contains_eq_mem,
      decide_eq_false_iff_not] at hwaits
    exact ⟨hwaits.1, row, hsublist.subset hrow, rfl, hwaits.2⟩
  simp only [Database.smppDatabaseMysqlGetStoredPdu, if_pos hquery, mysqlGetStoredPdu]

end

/-- A part that is queued is one that `smpp_esme_db_queue_callback` can put back. -/
theorem builtFrom_queuedPart (e : SmppEsme) (p : DeliverSmPdu) (globalId : Nat) (m : StoredMsg) :
    BuiltFrom (queuedPart e true globalId p) (.dlr globalId) ∧
      BuiltFrom (queuedPart e false m.globalId p) (.stored m) :=
  ⟨⟨rfl, rfl, ⟨_, rfl⟩, ⟨_, rfl⟩, rfl, rfl⟩, ⟨rfl, rfl, ⟨_, rfl⟩, ⟨_, rfl⟩, rfl, rfl⟩⟩

end Dispatch
end Ksmppd
