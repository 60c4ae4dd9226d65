import Mathlib.Logic.Function.Basic
import Ksmppd.Lib.Transition
import Ksmppd.Callbacks

/-!
# Database — the message store behind the bearerboxes

Messages that cannot be sent at once are kept in a table (MySQL) or in a list (Redis).  The
requeue thread claims the MT messages among them and queues each for the bearerboxes with
`smpp_bearerbox_requeue_result` as callback; MO messages and reports are claimed by other threads.
All claims are marked in one `pending_msg`, under the `global_id` of the message.
-/

namespace Ksmppd
namespace Database

open Lib

/-! ## Data -/

/-- `SMPP_DATABASE_STORE_PRIMARY` and its siblings. -/
inductive StoreKind
  | primary
  | bearerboxQueue
  | bearerboxMtDrain
  | auto
  deriving DecidableEq, Repr

structure StoreSettings where
  databaseStorePrimary : Bool
  databaseEnableQueue : Bool
  databaseStoreTable : Octstr
  databaseQueueStoreTable : Option Octstr
  databaseUserTable : Option Octstr
  /-- The column `database_store_primary` of the account of a service: `none` where it is `NULL`
  or there is no account. -/
  accountStorePrimary : Option Octstr → Option Int
  /-- `=` of the database on the column `service`. -/
  sameService : Option Octstr → Option Octstr → Bool

/-- A row of a store table or an entry of a store list: what `SMPPDatabaseMsg` and the pending
entries have of it. -/
structure StoredMsg where
  storeTable : Octstr
  globalId : Nat
  msg : Sms
  deriving DecidableEq, Repr

structure StoreState where
  settings : StoreSettings
  backend : Backend
  /-- The rows of each table, or the entries of its list from the head on. -/
  stores : Octstr → List StoredMsg
  pendingMsg : Keyed StoredMsg.globalId
  pendingMsgStore : Keyed (Prod.fst : Nat × Octstr → Nat)
  /-- The MT messages whose callback has not run. -/
  inFlight : List StoredMsg
  /-- The ids of the messages other threads have claimed. -/
  handed : List Nat
  /-- All messages that were ever stored. -/
  added : List StoredMsg

def smppDatabaseBatchLimit : Nat := 1000

/-- A limit of zero stands for the limit of a batch. -/
def effectiveLimit (limit : Nat) : Nat := if limit = 0 then smppDatabaseBatchLimit else limit

/-! ## Tables -/

def smppDatabaseStoreTableName (c : StoreSettings) (kind : StoreKind) : Octstr :=
  if kind = .bearerboxQueue ∧ octstrLen c.databaseQueueStoreTable ≠ 0 then
    c.databaseQueueStoreTable.getD []
  else c.databaseStoreTable

def smppDatabaseGetStoredTableName (c : StoreSettings) (smsType : Int) : Octstr :=
  if smsType = smsTypeMtPush ∧ !c.databaseStorePrimary then
    smppDatabaseStoreTableName c .bearerboxQueue
  else smppDatabaseStoreTableName c .primary

/-- The table that `get_stored` reads, on either backend. -/
def getStoredTable (c : StoreSettings) (smsType : Int) (kind : StoreKind) : Octstr :=
  let effective :=
    if kind = .bearerboxMtDrain then
      if c.databaseStorePrimary then StoreKind.bearerboxQueue else .auto
    else kind
  if effective = .auto then smppDatabaseGetStoredTableName c smsType
  else smppDatabaseStoreTableName c effective

/-! ## Claims -/

/-- Both pending maps get an entry for the message. -/
def StoreState.claim (s : StoreState) (m : StoredMsg) : StoreState :=
  { s with
    pendingMsg := s.pendingMsg.put m
    pendingMsgStore := s.pendingMsgStore.put (m.globalId, m.storeTable) }

def StoreState.release (s : StoreState) (globalId : Nat) : StoreState :=
  { s with
    pendingMsg := s.pendingMsg.remove globalId
    pendingMsgStore := s.pendingMsgStore.remove globalId }

def StoreState.setStore (s : StoreState) (table : Octstr) (ms : List StoredMsg) : StoreState :=
  { s with stores := Function.update s.stores table ms }

/-! ## MySQL -/

/-- The `WHERE` of the `SELECT` in `smpp_database_mysql_get_stored`. -/
def StoreState.selects (s : StoreState) (smsType : Int) (service : Option Octstr)
    (kind : StoreKind) (m : StoredMsg) : Bool :=
  m.msg.smsType = smsType &&
    (if kind = .bearerboxMtDrain ∧ smsType = smsTypeMtPush ∧ octstrLen service = 0 ∧
        octstrLen s.settings.databaseUserTable ≠ 0 then
      decide ((s.settings.accountStorePrimary m.msg.service).getD
        (if s.settings.databaseStorePrimary then 1 else 0) = 0)
    else octstrLen service = 0 || s.settings.sameService m.msg.service service) &&
      (s.pendingMsg.find? m.globalId).isNone

/-- `smpp_database_mysql_get_stored`, where the query gives these rows.  They are claimed in
order. -/
def smppDatabaseMysqlGetStored (s : StoreState) (smsType : Int) (service : Option Octstr)
    (kind : StoreKind) (rows : List StoredMsg) : Option (StoreState × List StoredMsg) :=
  if rows.Nodup ∧ rows.length ≤ smppDatabaseBatchLimit ∧
      ∀ m ∈ rows, m ∈ s.stores (getStoredTable s.settings smsType kind) ∧
        s.selects smsType service kind m = true then
    some (rows.foldl StoreState.claim s, rows)
  else none

/-- `smpp_database_mysql_remove`; `deleted` is whether the `DELETE` succeeds. -/
def smppDatabaseMysqlRemove (s : StoreState) (globalId : Nat) (temporary deleted : Bool) :
    StoreState :=
  let table := ((s.pendingMsgStore.find? globalId).map Prod.snd).getD s.settings.databaseStoreTable
  let s' :=
    if !temporary && deleted then
      s.setStore table ((s.stores table).filter (fun m => m.globalId ≠ globalId))
    else s
  s'.release globalId

/-! ## Redis -/

def smppRedisGlobalService : Octstr := octstrImm "_global_"

def smppRedisNormService (service : Option Octstr) : Octstr :=
  if octstrLen service = 0 then smppRedisGlobalService
  else octstrToLower (service.getD [])

def smppRedisStoreMatches (m : StoredMsg) (smsType : Int) (serviceFilter : Option Octstr) : Bool :=
  m.msg.smsType = smsType && (octstrLen serviceFilter = 0 ||
    smppRedisNormService serviceFilter = smppRedisNormService m.msg.service)

/-- `smpp_redis_lpush` of an entry, if Redis takes it. -/
def StoreState.lpush (s : StoreState) (m : StoredMsg) (pushed : Bool) : StoreState :=
  if pushed then s.setStore m.storeTable (m :: s.stores m.storeTable) else s

/-- `smpp_redis_claim_store_message` on each popped entry: it is claimed if it matches, and else
pushed back. -/
def claimBatch (s : StoreState) (smsType : Int) (service : Option Octstr)
    (pushed : StoredMsg → Bool) : List StoredMsg → StoreState × List StoredMsg
  | [] => (s, [])
  | m :: ms =>
      if smppRedisStoreMatches m smsType service then
        let (t, picked) := claimBatch (s.claim m) smsType service pushed ms
        (t, m :: picked)
      else claimBatch (s.lpush m (pushed m)) smsType service pushed ms

/-- The loop of `smpp_database_redis_get_stored`, with what was picked and how many batches gave
nothing.  Redis answers `replies` `LPOP`s; without a reply the loop ends. -/
def getStoredLoop (s : StoreState) (table : Octstr) (smsType : Int) (service : Option Octstr)
    (pushed : StoredMsg → Bool) (limit : Nat) : Nat → List StoredMsg → Nat →
      StoreState × List StoredMsg
  | 0, messages, _ => (s, messages)
  | replies + 1, messages, emptyBatches =>
      if messages.length < limit ∧ emptyBatches < 32 then
        let count := limit - messages.length
        match (s.stores table).take count with
        | [] => (s, messages)
        | m :: ms =>
            let popped := s.setStore table ((s.stores table).drop count)
            let (t, picked) := claimBatch popped smsType service pushed (m :: ms)
            getStoredLoop t table smsType service pushed limit replies (messages ++ picked)
              (if picked.length = 0 then emptyBatches + 1 else 0)
      else (s, messages)

/-- `smpp_database_redis_get_stored`. -/
def smppDatabaseRedisGetStored (s : StoreState) (smsType : Int) (service : Option Octstr)
    (limit : Nat) (kind : StoreKind) (replies : Nat) (pushed : StoredMsg → Bool) :
    StoreState × List StoredMsg :=
  getStoredLoop s (getStoredTable s.settings smsType kind) smsType service pushed
    (if limit = 0 then smppDatabaseBatchLimit else limit) replies [] 0

/-- `smpp_database_redis_remove`; `pushed` is whether Redis takes the entry back. -/
def smppDatabaseRedisRemove (s : StoreState) (globalId : Nat) (temporary pushed : Bool) :
    StoreState :=
  match s.pendingMsg.find? globalId with
  | none => s
  | some m => (if temporary then s.lpush m pushed else s).release globalId

/-! ## Either backend -/

/-- What the database answers to a `get_stored`. -/
inductive Answer
  | rows (rows : List StoredMsg)
  | replies (replies : Nat) (pushed : StoredMsg → Bool)

def getStored (s : StoreState) (smsType : Int) (service : Option Octstr) (limit : Nat)
    (kind : StoreKind) (answer : Answer) : Option (StoreState × List StoredMsg) :=
  match s.backend, answer with
  | .mysql, .rows rows => smppDatabaseMysqlGetStored s smsType service kind rows
  | .redis, .replies replies pushed =>
      some (smppDatabaseRedisGetStored s smsType service limit kind replies pushed)
  | _, _ => none

/-- `smpp_database_remove`; `done` is whether the `DELETE` or the `LPUSH` succeeds. -/
def smppDatabaseRemove (s : StoreState) (globalId : Nat) (temporary done : Bool) : StoreState :=
  match s.backend with
  | .mysql => smppDatabaseMysqlRemove s globalId temporary done
  | .redis => smppDatabaseRedisRemove s globalId temporary done

/-! ## The requeue thread -/

/-- What `smpp_bearerbox_requeue_thread` does with a message it has claimed. -/
def requeueMt (s : StoreState) (done : Bool) (m : StoredMsg) : StoreState :=
  if m.msg.smsType = smsTypeMtPush then { s with inFlight := s.inFlight ++ [m] }
  else smppDatabaseRemove s m.globalId false done

/-- `smpp_bearerbox_requeue_result`. -/
def smppBearerboxRequeueResult (s : StoreState) (m : StoredMsg) (status : Int) (done : Bool) :
    StoreState :=
  if status = 0 then smppDatabaseRemove s m.globalId false done
  else if status = smppEsmeRsubmitfail then smppDatabaseRemove s m.globalId false done
  -- 'will attempt later'
  else s

/-! ## Steps -/

inductive Label
  /-- A message is stored; Redis gives it any number, as a failed `INCR` counts as zero. -/
  | add (kind : StoreKind) (globalId : Nat) (msg : Sms)
  /-- The requeue thread claims MT messages and queues them for the bearerboxes. -/
  | drain (answer : Answer) (done : Bool)
  /-- Another thread claims MO messages or reports. -/
  | getStored (smsType : Int) (service : Option Octstr) (limit : Nat) (answer : Answer)
  /-- The callback of an MT message is run. -/
  | result (m : StoredMsg) (status : Int) (done : Bool)
  /-- Another thread removes a message it has claimed. -/
  | remove (globalId : Nat) (temporary done : Bool)

/-- The message `add_message` stores. -/
def newMsg (s : StoreState) (kind : StoreKind) (globalId : Nat) (msg : Sms) : StoredMsg where
  storeTable := smppDatabaseStoreTableName s.settings kind
  globalId := globalId
  msg := msg

def step (s : StoreState) : Label → Option StoreState
  | .add kind globalId msg =>
      let m := newMsg s kind globalId msg
      -- no two messages have the same number and the same UUID
      if m ∈ s.added then none
      else
        match s.backend with
        | .mysql =>
            -- `global_id` is the primary key
            if ∃ row ∈ s.stores m.storeTable, row.globalId = globalId then none
            else some { s.setStore m.storeTable (s.stores m.storeTable ++ [m]) with
              added := m :: s.added }
        | .redis =>
            some { s.lpush m true with added := m :: s.added }
  | .drain answer done =>
      if !s.settings.databaseStorePrimary || s.settings.databaseEnableQueue then
        (getStored s smsTypeMtPush none 0 .bearerboxMtDrain answer).map (fun (t, messages) =>
          messages.foldl (fun t m => requeueMt t done m) t)
      else none
  | .getStored smsType service limit answer =>
      if smsType = smsTypeMo ∨ smsType = smsTypeReportMo then
        (getStored s smsType service limit .auto answer).map (fun (t, messages) =>
          { t with handed := messages.map StoredMsg.globalId ++ t.handed })
      else none
  | .result m status done =>
      if m ∈ s.inFlight then
        some (smppBearerboxRequeueResult { s with inFlight := s.inFlight.erase m } m status done)
      else none
  | .remove globalId temporary done =>
      if globalId ∈ s.handed then some (smppDatabaseRemove s globalId temporary done) else none

def storeInit (settings : StoreSettings) (backend : Backend) : StoreState where
  settings := settings
  backend := backend
  stores := fun _ => []
  pendingMsg := Keyed.empty
  pendingMsgStore := Keyed.empty
  inFlight := []
  handed := []
  added := []

end Database
end Ksmppd
