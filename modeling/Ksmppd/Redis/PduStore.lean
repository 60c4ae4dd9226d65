import Ksmppd.Redis.Store

/-!
# PduStore — refused PDUs as Redis lists

`smpp_database_redis_add_pdu` keeps a PDU that a session has not accepted as a JSON text in a list
of the session's system id, and enters the system id into a set, the index of the lists that have
entries.  `smpp_database_redis_get_stored_pdu` pops entries of one list and takes the system id out
of the index where it finds the list empty.
-/

namespace Ksmppd
namespace Redis

open Database (smppRedisNormService smppDatabaseBatchLimit)

/-! ## Entries -/

/-- Kannel's packing of PDUs; the system id selects the vendor TLVs. -/
structure PduCodec where
  /-- `smpp_pdu_pack_without_command_length`. -/
  pack : Option Octstr → Option SmppPdu → Octstr
  /-- `smpp_pdu_unpack`. -/
  unpack : Option Octstr → Octstr → Option SmppPdu

/-- The table of refused PDUs, and the code around their entries that is not the server's own. -/
structure PduSettings where
  databasePduTable : Octstr
  jansson : Jansson
  parser : Parser
  codec : PduCodec

/-- The JSON text of a PDU, under the number `INCR` gave. -/
def pduJson (c : PduSettings) (globalId : Nat) (q : SmppQueuedPdu) : Octstr :=
  jsonDumps c.jansson
    ([(octstrImm "global_id", .integer globalId), (octstrImm "time", .integer q.timeSent)] ++
      smppRedisJsonSetStr c.jansson (octstrImm "system_id") q.systemId ++
      smppRedisJsonSetStr c.jansson (octstrImm "pdu")
        (some (smppDbUrlEncodeOctstr (c.codec.pack q.systemId q.pdu))))

/-- The PDU an entry holds.  An entry that is no object is dropped. -/
def storedPdu (c : PduSettings) (service : Option Octstr) (jsonstr : Octstr) :
    Option SmppQueuedPdu :=
  (c.parser.jsonLoads jsonstr).map (fun root =>
    { smppQueuedPduCreate with
      bearerboxId := some (octstrFormatLong (smppRedisJsonGetLong root "global_id"))
      callback := some .redisQueuedPdu
      systemId := service
      timeSent := smppRedisJsonGetLong root "time"
      pdu := c.codec.unpack service (smppDbUrlDecodeOctstr (smppRedisJsonGetOctstr root "pdu"))
      smppServer := true })

/-! ## Keys -/

/-- `smpp_redis_pdu_list_key`. -/
def smppRedisPduListKey (c : PduSettings) (systemId : Option Octstr) : Octstr :=
  c.databasePduTable ++ octstrImm ":" ++ smppRedisNormService systemId

/-- `smpp_redis_pdu_esmes_key`. -/
def smppRedisPduEsmesKey (c : PduSettings) : Octstr := c.databasePduTable ++ octstrImm ":esmes"

/-- `smpp_redis_pdu_id_key`. -/
def smppRedisPduIdKey (c : PduSettings) : Octstr := c.databasePduTable ++ octstrImm ":id"

/-- Services have the same list exactly if they have the same member of the index. -/
theorem smppRedisPduListKey_inj {c : PduSettings} {a b : Option Octstr} :
    smppRedisPduListKey c a = smppRedisPduListKey c b ↔
      smppRedisNormService a = smppRedisNormService b := by
  simp [smppRedisPduListKey]

/-! ## What Redis holds -/

/-- Lists, sets and counters, each under its key. -/
structure RedisKeys where
  lists : RedisLists
  sets : Octstr → List Octstr
  counters : Octstr → Nat

/-- `INCR`. -/
def RedisKeys.incr (r : RedisKeys) (key : Octstr) : RedisKeys :=
  { r with counters := Function.update r.counters key (r.counters key + 1) }

/-- `LPUSH` of one payload. -/
def RedisKeys.lpush (r : RedisKeys) (key payload : Octstr) : RedisKeys :=
  { r with lists := Redis.lpush r.lists key payload }

/-- `LPOP` with a count; its reply is `redisPop r.lists key count`. -/
def RedisKeys.lpop (r : RedisKeys) (key : Octstr) (count : Nat) : RedisKeys :=
  { r with lists := Function.update r.lists key ((r.lists key).drop count) }

/-- `SADD`. -/
def RedisKeys.sadd (r : RedisKeys) (key member : Octstr) : RedisKeys :=
  { r with sets := Function.update r.sets key ((r.sets key).insert member) }

/-- `SREM`. -/
def RedisKeys.srem (r : RedisKeys) (key member : Octstr) : RedisKeys :=
  { r with sets := Function.update r.sets key ((r.sets key).filter (fun m => m ≠ member)) }

section

variable {r : RedisKeys} {key key' payload member member' : Octstr}

@[simp] theorem RedisKeys.sets_incr : (r.incr key).sets = r.sets := rfl
@[simp] theorem RedisKeys.lists_incr : (r.incr key).lists = r.lists := rfl
@[simp] theorem RedisKeys.sets_lpush : (r.lpush key payload).sets = r.sets := rfl
@[simp] theorem RedisKeys.sets_lpop {count : Nat} : (r.lpop key count).sets = r.sets := rfl
@[simp] theorem RedisKeys.lists_sadd : (r.sadd key member).lists = r.lists := rfl
@[simp] theorem RedisKeys.lists_srem : (r.srem key member).lists = r.lists := rfl

/-- A push leaves all other lists as they are. -/
theorem RedisKeys.lists_lpush_of_ne (h : key' ≠ key) :
    (r.lpush key payload).lists key' = r.lists key' :=
  Function.update_of_ne h _ _

/-- A list that has entries after a pop had some before. -/
theorem RedisKeys.lists_of_lpop {count : Nat} (h : (r.lpop key count).lists key' ≠ []) :
    r.lists key' ≠ [] := by
  by_cases hkey : key' = key
  · -- a pop adds nothing
    subst hkey
    intro hnil
    exact h (by simp [RedisKeys.lpop, hnil])
  · rwa [show (r.lpop key count).lists key' = r.lists key' from Function.update_of_ne hkey _ _] at h

theorem RedisKeys.mem_sadd : member' ∈ (r.sadd key member).sets key ↔
    member' = member ∨ member' ∈ r.sets key := by
  simp [RedisKeys.sadd]

theorem RedisKeys.mem_srem : member' ∈ (r.srem key member).sets key ↔
    member' ∈ r.sets key ∧ member' ≠ member := by
  simp [RedisKeys.srem]

end

/-! ## Listing the services with entries -/

/-- The settings `get_esmes_with_queued` looks at, besides the table of refused PDUs. -/
structure QueueTables where
  databaseStoreTable : Octstr
  databaseQueueStoreTable : Octstr
  databaseDlrTable : Option Octstr

/-- `smpp_redis_add_store_esmes`. -/
def smppRedisAddStoreEsmes (r : RedisKeys) (storeTable : Octstr) : List Octstr :=
  (r.sets (storeTable ++ octstrImm ":esmes")).filter
    (fun id => octstrToLower id ≠ octstrToLower Database.smppRedisGlobalService)

/-- `smpp_database_redis_get_esmes_with_queued`. -/
def smppDatabaseRedisGetEsmesWithQueued (c : PduSettings) (q : QueueTables) (r : RedisKeys) :
    List Octstr :=
  r.sets (smppRedisPduEsmesKey c) ++ smppRedisAddStoreEsmes r q.databaseStoreTable ++
    -- the store of the bearerbox, if it is another
    (if q.databaseStoreTable ≠ q.databaseQueueStoreTable then
      smppRedisAddStoreEsmes r q.databaseQueueStoreTable
    else []) ++
    (match q.databaseDlrTable with
      | none => []
      | some table => if table = [] then [] else r.sets (table ++ octstrImm ":esmes"))

theorem mem_getEsmesWithQueued {c : PduSettings} {r : RedisKeys} {sid : Octstr}
    (h : sid ∈ r.sets (smppRedisPduEsmesKey c)) (q : QueueTables) :
    sid ∈ smppDatabaseRedisGetEsmesWithQueued c q r := by
  simp [smppDatabaseRedisGetEsmesWithQueued, h]

/-! ## Calls -/

/-- How far `smpp_database_redis_add_pdu` has come. -/
inductive AddPduPhase
  | called
  /-- `INCR` has given the PDU its number. -/
  | numbered (globalId : Nat)
  /-- `LPUSH` has put the text into the list. -/
  | pushed
  | returned
  deriving DecidableEq, Repr

/-- How far `smpp_database_redis_get_stored_pdu` has come. -/
inductive GetStoredPduPhase
  | called
  /-- `LPOP` has given no PDU. -/
  | noMessages
  /-- `LLEN` has given zero. -/
  | listEmpty
  | returned (messages : List SmppQueuedPdu)
  deriving DecidableEq, Repr

inductive PduCall
  | addPdu (q : SmppQueuedPdu) (phase : AddPduPhase)
  | getStoredPdu (service : Option Octstr) (limit : Int) (phase : GetStoredPduPhase)
  deriving DecidableEq, Repr

/-- `if(!limit) limit = SMPP_DATABASE_BATCH_LIMIT`, and the same in `smpp_redis_lpop_json_batch`
for a negative one. -/
def lpopCount (limit : Int) : Nat := if limit ≤ 0 then smppDatabaseBatchLimit else limit.toNat

/-- The next Redis command of a call, and what the call knows after it. -/
def PduCall.command (c : PduSettings) (r : RedisKeys) : PduCall → Option (RedisKeys × PduCall)
  | .addPdu q .called =>
      let r' := r.incr (smppRedisPduIdKey c)
      some (r', .addPdu q (.numbered (r'.counters (smppRedisPduIdKey c))))
  | .addPdu q (.numbered globalId) =>
      some (r.lpush (smppRedisPduListKey c q.systemId) (pduJson c globalId q), .addPdu q .pushed)
  | .addPdu q .pushed =>
      some (r.sadd (smppRedisPduEsmesKey c) (smppRedisNormService q.systemId), .addPdu q .returned)
  | .addPdu _ .returned => none
  | .getStoredPdu service limit .called =>
      let key := smppRedisPduListKey c service
      let messages := (redisPop r.lists key (lpopCount limit)).filterMap (storedPdu c service)
      some (r.lpop key (lpopCount limit),
        .getStoredPdu service limit (if messages = [] then .noMessages else .returned messages))
  | .getStoredPdu service limit .noMessages =>
      some (r, .getStoredPdu service limit
        (if r.lists (smppRedisPduListKey c service) = [] then .listEmpty else .returned []))
  | .getStoredPdu service limit .listEmpty =>
      -- the list may have got entries since `LLEN`
      some (r.srem (smppRedisPduEsmesKey c) (smppRedisNormService service),
        .getStoredPdu service limit (.returned []))
  | .getStoredPdu _ _ (.returned _) => none

end Redis
end Ksmppd
