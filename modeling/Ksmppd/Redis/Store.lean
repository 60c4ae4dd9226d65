import Ksmppd.Database.Model
import Ksmppd.Lib.Loop
import Ksmppd.Redis.Message

/-!
# Store — message stores as Redis lists

`smpp_database_redis_get_stored` pops entries in batches and claims those that match; the others go
back with `LPUSH`.  A claimed entry is kept in `pending_msg`, under its `global_id` alone, until
`smpp_database_redis_remove` drops it or pushes its text back.
-/

namespace Ksmppd
namespace Redis

open Lib
open Database (StoreSettings StoreKind StoredMsg smppDatabaseStoreTableName getStoredTable
  smppRedisStoreMatches effectiveLimit)

/-! ## URL decoding -/

/-- `smpp_db_hex_nibble`. -/
def smppDbHexNibble (c : UInt8) : Option UInt8 :=
  if 48 ≤ c ∧ c ≤ 57 then some (c - 48)
  else if 65 ≤ c ∧ c ≤ 70 then some (c - 65 + 10)
  else if 97 ≤ c ∧ c ≤ 102 then some (c - 97 + 10)
  else none

/-- The octets of a text that is nothing but triples of a percent sign and two digits. -/
def decodeTriples : Octstr → Option Octstr
  | [] => some []
  | p :: hi :: lo :: rest =>
      if p = percent then
        match smppDbHexNibble hi, smppDbHexNibble lo with
        | some h, some l => (decodeTriples rest).map (fun os => (16 * h + l) :: os)
        | _, _ => none
      else none
  | _ => none

/-- `smpp_db_url_decode_octstr`: a text that is not encoded throughout is taken as it is. -/
def smppDbUrlDecodeOctstr (os : Octstr) : Octstr := (decodeTriples os).getD os

/-! ## Reading JSON -/

/-- The value of a member; what is inside arrays and objects is never looked at. -/
inductive Json
  | null
  | integer (n : Int)
  /-- A real number, after the cast to `long`. -/
  | real (n : Int)
  | string (os : Octstr)
  | other
  deriving DecidableEq, Repr

abbrev JsonObject := List (Octstr × Json)

/-- The code around an entry that is not the server's own. -/
structure Parser where
  /-- `json_loads`: the members, if the text is an object; an empty text is none. -/
  jsonLoads : Octstr → Option JsonObject
  jsonLoads_nil : jsonLoads [] = none
  /-- `uuid_parse`. -/
  uuidParse : Octstr → Option Uuid
  /-- The id `msg_create` generates while a text is read. -/
  generated : Octstr → Uuid

/-- `json_object_get`. -/
def jsonObjectGet (root : JsonObject) (key : String) : Option Json := root.lookup (octstrImm key)

/-- `smpp_redis_json_get_long`. -/
def smppRedisJsonGetLong (root : JsonObject) (key : String) : Int :=
  match jsonObjectGet root key with
  | some (.integer n) => n
  | some (.real n) => n
  | some (.string os) => atol os
  | _ => -1

/-- `smpp_redis_json_get_octstr`. -/
def smppRedisJsonGetOctstr (root : JsonObject) (key : String) : Octstr :=
  match jsonObjectGet root key with
  | some (.string os) => os
  | _ => []

/-- The id of a message, where the member is a text that `uuid_parse` takes. -/
def jsonUuid (p : Parser) (root : JsonObject) (key : String) (generated : Uuid) : Uuid :=
  match jsonObjectGet root key with
  | some (.string os) => (p.uuidParse os).getD generated
  | _ => generated

/-- `smpp_redis_json_to_msg` on a fresh message.  A number nobody has set is -1, which is what
`smpp_redis_json_get_long` gives for a member that is missing. -/
def smppRedisJsonToMsg (p : Parser) (root : JsonObject) (generated : Uuid) : Sms where
  sender := some (smppRedisJsonGetOctstr root "sender")
  receiver := some (smppRedisJsonGetOctstr root "receiver")
  udhdata := some (smppDbUrlDecodeOctstr (smppRedisJsonGetOctstr root "udhdata"))
  msgdata := some (smppDbUrlDecodeOctstr (smppRedisJsonGetOctstr root "msgdata"))
  time := smppRedisJsonGetLong root "time"
  smscId := some (smppRedisJsonGetOctstr root "smsc_id")
  smscNumber := some (smppRedisJsonGetOctstr root "smsc_number")
  foreignId := some (smppRedisJsonGetOctstr root "foreign_id")
  service := some (smppRedisJsonGetOctstr root "service")
  account := some (smppRedisJsonGetOctstr root "account")
  id := jsonUuid p root "id" generated
  smsType := smppRedisJsonGetLong root "sms_type"
  mclass := smppRedisJsonGetLong root "mclass"
  mwi := smppRedisJsonGetLong root "mwi"
  coding := smppRedisJsonGetLong root "coding"
  compress := smppRedisJsonGetLong root "compress"
  validity := smppRedisJsonGetLong root "validity"
  deferred := smppRedisJsonGetLong root "deferred"
  dlrMask := smppRedisJsonGetLong root "dlr_mask"
  dlrUrl := some (smppRedisJsonGetOctstr root "dlr_url")
  pid := smppRedisJsonGetLong root "pid"
  altDcs := smppRedisJsonGetLong root "alt_dcs"
  rpi := smppRedisJsonGetLong root "rpi"
  charset := some (smppRedisJsonGetOctstr root "charset")
  boxcId := some (smppRedisJsonGetOctstr root "boxc_id")
  binfo := some (smppRedisJsonGetOctstr root "binfo")
  msgLeft := smppRedisJsonGetLong root "msg_left"
  priority := smppRedisJsonGetLong root "priority"
  resendTry := smppRedisJsonGetLong root "resend_try"
  resendTime := smppRedisJsonGetLong root "resend_time"
  metaData := some (smppRedisJsonGetOctstr root "meta_data")

/-- The message an entry of a store list holds; `unsigned long` takes its number modulo 2^64. -/
def storedMsg (p : Parser) (storeTable jsonstr : Octstr) : Option StoredMsg :=
  (p.jsonLoads jsonstr).map (fun root =>
    { storeTable := storeTable
      globalId := (smppRedisJsonGetLong root "global_id" % 2 ^ 64).toNat
      msg := smppRedisJsonToMsg p root (p.generated jsonstr) })

/-! ## Stores -/

/-- `SMPPRedisPendingEntry`, with the number it is kept under. -/
structure RedisPendingEntry where
  globalId : Nat
  json : Octstr
  listKey : Octstr
  storeTable : Octstr
  service : Option Octstr
  smsType : Int
  deriving DecidableEq, Repr

structure RedisStore where
  lists : RedisLists
  /-- The counters behind `INCR`. -/
  counters : Octstr → Nat
  pendingMsg : Keyed RedisPendingEntry.globalId
  pendingMsgStore : Keyed (Prod.fst : Nat × Octstr → Nat)

/-- A claimed message and the text it was read from. -/
structure Claim where
  json : Octstr
  msg : StoredMsg
  deriving DecidableEq, Repr

def Claim.listKey (c : Claim) : Octstr := smppRedisStoreQueueKeyFor c.msg.storeTable

/-- The entry `smpp_redis_claim_store_message` keeps. -/
def Claim.entry (c : Claim) : RedisPendingEntry where
  globalId := c.msg.globalId
  json := c.json
  listKey := c.listKey
  storeTable := c.msg.storeTable
  service := c.msg.msg.service
  smsType := c.msg.msg.smsType

/-- What a caller of `get_stored` asks for. -/
structure Request where
  storeTable : Octstr
  smsType : Int
  service : Option Octstr
  deriving DecidableEq, Repr

def Request.listKey (r : Request) : Octstr := smppRedisStoreQueueKeyFor r.storeTable

/-- How the entry under this text matches a request, if it does. -/
def Request.matches? (p : Parser) (r : Request) (jsonstr : Octstr) : Option Claim :=
  match storedMsg p r.storeTable jsonstr with
  | some m =>
      if smppRedisStoreMatches m r.smsType r.service then some { json := jsonstr, msg := m }
      else none
  | none => none

/-- How a payload is pushed onto a list. -/
abbrev Push := RedisLists → Octstr → Octstr → RedisLists

/-- `LPUSH` as a list operation. -/
def lpush : Push := fun lists key payload =>
  Function.update lists key (payload :: lists key)

/-! ## Claiming -/

/-- How far `smpp_database_redis_get_stored` has come. -/
structure Progress where
  store : RedisStore
  claims : List Claim
  emptyBatches : Nat

def RedisStore.claim (s : RedisStore) (c : Claim) : RedisStore :=
  { s with
    pendingMsg := s.pendingMsg.put c.entry
    pendingMsgStore := s.pendingMsgStore.put (c.msg.globalId, c.msg.storeTable) }

/-- `smpp_redis_claim_store_message` on a popped entry, which goes back if it is not claimed. -/
def Progress.take (p : Parser) (push : Push) (r : Request) (g : Progress) (jsonstr : Octstr) :
    Progress :=
  match r.matches? p jsonstr with
  | some c => { g with store := g.store.claim c, claims := g.claims ++ [c] }
  | none => { g with store := { g.store with lists := push g.store.lists r.listKey jsonstr } }

def Progress.pop (g : Progress) (r : Request) (count : Nat) : Progress :=
  { g with store := { g.store with
      lists := Function.update g.store.lists r.listKey ((g.store.lists r.listKey).drop count) } }

/-- One round of the loop of `smpp_database_redis_get_stored`; `none` where it ends. -/
def getStoredRound (p : Parser) (push : Push) (r : Request) (limit : Nat) (g : Progress) :
    Option Progress :=
  if g.claims.length < limit ∧ g.emptyBatches < 32 then
    let count := limit - g.claims.length
    match redisPop g.store.lists r.listKey count with
    | [] => none
    | item :: items =>
        let g' := (item :: items).foldl (Progress.take p push r) (g.pop r count)
        some { g' with
          emptyBatches := if g'.claims.length = g.claims.length then g.emptyBatches + 1 else 0 }
  else none

/-- As many rounds as the loop can make with a limit. -/
def roundsFor (limit : Nat) : Nat := 33 * limit + 32

/-- `smpp_database_redis_get_stored` for a store table; `none` if its loop had not ended. -/
def smppDatabaseRedisGetStored (p : Parser) (push : Push) (s : RedisStore) (r : Request)
    (limit : Nat) : Option (RedisStore × List Claim) :=
  (loop (getStoredRound p push r (effectiveLimit limit)) (roundsFor (effectiveLimit limit))
    { store := s, claims := [], emptyBatches := 0 }).map (fun g => (g.store, g.claims))

/-! ## Adding and removing -/

def RedisStore.release (s : RedisStore) (globalId : Nat) : RedisStore :=
  { s with
    pendingMsg := s.pendingMsg.remove globalId
    pendingMsgStore := s.pendingMsgStore.remove globalId }

/-- `smpp_database_redis_remove`, and the entry it has found. -/
def smppDatabaseRedisRemove (push : Push) (s : RedisStore) (globalId : Nat) (temporary : Bool) :
    RedisStore × Option RedisPendingEntry :=
  match s.pendingMsg.find? globalId with
  | none => (s, none)
  | some entry =>
      let lists := if temporary then push s.lists entry.listKey entry.json else s.lists
      ({ s with lists := lists }.release globalId, some entry)

/-- `smpp_redis_store_id_key_for`. -/
def smppRedisStoreIdKeyFor (storeTable : Octstr) : Octstr := storeTable ++ octstrImm ":id"

/-- `smpp_database_redis_add_message`. -/
def smppDatabaseRedisAddMessage (j : Jansson) (push : Push) (settings : StoreSettings)
    (s : RedisStore) (kind : StoreKind) (m : Sms) : RedisStore :=
  let storeTable := smppDatabaseStoreTableName settings kind
  let idKey := smppRedisStoreIdKeyFor storeTable
  let globalId := s.counters idKey + 1
  { s with
    counters := Function.update s.counters idKey globalId
    lists := push s.lists (smppRedisStoreQueueKeyFor storeTable) (addMessageJson j globalId m) }

end Redis
end Ksmppd
