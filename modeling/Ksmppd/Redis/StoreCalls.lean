import Ksmppd.Lib.Pool
import Ksmppd.Redis.PduStore
import Ksmppd.Redis.Refinement

/-!
# StoreCalls — the message stores under concurrent calls

`smpp_database_redis_add_message`, `smpp_database_redis_get_stored` and `smpp_database_redis_remove`
are called by many threads, and each Redis command and each access to `pending_msg` is one step.
From the `LPOP` of a batch to the last `LPUSH` of its round the entries are in no list: another call
does not find them, but they are not lost.
-/

namespace Ksmppd
namespace Redis

open Lib
open Database (StoreSettings StoreKind smppDatabaseStoreTableName smppRedisNormService
  effectiveLimit)

/-! ## What the calls share -/

/-- The settings of the stores, the code around their entries, and how a payload is pushed. -/
structure StoreContext where
  settings : StoreSettings
  parser : Parser
  jansson : Jansson
  push : Push

def StoreContext.table (c : StoreContext) (kind : StoreKind) : Octstr :=
  smppDatabaseStoreTableName c.settings kind

def StoreContext.queueKey (c : StoreContext) (kind : StoreKind) : Octstr :=
  smppRedisStoreQueueKeyFor (c.table kind)

/-- The payload that stands for a message. -/
def StoreContext.text (c : StoreContext) (globalId : Nat) (m : Sms) : Octstr :=
  addMessageJson c.jansson globalId m

/-- `smpp_redis_store_esmes_key_for`. -/
def smppRedisStoreEsmesKeyFor (storeTable : Octstr) : Octstr := storeTable ++ octstrImm ":esmes"

/-- What Redis holds, and the claimed entries, which the server holds. -/
structure SharedStore where
  keys : RedisKeys
  pendingMsg : Keyed RedisPendingEntry.globalId

/-- `smpp_redis_lpush`. -/
def SharedStore.lpush (s : SharedStore) (push : Push) (listKey payload : Octstr) : SharedStore :=
  { s with keys := { s.keys with lists := push s.keys.lists listKey payload } }

/-- `smpp_redis_track_store_esme`. -/
def SharedStore.trackStoreEsme (s : SharedStore) (storeTable : Octstr) (service : Option Octstr) :
    SharedStore :=
  { s with keys := s.keys.sadd (smppRedisStoreEsmesKeyFor storeTable) (smppRedisNormService service) }

/-! ## Calls -/

/-- How far `smpp_database_redis_add_message` has come. -/
inductive AddMessagePhase
  | called
  /-- `INCR` has given the message its number. -/
  | numbered (globalId : Nat)
  /-- `LPUSH` has put the text into the list. -/
  | pushed (globalId : Nat)
  | returned (globalId : Nat)
  deriving DecidableEq

/-- How far `smpp_database_redis_get_stored` has come. -/
inductive GetStoredPhase
  /-- At the head of its loop. -/
  | round (claims : List Claim) (emptyBatches : Nat)
  /-- With the entries of a batch that are left. -/
  | batch (claims : List Claim) (emptyBatches batchPicked : Nat) (rawItems : List Octstr)
  | returned (claims : List Claim)
  deriving DecidableEq

/-- How far `smpp_database_redis_remove` has come. -/
inductive RemovePhase
  | called
  /-- The entry is out of `pending_msg`, and goes back to its list. -/
  | taken (entry : RedisPendingEntry)
  /-- `LPUSH` has put the text back. -/
  | pushed (entry : RedisPendingEntry)
  /-- It has returned; the text is in its list again. -/
  | restored (entry : RedisPendingEntry)
  /-- It has returned; the text is gone. -/
  | dropped (entry : RedisPendingEntry)
  /-- It has returned, and has found no entry. -/
  | missing
  deriving DecidableEq

inductive StoreCall
  | addMessage (kind : StoreKind) (m : Sms) (phase : AddMessagePhase)
  | getStored (r : Request) (limit : Nat) (phase : GetStoredPhase)
  | remove (globalId : Nat) (temporary : Bool) (phase : RemovePhase)
  deriving DecidableEq

/-- The next step of a call, and what the call knows after it. -/
def StoreCall.command (c : StoreContext) (s : SharedStore) :
    StoreCall → Option (SharedStore × StoreCall)
  | .addMessage kind m .called =>
      let idKey := smppRedisStoreIdKeyFor (c.table kind)
      let keys := s.keys.incr idKey
      some ({ s with keys := keys }, .addMessage kind m (.numbered (keys.counters idKey)))
  | .addMessage kind m (.numbered globalId) =>
      some (s.lpush c.push (c.queueKey kind) (c.text globalId m),
        .addMessage kind m (.pushed globalId))
  | .addMessage kind m (.pushed globalId) =>
      some (s.trackStoreEsme (c.table kind) m.service, .addMessage kind m (.returned globalId))
  | .addMessage _ _ (.returned _) => none
  | .getStored r limit (.round claims emptyBatches) =>
      if claims.length < limit ∧ emptyBatches < 32 then
        match redisPop s.keys.lists r.listKey (limit - claims.length) with
        | [] => some (s, .getStored r limit (.returned claims))
        | item :: items =>
            some ({ s with keys := s.keys.lpop r.listKey (limit - claims.length) },
              .getStored r limit (.batch claims emptyBatches 0 (item :: items)))
      else some (s, .getStored r limit (.returned claims))
  | .getStored r limit (.batch claims emptyBatches batchPicked []) =>
      some (s, .getStored r limit
        (.round claims (if batchPicked = 0 then emptyBatches + 1 else 0)))
  | .getStored r limit (.batch claims emptyBatches batchPicked (item :: items)) =>
      match r.matches? c.parser item with
      | some claim =>
          some ({ s with pendingMsg := s.pendingMsg.put claim.entry },
            .getStored r limit (.batch (claims ++ [claim]) emptyBatches (batchPicked + 1) items))
      | none =>
          some (s.lpush c.push r.listKey item,
            .getStored r limit (.batch claims emptyBatches batchPicked items))
  | .getStored _ _ (.returned _) => none
  | .remove globalId temporary .called =>
      match s.pendingMsg.find? globalId with
      | none => some (s, .remove globalId temporary .missing)
      | some entry =>
          some ({ s with pendingMsg := s.pendingMsg.remove globalId },
            .remove globalId temporary (if temporary then .taken entry else .dropped entry))
  | .remove globalId temporary (.taken entry) =>
      some (s.lpush c.push entry.listKey entry.json, .remove globalId temporary (.pushed entry))
  | .remove globalId temporary (.pushed entry) =>
      some (s.trackStoreEsme entry.storeTable entry.service,
        .remove globalId temporary (.restored entry))
  | .remove _ _ (.restored _) => none
  | .remove _ _ (.dropped _) => none
  | .remove _ _ .missing => none

/-! ## Interleavings -/

inductive StoreArgs
  | addMessage (kind : StoreKind) (m : Sms)
  | getStored (smsType : Int) (service : Option Octstr) (limit : Nat) (kind : StoreKind)
  | remove (globalId : Nat) (temporary : Bool)

def StoreArgs.call (c : StoreContext) : StoreArgs → StoreCall
  | .addMessage kind m => .addMessage kind m .called
  | .getStored smsType service limit kind =>
      .getStored (requestFor c.settings smsType service kind) (effectiveLimit limit) (.round [] 0)
  | .remove globalId temporary => .remove globalId temporary .called

abbrev StorePool := Pool SharedStore StoreCall

def storeStep (c : StoreContext) : StorePool → PoolLabel StoreArgs → Option StorePool :=
  poolStep (fun _ a => some (a.call c)) (StoreCall.command c)

/-- What the next step of a call is to meet, where it is the turn of that call. -/
def Advances (ok : StoreCall → Prop) (q : StorePool) : PoolLabel StoreArgs → Prop
  | .enter _ => True
  | .advance i => ∀ t, q.calls[i]? = some t → ok t

variable {c : StoreContext} {s s' : SharedStore} {t t' : StoreCall} {key listKey payload : Octstr}

theorem Advances.mono {ok ok' : StoreCall → Prop} {q : StorePool} {l : PoolLabel StoreArgs}
    (h : Advances ok q l) (hok : ∀ t, ok t → ok' t) : Advances ok' q l := by
  cases l with
  | enter a => trivial
  | advance i => exact fun t hi => hok t (h t hi)

/-- What a step of a call can be. -/
inductive StoreMove (c : StoreContext) (s : SharedStore) : StoreCall → SharedStore → StoreCall → Prop
  | number {kind : StoreKind} {m : Sms} :
      StoreMove c s (.addMessage kind m .called)
        { s with keys := s.keys.incr (smppRedisStoreIdKeyFor (c.table kind)) }
        (.addMessage kind m
          (.numbered (s.keys.counters (smppRedisStoreIdKeyFor (c.table kind)) + 1)))
  | add {kind : StoreKind} {m : Sms} {globalId : Nat} :
      StoreMove c s (.addMessage kind m (.numbered globalId))
        (s.lpush c.push (c.queueKey kind) (c.text globalId m)) (.addMessage kind m (.pushed globalId))
  | track {kind : StoreKind} {m : Sms} {globalId : Nat} :
      StoreMove c s (.addMessage kind m (.pushed globalId))
        (s.trackStoreEsme (c.table kind) m.service) (.addMessage kind m (.returned globalId))
  | pop {r : Request} {limit emptyBatches : Nat} {claims : List Claim} :
      StoreMove c s (.getStored r limit (.round claims emptyBatches))
        { s with keys := s.keys.lpop r.listKey (limit - claims.length) }
        (.getStored r limit (.batch claims emptyBatches 0
          (redisPop s.keys.lists r.listKey (limit - claims.length))))
  | stop {r : Request} {limit emptyBatches : Nat} {claims : List Claim} :
      StoreMove c s (.getStored r limit (.round claims emptyBatches)) s
        (.getStored r limit (.returned claims))
  | again {r : Request} {limit emptyBatches emptyBatches' batchPicked : Nat}
      {claims : List Claim} :
      StoreMove c s (.getStored r limit (.batch claims emptyBatches batchPicked [])) s
        (.getStored r limit (.round claims emptyBatches'))
  | claim {r : Request} {limit emptyBatches batchPicked : Nat} {claims : List Claim}
      {item : Octstr} {items : List Octstr} {claim : Claim}
      (hmatch : r.matches? c.parser item = some claim) :
      StoreMove c s (.getStored r limit (.batch claims emptyBatches batchPicked (item :: items)))
        { s with pendingMsg := s.pendingMsg.put claim.entry }
        (.getStored r limit (.batch (claims ++ [claim]) emptyBatches (batchPicked + 1) items))
  | back {r : Request} {limit emptyBatches batchPicked : Nat} {claims : List Claim}
      {item : Octstr} {items : List Octstr} :
      StoreMove c s (.getStored r limit (.batch claims emptyBatches batchPicked (item :: items)))
        (s.lpush c.push r.listKey item)
        (.getStored r limit (.batch claims emptyBatches batchPicked items))
  | missing {globalId : Nat} {temporary : Bool} :
      StoreMove c s (.remove globalId temporary .called) s
        (.remove globalId temporary .missing)
  | take {globalId : Nat} {temporary : Bool} {entry : RedisPendingEntry}
      (hfind : s.pendingMsg.find? globalId = some entry) :
      StoreMove c s (.remove globalId temporary .called)
        { s with pendingMsg := s.pendingMsg.remove globalId }
        (.remove globalId temporary (if temporary then .taken entry else .dropped entry))
  | restore {globalId : Nat} {temporary : Bool} {entry : RedisPendingEntry} :
      StoreMove c s (.remove globalId temporary (.taken entry))
        (s.lpush c.push entry.listKey entry.json) (.remove globalId temporary (.pushed entry))
  | retrack {globalId : Nat} {temporary : Bool} {entry : RedisPendingEntry} :
      StoreMove c s (.remove globalId temporary (.pushed entry))
        (s.trackStoreEsme entry.storeTable entry.service)
        (.remove globalId temporary (.restored entry))

theorem storeCommand_move (h : t.command c s = some (s', t')) : StoreMove c s t s' t' := by
  cases t with
  | addMessage kind m phase =>
      cases phase with
      | called =>
          cases h
          have hnext : (s.keys.incr (smppRedisStoreIdKeyFor (c.table kind))).counters
              (smppRedisStoreIdKeyFor (c.table kind)) =
                s.keys.counters (smppRedisStoreIdKeyFor (c.table kind)) + 1 :=
            Function.update_self _ _ _
          rw [hnext]
          exact .number
      | numbered globalId =>
          cases h
          exact .add
      | pushed globalId =>
          cases h
          exact .track
      | returned globalId => cases h
  | getStored r limit phase =>
      cases phase with
      | round claims emptyBatches =>
          simp only [StoreCall.command] at h
          split at h
          · split at h
            · cases h
              exact .stop
            · rename_i item items hitems
              cases h
              rw [← hitems]
              exact .pop
          · cases h
            exact .stop
      | batch claims emptyBatches batchPicked items =>
          cases items with
          | nil =>
              cases h
              exact .again
          | cons item items =>
              simp only [StoreCall.command] at h
              split at h
              · rename_i claim hmatch
                cases h
                exact .claim hmatch
              · cases h
                exact .back
      | returned claims => cases h
  | remove globalId temporary phase =>
      cases phase with
      | called =>
          simp only [StoreCall.command] at h
          split at h
          · cases h
            exact .missing
          · rename_i entry hfind
            cases h
            exact .take hfind
      | taken entry =>
          cases h
          exact .restore
      | pushed entry =>
          cases h
          exact .retrack
      | restored entry => cases h
      | dropped entry => cases h
      | missing => cases h

/-! ## Where a text is -/

/-- Texts of a list that are looked for under a key. -/
def ofList (key listKey : Octstr) (texts : Multiset Octstr) : Multiset Octstr :=
  if listKey = key then texts else 0

theorem ofList_cons (key listKey item : Octstr) (items : List Octstr) :
    ofList key listKey {item} + ofList key listKey items =
      ofList key listKey (item :: items : List Octstr) := by
  unfold ofList
  split
  · rw [← Multiset.cons_coe, Multiset.singleton_add]
  · exact add_zero 0

/-- The texts of a list that a call has taken out and is to put back or to claim. -/
def StoreCall.held (key : Octstr) : StoreCall → Multiset Octstr
  | .getStored r _ (.batch _ _ _ rawItems) => ofList key r.listKey rawItems
  | .remove _ _ (.taken entry) => ofList key entry.listKey {entry.json}
  | _ => 0

/-- The text a call has added to a list. -/
def StoreCall.brought (c : StoreContext) (key : Octstr) : StoreCall → Multiset Octstr
  | .addMessage kind m (.pushed globalId) => ofList key (c.queueKey kind) {c.text globalId m}
  | .addMessage kind m (.returned globalId) => ofList key (c.queueKey kind) {c.text globalId m}
  | _ => 0

/-- The text of a list that a call has removed for good. -/
def StoreCall.dropped (key : Octstr) : StoreCall → Multiset Octstr
  | .remove _ _ (.dropped entry) => ofList key entry.listKey {entry.json}
  | _ => 0

/-- The texts of a list that stand in it, and those that are claimed. -/
def SharedStore.kept (s : SharedStore) (key : Octstr) : Multiset Octstr :=
  (s.keys.lists key : Multiset Octstr) +
    s.pendingMsg.weight (fun entry => ofList key entry.listKey {entry.json})

/-- All texts of a list that are still somewhere. -/
def around (key : Octstr) (q : StorePool) : Multiset Octstr :=
  q.shared.kept key + q.total (StoreCall.held key)

/-! ## What a step does to them -/

/-- Where the next step of a call pushes a text, it is pushed as it is. -/
def StoreCall.PushesWhole (c : StoreContext) : StoreCall → Prop
  | .addMessage kind m (.numbered globalId) =>
      PushedWhole c.push (c.queueKey kind) (c.text globalId m)
  | .getStored r _ (.batch _ _ _ (item :: _)) => PushedWhole c.push r.listKey item
  | .remove _ _ (.taken entry) => PushedWhole c.push entry.listKey entry.json
  | _ => True

/-- Where the next step of a call claims a message, no other is pending under its number. -/
def StoreCall.ClaimsFree (c : StoreContext) (s : SharedStore) : StoreCall → Prop
  | .getStored r _ (.batch _ _ _ (item :: _)) =>
      ∀ claim, r.matches? c.parser item = some claim →
        s.pendingMsg.find? claim.msg.globalId = none
  | _ => True

@[simp] theorem kept_incr (s : SharedStore) (idKey key : Octstr) :
    SharedStore.kept { s with keys := s.keys.incr idKey } key = s.kept key := rfl

@[simp] theorem kept_trackStoreEsme (s : SharedStore) (storeTable : Octstr)
    (service : Option Octstr) (key : Octstr) :
    (s.trackStoreEsme storeTable service).kept key = s.kept key := rfl

theorem kept_lpush (h : PushedWhole c.push listKey payload) (s : SharedStore) (key : Octstr) :
    (s.lpush c.push listKey payload).kept key = s.kept key + ofList key listKey {payload} := by
  have hlists : (s.lpush c.push listKey payload).keys.lists =
      Redis.lpush s.keys.lists listKey payload := h s.keys.lists
  unfold SharedStore.kept ofList
  rw [hlists]
  by_cases hkey : listKey = key
  · subst hkey
    simp only [Redis.lpush, Function.update_self, if_true, ← Multiset.cons_coe,
      ← Multiset.singleton_add]
    simp only [SharedStore.lpush]
    abel
  · simp [Redis.lpush, Function.update_of_ne (Ne.symm hkey), hkey, SharedStore.lpush]

theorem kept_lpop (s : SharedStore) (listKey key : Octstr) (count : Nat) :
    SharedStore.kept { s with keys := s.keys.lpop listKey count } key +
        ofList key listKey (redisPop s.keys.lists listKey count : List Octstr) =
      s.kept key := by
  unfold SharedStore.kept ofList
  by_cases hkey : listKey = key
  · subst hkey
    have hsplit : (s.keys.lists listKey : Multiset Octstr) =
        ((s.keys.lists listKey).take count : List Octstr) +
          ((s.keys.lists listKey).drop count : List Octstr) := by
      rw [Multiset.coe_add, List.take_append_drop]
    simp only [RedisKeys.lpop, Function.update_self, if_true, redisPop]
    rw [hsplit]
    abel
  · simp [RedisKeys.lpop, Function.update_of_ne (Ne.symm hkey), hkey]

theorem kept_remove_pending {globalId : Nat} {entry : RedisPendingEntry}
    (h : s.pendingMsg.find? globalId = some entry) (key : Octstr) :
    SharedStore.kept { s with pendingMsg := s.pendingMsg.remove globalId } key +
        ofList key entry.listKey {entry.json} = s.kept key := by
  have hweight := Keyed.weight_remove
    (fun entry : RedisPendingEntry => ofList key entry.listKey {entry.json}) h
  unfold SharedStore.kept
  rw [add_assoc, hweight]

/-- Claiming under a number that is taken loses the text that is pending under it. -/
theorem kept_claim (claim : Claim) (s : SharedStore) (key : Octstr) :
    ∃ lost : Multiset Octstr,
      SharedStore.kept { s with pendingMsg := s.pendingMsg.put claim.entry } key + lost =
        s.kept key + ofList key claim.listKey {claim.json} ∧
      (s.pendingMsg.find? claim.msg.globalId = none → lost = 0) := by
  have hput := Keyed.weight_put
    (fun entry : RedisPendingEntry => ofList key entry.listKey {entry.json}) s.pendingMsg claim.entry
  have hentry : claim.entry.globalId = claim.msg.globalId := rfl
  rw [hentry] at hput
  unfold SharedStore.kept
  dsimp only
  rw [hput]
  cases hfind : s.pendingMsg.find? claim.msg.globalId with
  | none =>
      rw [Keyed.weight_remove_of_none _ hfind]
      refine ⟨0, ?_, fun _ => rfl⟩
      simp only [Claim.entry]
      abel
  | some old =>
      rw [← Keyed.weight_remove _ hfind]
      refine ⟨ofList key old.listKey {old.json}, ?_, fun hnone => by cases hnone⟩
      simp only [Claim.entry]
      abel

/-- What a step brings and what it drops is all that comes and goes, but for a text whose number
is claimed again. -/
theorem move_balance (h : StoreMove c s t s' t') (hwhole : t.PushesWhole c) (key : Octstr) :
    ∃ lost : Multiset Octstr,
      s'.kept key + t'.held key + t'.dropped key + t.brought c key + lost =
        s.kept key + t.held key + t.dropped key + t'.brought c key ∧
      (t.ClaimsFree c s → lost = 0) := by
  cases h with
  | number =>
      refine ⟨0, ?_, fun _ => rfl⟩
      simp [StoreCall.held, StoreCall.dropped, StoreCall.brought]
  | add =>
      refine ⟨0, ?_, fun _ => rfl⟩
      rw [kept_lpush hwhole]
      simp [StoreCall.held, StoreCall.dropped, StoreCall.brought]
  | track =>
      refine ⟨0, ?_, fun _ => rfl⟩
      simp [StoreCall.held, StoreCall.dropped, StoreCall.brought]
  | pop =>
      refine ⟨0, ?_, fun _ => rfl⟩
      simp only [StoreCall.held, StoreCall.dropped, StoreCall.brought, add_zero]
      exact kept_lpop _ _ _ _
  | stop =>
      refine ⟨0, ?_, fun _ => rfl⟩
      simp [StoreCall.held, StoreCall.dropped, StoreCall.brought]
  | again =>
      refine ⟨0, ?_, fun _ => rfl⟩
      simp [StoreCall.held, StoreCall.dropped, StoreCall.brought, ofList]
  | @claim r limit emptyBatches batchPicked claims item items claim hmatch =>
      rcases matches?_eq_some hmatch with ⟨rfl, hm⟩
      rcases kept_claim claim s key with ⟨lost, hlost, hfree⟩
      refine ⟨lost, ?_, fun hok => hfree (hok claim hmatch)⟩
      have htable : claim.listKey = r.listKey := by
        rcases Option.map_eq_some_iff.mp hm.read with ⟨root, -, hroot⟩
        rw [Claim.listKey, ← hroot]
        rfl
      rw [htable] at hlost
      simp only [StoreCall.held, StoreCall.dropped, StoreCall.brought, add_zero]
      rw [add_right_comm, hlost, add_assoc, ofList_cons]
  | back =>
      refine ⟨0, ?_, fun _ => rfl⟩
      rw [kept_lpush hwhole]
      simp only [StoreCall.held, StoreCall.dropped, StoreCall.brought, add_zero]
      rw [add_assoc, ofList_cons]
  | missing =>
      refine ⟨0, ?_, fun _ => rfl⟩
      simp [StoreCall.held, StoreCall.dropped, StoreCall.brought]
  | @take globalId temporary entry hfind =>
      refine ⟨0, ?_, fun _ => rfl⟩
      have hkept := kept_remove_pending hfind key
      cases temporary with
      | true => simpa [StoreCall.held, StoreCall.dropped, StoreCall.brought] using hkept
      | false => simpa [StoreCall.held, StoreCall.dropped, StoreCall.brought] using hkept
  | restore =>
      refine ⟨0, ?_, fun _ => rfl⟩
      rw [kept_lpush hwhole]
      simp [StoreCall.held, StoreCall.dropped, StoreCall.brought]
  | retrack =>
      refine ⟨0, ?_, fun _ => rfl⟩
      simp [StoreCall.held, StoreCall.dropped, StoreCall.brought]

end Redis
end Ksmppd
