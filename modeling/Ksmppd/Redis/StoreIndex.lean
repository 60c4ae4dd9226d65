import Ksmppd.Redis.Conservation

/-!
# StoreIndex — the services with stored messages

`smpp_redis_track_store_esme` enters the service of each message into a set of its table, and
nothing ever leaves it.  So the set may name services without messages, but unlike the index of the
refused PDUs it misses none.
-/

namespace Ksmppd
namespace Redis

open Lib
open Database (smppRedisNormService smppRedisGlobalService)

variable {c : StoreContext} {s s' start : SharedStore} {t t' : StoreCall} {q q' : StorePool}
  {l : PoolLabel StoreArgs} {table text : Octstr}

/-! ## What has been entered -/

/-- The service is a member of the set of this table. -/
def Listed (s : SharedStore) (table : Octstr) (service : Option Octstr) : Prop :=
  smppRedisNormService service ∈ s.keys.sets (smppRedisStoreEsmesKeyFor table)

/-- Every service with messages in this table is listed. -/
def StoreIndexed (c : StoreContext) (s : SharedStore) (table : Octstr) : Prop :=
  ∀ text ∈ s.keys.lists (smppRedisStoreQueueKeyFor table), ∀ m,
    storedMsg c.parser table text = some m → Listed s table m.msg.service

/-- `LPUSH` has put the text of a message into its list, and `SADD` is still to come. -/
def StoreCall.untracked : StoreCall → Bool
  | .addMessage _ _ (.pushed _) => true
  | _ => false

/-- The text is read as the message it was made for. -/
def ReadBack (c : StoreContext) (kind : Database.StoreKind) (m : Sms) (globalId : Nat) : Prop :=
  storedMsg c.parser (c.table kind) (c.text globalId m) =
    some { storeTable := c.table kind, globalId := globalId, msg := presentSms m }

/-- What a call that adds a message has done. -/
def StoreCall.Tracked (c : StoreContext) (s : SharedStore) : StoreCall → Prop
  | .addMessage kind m (.pushed globalId) => ReadBack c kind m globalId
  | .addMessage kind m (.returned globalId) =>
      ReadBack c kind m globalId ∧ Listed s (c.table kind) m.service
  | _ => True

/-! ## The set only grows -/

theorem RedisKeys.mem_sadd_of_mem {r : RedisKeys} {key key' member member' : Octstr}
    (h : member ∈ r.sets key) : member ∈ (r.sadd key' member').sets key := by
  by_cases hkey : key = key'
  · subst hkey
    exact RedisKeys.mem_sadd.mpr (Or.inr h)
  · have hsame : (r.sadd key' member').sets key = r.sets key := Function.update_of_ne hkey _ _
    rw [hsame]
    exact h

theorem move_listed (h : StoreMove c s t s' t') {service : Option Octstr}
    (hlisted : Listed s table service) : Listed s' table service := by
  cases h with
  | track => exact RedisKeys.mem_sadd_of_mem hlisted
  | retrack => exact RedisKeys.mem_sadd_of_mem hlisted
  | _ => exact hlisted

theorem tracked_mono (hlisted : ∀ table service, Listed s table service → Listed s' table service)
    (h : t.Tracked c s) : t.Tracked c s' := by
  cases t with
  | addMessage kind m phase =>
      cases phase with
      | returned globalId => exact ⟨h.1, hlisted _ _ h.2⟩
      | called => trivial
      | numbered globalId => trivial
      | pushed globalId => exact h
  | getStored r limit phase => trivial
  | remove globalId temporary phase => trivial

theorem move_tracked (hj : c.jansson.Documented) (hreads : Reads c.jansson c.parser)
    (h : StoreMove c s t s' t') (hadds : t.AddsReadable c) (htracked : t.Tracked c s) :
    t'.Tracked c s' := by
  cases h with
  | add => exact storedMsg_addMessageJson hj hreads hadds.1 hadds.2.1 _
  | track => exact ⟨htracked, RedisKeys.mem_sadd.mpr (Or.inl rfl)⟩
  | take hfind => trivial
  | _ => trivial

theorem tracked_run (hj : c.jansson.Documented) (hreads : Reads c.jansson c.parser)
    {ls : List (PoolLabel StoreArgs)}
    (hrun : Run (storeStep c) (Advances (StoreCall.AddsReadable c)) { shared := start, calls := [] }
      ls q) :
    (∀ t ∈ q.calls, t.Tracked c q.shared) ∧
      ∀ table service, Listed start table service → Listed q.shared table service := by
  refine hrun.invariant (fun q => (∀ t ∈ q.calls, t.Tracked c q.shared) ∧
    ∀ table service, Listed start table service → Listed q.shared table service) ?_
    ⟨by simp, fun _ _ h => h⟩
  intro q l q' h hok hstep
  cases poolStep_move hstep with
  | @enter a t henter =>
      cases henter
      exact ⟨forall_calls_append h.1 (by cases a <;> trivial), h.2⟩
  | @advance i t t' s hi hadvance =>
      have hmove := storeCommand_move hadvance
      have hgrows : ∀ table service, Listed q.shared table service → Listed s table service :=
        fun _ _ => move_listed hmove
      have hown := move_tracked hj hreads hmove (hok t hi) (h.1 t (List.mem_of_getElem? hi))
      exact ⟨forall_calls_set h.1 hown (fun _ _ => tracked_mono hgrows),
        fun table service hlisted => hgrows _ _ (h.2 table service hlisted)⟩

/-! ## The listing -/

/-- A text that was absent and an empty one are the same service. -/
theorem smppRedisNormService_present (m : Sms) :
    smppRedisNormService (presentSms m).service = smppRedisNormService m.service := by
  cases hservice : m.service with
  | none => simp [presentSms, hservice, smppRedisNormService, octstrLen]
  | some service => simp [presentSms, hservice]

theorem mem_getEsmesWithQueued_of_listed {pdus : PduSettings} {tables : QueueTables}
    {service : Option Octstr}
    (htable : table = tables.databaseStoreTable ∨ table = tables.databaseQueueStoreTable)
    (hglobal : octstrToLower (smppRedisNormService service) ≠ octstrToLower smppRedisGlobalService)
    (h : Listed s table service) :
    smppRedisNormService service ∈ smppDatabaseRedisGetEsmesWithQueued pdus tables s.keys := by
  have hmem : smppRedisNormService service ∈ smppRedisAddStoreEsmes s.keys table :=
    List.mem_filter.mpr ⟨h, by simpa using hglobal⟩
  unfold smppDatabaseRedisGetEsmesWithQueued
  rcases htable with rfl | rfl
  · simp [hmem]
  · by_cases hsame : tables.databaseStoreTable = tables.databaseQueueStoreTable
    · simp [hsame, hmem]
    · simp [hsame, hmem]

end Redis
end Ksmppd
