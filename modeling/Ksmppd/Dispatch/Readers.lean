import Ksmppd.Lib.Counting
import Ksmppd.Redis.PduStore
import Ksmppd.Dispatch.FreeWindow

/-!
# Readers — one session of each account for a poll

A poll takes the accounts for which something waits from the backend and picks a session of each.
The relational backend asks for them in one statement, as a union; the one for Redis puts the members
of up to four sets behind each other.
-/

namespace Ksmppd
namespace Dispatch

open Lib
open Redis (PduSettings QueueTables RedisKeys smppDatabaseRedisGetEsmesWithQueued
  smppRedisAddStoreEsmes smppRedisPduEsmesKey)

/-! ## What the backends list -/

/-- No set has a member twice. -/
def SetsDistinct (r : RedisKeys) : Prop := ∀ key, (r.sets key).Nodup

theorem setsDistinct_sadd {r : RedisKeys} (h : SetsDistinct r) (key member : Octstr) :
    SetsDistinct (r.sadd key member) := by
  intro key'
  simp only [RedisKeys.sadd, Function.update_apply]
  split
  · exact (h key).insert
  · exact h key'

theorem setsDistinct_srem {r : RedisKeys} (h : SetsDistinct r) (key member : Octstr) :
    SetsDistinct (r.srem key member) := by
  intro key'
  simp only [RedisKeys.srem, Function.update_apply]
  split
  · exact (h key).filter _
  · exact h key'

/-- The answer of a backend: the rows of a union, or what the sets in Redis hold. -/
inductive Listing
  | mysql (rows : List Octstr) (union : rows.Nodup)
  | redis (c : PduSettings) (q : QueueTables) (r : RedisKeys) (sets : SetsDistinct r)

/-- `smpp_database_get_esmes_with_queued`. -/
def Listing.esmesWithQueued : Listing → List Octstr
  | .mysql rows _ => rows
  | .redis c q r _ => smppDatabaseRedisGetEsmesWithQueued c q r

/-- The lists that are put behind each other. -/
def Listing.merged : Listing → List (List Octstr)
  | .mysql rows _ => [rows]
  | .redis c q r _ =>
      [r.sets (smppRedisPduEsmesKey c),
        smppRedisAddStoreEsmes r q.databaseStoreTable,
        if q.databaseStoreTable ≠ q.databaseQueueStoreTable then
          smppRedisAddStoreEsmes r q.databaseQueueStoreTable
        else [],
        match q.databaseDlrTable with
        | none => []
        | some table => if table = [] then [] else r.sets (table ++ octstrImm ":esmes")]

theorem Listing.flatten_merged (listing : Listing) :
    listing.merged.flatten = listing.esmesWithQueued := by
  cases listing with
  | mysql rows union => simp [merged, esmesWithQueued]
  | redis c q r sets =>
      cases htable : q.databaseDlrTable with
      | none => simp [merged, esmesWithQueued, smppDatabaseRedisGetEsmesWithQueued, htable]
      | some table => simp [merged, esmesWithQueued, smppDatabaseRedisGetEsmesWithQueued, htable]

theorem Listing.nodup_of_mem_merged {listing : Listing} {l : List Octstr}
    (h : l ∈ listing.merged) : l.Nodup := by
  cases listing with
  | mysql rows union =>
      rw [List.mem_singleton.mp h]
      exact union
  | redis c q r sets =>
      have hstore : ∀ table, (smppRedisAddStoreEsmes r table).Nodup := by
        intro table
        exact (sets _).filter _
      -- the PDU index, the store, the queue store and the reports
      simp only [merged, List.mem_cons, List.not_mem_nil, or_false] at h
      rcases h with rfl | rfl | rfl | rfl
      · exact sets _
      · exact hstore _
      · split
        · exact hstore _
        · exact List.nodup_nil
      · split
        · exact List.nodup_nil
        · split
          · exact List.nodup_nil
          · exact sets _

/-- A name is listed as often as there are lists with it. -/
theorem Listing.count_esmesWithQueued (listing : Listing) (systemId : Octstr) :
    listing.esmesWithQueued.count systemId =
      listing.merged.countP (·.contains systemId) := by
  rw [← listing.flatten_merged]
  exact count_flatten_of_nodup (fun l hl => nodup_of_mem_merged hl) systemId

/-! ## The sessions of a poll -/

/-- The session a poll picks for an account, the first of its binds that can take a PDU. -/
def firstReader (data : SmppEsmeData) (systemId : Octstr) : Option SmppEsme :=
  (sessionsOf data (bindsOf data systemId)).find? (·.isReader)

/-- Both accounts have a session for the poll, and the two stand in the binds of one account. -/
def BoundTogether (data : SmppEsmeData) (a b : Octstr) : Prop :=
  ∃ e e', firstReader data a = some e ∧ firstReader data b = some e' ∧
    ∃ account, e.id ∈ bindsOf data account ∧ e'.id ∈ bindsOf data account

/-- The sessions of a poll, for the accounts listed as `names`. -/
structure ReadOnce (data : SmppEsmeData) (names : List Octstr) (readers : List SmppEsme) : Prop where
  once : ∀ account, readers.countP (fun e => decide (e.id ∈ bindsOf data account)) ≤ 1
  distinct : (readers.map SmppEsme.id).Nodup
  ready : ∀ e ∈ readers, e.connected = true ∧ e.bindType &&& smppEsmeReceive ≠ 0 ∧ 0 < e.window
  represented : ∀ systemId ∈ names,
    (∃ e ∈ sessionsOf data (bindsOf data systemId), e.isReader = true) →
      ∃ e ∈ readers, e.id ∈ bindsOf data systemId

variable {smppServer : SmppServer} {data : SmppEsmeData} {names : List Octstr}
  {systemId : Octstr} {e : SmppEsme}

theorem firstReader_spec (h : firstReader data systemId = some e) :
    e.isReader = true ∧ e.id ∈ bindsOf data systemId := by
  have hreader : e.isReader = true := List.find?_some h
  exact ⟨hreader, (mem_sessionsOf.mp (List.mem_of_find?_eq_some h)).1⟩

/-- One session for each name that has one. -/
theorem readers_eq (hqueue : smppServer.databaseEnableQueue = true) :
    smppEsmeGlobalGetReaders smppServer data names true = names.filterMap (firstReader data) := by
  have hone : ∀ key, ((sessionsOf data (bindsOf data key)).filter (·.isReader)).take 1 =
      (firstReader data key).toList := by
    intro key
    rw [List.take_one, List.head?_filter]
    rfl
  simp only [smppEsmeGlobalGetReaders, hqueue, if_true, hone, readerKeys]
  induction names with
  | nil => rfl
  | cons key names ih =>
      cases hfirst : firstReader data key with
      | none =>
          -- the first pass leaves the name out
          have hany : (sessionsOf data (bindsOf data key)).any (·.isReader) = false := by
            rw [List.any_eq_false]
            exact List.find?_eq_none.mp hfirst
          rw [List.filter_cons_of_neg (by simp [hany]), ih, List.filterMap_cons_none hfirst]
      | some e =>
          rcases firstReader_spec hfirst with ⟨hreader, hbind⟩
          have hany : (sessionsOf data (bindsOf data key)).any (·.isReader) = true :=
            List.any_eq_true.mpr ⟨e, List.mem_of_find?_eq_some hfirst, hreader⟩
          have hkey : (data.esmes.entries.map SmppEsmeGlobal.systemId).contains key = true :=
            List.contains_iff_mem.mpr (mem_keys_iff.mpr (isSome_of_mem_bindsOf hbind))
          rw [List.filter_cons_of_pos (by rw [hkey, hany]; rfl), List.flatMap_cons, hfirst, ih,
            List.filterMap_cons_some hfirst]
          rfl

theorem ready_of_isReader (h : e.isReader = true) :
    e.connected = true ∧ e.bindType &&& smppEsmeReceive ≠ 0 ∧ 0 < e.window := by
  simpa [SmppEsme.isReader, SmppEsme.receives, and_assoc] using h

/-- Whatever the list is, the sessions are ready and each account with one is represented. -/
theorem readOnce_iff_once :
    ReadOnce data names (names.filterMap (firstReader data)) ↔
      ∀ account, (names.filterMap (firstReader data)).countP
        (fun e => decide (e.id ∈ bindsOf data account)) ≤ 1 := by
  refine ⟨ReadOnce.once, ?_⟩
  intro honce
  refine ⟨honce, ?_, ?_, ?_⟩
  · rw [List.nodup_iff_count_le_one]
    intro r
    by_cases hmem : r ∈ (names.filterMap (firstReader data)).map SmppEsme.id
    · -- a session that is picked twice is picked twice for its account
      rcases List.mem_map.mp hmem with ⟨e, he, rfl⟩
      rcases List.mem_filterMap.mp he with ⟨account, -, hfirst⟩
      have hbind := (firstReader_spec hfirst).2
      have hbinds : ∀ x ∈ names.filterMap (firstReader data), (x.id == e.id) = true →
          decide (x.id ∈ bindsOf data account) = true := by
        intro x _ hx
        rw [beq_iff_eq.mp hx]
        exact decide_eq_true hbind
      calc
        ((names.filterMap (firstReader data)).map SmppEsme.id).count e.id
            = (names.filterMap (firstReader data)).countP (fun x => x.id == e.id) := by
              rw [List.count, List.countP_map]
              rfl
        _ ≤ (names.filterMap (firstReader data)).countP
              (fun x => decide (x.id ∈ bindsOf data account)) := List.countP_mono_left hbinds
        _ ≤ 1 := honce account
    · rw [List.count_eq_zero_of_not_mem hmem]
      exact Nat.zero_le 1
  · intro e he
    rcases List.mem_filterMap.mp he with ⟨account, -, hfirst⟩
    exact ready_of_isReader (firstReader_spec hfirst).1
  · rintro systemId hname ⟨e, he, hreader⟩
    have hsome : (firstReader data systemId).isSome = true :=
      List.find?_isSome.mpr ⟨e, he, hreader⟩
    rcases Option.isSome_iff_exists.mp hsome with ⟨first, hfirst⟩
    exact ⟨first, List.mem_filterMap.mpr ⟨systemId, hname, hfirst⟩, (firstReader_spec hfirst).2⟩

/-- The name stands for a session of the account. -/
def readsFor (data : SmppEsmeData) (account systemId : Octstr) : Bool :=
  match firstReader data systemId with
  | none => false
  | some e => decide (e.id ∈ bindsOf data account)

theorem readsFor_iff {account : Octstr} :
    readsFor data account systemId = true ↔
      ∃ e, firstReader data systemId = some e ∧ e.id ∈ bindsOf data account := by
  unfold readsFor
  cases firstReader data systemId with
  | none => simp
  | some e => simp

theorem countP_readers {account : Octstr} :
    (names.filterMap (firstReader data)).countP (fun e => decide (e.id ∈ bindsOf data account)) =
      names.countP (readsFor data account) := by
  induction names with
  | nil => rfl
  | cons key names ih =>
      rw [List.countP_cons, ← ih]
      cases hfirst : firstReader data key with
      | none => simp [List.filterMap_cons_none hfirst, readsFor, hfirst]
      | some e => simp [List.filterMap_cons_some hfirst, List.countP_cons, readsFor, hfirst]

/-- A poll has one session for each account exactly if no account with a session for it is in two of
the lists the backend puts together, and the sessions of two accounts are not in the binds of one. -/
theorem readers_once_iff (smppServer : SmppServer) (data : SmppEsmeData) (listing : Listing)
    (hqueue : smppServer.databaseEnableQueue = true) :
    ReadOnce data listing.esmesWithQueued
        (smppEsmeGlobalGetReaders smppServer data listing.esmesWithQueued true) ↔
      (∀ systemId, (firstReader data systemId).isSome = true →
          listing.merged.countP (·.contains systemId) ≤ 1) ∧
        ∀ a ∈ listing.esmesWithQueued, ∀ b ∈ listing.esmesWithQueued,
          BoundTogether data a b → a = b := by
  rw [readers_eq hqueue, readOnce_iff_once]
  -- an account is read for once if one listed name reads for it, and that name is listed once
  simp only [countP_readers, countP_le_one_iff, ← Listing.count_esmesWithQueued]
  constructor
  · intro h
    constructor
    · intro systemId hsome
      rcases Option.isSome_iff_exists.mp hsome with ⟨e, hfirst⟩
      exact (h systemId).1 systemId (readsFor_iff.mpr ⟨e, hfirst, (firstReader_spec hfirst).2⟩)
    · rintro a ha b hb ⟨e, e', he, he', account, hbind, hbind'⟩
      exact (h account).2 a ha b hb (readsFor_iff.mpr ⟨e, he, hbind⟩)
        (readsFor_iff.mpr ⟨e', he', hbind'⟩)
  · rintro ⟨hcount, htogether⟩ account
    constructor
    · intro systemId hreads
      rcases readsFor_iff.mp hreads with ⟨e, hfirst, -⟩
      exact hcount systemId (Option.isSome_iff_exists.mpr ⟨e, hfirst⟩)
    · intro a ha b hb hreads hreads'
      rcases readsFor_iff.mp hreads with ⟨e, he, hbind⟩
      rcases readsFor_iff.mp hreads' with ⟨e', he', hbind'⟩
      exact htogether a ha b hb ⟨e, e', he, he', account, hbind, hbind'⟩

def sampleTables : QueueTables where
  databaseStoreTable := octstrImm "store"
  databaseQueueStoreTable := octstrImm "store"
  databaseDlrTable := none

/-- A PDU and a report wait for the service. -/
def sampleIndexes : RedisKeys :=
  (Redis.sampleKeys.sadd (octstrImm "pdus:esmes") (octstrImm "test")).sadd
    (octstrImm "store:esmes") (octstrImm "test")

def sampleRows : Listing := .mysql [octstrImm "test"] (by decide)

def sampleMerged : Listing :=
  .redis Redis.samplePduSettings sampleTables sampleIndexes
    (setsDistinct_sadd (setsDistinct_sadd (fun _ => List.nodup_nil) _ _) _ _)

theorem readers_once_sample :
    ReadOnce sampleData sampleRows.esmesWithQueued
      (smppEsmeGlobalGetReaders sampleServer sampleData sampleRows.esmesWithQueued true) := by
  refine (readers_once_iff sampleServer sampleData sampleRows rfl).mpr ⟨?_, ?_⟩
  · intro systemId _
    exact List.countP_le_length
  · intro a ha b hb _
    rw [List.mem_singleton.mp ha, List.mem_singleton.mp hb]

/-- The one session of the account is read twice. -/
theorem redis_reads_twice :
    ¬ ReadOnce sampleData sampleMerged.esmesWithQueued
      (smppEsmeGlobalGetReaders sampleServer sampleData sampleMerged.esmesWithQueued true) := by
  intro h
  have hids : (smppEsmeGlobalGetReaders sampleServer sampleData sampleMerged.esmesWithQueued
      true).map SmppEsme.id = [0, 0] := by decide
  have hdistinct := h.distinct
  rw [hids] at hdistinct
  exact absurd hdistinct (by decide)

end Dispatch
end Ksmppd
