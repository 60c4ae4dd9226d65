import Ksmppd.Lib.LeftJoin
import Ksmppd.Database.Claims
import Ksmppd.Sessions.Model

/-!
# Drain — which MT messages the bearerbox queue gives back

Whether the MT messages of an account go to the store or to the bearerboxes is decided when a
session binds, from what has authenticated it.  A message the bearerboxes could not take is stored,
and the drain decides again whether it belongs to them: it joins the service of the message to the
user table.
-/

namespace Ksmppd
namespace Database

open Lib
open Sessions (smppEsmeEffectiveDatabaseStorePrimary)

/-! ## The flag of a session -/

/-- What has authenticated a session, and what it says about `database_store_primary`. -/
inductive AuthAnswer
  /-- The column of the row of the user table. -/
  | table (column : Option Int)
  /-- The header `x-ksmppd-database-store-primary`. -/
  | http (header : Option Octstr)
  | plugin (databaseStorePrimary : Int)
  deriving DecidableEq, Repr

/-- `atoi`, the low bits of `strtol`. -/
def atoi (os : Octstr) : Int := (atol os).bmod (2 ^ 32)

/-- Only 0 and 1 override the configuration. -/
def overrideOf (v : Int) : Int := if v = 0 ∨ v = 1 then v else smppAuthDatabaseStorePrimaryInherit

/-- The value in the result of the authentication. -/
def AuthAnswer.databaseStorePrimary : AuthAnswer → Int
  -- the column comes as a text
  | .table column =>
      match column with
      | none => smppAuthDatabaseStorePrimaryInherit
      | some v => overrideOf (atoi (octstrFormatLong v))
  | .http header =>
      if octstrLen header ≠ 0 then overrideOf (atoi (header.getD []))
      else smppAuthDatabaseStorePrimaryInherit
  -- a plugin fills in the result itself, and nothing looks at it
  | .plugin v => v

/-- What the bind enters into the account. -/
def boundStorePrimary (smppServer : SmppServer) (a : AuthAnswer) : Bool :=
  smppEsmeEffectiveDatabaseStorePrimary smppServer
    { maxBinds := 0, databaseStorePrimary := a.databaseStorePrimary }

/-- The store an MT message of such an account goes to: `smpp_queues_submit_routing_done` stores it
with `smpp_database_add_message`, or `smpp_bearerbox_add_to_queue` does with
`smpp_database_add_queue_message`. -/
def mtStoreKind (storePrimary : Bool) : StoreKind :=
  if storePrimary then .primary else .bearerboxQueue

/-- The row of such a message. -/
def mtRow (c : StoreSettings) (storePrimary : Bool) (globalId : Nat) (msg : Sms) : StoredMsg where
  storeTable := smppDatabaseStoreTableName c (mtStoreKind storePrimary)
  globalId := globalId
  msg := msg

/-! ## The query of the drain -/

/-- The columns of a row of the user table that the drain reads. -/
structure UserRow where
  systemId : Octstr
  databaseStorePrimary : Option Int
  deriving DecidableEq, Repr

structure UserTable where
  rows : List UserRow
  /-- `LOWER(u.system_id) = LOWER(s.service)` for two texts. -/
  sameName : Octstr → Octstr → Bool

/-- The condition of the join; nothing is equal to `NULL`. -/
def UserTable.joins (t : UserTable) (service : Option Octstr) (u : UserRow) : Bool :=
  match service with
  | none => false
  | some os => t.sameName u.systemId os

/-- `inherit`. -/
def inherited (c : StoreSettings) : Int := if c.databaseStorePrimary then 1 else 0

/-- `COALESCE(u.database_store_primary, inherit)`. -/
def coalesced (c : StoreSettings) (u : Option UserRow) : Int :=
  (u.bind UserRow.databaseStorePrimary).getD (inherited c)

/-- The rows `smpp_database_mysql_get_stored` selects for the drain, before `LIMIT`. -/
def drainQuery (s : StoreState) (t : UserTable) : List StoredMsg :=
  let rows := s.stores (getStoredTable s.settings smsTypeMtPush .bearerboxMtDrain)
  let free := fun m : StoredMsg => (s.pendingMsg.find? m.globalId).isNone
  if octstrLen s.settings.databaseUserTable ≠ 0 then
    select (fun m => t.joins m.msg.service)
      (fun m u => decide (m.msg.smsType = smsTypeMtPush) &&
        decide (coalesced s.settings u = 0) && free m) rows t.rows
  else rows.filter (fun m => decide (m.msg.smsType = smsTypeMtPush) && free m)

/-- The accounts a service joins. -/
def UserTable.accounts (t : UserTable) (service : Option Octstr) : List (Option UserRow) :=
  joined t.joins t.rows service

/-- The drain takes messages of this service to be those of the bearerboxes. -/
def DrainsService (c : StoreSettings) (t : UserTable) (service : Option Octstr) : Prop :=
  octstrLen c.databaseUserTable ≠ 0 → ∃ u ∈ t.accounts service, coalesced c u = 0

instance (c : StoreSettings) (t : UserTable) (service : Option Octstr) :
    Decidable (DrainsService c t service) :=
  inferInstanceAs (Decidable (octstrLen c.databaseUserTable ≠ 0 →
    ∃ u ∈ t.accounts service, coalesced c u = 0))

variable {c : StoreSettings} {t : UserTable} {s : StoreState} {m : StoredMsg}

theorem mem_drainQuery : m ∈ drainQuery s t ↔
    m ∈ s.stores (getStoredTable s.settings smsTypeMtPush .bearerboxMtDrain) ∧
      m.msg.smsType = smsTypeMtPush ∧ DrainsService s.settings t m.msg.service ∧
      s.pendingMsg.find? m.globalId = none := by
  by_cases htable : octstrLen s.settings.databaseUserTable = 0
  · simp [drainQuery, DrainsService, htable]
  · have haccounts : joined (fun m : StoredMsg => t.joins m.msg.service) t.rows m =
        t.accounts m.msg.service := rfl
    simp only [drainQuery, ne_eq, htable, not_false_eq_true, if_true, mem_select, haccounts,
      DrainsService, true_implies, Bool.and_eq_true, decide_eq_true_eq, Option.isNone_iff_eq_none]
    constructor
    · rintro ⟨hm, u, hu, ⟨htype, hcoalesced⟩, hfree⟩
      exact ⟨hm, htype, ⟨u, hu, hcoalesced⟩, hfree⟩
    · rintro ⟨hm, htype, ⟨u, hu, hcoalesced⟩, hfree⟩
      exact ⟨hm, u, hu, ⟨htype, hcoalesced⟩, hfree⟩

/-- Where a service has one value in the user table, the query is the one of `get_stored`. -/
theorem mem_drainQuery_iff_selects (htable : octstrLen s.settings.databaseUserTable ≠ 0)
    (haccount : ∀ u ∈ t.accounts m.msg.service,
      u.bind UserRow.databaseStorePrimary = s.settings.accountStorePrimary m.msg.service) :
    m ∈ drainQuery s t ↔
      m ∈ s.stores (getStoredTable s.settings smsTypeMtPush .bearerboxMtDrain) ∧
        s.selects smsTypeMtPush none .bearerboxMtDrain m = true := by
  have hagree : ∀ u ∈ joined (fun m : StoredMsg => t.joins m.msg.service) t.rows m,
      (decide (m.msg.smsType = smsTypeMtPush) && decide (coalesced s.settings u = 0) &&
        (s.pendingMsg.find? m.globalId).isNone) =
          s.selects smsTypeMtPush none .bearerboxMtDrain m := by
    intro u hu
    have hservice : octstrLen (none : Option Octstr) = 0 := rfl
    simp [StoreState.selects, htable, hservice, coalesced, haccount u hu, inherited]
  simp only [drainQuery, htable, ne_eq, not_false_eq_true, if_true]
  exact mem_select_of_agree hagree

/-- The table of the bearerbox queue is the one that is drained, whichever store is primary. -/
theorem drainTable_eq (c : StoreSettings) :
    getStoredTable c smsTypeMtPush .bearerboxMtDrain =
      smppDatabaseStoreTableName c .bearerboxQueue := by
  cases hprimary : c.databaseStorePrimary with
  | true => simp [getStoredTable, hprimary]
  | false => simp [getStoredTable, smppDatabaseGetStoredTableName, hprimary]

/-! ## Rows and their tables -/

/-- The settings do not change, and every row stands in the table it was stored in. -/
structure Placed (c : StoreSettings) (s : StoreState) : Prop where
  settings : s.settings = c
  backend : s.backend = .mysql
  rows : ∀ table, ∀ m ∈ s.stores table, m.storeTable = table

theorem Placed.of_stores {u : StoreState} (h : Placed c s) (hframe : Frame s u)
    (hrows : ∀ table, ∀ m ∈ u.stores table, m ∈ s.stores table) : Placed c u :=
  ⟨hframe.settings.trans h.settings, hframe.backend.trans h.backend,
    fun table m hm => h.rows table m (hrows table m hm)⟩

theorem placed_add {kind : StoreKind} {globalId : Nat} {msg : Sms} {u : StoreState}
    (h : Placed c s) (hstep : step s (.add kind globalId msg) = some u) : Placed c u := by
  simp only [step, h.backend] at hstep
  split at hstep
  · cases hstep
  · split at hstep
    · cases hstep
    · cases hstep
      refine ⟨h.settings, h.backend, ?_⟩
      intro table m hm
      by_cases htable : table = (newMsg s kind globalId msg).storeTable
      · subst htable
        simp only [StoreState.setStore, Function.update_self, List.mem_append,
          List.mem_singleton] at hm
        rcases hm with hold | rfl
        · exact h.rows _ m hold
        · rfl
      · simp only [StoreState.setStore, Function.update_of_ne htable] at hm
        exact h.rows table m hm

theorem placed_getStored {smsType : Int} {service : Option Octstr} {limit : Nat}
    {kind : StoreKind} {answer : Answer} {u : StoreState} {ms : List StoredMsg} (h : Placed c s)
    (hget : getStored s smsType service limit kind answer = some (u, ms)) : Placed c u := by
  unfold getStored at hget
  split at hget
  · unfold smppDatabaseMysqlGetStored at hget
    split at hget
    · cases hget
      apply h.of_stores (frame_foldl_claim ms)
      intro table m hm
      simpa [stores_foldl_claim] using hm
    · cases hget
  · rename_i hbackend
    rw [h.backend] at hbackend
    cases hbackend
  · cases hget

theorem placed_remove (h : Placed c s) (globalId : Nat) (temporary done : Bool) :
    Placed c (smppDatabaseRemove s globalId temporary done) := by
  apply h.of_stores (frame_remove s globalId temporary done)
  intro table m hm
  simp only [smppDatabaseRemove, h.backend, smppDatabaseMysqlRemove] at hm
  split at hm
  · simp only [StoreState.release, StoreState.setStore] at hm
    by_cases htable : table =
        ((s.pendingMsgStore.find? globalId).map Prod.snd).getD s.settings.databaseStoreTable
    · rw [← htable, Function.update_self] at hm
      exact List.mem_of_mem_filter hm
    · rwa [Function.update_of_ne htable] at hm
  · exact hm

theorem placed_requeueMt {u : StoreState} (h : Placed c u) (done : Bool) (m : StoredMsg) :
    Placed c (requeueMt u done m) := by
  unfold requeueMt
  split
  · exact ⟨h.settings, h.backend, h.rows⟩
  · exact placed_remove h m.globalId false done

theorem placed_foldl_requeueMt {u : StoreState} {done : Bool} {ms : List StoredMsg}
    (h : Placed c u) : Placed c (ms.foldl (fun t m => requeueMt t done m) u) := by
  induction ms generalizing u with
  | nil => exact h
  | cons m ms ih => exact ih (placed_requeueMt h done m)

theorem placed_step {l : Label} {u : StoreState} (h : Placed c s) (hstep : step s l = some u) :
    Placed c u := by
  cases l with
  | add kind globalId msg => exact placed_add h hstep
  | drain answer done =>
      simp only [step] at hstep
      split at hstep
      · rcases Option.map_eq_some_iff.mp hstep with ⟨⟨v, messages⟩, hget, rfl⟩
        exact placed_foldl_requeueMt (placed_getStored h hget)
      · cases hstep
  | getStored smsType service limit answer =>
      simp only [step] at hstep
      split at hstep
      · rcases Option.map_eq_some_iff.mp hstep with ⟨⟨v, messages⟩, hget, rfl⟩
        have hplaced := placed_getStored h hget
        exact ⟨hplaced.settings, hplaced.backend, hplaced.rows⟩
      · cases hstep
  | result m status done =>
      simp only [step] at hstep
      split at hstep
      · cases hstep
        have herased : Placed c { s with inFlight := s.inFlight.erase m } :=
          ⟨h.settings, h.backend, h.rows⟩
        unfold smppBearerboxRequeueResult
        split
        · exact placed_remove herased m.globalId false done
        · split
          · exact placed_remove herased m.globalId false done
          · exact herased
      · cases hstep
  | remove globalId temporary done =>
      simp only [step] at hstep
      split at hstep
      · cases hstep
        exact placed_remove h globalId temporary done
      · cases hstep

theorem placed_init (c : StoreSettings) : Placed c (storeInit c .mysql) :=
  ⟨rfl, rfl, by simp [storeInit]⟩

theorem placed_run {ls : List Label} (hrun : Run step anyStep (storeInit c .mysql) ls s) :
    Placed c s :=
  hrun.invariant (Placed c) (fun _ _ _ h _ hstep => placed_step h hstep) (placed_init c)

/-! ## Writer and drain -/

/-- In every state of every run, a queued message that stands in its table and is not pending is
selected by the drain, and a store-primary one is not. -/
structure DrainsRight (c : StoreSettings) (t : UserTable) (storePrimary : Bool) (m : StoredMsg) :
    Prop where
  queued : storePrimary = false → ∀ ls s, Run step anyStep (storeInit c .mysql) ls s →
    m ∈ s.stores m.storeTable → s.pendingMsg.find? m.globalId = none → m ∈ drainQuery s t
  primary : storePrimary = true → ∀ ls s, Run step anyStep (storeInit c .mysql) ls s →
    m ∉ drainQuery s t

/-- The drain finds in the user table what the bind has found: the messages of a service the bind
has left to the bearerboxes are theirs; those of the others are not, or are in another table. -/
def DrainAgrees (c : StoreSettings) (t : UserTable) (storePrimary : Bool)
    (service : Option Octstr) : Prop :=
  if storePrimary then
    c.databaseStoreTable ≠ smppDatabaseStoreTableName c .bearerboxQueue ∨
      ¬ DrainsService c t service
  else DrainsService c t service

/-- A message that has just been stored is in its table, and nothing is pending. -/
theorem run_add (c : StoreSettings) (storePrimary : Bool) (globalId : Nat) (msg : Sms) :
    ∃ s, Run step anyStep (storeInit c .mysql) [.add (mtStoreKind storePrimary) globalId msg] s ∧
      mtRow c storePrimary globalId msg ∈
        s.stores (mtRow c storePrimary globalId msg).storeTable ∧
      s.pendingMsg.find? globalId = none ∧ s.settings = c := by
  let m := mtRow c storePrimary globalId msg
  have hstep : step (storeInit c .mysql) (.add (mtStoreKind storePrimary) globalId msg) =
      some { (storeInit c .mysql).setStore m.storeTable [m] with added := [m] } := by
    have hnew : newMsg (storeInit c .mysql) (mtStoreKind storePrimary) globalId msg = m := rfl
    have hadded : (storeInit c .mysql).added = [] := rfl
    have hstores : (storeInit c .mysql).stores m.storeTable = [] := rfl
    have hbackend : (storeInit c .mysql).backend = .mysql := rfl
    simp [step, hnew, hadded, hstores, hbackend]
  exact ⟨_, Run.single trivial hstep, by simp [StoreState.setStore, m], rfl, rfl⟩

theorem drainsRight_queued_iff {globalId : Nat} {msg : Sms} (hmt : msg.smsType = smsTypeMtPush) :
    DrainsRight c t false (mtRow c false globalId msg) ↔ DrainsService c t msg.service := by
  constructor
  · intro hright
    rcases run_add c false globalId msg with ⟨s, hrun, hrow, hfree, hsettings⟩
    have hdrained := mem_drainQuery.mp (hright.queued rfl _ s hrun hrow hfree)
    rw [hsettings] at hdrained
    exact hdrained.2.2.1
  · intro hservice
    refine ⟨fun _ ls s hrun hrow hfree => ?_, fun h => absurd h (by simp)⟩
    have hsettings := (placed_run hrun).settings
    subst hsettings
    refine mem_drainQuery.mpr ⟨?_, hmt, hservice, hfree⟩
    rw [drainTable_eq]
    exact hrow

theorem drainsRight_primary_iff {globalId : Nat} {msg : Sms} (hmt : msg.smsType = smsTypeMtPush) :
    DrainsRight c t true (mtRow c true globalId msg) ↔
      c.databaseStoreTable ≠ smppDatabaseStoreTableName c .bearerboxQueue ∨
        ¬ DrainsService c t msg.service := by
  constructor
  · intro hright
    by_contra hboth
    have hsame : c.databaseStoreTable = smppDatabaseStoreTableName c .bearerboxQueue :=
      by_contra (fun hne => hboth (Or.inl hne))
    have hservice : DrainsService c t msg.service := by_contra (fun hno => hboth (Or.inr hno))
    rcases run_add c true globalId msg with ⟨s, hrun, hrow, hfree, hsettings⟩
    apply hright.primary rfl _ s hrun
    subst hsettings
    refine mem_drainQuery.mpr ⟨?_, hmt, hservice, hfree⟩
    rw [drainTable_eq, ← hsame]
    exact hrow
  · intro hspared
    refine ⟨fun h => absurd h (by simp), fun _ ls s hrun hdrained => ?_⟩
    have hplaced := placed_run hrun
    rcases mem_drainQuery.mp hdrained with ⟨hrow, -, hservice, -⟩
    have htable := hplaced.rows _ _ hrow
    rw [hplaced.settings] at hservice htable
    rcases hspared with hne | hno
    · exact hne (htable.trans (drainTable_eq c))
    · exact hno hservice

/-- For an account of the user table with one value in it, none, 0 or 1, the drain finds what the
bind has found. -/
theorem drainAgrees_of_table {smppServer : SmppServer} {service : Option Octstr}
    {column : Option Int} (hserver : smppServer.databaseStorePrimary = c.databaseStorePrimary)
    (htable : octstrLen c.databaseUserTable ≠ 0)
    (hcolumn : column = none ∨ column = some 0 ∨ column = some 1)
    (haccount : ∀ u ∈ t.accounts service, u.bind UserRow.databaseStorePrimary = column) :
    DrainAgrees c t (boundStorePrimary smppServer (.table column)) service := by
  have hdrains : DrainsService c t service ↔ column.getD (inherited c) = 0 := by
    constructor
    · intro hservice
      rcases hservice htable with ⟨u, hu, hzero⟩
      simpa [coalesced, haccount u hu] using hzero
    · intro hzero _
      rcases exists_mem_joined t.joins t.rows service with ⟨u, hu⟩
      exact ⟨u, hu, by simpa [coalesced, haccount u hu] using hzero⟩
  have hbound : boundStorePrimary smppServer (.table column) = true ↔
      column.getD (inherited c) ≠ 0 := by
    have htexts : atoi (octstrFormatLong 0) = 0 ∧ atoi (octstrFormatLong 1) = 1 := by decide
    rcases hcolumn with rfl | rfl | rfl
    · cases hprimary : c.databaseStorePrimary with
      | true => simp [boundStorePrimary, smppEsmeEffectiveDatabaseStorePrimary, hserver, hprimary,
          AuthAnswer.databaseStorePrimary, inherited]
      | false => simp [boundStorePrimary, smppEsmeEffectiveDatabaseStorePrimary, hserver, hprimary,
          AuthAnswer.databaseStorePrimary, inherited]
    · simp [boundStorePrimary, smppEsmeEffectiveDatabaseStorePrimary,
        AuthAnswer.databaseStorePrimary, overrideOf, htexts.1, smppAuthDatabaseStorePrimaryInherit]
    · simp [boundStorePrimary, smppEsmeEffectiveDatabaseStorePrimary,
        AuthAnswer.databaseStorePrimary, overrideOf, htexts.2, smppAuthDatabaseStorePrimaryInherit]
  unfold DrainAgrees
  split
  · rename_i hprimary
    exact Or.inr (fun hservice => hbound.mp hprimary (hdrains.mp hservice))
  · rename_i hqueued
    exact hdrains.mpr (by_contra (fun hne => hqueued (hbound.mpr hne)))

/-- The drain is right about the MT messages of a session exactly if it finds in the user table
what has been found at the bind. -/
theorem drains_right_iff (smppServer : SmppServer) (c : StoreSettings) (t : UserTable)
    (a : AuthAnswer) (globalId : Nat) {msg : Sms} (hmt : msg.smsType = smsTypeMtPush) :
    DrainsRight c t (boundStorePrimary smppServer a)
        (mtRow c (boundStorePrimary smppServer a) globalId msg) ↔
      DrainAgrees c t (boundStorePrimary smppServer a) msg.service := by
  cases boundStorePrimary smppServer a with
  | false => simpa [DrainAgrees] using drainsRight_queued_iff hmt
  | true => simpa [DrainAgrees] using drainsRight_primary_iff hmt

/-! ## Samples -/

/-- The server keeps MT messages in its store, unless an account says something else. -/
def sampleStorePrimary : StoreSettings :=
  { sampleSettings with
    databaseStorePrimary := true
    databaseQueueStoreTable := some (octstrImm "queue")
    databaseUserTable := some (octstrImm "user") }

def sampleStoreServer : SmppServer where
  databaseEnableQueue := true
  databaseStorePrimary := true
  waitAckAction := smppWaitackDrop

def sampleUsers (rows : List UserRow) : UserTable where
  rows := rows
  sameName := fun a b => a == b

def sampleMtMsg : Sms := { sampleMt.msg with service := some (octstrImm "esme") }

/-- The account is in the user table, which leaves its messages to the bearerboxes. -/
theorem drains_right_sample :
    DrainsRight sampleStorePrimary (sampleUsers [⟨octstrImm "esme", some 0⟩])
      (boundStorePrimary sampleStoreServer (.table (some 0)))
      (mtRow sampleStorePrimary (boundStorePrimary sampleStoreServer (.table (some 0))) 1
        sampleMtMsg) := by
  apply (drains_right_iff sampleStoreServer sampleStorePrimary
    (sampleUsers [⟨octstrImm "esme", some 0⟩]) (.table (some 0)) 1 rfl).mpr
  exact drainAgrees_of_table rfl (by decide) (Or.inr (Or.inl rfl)) (by decide)

/-- The header of the HTTP authentication leaves them to the bearerboxes, and the account is not in
the user table: a queued message is never drained. -/
theorem http_override_not_drained :
    boundStorePrimary sampleStoreServer (.http (some (octstrImm "0"))) = false ∧
      ∃ ls s, Run step anyStep (storeInit sampleStorePrimary .mysql) ls s ∧
        mtRow sampleStorePrimary false 1 sampleMtMsg ∈
          s.stores (mtRow sampleStorePrimary false 1 sampleMtMsg).storeTable ∧
        s.pendingMsg.find? 1 = none ∧
        mtRow sampleStorePrimary false 1 sampleMtMsg ∉ drainQuery s (sampleUsers []) := by
  rcases run_add sampleStorePrimary false 1 sampleMtMsg with ⟨s, hrun, hrow, hfree, hsettings⟩
  refine ⟨by decide, _, s, hrun, hrow, hfree, ?_⟩
  intro hdrained
  have hservice := (mem_drainQuery.mp hdrained).2.2.1
  rw [hsettings] at hservice
  exact absurd hservice (by decide)

end Database
end Ksmppd
