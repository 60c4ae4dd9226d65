import Ksmppd.Database.Model

/-!
# Claims — MT messages between their claim and their callback

No MT message is claimed twice while its callback has not run.  On MySQL the marks in
`pending_msg` keep its row from being selected, on Redis its entry has been popped; either way
another thread must leave the id of the message alone.  The callback then settles the claim, or,
with a status it only logs, leaves the message where no later drain finds it.
-/

namespace Ksmppd
namespace Database

open Lib

variable {s t : StoreState} {m : StoredMsg} {ms hand held held' : List StoredMsg}

/-! ## What claiming leaves alone -/

/-- The settings, the messages handed out and the history stay. -/
structure Frame (s t : StoreState) : Prop where
  settings : t.settings = s.settings
  backend : t.backend = s.backend
  inFlight : t.inFlight = s.inFlight
  added : t.added = s.added

theorem Frame.refl (s : StoreState) : Frame s s := ⟨rfl, rfl, rfl, rfl⟩

theorem Frame.trans {u : StoreState} (h : Frame s t) (h' : Frame t u) : Frame s u :=
  ⟨h'.settings.trans h.settings, h'.backend.trans h.backend, h'.inFlight.trans h.inFlight,
    h'.added.trans h.added⟩

theorem frame_claim (s : StoreState) (m : StoredMsg) : Frame s (s.claim m) :=
  ⟨rfl, rfl, rfl, rfl⟩

theorem frame_lpush (s : StoreState) (m : StoredMsg) (pushed : Bool) :
    Frame s (s.lpush m pushed) := by
  cases pushed with
  | true => exact ⟨rfl, rfl, rfl, rfl⟩
  | false => exact Frame.refl s

theorem frame_foldl_claim (ms : List StoredMsg) : Frame s (ms.foldl StoreState.claim s) := by
  induction ms generalizing s with
  | nil => exact Frame.refl s
  | cons m ms ih => exact (frame_claim s m).trans ih

theorem frame_remove (s : StoreState) (globalId : Nat) (temporary done : Bool) :
    Frame s (smppDatabaseRemove s globalId temporary done) := by
  unfold smppDatabaseRemove
  split
  · unfold smppDatabaseMysqlRemove
    cases temporary <;> cases done <;> exact ⟨rfl, rfl, rfl, rfl⟩
  · unfold smppDatabaseRedisRemove
    split
    · exact Frame.refl s
    · rename_i m hfind
      have hrelease : ∀ u : StoreState, Frame u (u.release globalId) :=
        fun u => ⟨rfl, rfl, rfl, rfl⟩
      cases temporary with
      | true => exact (frame_lpush s m done).trans (hrelease _)
      | false => exact hrelease s

/-! ## MySQL -/

/-- The messages in hand have different ids, all of them marked. -/
structure MysqlClaims (s : StoreState) (held : List StoredMsg) : Prop where
  keys : ∀ table, ((s.stores table).map StoredMsg.globalId).Nodup
  ids : (held.map StoredMsg.globalId).Nodup
  pending : ∀ m ∈ held, (s.pendingMsg.find? m.globalId).isSome

theorem find?_claim (s : StoreState) (m : StoredMsg) (globalId : Nat) :
    (s.claim m).pendingMsg.find? globalId =
      if globalId = m.globalId then some m else s.pendingMsg.find? globalId := by
  split
  · rename_i hid
    exact Keyed.find?_put_self hid.symm
  · rename_i hid
    exact Keyed.find?_put_of_ne hid

theorem find?_release (s : StoreState) (globalId globalId' : Nat) :
    (s.release globalId).pendingMsg.find? globalId' =
      if globalId' = globalId then none else s.pendingMsg.find? globalId' := by
  split
  · rename_i hid
    rw [hid]
    exact Keyed.find?_remove_self _ _
  · rename_i hid
    exact Keyed.find?_remove_of_ne hid

/-- A claim marks its message and unmarks none. -/
theorem isSome_foldl_claim {globalId : Nat}
    (h : (s.pendingMsg.find? globalId).isSome ∨ globalId ∈ ms.map StoredMsg.globalId) :
    ((ms.foldl StoreState.claim s).pendingMsg.find? globalId).isSome := by
  induction ms generalizing s with
  | nil => simpa using h
  | cons m ms ih =>
      apply ih
      rw [find?_claim]
      by_cases hid : globalId = m.globalId
      · simp [hid]
      · simpa [hid] using h

theorem stores_foldl_claim (ms : List StoredMsg) (s : StoreState) :
    (ms.foldl StoreState.claim s).stores = s.stores := by
  induction ms generalizing s with
  | nil => rfl
  | cons m ms ih => exact ih (s.claim m)

/-- `global_id` is the primary key: an `INSERT` adds a row under a number no row has. -/
theorem MysqlClaims.insert {m : StoredMsg} (h : MysqlClaims s held)
    (hfresh : ¬ ∃ row ∈ s.stores m.storeTable, row.globalId = m.globalId) :
    MysqlClaims (s.setStore m.storeTable (s.stores m.storeTable ++ [m])) held := by
  refine ⟨?_, h.ids, h.pending⟩
  intro table
  simp only [StoreState.setStore, Function.update_apply]
  split
  · rw [List.map_append]
    apply (h.keys _).append (List.nodup_singleton _)
    intro globalId hold hnew
    rcases List.mem_map.mp hold with ⟨row, hrow, hid⟩
    exact hfresh ⟨row, hrow, hid.trans (List.mem_singleton.mp hnew)⟩
  · exact h.keys table

/-- Rows of a table have different keys, so any different rows of it do. -/
theorem nodup_map_of_mem {α β : Type} {f : α → β} {rows table : List α} (hrows : rows.Nodup)
    (hkeys : (table.map f).Nodup) (hmem : ∀ x ∈ rows, x ∈ table) : (rows.map f).Nodup :=
  hrows.map_on (fun x hx y hy hid => List.inj_on_of_nodup_map hkeys (hmem x hx) (hmem y hy) hid)

theorem MysqlClaims.getStored {smsType : Int} {service : Option Octstr} {kind : StoreKind}
    {rows : List StoredMsg} (h : MysqlClaims s held)
    (hget : smppDatabaseMysqlGetStored s smsType service kind rows = some (t, ms)) :
    MysqlClaims t (held ++ ms) ∧ Frame s t ∧ ∀ m ∈ ms, m.msg.smsType = smsType := by
  unfold smppDatabaseMysqlGetStored at hget
  split at hget
  · rename_i hrows
    cases hget
    rcases hrows with ⟨hnodup, -, hselect⟩
    have hselects : ∀ m ∈ ms, s.selects smsType service kind m = true :=
      fun m hm => (hselect m hm).2
    have hids : (ms.map StoredMsg.globalId).Nodup :=
      nodup_map_of_mem hnodup (h.keys _) (fun x hx => (hselect x hx).1)
    -- a selected row has no mark, so its id is none of those in hand
    have hfree : ∀ x ∈ held, ∀ y ∈ ms, x.globalId ≠ y.globalId := by
      intro x hx y hy hid
      have hmarked := h.pending x hx
      have hselected := hselects y hy
      simp only [StoreState.selects, Bool.and_eq_true, Option.isNone_iff_eq_none] at hselected
      rw [hid, hselected.2] at hmarked
      cases hmarked
    refine ⟨⟨?_, ?_, ?_⟩, frame_foldl_claim ms, ?_⟩
    · rw [stores_foldl_claim]
      exact h.keys
    · rw [List.map_append]
      apply h.ids.append hids
      intro globalId hold hnew
      rcases List.mem_map.mp hold with ⟨x, hx, hxid⟩
      rcases List.mem_map.mp hnew with ⟨y, hy, hyid⟩
      exact hfree x hx y hy (hxid.trans hyid.symm)
    · intro m hm
      rcases List.mem_append.mp hm with hold | hnew
      · exact isSome_foldl_claim (Or.inl (h.pending m hold))
      · exact isSome_foldl_claim (Or.inr (List.mem_map_of_mem hnew))
    · intro m hm
      have hselected := hselects m hm
      simp only [StoreState.selects, Bool.and_eq_true, decide_eq_true_eq] at hselected
      exact hselected.1.1
  · cases hget

/-- The removal of an id that none of the messages in hand has. -/
theorem MysqlClaims.remove {globalId : Nat} (h : MysqlClaims s held)
    (hid : ∀ m ∈ held, m.globalId ≠ globalId) (temporary deleted : Bool) :
    MysqlClaims (smppDatabaseMysqlRemove s globalId temporary deleted) held := by
  unfold smppDatabaseMysqlRemove
  refine ⟨?_, h.ids, ?_⟩
  · intro table
    simp only [StoreState.release]
    split
    · simp only [StoreState.setStore, Function.update_apply]
      split
      · rename_i htable
        exact (h.keys _).sublist (List.filter_sublist.map _)
      · exact h.keys table
    · exact h.keys table
  · intro m hm
    rw [find?_release]
    simp only [hid m hm, if_false]
    split
    · exact h.pending m hm
    · exact h.pending m hm

theorem MysqlClaims.sublist (h : MysqlClaims s held) (hsub : held'.Sublist held) :
    MysqlClaims s held' :=
  ⟨h.keys, h.ids.sublist (hsub.map _), fun m hm => h.pending m (hsub.subset hm)⟩

/-! ## Redis -/

def marked (s : StoreState) (m : StoredMsg) : Nat :=
  if s.pendingMsg.find? m.globalId = some m then 1 else 0

/-- A message is in its list, popped, or claimed: in hand, marked, or both. -/
structure RedisClaims (s : StoreState) (popped held : List StoredMsg) : Prop where
  tables : ∀ table, ∀ m ∈ s.stores table, m.storeTable = table
  fresh : s.added.Nodup
  counts : ∀ m, (s.stores m.storeTable).count m + popped.count m +
    max (held.count m) (marked s m) ≤ s.added.count m

theorem marked_le_one (s : StoreState) (m : StoredMsg) : marked s m ≤ 1 := by
  unfold marked
  split
  · exact le_rfl
  · exact Nat.zero_le 1

theorem marked_claim (s : StoreState) (m x : StoredMsg) :
    marked (s.claim m) x ≤ if x = m then 1 else marked s x := by
  by_cases hx : x = m
  · simpa [hx] using marked_le_one (s.claim m) m
  · simp only [hx, if_false, marked, find?_claim]
    by_cases hid : x.globalId = m.globalId
    · simp [hid, Ne.symm hx]
    · simp [hid]

theorem marked_release (s : StoreState) (globalId : Nat) (m : StoredMsg) :
    marked (s.release globalId) m = if m.globalId = globalId then 0 else marked s m := by
  unfold marked
  rw [find?_release]
  by_cases hid : m.globalId = globalId
  · simp [hid]
  · simp [hid]

theorem RedisClaims.claim (h : RedisClaims s (m :: hand) held) :
    RedisClaims (s.claim m) hand (held ++ [m]) := by
  refine ⟨h.tables, h.fresh, fun x => ?_⟩
  have hcount := h.counts x
  have hmarked := marked_claim s m x
  change (s.stores x.storeTable).count x + _ + _ ≤ s.added.count x
  by_cases hx : x = m
  · subst hx
    simp only [List.count_cons_self, List.count_append, List.count_nil, if_true] at hcount hmarked ⊢
    omega
  · simp only [hx, if_false] at hmarked
    simp only [List.count_cons, List.count_append, List.count_nil, beq_iff_eq, Ne.symm hx,
      if_false] at hcount ⊢
    omega

theorem RedisClaims.lpush (h : RedisClaims s (m :: hand) held) (pushed : Bool) :
    RedisClaims (s.lpush m pushed) hand held := by
  cases pushed with
  | false =>
      refine ⟨h.tables, h.fresh, fun x => ?_⟩
      have hcount := h.counts x
      simp only [List.count_cons] at hcount
      change (s.stores x.storeTable).count x + _ + _ ≤ s.added.count x
      change _ + max _ (marked s x) ≤ _
      omega
  | true =>
      refine ⟨?_, h.fresh, fun x => ?_⟩
      · intro table x hx
        change x ∈ Function.update s.stores m.storeTable (m :: s.stores m.storeTable) table at hx
        rw [Function.update_apply] at hx
        split at hx
        · rename_i htable
          rcases List.mem_cons.mp hx with rfl | hold
          · exact htable.symm
          · rw [htable]
            exact h.tables _ x hold
        · exact h.tables table x hx
      · have hcount := h.counts x
        change (Function.update s.stores m.storeTable (m :: s.stores m.storeTable)
          x.storeTable).count x + hand.count x + max _ (marked s x) ≤ s.added.count x
        rw [Function.update_apply]
        simp only [List.count_cons] at hcount
        split
        · rename_i htable
          simp only [List.count_cons, ← htable]
          omega
        · omega

/-- The head of a list is popped. -/
theorem RedisClaims.pop (h : RedisClaims s [] held) (table : Octstr) (count : Nat) :
    RedisClaims (s.setStore table ((s.stores table).drop count))
      ((s.stores table).take count) held := by
  refine ⟨?_, h.fresh, fun x => ?_⟩
  · intro table' x hx
    simp only [StoreState.setStore, Function.update_apply] at hx
    split at hx
    · rename_i htable
      rw [htable]
      exact h.tables table x (List.mem_of_mem_drop hx)
    · exact h.tables table' x hx
  · have hcount := h.counts x
    change (Function.update s.stores table ((s.stores table).drop count)
      x.storeTable).count x + _ + max _ (marked s x) ≤ s.added.count x
    rw [Function.update_apply]
    split
    · rename_i htable
      have hsplit : ((s.stores table).take count).count x + ((s.stores table).drop count).count x =
          (s.stores table).count x := by
        rw [← List.count_append, List.take_append_drop]
      simp only [htable, List.count_nil] at hcount
      omega
    · rename_i htable
      have hnone : ((s.stores table).take count).count x = 0 := by
        refine List.count_eq_zero.mpr (fun hx => htable ?_)
        exact h.tables table x (List.mem_of_mem_take hx)
      simp only [List.count_nil] at hcount
      omega

theorem RedisClaims.claimBatch {smsType : Int} {service : Option Octstr}
    {pushed : StoredMsg → Bool} (h : RedisClaims s hand held)
    (hbatch : claimBatch s smsType service pushed hand = (t, ms)) :
    RedisClaims t [] (held ++ ms) ∧ Frame s t ∧ ∀ m ∈ ms, m.msg.smsType = smsType := by
  induction hand generalizing s held ms with
  | nil =>
      cases hbatch
      exact ⟨by simpa using h, Frame.refl _, by simp⟩
  | cons m hand ih =>
      simp only [Database.claimBatch] at hbatch
      split at hbatch
      · rename_i hmatches
        cases hrest : Database.claimBatch (s.claim m) smsType service pushed hand with
        | mk u picked =>
            rw [hrest] at hbatch
            cases hbatch
            rcases ih h.claim hrest with ⟨hclaims, hframe, htype⟩
            refine ⟨by simpa using hclaims, (frame_claim s m).trans hframe, ?_⟩
            intro x hx
            rcases List.mem_cons.mp hx with rfl | hx
            · simp only [smppRedisStoreMatches, Bool.and_eq_true, decide_eq_true_eq] at hmatches
              exact hmatches.1
            · exact htype x hx
      · rcases ih (h.lpush (pushed m)) hbatch with ⟨hclaims, hframe, htype⟩
        exact ⟨hclaims, (frame_lpush s m (pushed m)).trans hframe, htype⟩

/-- Each round of the loop adds what it picked to the messages in hand. -/
theorem RedisClaims.getStoredLoop {table : Octstr} {smsType : Int} {service : Option Octstr}
    {pushed : StoredMsg → Bool} {limit replies emptyBatches : Nat} {messages : List StoredMsg}
    (h : RedisClaims s [] (held ++ messages)) (htype : ∀ m ∈ messages, m.msg.smsType = smsType)
    (hloop : getStoredLoop s table smsType service pushed limit replies messages emptyBatches =
      (t, ms)) :
    RedisClaims t [] (held ++ ms) ∧ Frame s t ∧ ∀ m ∈ ms, m.msg.smsType = smsType := by
  induction replies generalizing s messages emptyBatches with
  | zero =>
      cases hloop
      exact ⟨h, Frame.refl _, htype⟩
  | succ replies ih =>
      simp only [Database.getStoredLoop] at hloop
      split at hloop
      · split at hloop
        · cases hloop
          exact ⟨h, Frame.refl _, htype⟩
        · rename_i first rest hpopped
          have hpop := h.pop table (limit - messages.length)
          rw [hpopped] at hpop
          rcases hpop.claimBatch rfl with ⟨hclaims, hframe, hbatch⟩
          rw [List.append_assoc] at hclaims
          have htype' : ∀ m ∈ messages ++ (Database.claimBatch (s.setStore table
              ((s.stores table).drop (limit - messages.length))) smsType service pushed
                (first :: rest)).2, m.msg.smsType = smsType := by
            intro m hm
            rcases List.mem_append.mp hm with hold | hnew
            · exact htype m hold
            · exact hbatch m hnew
          rcases ih hclaims htype' hloop with ⟨hclaims', hframe', htype''⟩
          have hset : Frame s (s.setStore table
              ((s.stores table).drop (limit - messages.length))) := ⟨rfl, rfl, rfl, rfl⟩
          exact ⟨hclaims', (hset.trans hframe).trans hframe', htype''⟩
      · cases hloop
        exact ⟨h, Frame.refl _, htype⟩

/-- An entry goes back to its list only if no message in hand has its id. -/
theorem RedisClaims.remove {globalId : Nat} {temporary : Bool} (h : RedisClaims s [] held)
    (hid : temporary = true → ∀ m ∈ held, m.globalId ≠ globalId) (pushed : Bool) :
    RedisClaims (smppDatabaseRedisRemove s globalId temporary pushed) [] held := by
  unfold smppDatabaseRedisRemove
  split
  · exact h
  · rename_i m hfind
    have hm : m.globalId = globalId := Keyed.key_of_find? hfind
    cases temporary with
    | false =>
        refine ⟨h.tables, h.fresh, fun x => ?_⟩
        have hcount := h.counts x
        have hmarked := marked_release s globalId x
        change (s.stores x.storeTable).count x + _ + max _ (marked (s.release globalId) x) ≤
          s.added.count x
        split at hmarked <;> omega
    | true =>
        -- the mark of `m` is what its new place in the list is paid with
        have hreleased : RedisClaims (s.release globalId) [m] held := by
          refine ⟨h.tables, h.fresh, fun x => ?_⟩
          have hcount := h.counts x
          have hmarked := marked_release s globalId x
          change (s.stores x.storeTable).count x + _ + max _ (marked (s.release globalId) x) ≤
            s.added.count x
          by_cases hx : x = m
          · subst hx
            have hone : marked s x = 1 := by simp [marked, hm, hfind]
            have hnone : held.count x = 0 :=
              List.count_eq_zero.mpr (fun hmem => hid rfl x hmem hm)
            simp only [hm, if_true] at hmarked
            simp only [List.count_nil, List.count_singleton_self] at hcount ⊢
            omega
          · simp only [List.count_nil, List.count_singleton, beq_iff_eq, Ne.symm hx, if_false]
              at hcount ⊢
            split at hmarked <;> omega
        cases pushed with
        | true => exact hreleased.lpush true
        | false => exact hreleased.lpush false

theorem RedisClaims.sublist (h : RedisClaims s [] held) (hsub : held'.Sublist held) :
    RedisClaims s [] held' := by
  refine ⟨h.tables, h.fresh, fun m => ?_⟩
  have hcount := h.counts m
  have hle := hsub.count_le m
  omega

/-! ## Either backend -/

def Claims (s : StoreState) (held : List StoredMsg) : Prop :=
  match s.backend with
  | .mysql => MysqlClaims s held
  | .redis => RedisClaims s [] held

theorem claims_mysql (hbackend : s.backend = .mysql) : Claims s held ↔ MysqlClaims s held := by
  simp [Claims, hbackend]

theorem claims_redis (hbackend : s.backend = .redis) : Claims s held ↔ RedisClaims s [] held := by
  simp [Claims, hbackend]

/-- Who has claimed what is no part of the store. -/
theorem Claims.of_eq (h : Claims s held) (hbackend : t.backend = s.backend)
    (hstores : t.stores = s.stores) (hpending : t.pendingMsg = s.pendingMsg)
    (hadded : t.added = s.added) : Claims t held := by
  cases hs : s.backend with
  | mysql =>
      have hmysql := (claims_mysql hs).mp h
      refine (claims_mysql (hbackend.trans hs)).mpr ⟨?_, hmysql.ids, ?_⟩
      · simpa [hstores] using hmysql.keys
      · simpa [hpending] using hmysql.pending
  | redis =>
      have hredis := (claims_redis hs).mp h
      refine (claims_redis (hbackend.trans hs)).mpr ⟨?_, ?_, ?_⟩
      · simpa [hstores] using hredis.tables
      · simpa [hadded] using hredis.fresh
      · simpa [hstores, hadded, marked, hpending] using hredis.counts

/-- The messages that `get_stored` gives join those in hand. -/
theorem Claims.getStored {smsType : Int} {service : Option Octstr} {limit : Nat}
    {kind : StoreKind} {answer : Answer} (h : Claims s held)
    (hget : getStored s smsType service limit kind answer = some (t, ms)) :
    Claims t (held ++ ms) ∧ Frame s t ∧ ∀ m ∈ ms, m.msg.smsType = smsType := by
  unfold Database.getStored at hget
  split at hget
  · rename_i hbackend
    rcases ((claims_mysql hbackend).mp h).getStored hget with ⟨hclaims, hframe, htype⟩
    exact ⟨(claims_mysql (hframe.backend.trans hbackend)).mpr hclaims, hframe, htype⟩
  · rename_i hbackend
    have hbalance : RedisClaims s [] (held ++ []) := by
      simpa using (claims_redis hbackend).mp h
    rcases hbalance.getStoredLoop (by simp) (Option.some.inj hget) with ⟨hclaims, hframe, htype⟩
    exact ⟨(claims_redis (hframe.backend.trans hbackend)).mpr hclaims, hframe, htype⟩
  · cases hget

theorem Claims.remove {globalId : Nat} {temporary : Bool} (h : Claims s held)
    (hid : s.backend = .mysql ∨ temporary = true → ∀ m ∈ held, m.globalId ≠ globalId)
    (done : Bool) : Claims (smppDatabaseRemove s globalId temporary done) held := by
  have hframe := frame_remove s globalId temporary done
  cases hbackend : s.backend with
  | mysql =>
      apply (claims_mysql (hframe.backend.trans hbackend)).mpr
      simp only [smppDatabaseRemove, hbackend]
      exact ((claims_mysql hbackend).mp h).remove (hid (Or.inl hbackend)) temporary done
  | redis =>
      apply (claims_redis (hframe.backend.trans hbackend)).mpr
      simp only [smppDatabaseRemove, hbackend]
      exact ((claims_redis hbackend).mp h).remove (fun htmp => hid (Or.inr htmp)) done

theorem Claims.sublist (h : Claims s held) (hsub : held'.Sublist held) : Claims s held' := by
  cases hbackend : s.backend with
  | mysql => exact (claims_mysql hbackend).mpr (((claims_mysql hbackend).mp h).sublist hsub)
  | redis => exact (claims_redis hbackend).mpr (((claims_redis hbackend).mp h).sublist hsub)

theorem Claims.nodup (h : Claims s held) : held.Nodup := by
  cases hbackend : s.backend with
  | mysql => exact ((claims_mysql hbackend).mp h).ids.of_map
  | redis =>
      have hredis := (claims_redis hbackend).mp h
      refine List.nodup_iff_count_le_one.mpr (fun m => ?_)
      have hcount := hredis.counts m
      have hone := List.nodup_iff_count_le_one.mp hredis.fresh m
      omega

/-- The message can be claimed again: it is in its table or list, and not marked. -/
def StoreState.Available (s : StoreState) (m : StoredMsg) : Prop :=
  m ∈ s.stores m.storeTable ∧ s.pendingMsg.find? m.globalId = none

theorem Claims.not_available (h : Claims s held) (hm : m ∈ held) : ¬ s.Available m := by
  rintro ⟨hstored, hfree⟩
  cases hbackend : s.backend with
  | mysql =>
      have hmarked := ((claims_mysql hbackend).mp h).pending m hm
      rw [hfree] at hmarked
      cases hmarked
  | redis =>
      have hredis := (claims_redis hbackend).mp h
      have hcount := hredis.counts m
      have hone := List.nodup_iff_count_le_one.mp hredis.fresh m
      have hheld : 0 < held.count m := List.count_pos_iff.mpr hm
      have hlist : 0 < (s.stores m.storeTable).count m := List.count_pos_iff.mpr hstored
      omega

/-! ## Steps -/

/-- No other thread removes the id of an MT message whose callback has not run; on Redis it may,
if it does not give the entry back. -/
def SparesClaims (s : StoreState) : Label → Prop
  | .remove globalId temporary _ =>
      s.backend = .mysql ∨ temporary = true → ∀ m ∈ s.inFlight, m.globalId ≠ globalId
  | _ => True

/-- All messages the requeue thread gets are MT messages, and queued. -/
theorem foldl_requeueMt {done : Bool} (htype : ∀ m ∈ ms, m.msg.smsType = smsTypeMtPush) :
    ms.foldl (fun t m => requeueMt t done m) t = { t with inFlight := t.inFlight ++ ms } := by
  induction ms generalizing t with
  | nil => simp
  | cons m ms ih =>
      have hm : requeueMt t done m = { t with inFlight := t.inFlight ++ [m] } := by
        simp [requeueMt, htype m (by simp)]
      rw [List.foldl_cons, hm, ih (fun x hx => htype x (by simp [hx]))]
      simp

theorem claims_add {kind : StoreKind} {globalId : Nat} {msg : Sms} (h : Claims s s.inFlight)
    (hstep : step s (.add kind globalId msg) = some t) : Claims t t.inFlight := by
  simp only [step] at hstep
  split at hstep
  · cases hstep
  · rename_i hfresh
    split at hstep
    · rename_i hbackend
      split at hstep
      · cases hstep
      · rename_i hkey
        cases hstep
        have hinserted := ((claims_mysql hbackend).mp h).insert hkey
        refine (claims_mysql ?_).mpr ⟨hinserted.keys, hinserted.ids, hinserted.pending⟩
        exact hbackend
    · rename_i hbackend
      cases hstep
      have hredis := (claims_redis hbackend).mp h
      -- the new message counts as stored before it is pushed
      have hstored : RedisClaims { s with added := newMsg s kind globalId msg :: s.added }
          [newMsg s kind globalId msg] s.inFlight := by
        refine ⟨hredis.tables, List.nodup_cons.mpr ⟨hfresh, hredis.fresh⟩, fun x => ?_⟩
        have hcount := hredis.counts x
        change (s.stores x.storeTable).count x + _ + max _ (marked s x) ≤ _
        simp only [List.count_cons, List.count_nil] at hcount ⊢
        omega
      have hpushed := hstored.lpush true
      refine (claims_redis ?_).mpr ⟨hpushed.tables, hpushed.fresh, hpushed.counts⟩
      exact hbackend

theorem claims_result {status : Int} {done : Bool} (h : Claims s s.inFlight)
    (hstep : step s (.result m status done) = some t) : Claims t t.inFlight := by
  simp only [step] at hstep
  split at hstep
  · rename_i hm
    cases hstep
    have herased : Claims { s with inFlight := s.inFlight.erase m } (s.inFlight.erase m) :=
      (h.sublist List.erase_sublist).of_eq rfl rfl rfl rfl
    have hremoved : Claims (smppDatabaseRemove { s with inFlight := s.inFlight.erase m }
        m.globalId false done) (s.inFlight.erase m) := by
      refine herased.remove ?_ done
      rintro (hmysql | htemporary)
      · -- its id is no other message's
        have hids := ((claims_mysql (s := s) hmysql).mp h).ids
        intro x hx hid
        have hxm : x = m := List.inj_on_of_nodup_map hids (List.mem_of_mem_erase hx) hm hid
        rw [hxm] at hx
        exact h.nodup.not_mem_erase hx
      · cases htemporary
    have hkept := (frame_remove { s with inFlight := s.inFlight.erase m } m.globalId false
      done).inFlight
    unfold smppBearerboxRequeueResult
    split
    · rw [hkept]
      exact hremoved
    · split
      · rw [hkept]
        exact hremoved
      · exact herased
  · cases hstep

theorem claims_step {l : Label} (h : Claims s s.inFlight) (hspares : SparesClaims s l)
    (hstep : step s l = some t) : Claims t t.inFlight := by
  cases l with
  | add kind globalId msg => exact claims_add h hstep
  | drain answer done =>
      simp only [step] at hstep
      split at hstep
      · rcases Option.map_eq_some_iff.mp hstep with ⟨⟨u, messages⟩, hget, rfl⟩
        rcases h.getStored hget with ⟨hclaims, hframe, htype⟩
        rw [foldl_requeueMt htype, hframe.inFlight]
        exact hclaims.of_eq rfl rfl rfl rfl
      · cases hstep
  | getStored smsType service limit answer =>
      simp only [step] at hstep
      split at hstep
      · rcases Option.map_eq_some_iff.mp hstep with ⟨⟨u, messages⟩, hget, rfl⟩
        rcases h.getStored hget with ⟨hclaims, hframe, -⟩
        have hkept : Claims u u.inFlight := by
          rw [hframe.inFlight]
          exact hclaims.sublist (List.sublist_append_left s.inFlight messages)
        exact hkept.of_eq rfl rfl rfl rfl
      · cases hstep
  | result m status done => exact claims_result h hstep
  | remove globalId temporary done =>
      simp only [step] at hstep
      split at hstep
      · cases hstep
        have hremoved := h.remove hspares done
        rw [(frame_remove s globalId temporary done).inFlight]
        exact hremoved
      · cases hstep

/-! ## Runs -/

theorem claims_init (settings : StoreSettings) (backend : Backend) :
    Claims (storeInit settings backend) [] := by
  cases backend with
  | mysql => exact ⟨by simp [storeInit], List.nodup_nil, by simp⟩
  | redis =>
      refine ⟨by simp [storeInit], List.nodup_nil, fun m => ?_⟩
      simp [storeInit, marked]

/-- What the requeue thread hands out it hands out once; and of the statuses a callback can be run
with, those that are only logged are exactly those after which the message is out of reach. -/
theorem mt_claims_settle {settings : StoreSettings} {backend : Backend} {ls : List Label}
    (hrun : Run step SparesClaims (storeInit settings backend) ls s) :
    s.inFlight.Nodup ∧ ∀ m status done t, step s (.result m status done) = some t →
      ((status ≠ 0 → status ≠ smppEsmeRsubmitfail → t.Available m) ↔
        status = 0 ∨ status = smppEsmeRsubmitfail) := by
  have hclaims : Claims s s.inFlight :=
    hrun.invariant (fun s => Claims s s.inFlight)
      (fun _ _ _ h hspares hstep => claims_step h hspares hstep) (claims_init settings backend)
  refine ⟨hclaims.nodup, ?_⟩
  intro m status done t hstep
  simp only [step] at hstep
  split at hstep
  · rename_i hm
    cases hstep
    constructor
    · intro hretry
      by_contra hstatus
      rcases not_or.mp hstatus with ⟨hsent, hfailed⟩
      have havailable := hretry hsent hfailed
      simp only [smppBearerboxRequeueResult, hsent, hfailed, if_false] at havailable
      exact hclaims.not_available hm havailable
    · rintro (hsent | hfailed) hnotSent hnotFailed
      · exact absurd hsent hnotSent
      · exact absurd hfailed hnotFailed
  · cases hstep

instance decidableSparesClaims (s : StoreState) : (l : Label) → Decidable (SparesClaims s l)
  | .remove globalId temporary _ => inferInstanceAs (Decidable
      (s.backend = .mysql ∨ temporary = true → ∀ m ∈ s.inFlight, m.globalId ≠ globalId))
  | .add _ _ _ | .drain _ _ | .getStored _ _ _ _ | .result _ _ _ => isTrue trivial

def sampleSettings : StoreSettings where
  databaseStorePrimary := false
  databaseEnableQueue := true
  databaseStoreTable := octstrImm "store"
  databaseQueueStoreTable := none
  databaseUserTable := none
  accountStorePrimary := fun _ => none
  sameService := fun a b => a == b

def sampleMt : StoredMsg where
  storeTable := octstrImm "store"
  globalId := 1
  msg := { msgCreateSms (Vector.replicate 16 0) with smsType := smsTypeMtPush }

/-- The answer that gives one message, on either backend. -/
def sampleAnswer : Backend → Answer
  | .mysql => .rows [sampleMt]
  | .redis => .replies 1 (fun _ => true)

/-- A message is stored and claimed. -/
def sampleClaim (backend : Backend) : List Label :=
  [.add .bearerboxQueue 1 sampleMt.msg, .drain (sampleAnswer backend) true]

theorem mt_claims_settle_sample :
    ∃ s, Run step SparesClaims (storeInit sampleSettings .redis) (sampleClaim .redis) s ∧
      s.inFlight = [sampleMt] ∧
        (s.inFlight.Nodup ∧ ∀ m status done t, step s (.result m status done) = some t →
          ((status ≠ 0 → status ≠ smppEsmeRsubmitfail → t.Available m) ↔
            status = 0 ∨ status = smppEsmeRsubmitfail)) := by
  have hexec : (execute step SparesClaims (storeInit sampleSettings .redis)
      (sampleClaim .redis)).map StoreState.inFlight = some [sampleMt] := by decide +kernel
  rcases Option.map_eq_some_iff.mp hexec with ⟨s, hs, hclaimed⟩
  have hrun := run_of_execute hs
  exact ⟨s, hrun, hclaimed, mt_claims_settle hrun⟩

/-- On this backend the sample message is out of reach after its connection was lost before the
ack. -/
def SticksSample (backend : Backend) : Prop :=
  ∃ s t, Run step SparesClaims (storeInit sampleSettings backend) (sampleClaim backend) s ∧
    step s (.result sampleMt smppEsmeRsyserr true) = some t ∧ ¬ t.Available sampleMt

theorem sticksSample_of_execute {backend : Backend}
    (h : ((execute step SparesClaims (storeInit sampleSettings backend)
      (sampleClaim backend)).bind (fun s =>
        (step s (.result sampleMt smppEsmeRsyserr true)).map (fun t =>
          decide (sampleMt ∈ t.stores sampleMt.storeTable) &&
            (t.pendingMsg.find? sampleMt.globalId).isNone))) = some false) :
    SticksSample backend := by
  rcases Option.bind_eq_some_iff.mp h with ⟨s, hs, hresult⟩
  rcases Option.map_eq_some_iff.mp hresult with ⟨t, ht, hout⟩
  refine ⟨s, t, run_of_execute hs, ht, ?_⟩
  rintro ⟨hstored, hfree⟩
  simp [hstored, hfree] at hout

theorem mt_claim_stuck_after_lost_connection : SticksSample .mysql ∧ SticksSample .redis := by
  constructor
  · apply sticksSample_of_execute
    decide +kernel
  · apply sticksSample_of_execute
    decide +kernel

end Database
end Ksmppd
