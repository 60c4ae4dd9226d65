import Mathlib.Data.Multiset.Bind
import Ksmppd.Redis.PduIndex
import Ksmppd.Redis.StoreCalls

/-!
# Conservation — no text of a store is lost or doubled

In every interleaving each text that was in a store list or has been added to it is in one place: in
the list, among the entries a call has popped, claimed, or removed for good.  A text can only get
lost where its message is claimed and a second one is claimed under the same number; the numbers of
one table come from one counter, so that within a table this does not happen.
-/

namespace Ksmppd
namespace Redis

open Lib
open Database (StoreSettings StoreKind smppRedisNormService)

variable {c : StoreContext} {s s' start : SharedStore} {t t' : StoreCall} {q q' : StorePool}
  {l : PoolLabel StoreArgs} {i : Nat} {key listKey table text : Octstr}

/-! ## What calls bring -/

/-- A text is added to its list as it is. -/
def StoreCall.AddsWhole (c : StoreContext) : StoreCall → Prop
  | .addMessage kind m (.numbered globalId) =>
      PushedWhole c.push (c.queueKey kind) (c.text globalId m)
  | _ => True

/-- The text the next step of a call adds to a list. -/
def StoreCall.adds (c : StoreContext) (key : Octstr) : StoreCall → Multiset Octstr
  | .addMessage kind m (.numbered globalId) => ofList key (c.queueKey kind) {c.text globalId m}
  | _ => 0

theorem mem_ofList {texts : Multiset Octstr} :
    text ∈ ofList key listKey texts ↔ listKey = key ∧ text ∈ texts := by
  unfold ofList
  split
  · rename_i hkey
    simp [hkey]
  · rename_i hkey
    simp [hkey]

theorem move_brought (h : StoreMove c s t s' t') (key : Octstr) :
    t'.brought c key = t.brought c key + t.adds c key ∧ t.dropped key = 0 := by
  cases h with
  | add => exact ⟨(zero_add _).symm, rfl⟩
  | track => exact ⟨(add_zero _).symm, rfl⟩
  | @take globalId temporary entry hfind =>
      cases temporary with
      | true => exact ⟨rfl, rfl⟩
      | false => exact ⟨rfl, rfl⟩
  | _ => exact ⟨rfl, rfl⟩

/-- A call that has just been entered has nothing yet. -/
theorem call_nothing (a : StoreArgs) (key : Octstr) :
    (a.call c).held key = 0 ∧ (a.call c).brought c key = 0 ∧ (a.call c).dropped key = 0 := by
  cases a with
  | addMessage kind m => exact ⟨rfl, rfl, rfl⟩
  | getStored smsType service limit kind => exact ⟨rfl, rfl, rfl⟩
  | remove globalId temporary => exact ⟨rfl, rfl, rfl⟩

/-! ## The balance of a run -/

/-- What was there and what was brought accounts for all that is there and all that was dropped. -/
structure Accounted (c : StoreContext) (start : SharedStore) (q : StorePool) : Prop where
  le : ∀ key, around key q + q.total (StoreCall.dropped key) ≤
    start.kept key + q.total (StoreCall.brought c key)
  whole : ∀ t ∈ q.calls, ∀ key, ∀ text ∈ t.brought c key, PushedWhole c.push key text

/-- Every text can go back to the list it is from. -/
theorem Accounted.pushedWhole (h : Accounted c start q)
    (hstart : ∀ key, ∀ text ∈ start.kept key, PushedWhole c.push key text)
    (htext : text ∈ around key q) : PushedWhole c.push key text := by
  have hmem := Multiset.mem_of_le (h.le key) (Multiset.mem_add.mpr (Or.inl htext))
  rcases Multiset.mem_add.mp hmem with hold | hnew
  · exact hstart key text hold
  · rcases Pool.mem_total.mp hnew with ⟨t, ht, hbrought⟩
    exact h.whole t ht key text hbrought

theorem held_mem_around (hi : q.calls[i]? = some t) (h : text ∈ t.held key) :
    text ∈ around key q :=
  Multiset.mem_add.mpr (Or.inr (Pool.mem_total.mpr ⟨t, List.mem_of_getElem? hi, h⟩))

theorem Accounted.pushesWhole (h : Accounted c start q)
    (hstart : ∀ key, ∀ text ∈ start.kept key, PushedWhole c.push key text)
    (hi : q.calls[i]? = some t) (hadds : t.AddsWhole c) : t.PushesWhole c := by
  cases t with
  | addMessage kind m phase =>
      cases phase with
      | numbered globalId => exact hadds
      | called => trivial
      | pushed globalId => trivial
      | returned globalId => trivial
  | getStored r limit phase =>
      cases phase with
      | batch claims emptyBatches batchPicked items =>
          cases items with
          | nil => trivial
          | cons item items =>
              refine h.pushedWhole hstart (held_mem_around hi ?_)
              exact mem_ofList.mpr ⟨rfl, List.mem_cons_self⟩
      | round claims emptyBatches => trivial
      | returned claims => trivial
  | remove globalId temporary phase =>
      cases phase with
      | taken entry =>
          refine h.pushedWhole hstart (held_mem_around hi ?_)
          exact mem_ofList.mpr ⟨rfl, Multiset.mem_singleton_self _⟩
      | called => trivial
      | pushed entry => trivial
      | restored entry => trivial
      | dropped entry => trivial
      | missing => trivial

/-- The step of one call, for the texts of all of them. -/
theorem advance_balance (hi : q.calls[i]? = some t) (hmove : StoreMove c q.shared t s' t')
    (hwhole : t.PushesWhole c) (key : Octstr) :
    let q' : StorePool := { shared := s', calls := q.calls.set i t' }
    ∃ lost : Multiset Octstr,
      around key q' + q'.total (StoreCall.dropped key) + q.total (StoreCall.brought c key) + lost =
        around key q + q.total (StoreCall.dropped key) + q'.total (StoreCall.brought c key) ∧
      (t.ClaimsFree c q.shared → lost = 0) := by
  intro q'
  rcases move_balance hmove hwhole key with ⟨lost, hlost, hfree⟩
  refine ⟨lost, ?_, hfree⟩
  have hheld := Pool.total_advance (StoreCall.held key) hi s' t'
  have hdropped := Pool.total_advance (StoreCall.dropped key) hi s' t'
  have hbrought := Pool.total_advance (StoreCall.brought c key) hi s' t'
  ext x
  have hlost' := congrArg (Multiset.count x) hlost
  have hheld' := congrArg (Multiset.count x) hheld
  have hdropped' := congrArg (Multiset.count x) hdropped
  have hbrought' := congrArg (Multiset.count x) hbrought
  simp only [Multiset.count_add] at hlost' hheld' hdropped' hbrought'
  simp only [around, Multiset.count_add, q']
  omega

theorem accounted_enter (h : Accounted c start q) (a : StoreArgs) :
    Accounted c start { q with calls := q.calls ++ [a.call c] } where
  le := by
    intro key
    rcases call_nothing (c := c) a key with ⟨hheld, hbrought, hdropped⟩
    unfold around
    rw [Pool.total_enter _ hheld, Pool.total_enter _ hbrought, Pool.total_enter _ hdropped]
    exact h.le key
  whole := by
    refine forall_calls_append h.whole ?_
    intro key text htext
    rw [(call_nothing a key).2.1] at htext
    exact absurd htext (Multiset.notMem_zero text)

theorem accounted_step (hstart : ∀ key, ∀ text ∈ start.kept key, PushedWhole c.push key text)
    (h : Accounted c start q) (hok : Advances (StoreCall.AddsWhole c) q l)
    (hstep : storeStep c q l = some q') : Accounted c start q' := by
  cases poolStep_move hstep with
  | @enter a t henter =>
      cases henter
      exact accounted_enter h a
  | @advance i t t' s hi hadvance =>
      have hmove := storeCommand_move hadvance
      have hwhole := h.pushesWhole hstart hi (hok t hi)
      refine ⟨?_, ?_⟩
      · intro key
        rcases advance_balance hi hmove hwhole key with ⟨lost, hlost, -⟩
        -- what is lost in this step was accounted for before
        have hle := h.le key
        rw [Multiset.le_iff_count] at hle ⊢
        intro x
        have hx := hle x
        have hlost' := congrArg (Multiset.count x) hlost
        simp only [Multiset.count_add] at hx hlost' ⊢
        omega
      · refine forall_calls_set h.whole ?_ (fun _ _ hu => hu)
        intro key text htext
        rw [(move_brought hmove key).1] at htext
        rcases Multiset.mem_add.mp htext with hold | hnew
        · exact h.whole t (List.mem_of_getElem? hi) key text hold
        · -- the text that is added in this step
          have hadds := hok t hi
          cases hmove with
          | add =>
              rcases mem_ofList.mp hnew with ⟨rfl, hmem⟩
              rw [Multiset.mem_singleton.mp hmem]
              exact hadds
          | _ => exact absurd hnew (Multiset.notMem_zero text)

theorem accounted_init : Accounted c start { shared := start, calls := [] } where
  le := by
    intro key
    simp [around, Pool.total]
  whole := by simp

theorem accounted_run (hstart : ∀ key, ∀ text ∈ start.kept key, PushedWhole c.push key text)
    {ls : List (PoolLabel StoreArgs)}
    (hrun : Run (storeStep c) (Advances (StoreCall.AddsWhole c)) { shared := start, calls := [] }
      ls q) : Accounted c start q :=
  hrun.invariant (Accounted c start)
    (fun _ _ _ h hok hstep => accounted_step hstart h hok hstep) accounted_init

/-- However the calls interleave, and whatever tables and numbers they are about: no text of a list
is ever in two places, and none comes from nowhere. -/
theorem texts_never_doubled
    (hstart : ∀ key, ∀ text ∈ start.kept key, PushedWhole c.push key text)
    {ls : List (PoolLabel StoreArgs)}
    (hrun : Run (storeStep c) (Advances (StoreCall.AddsWhole c)) { shared := start, calls := [] }
      ls q) (key : Octstr) :
    around key q + q.total (StoreCall.dropped key) ≤
      start.kept key + q.total (StoreCall.brought c key) :=
  (accounted_run hstart hrun).le key

/-! ## Numbers -/

/-- The number `smpp_redis_claim_store_message` reads from a text, if it is an object. -/
def numberOf (p : Parser) (text : Octstr) : Multiset Nat :=
  (p.jsonLoads text).elim 0 (fun root => {(smppRedisJsonGetLong root "global_id" % 2 ^ 64).toNat})

theorem numberOf_of_storedMsg {p : Parser} {m : Database.StoredMsg}
    (h : storedMsg p table text = some m) : numberOf p text = {m.globalId} := by
  rcases Option.map_eq_some_iff.mp h with ⟨root, hroot, rfl⟩
  simp [numberOf, hroot]

/-- The number a call has been given, and has not pushed yet. -/
def StoreCall.assigned : StoreCall → Multiset Nat
  | .addMessage _ _ (.numbered globalId) => {globalId}
  | _ => 0

/-- The numbers that are out: those of the texts of a table, and those about to be used. -/
def numbers (c : StoreContext) (table : Octstr) (q : StorePool) : Multiset Nat :=
  (around (smppRedisStoreQueueKeyFor table) q).bind (numberOf c.parser) +
    q.total StoreCall.assigned

/-- The call is about this table. -/
def StoreCall.On (c : StoreContext) (table : Octstr) : StoreCall → Prop
  | .addMessage kind _ _ => c.table kind = table
  | .getStored r _ _ => r.storeTable = table
  | .remove _ _ _ => True

/-- What is added can be held by jansson under its number, and is pushed as it is. -/
def StoreCall.AddsReadable (c : StoreContext) : StoreCall → Prop
  | .addMessage kind m (.numbered globalId) =>
      Storable m ∧ globalId < 2 ^ 63 ∧ PushedWhole c.push (c.queueKey kind) (c.text globalId m)
  | _ => True

theorem StoreCall.AddsReadable.addsWhole (h : t.AddsReadable c) : t.AddsWhole c := by
  cases t with
  | addMessage kind m phase =>
      cases phase with
      | numbered globalId => exact h.2.2
      | called => trivial
      | pushed globalId => trivial
      | returned globalId => trivial
  | getStored r limit phase => trivial
  | remove globalId temporary phase => trivial

/-- All calls are about one table, and what they add can be read back. -/
def OnTable (c : StoreContext) (table : Octstr) (q : StorePool) : PoolLabel StoreArgs → Prop
  | .enter a => (a.call c).On c table
  | .advance i => Advances (StoreCall.AddsReadable c) q (.advance i)

/-- The numbers of a table are out once each, and its counter is not behind. -/
structure WellNumbered (c : StoreContext) (table : Octstr) (q : StorePool) : Prop where
  nodup : (numbers c table q).Nodup
  bounded : ∀ n ∈ numbers c table q,
    n ≤ q.shared.keys.counters (smppRedisStoreIdKeyFor table)
  pending : ∀ entry ∈ q.shared.pendingMsg.entries,
    entry.listKey = smppRedisStoreQueueKeyFor table ∧
      numberOf c.parser entry.json = {entry.globalId}
  calls : ∀ t ∈ q.calls, t.On c table

theorem move_on (h : StoreMove c s t s' t') (hon : t.On c table) : t'.On c table := by
  cases h with
  | take hfind => trivial
  | _ => exact hon

/-- The number that `INCR` gives in the next step of a call. -/
def StoreCall.fresh (c : StoreContext) (s : SharedStore) : StoreCall → Multiset Nat
  | .addMessage kind _ .called => {s.keys.counters (smppRedisStoreIdKeyFor (c.table kind)) + 1}
  | _ => 0

/-- What a call is about to add has the number the call was given. -/
theorem move_assigned (hj : c.jansson.Documented) (hreads : Reads c.jansson c.parser)
    (h : StoreMove c s t s' t') (hadds : t.AddsReadable c) (key : Octstr) :
    t'.assigned + (t.adds c key).bind (numberOf c.parser) ≤ t.assigned + t.fresh c s := by
  cases h with
  | number => simp [StoreCall.assigned, StoreCall.adds, StoreCall.fresh]
  | @add kind m globalId =>
      have hnumber : numberOf c.parser (c.text globalId m) = {globalId} :=
        numberOf_of_storedMsg (storedMsg_addMessageJson hj hreads hadds.1 hadds.2.1 (c.table kind))
      simp only [StoreCall.assigned, StoreCall.adds, StoreCall.fresh, ofList]
      split
      · simp [hnumber]
      · simp
  | @take globalId temporary entry hfind =>
      cases temporary with
      | true => exact le_rfl
      | false => exact le_rfl
  | _ => exact le_rfl

/-- A step makes no numbers but the one that `INCR` gives. -/
theorem advance_numbers (hj : c.jansson.Documented) (hreads : Reads c.jansson c.parser)
    (hi : q.calls[i]? = some t) (hmove : StoreMove c q.shared t s' t') (hwhole : t.PushesWhole c)
    (hadds : t.AddsReadable c) (table : Octstr) :
    numbers c table { shared := s', calls := q.calls.set i t' } ≤
      numbers c table q + t.fresh c q.shared := by
  obtain ⟨key, hkey⟩ : ∃ key, smppRedisStoreQueueKeyFor table = key := ⟨_, rfl⟩
  rcases advance_balance hi hmove hwhole key with ⟨lost, hlost, -⟩
  rcases move_brought hmove key with ⟨hbrought, hdropped⟩
  have htotal := Pool.total_advance (StoreCall.brought c key) hi s' t'
  have hgone := Pool.total_advance (StoreCall.dropped key) hi s' t'
  have htexts : around key { shared := s', calls := q.calls.set i t' } ≤
      around key q + t.adds c key := by
    rw [Multiset.le_iff_count]
    intro x
    have hlost' := congrArg (Multiset.count x) hlost
    have hbrought' := congrArg (Multiset.count x) hbrought
    have hdropped' := congrArg (Multiset.count x) hdropped
    have htotal' := congrArg (Multiset.count x) htotal
    have hgone' := congrArg (Multiset.count x) hgone
    simp only [Multiset.count_add, Multiset.count_zero] at *
    omega
  have hnumbers : (around key { shared := s', calls := q.calls.set i t' }).bind
      (numberOf c.parser) ≤
        (around key q).bind (numberOf c.parser) + (t.adds c key).bind (numberOf c.parser) := by
    rcases Multiset.le_iff_exists_add.mp htexts with ⟨rest, hrest⟩
    rw [← Multiset.add_bind, hrest, Multiset.add_bind]
    exact Multiset.le_add_right _ _
  have hassigned := Pool.total_advance StoreCall.assigned hi s' t'
  have hown := move_assigned hj hreads hmove hadds key
  rw [Multiset.le_iff_count] at hnumbers hown ⊢
  intro n
  have hnumbers' := hnumbers n
  have hown' := hown n
  have hassigned' := congrArg (Multiset.count n) hassigned
  simp only [numbers, hkey, Multiset.count_add] at *
  omega

/-! ## Numbers within a table -/

theorem wellNumbered_enter (h : WellNumbered c table q) {a : StoreArgs}
    (hon : (a.call c).On c table) :
    WellNumbered c table { q with calls := q.calls ++ [a.call c] } := by
  have hassigned : (a.call c).assigned = 0 := by cases a <;> rfl
  have hsame : numbers c table { q with calls := q.calls ++ [a.call c] } = numbers c table q := by
    unfold numbers around
    rw [Pool.total_enter _ (call_nothing a _).1, Pool.total_enter _ hassigned]
  refine ⟨?_, ?_, h.pending, forall_calls_append h.calls hon⟩
  · rw [hsame]
    exact h.nodup
  · rw [hsame]
    exact h.bounded

/-- The counter of the table after a step, which gives its next number or leaves it. -/
theorem move_counter (h : StoreMove c s t s' t') (hon : t.On c table) :
    (t.fresh c s = 0 ∧ s'.keys.counters (smppRedisStoreIdKeyFor table) =
        s.keys.counters (smppRedisStoreIdKeyFor table)) ∨
      (t.fresh c s = {s.keys.counters (smppRedisStoreIdKeyFor table) + 1} ∧
        s'.keys.counters (smppRedisStoreIdKeyFor table) =
          s.keys.counters (smppRedisStoreIdKeyFor table) + 1) := by
  cases h with
  | number =>
      right
      have htable : c.table _ = table := hon
      refine ⟨by rw [← htable]; rfl, ?_⟩
      rw [htable]
      exact Function.update_self _ _ _
  | _ => exact Or.inl ⟨rfl, rfl⟩

/-- The message a call is about to claim has a number of its own. -/
theorem claimsFree_of_wellNumbered (h : WellNumbered c table q) (hi : q.calls[i]? = some t) :
    t.ClaimsFree c q.shared := by
  have hon := h.calls t (List.mem_of_getElem? hi)
  cases t with
  | getStored r limit phase =>
      cases phase with
      | batch claims emptyBatches batchPicked items =>
          cases items with
          | nil => trivial
          | cons item items =>
              intro claim hmatch
              cases hfind : q.shared.pendingMsg.find? claim.msg.globalId with
              | none => rfl
              | some entry =>
                  rcases matches?_eq_some hmatch with ⟨rfl, hm⟩
                  rcases Keyed.find?_eq_some_iff.mp hfind with ⟨hentry, hid⟩
                  rcases h.pending entry hentry with ⟨hlist, hnumber⟩
                  have hown : numberOf c.parser claim.json = {claim.msg.globalId} :=
                    numberOf_of_storedMsg hm.read
                  rw [hid] at hnumber
                  -- the pending text and the popped one have the same number
                  have hweight := Keyed.weight_remove (fun entry : RedisPendingEntry =>
                    ofList (smppRedisStoreQueueKeyFor table) entry.listKey {entry.json}) hfind
                  rcases Pool.total_eq_add (StoreCall.held (smppRedisStoreQueueKeyFor table))
                    (List.mem_of_getElem? hi) with ⟨rest, hrest⟩
                  have hkey : r.listKey = smppRedisStoreQueueKeyFor table := by
                    rw [Request.listKey, show r.storeTable = table from hon]
                  have hcount : 2 ≤ (numbers c table q).count claim.msg.globalId := by
                    unfold numbers around SharedStore.kept
                    rw [← hweight, hrest]
                    simp only [StoreCall.held, ofList, hlist, hkey, if_true, ← Multiset.cons_coe,
                      ← Multiset.singleton_add, Multiset.add_bind, Multiset.singleton_bind,
                      hnumber, hown, Multiset.count_add, Multiset.count_singleton_self]
                    omega
                  have hle := Multiset.nodup_iff_count_le_one.mp h.nodup claim.msg.globalId
                  omega
      | round claims emptyBatches => trivial
      | returned claims => trivial
  | addMessage kind m phase => trivial
  | remove globalId temporary phase => trivial

theorem move_pending (h : StoreMove c s t s' t') (hon : t.On c table)
    (hpending : ∀ entry ∈ s.pendingMsg.entries, entry.listKey = smppRedisStoreQueueKeyFor table ∧
      numberOf c.parser entry.json = {entry.globalId}) :
    ∀ entry ∈ s'.pendingMsg.entries, entry.listKey = smppRedisStoreQueueKeyFor table ∧
      numberOf c.parser entry.json = {entry.globalId} := by
  cases h with
  | @claim r limit emptyBatches batchPicked claims item items claim hmatch =>
      rcases matches?_eq_some hmatch with ⟨rfl, hm⟩
      intro entry hentry
      rcases Keyed.mem_put.mp hentry with rfl | ⟨hold, -⟩
      · refine ⟨?_, numberOf_of_storedMsg hm.read⟩
        rcases Option.map_eq_some_iff.mp hm.read with ⟨root, -, hroot⟩
        have htable : claim.msg.storeTable = table := by
          rw [← hroot]
          exact hon
        rw [← htable]
        rfl
      · exact hpending entry hold
  | take hfind => exact fun entry hentry => hpending entry (Keyed.mem_remove.mp hentry).1
  | _ => exact hpending

theorem wellNumbered_advance (hj : c.jansson.Documented) (hreads : Reads c.jansson c.parser)
    (h : WellNumbered c table q) (hi : q.calls[i]? = some t)
    (hmove : StoreMove c q.shared t s' t') (hwhole : t.PushesWhole c) (hadds : t.AddsReadable c) :
    WellNumbered c table { shared := s', calls := q.calls.set i t' } := by
  have hon := h.calls t (List.mem_of_getElem? hi)
  have hle := advance_numbers hj hreads hi hmove hwhole hadds table
  refine ⟨?_, ?_, move_pending hmove hon h.pending,
    forall_calls_set h.calls (move_on hmove hon) (fun _ _ hu => hu)⟩
  · refine Multiset.nodup_of_le hle ?_
    rcases move_counter hmove hon with ⟨hfresh, -⟩ | ⟨hfresh, -⟩
    · rw [hfresh, add_zero]
      exact h.nodup
    · -- the counter has passed all numbers that are out
      rw [hfresh, add_comm, Multiset.singleton_add]
      refine Multiset.nodup_cons.mpr ⟨fun hmem => ?_, h.nodup⟩
      have hbound := h.bounded _ hmem
      omega
  · intro n hn
    have hmem := Multiset.mem_of_le hle hn
    rcases move_counter hmove hon with ⟨hfresh, hcounter⟩ | ⟨hfresh, hcounter⟩
    · rw [hfresh, add_zero] at hmem
      exact hcounter ▸ h.bounded n hmem
    · rw [hfresh] at hmem
      rcases Multiset.mem_add.mp hmem with hold | hnew
      · have hbound := h.bounded n hold
        exact hcounter ▸ Nat.le_succ_of_le hbound
      · rw [Multiset.mem_singleton.mp hnew]
        exact hcounter.ge

/-- What holds in a run about one table. -/
structure Conserved (c : StoreContext) (table : Octstr) (start : SharedStore) (q : StorePool) :
    Prop where
  accounted : Accounted c start q
  numbered : WellNumbered c table q
  eq : ∀ key, around key q + q.total (StoreCall.dropped key) =
    start.kept key + q.total (StoreCall.brought c key)

theorem conserved_step (hj : c.jansson.Documented) (hreads : Reads c.jansson c.parser)
    (hstart : ∀ key, ∀ text ∈ start.kept key, PushedWhole c.push key text)
    (h : Conserved c table start q) (hok : OnTable c table q l) (hstep : storeStep c q l = some q') :
    Conserved c table start q' := by
  cases poolStep_move hstep with
  | @enter a t henter =>
      cases henter
      refine ⟨accounted_enter h.accounted a, wellNumbered_enter h.numbered hok, ?_⟩
      intro key
      rcases call_nothing (c := c) a key with ⟨hheld, hbrought, hdropped⟩
      unfold around
      rw [Pool.total_enter _ hheld, Pool.total_enter _ hbrought, Pool.total_enter _ hdropped]
      exact h.eq key
  | @advance i t t' s hi hadvance =>
      have hmove := storeCommand_move hadvance
      have hadds : t.AddsReadable c := hok t hi
      have hwhole := h.accounted.pushesWhole hstart hi hadds.addsWhole
      have hwholes : Advances (StoreCall.AddsWhole c) q (.advance i) :=
        Advances.mono hok fun _ hu => hu.addsWhole
      refine ⟨accounted_step hstart h.accounted hwholes hstep,
        wellNumbered_advance hj hreads h.numbered hi hmove hwhole hadds, ?_⟩
      intro key
      rcases advance_balance hi hmove hwhole key with ⟨lost, hlost, hfree⟩
      have hnone := hfree (claimsFree_of_wellNumbered h.numbered hi)
      have heq := h.eq key
      ext x
      have hlost' := congrArg (Multiset.count x) hlost
      have heq' := congrArg (Multiset.count x) heq
      simp only [hnone, Multiset.count_add, Multiset.count_zero] at hlost' heq' ⊢
      omega

/-- The texts of a table that was left behind: numbered by its counter, once each. -/
structure LeftBehind (c : StoreContext) (table : Octstr) (start : SharedStore) : Prop where
  pending : start.pendingMsg = Keyed.empty
  whole : ∀ key, ∀ text ∈ start.keys.lists key, PushedWhole c.push key text
  nodup : ((start.keys.lists (smppRedisStoreQueueKeyFor table) : Multiset Octstr).bind
    (numberOf c.parser)).Nodup
  bounded : ∀ n ∈ (start.keys.lists (smppRedisStoreQueueKeyFor table) : Multiset Octstr).bind
    (numberOf c.parser), n ≤ start.keys.counters (smppRedisStoreIdKeyFor table)

/-- Where nothing is claimed, the lists have everything. -/
theorem kept_of_empty (h : s.pendingMsg = Keyed.empty) (key : Octstr) :
    s.kept key = (s.keys.lists key : Multiset Octstr) := by
  unfold SharedStore.kept
  rw [h, Keyed.weight_empty, add_zero]

theorem pushedWhole_kept (hpending : s.pendingMsg = Keyed.empty)
    (h : ∀ key, ∀ text ∈ s.keys.lists key, PushedWhole c.push key text) :
    ∀ key, ∀ text ∈ s.kept key, PushedWhole c.push key text := by
  intro key text htext
  rw [kept_of_empty hpending] at htext
  exact h key text htext

theorem conserved_init (h : LeftBehind c table start) :
    Conserved c table start { shared := start, calls := [] } := by
  have hnumbers : numbers c table { shared := start, calls := [] } =
      (start.keys.lists (smppRedisStoreQueueKeyFor table) : Multiset Octstr).bind
        (numberOf c.parser) := by
    simp [numbers, around, Pool.total, kept_of_empty h.pending]
  refine ⟨accounted_init, ⟨?_, ?_, ?_, ?_⟩, ?_⟩
  · rw [hnumbers]
    exact h.nodup
  · rw [hnumbers]
    exact h.bounded
  · intro entry hentry
    have hnone : entry ∈ (Keyed.empty : Keyed RedisPendingEntry.globalId).entries :=
      h.pending ▸ hentry
    cases hnone
  · intro t ht
    cases ht
  · intro key
    simp [around, Pool.total]

/-- Within one table nothing is lost: however the calls interleave, each text that was in the list
or was added is in the list, popped by a call, claimed, or removed for good, and no two texts that
are still there have the same number. -/
theorem table_loses_no_text (hj : c.jansson.Documented) (hreads : Reads c.jansson c.parser)
    (hstart : LeftBehind c table start) {ls : List (PoolLabel StoreArgs)}
    (hrun : Run (storeStep c) (OnTable c table) { shared := start, calls := [] } ls q) :
    (∀ key, around key q + q.total (StoreCall.dropped key) =
        (start.keys.lists key : Multiset Octstr) + q.total (StoreCall.brought c key)) ∧
      ((around (smppRedisStoreQueueKeyFor table) q).bind (numberOf c.parser)).Nodup := by
  have hkept := pushedWhole_kept hstart.pending hstart.whole
  have hconserved : Conserved c table start q :=
    hrun.invariant (Conserved c table start)
      (fun _ _ _ h hok hstep => conserved_step hj hreads hkept h hok hstep) (conserved_init hstart)
  refine ⟨fun key => ?_, ?_⟩
  · rw [← kept_of_empty hstart.pending]
    exact hconserved.eq key
  · exact Multiset.nodup_of_le (Multiset.le_add_right _ _) hconserved.numbered.nodup

/-! ## Samples -/

/-- A store with a table for each kind of message, behind `smpp_redis_lpush` itself. -/
def sampleContext : StoreContext where
  settings := sampleStores
  parser := sampleJsonParser
  jansson := sampleJansson
  push := smppRedisLpush

def sampleShared : SharedStore where
  keys := sampleKeys
  pendingMsg := Keyed.empty

/-- Only one report is added, and only its table is read. -/
def samplesOnly (q : StorePool) : PoolLabel StoreArgs → Bool
  | .enter (.addMessage kind _) => kind = .primary
  | .enter (.getStored smsType _ _ kind) => smsType = smsTypeReportMo ∧ kind = .primary
  | .enter (.remove _ _) => true
  | .advance i =>
      match q.calls[i]? with
      | some (.addMessage kind m (.numbered globalId)) =>
          kind = .primary ∧ m = sampleOf smsTypeReportMo ∧ globalId = 1
      | _ => true

/-- While one call has the report out of the list, another looks for it; then it is put back. -/
def sampleRace : List (PoolLabel StoreArgs) :=
  [.enter (.addMessage .primary (sampleOf smsTypeReportMo)),
    .enter (.getStored smsTypeReportMo none 1 .primary), .advance 0, .advance 0, .advance 1,
    .enter (.getStored smsTypeReportMo none 1 .primary), .advance 2, .advance 0, .advance 1,
    .enter (.remove 1 true), .advance 3, .advance 3]

theorem sampleReport_storable : Storable (sampleOf smsTypeReportMo) :=
  ⟨sampleSms_text none, by decide⟩

theorem sampleReport_whole : PushedWhole sampleContext.push (sampleContext.queueKey .primary)
    (sampleContext.text 1 (sampleOf smsTypeReportMo)) := by
  have hkey : sampleContext.queueKey .primary = smppRedisStoreQueueKeyFor (octstrImm "store") := rfl
  rw [hkey]
  simpa only [sampleContext, StoreContext.text] using sampleOf_whole smsTypeReportMo 1

theorem samplesOnly_readable {l : PoolLabel StoreArgs} (h : samplesOnly q l = true) :
    OnTable sampleContext (octstrImm "store") q l := by
  cases l with
  | enter a =>
      cases a with
      | addMessage kind m =>
          obtain rfl : kind = .primary := of_decide_eq_true h
          rfl
      | getStored smsType service limit kind =>
          rcases of_decide_eq_true h with ⟨rfl, rfl⟩
          rfl
      | remove globalId temporary => trivial
  | advance i =>
      intro t hi
      simp only [samplesOnly, hi] at h
      cases t with
      | addMessage kind m phase =>
          cases phase with
          | numbered globalId =>
              rcases of_decide_eq_true h with ⟨rfl, rfl, rfl⟩
              exact ⟨sampleReport_storable, Nat.one_lt_two_pow (by decide), sampleReport_whole⟩
          | called => trivial
          | pushed globalId => trivial
          | returned globalId => trivial
      | getStored r limit phase => trivial
      | remove globalId temporary phase => trivial

theorem OnTable.addsReadable (h : OnTable c table q l) :
    Advances (StoreCall.AddsReadable c) q l := by
  cases l with
  | enter a => trivial
  | advance i => exact h

theorem sampleRace_run :
    ∃ q, Run (storeStep sampleContext) (OnTable sampleContext (octstrImm "store"))
        { shared := sampleShared, calls := [] } sampleRace q ∧
      q.shared.keys.lists (smppRedisStoreQueueKeyFor (octstrImm "store")) =
        [sampleText smsTypeReportMo] := by
  have hexec : ((execute (storeStep sampleContext) (fun q l => samplesOnly q l = true)
      { shared := sampleShared, calls := [] } sampleRace).any (fun q =>
        decide (q.shared.keys.lists (smppRedisStoreQueueKeyFor (octstrImm "store")) =
          [sampleText smsTypeReportMo]))) = true := by
    decide +kernel
  rcases exists_run_of_execute hexec with ⟨q, hrun, hlist⟩
  exact ⟨q, hrun.mono (fun _ _ h => samplesOnly_readable h), of_decide_eq_true hlist⟩

theorem sampleShared_leftBehind (c : StoreContext) (table : Octstr) :
    LeftBehind c table sampleShared where
  pending := rfl
  whole := by
    intro key text htext
    cases htext
  nodup := Multiset.nodup_zero
  bounded := by
    intro n hn
    cases hn

theorem texts_never_doubled_sample :
    ∃ q : StorePool, q.shared.keys.lists (smppRedisStoreQueueKeyFor (octstrImm "store")) =
        [sampleText smsTypeReportMo] ∧
      ∀ key, around key q + q.total (StoreCall.dropped key) ≤
        sampleShared.kept key + q.total (StoreCall.brought sampleContext key) := by
  rcases sampleRace_run with ⟨q, hrun, hlist⟩
  have hleft := sampleShared_leftBehind sampleContext (octstrImm "store")
  have hstart := pushedWhole_kept hleft.pending hleft.whole
  exact ⟨q, hlist, texts_never_doubled hstart
    (hrun.mono fun _ _ h => h.addsReadable.mono fun _ ht => ht.addsWhole)⟩

theorem table_loses_no_text_sample :
    ∃ q : StorePool, q.shared.keys.lists (smppRedisStoreQueueKeyFor (octstrImm "store")) =
        [sampleText smsTypeReportMo] ∧
      (∀ key, around key q + q.total (StoreCall.dropped key) =
        (sampleKeys.lists key : Multiset Octstr) +
          q.total (StoreCall.brought sampleContext key)) := by
  rcases sampleRace_run with ⟨q, hrun, hlist⟩
  exact ⟨q, hlist, (table_loses_no_text sampleJansson_documented sampleJsonParser_reads
    (sampleShared_leftBehind sampleContext (octstrImm "store")) hrun).1⟩

end Redis
end Ksmppd
