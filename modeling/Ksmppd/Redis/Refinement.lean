import Ksmppd.Redis.Json
import Ksmppd.Redis.Removal

/-!
# Refinement — lists of texts as stores of messages

In Redis a store is a list of JSON texts, and what is claimed from it is kept as a text as well.
To the rest of the server it is a list of messages.  As long as every text that is added is pushed
as it is, the functions on the texts do exactly what the functions on the messages do.
-/

namespace Ksmppd
namespace Redis

open Lib
open Database (StoreSettings StoreKind StoredMsg StoreState SameSms getStoredTable effectiveLimit
  smppDatabaseStoreTableName newMsg claimBatch getStoredLoop smppRedisStoreMatches storeInit)

/-! ## The two systems -/

/-- The calls of the server, on claims of a kind. -/
inductive StoreLabel (κ : Type)
  | addMessage (kind : StoreKind) (m : Sms)
  | getStored (smsType : Int) (service : Option Octstr) (limit : Nat) (kind : StoreKind)
  | remove (c : κ) (temporary : Bool)

def StoreLabel.map {κ κ' : Type} (f : κ → κ') : StoreLabel κ → StoreLabel κ'
  | .addMessage kind m => .addMessage kind m
  | .getStored smsType service limit kind => .getStored smsType service limit kind
  | .remove c temporary => .remove (f c) temporary

/-- The calls on lists of texts. -/
def textStep (p : Parser) (j : Jansson) (push : Push) (s : ClaimState) :
    StoreLabel Claim → Option ClaimState
  | .addMessage kind m =>
      some { s with store := smppDatabaseRedisAddMessage j push s.settings s.store kind m }
  | .getStored smsType service limit kind =>
      (smppDatabaseRedisGetStored p push s.store (requestFor s.settings smsType service kind)
        limit).map (fun (t, claims) =>
          { s with store := t, outstanding := s.outstanding ++ claims })
  | .remove c temporary =>
      if c ∈ s.outstanding then
        some { s with
          store := (smppDatabaseRedisRemove push s.store c.msg.globalId temporary).1
          outstanding := s.outstanding.erase c }
      else none

/-- A store of messages, with the numbers it has given out. -/
structure MessageState where
  store : StoreState
  counters : Octstr → Nat
  outstanding : List StoredMsg

/-- The calls on lists of messages, where every push succeeds. -/
def messageStep (t : MessageState) : StoreLabel StoredMsg → Option MessageState
  | .addMessage kind m =>
      let idKey := smppRedisStoreIdKeyFor (smppDatabaseStoreTableName t.store.settings kind)
      let globalId := t.counters idKey + 1
      some { t with
        counters := Function.update t.counters idKey globalId
        store := t.store.lpush (newMsg t.store kind globalId (presentSms m)) true }
  | .getStored smsType service limit kind =>
      let r := Database.smppDatabaseRedisGetStored t.store smsType service limit kind
        (roundsFor (effectiveLimit limit)) (fun _ => true)
      some { t with store := r.1, outstanding := t.outstanding ++ r.2 }
  | .remove m temporary =>
      if m ∈ t.outstanding then
        some { t with
          store := Database.smppDatabaseRedisRemove t.store m.globalId temporary true
          outstanding := t.outstanding.erase m }
      else none

def messageInit (settings : StoreSettings) : MessageState where
  store := storeInit settings .redis
  counters := fun _ => 0
  outstanding := []

/-! ## The condition on what is added -/

/-- The payload reaches the list as it is. -/
def PushedWhole (push : Push) (listKey payload : Octstr) : Prop :=
  ∀ lists, push lists listKey payload = lpush lists listKey payload

/-- The number the next message of a store is given. -/
def ClaimState.nextId (s : ClaimState) (kind : StoreKind) : Nat :=
  s.store.counters (smppRedisStoreIdKeyFor (smppDatabaseStoreTableName s.settings kind)) + 1

/-- What is added can be held by jansson, and its text is pushed as it is. -/
def AddsWhole (j : Jansson) (push : Push) (s : ClaimState) : StoreLabel Claim → Prop
  | .addMessage kind m =>
      Storable m ∧ s.nextId kind < 2 ^ 63 ∧
        PushedWhole push (smppRedisStoreQueueKeyFor (smppDatabaseStoreTableName s.settings kind))
          (addMessageJson j (s.nextId kind) m)
  | .getStored _ _ _ _ | .remove _ _ => True

/-! ## The relation -/

/-- A text of a table is read as a message, and can go back to its list. -/
def HoldsAs (p : Parser) (push : Push) (table jsonstr : Octstr) (m : StoredMsg) : Prop :=
  storedMsg p table jsonstr = some m ∧ PushedWhole push (smppRedisStoreQueueKeyFor table) jsonstr

/-- A pending text and a pending message. -/
def PendingAs (p : Parser) (push : Push) (entry : RedisPendingEntry) (m : StoredMsg) : Prop :=
  ∃ jsonstr, entry = Claim.entry { json := jsonstr, msg := m } ∧
    HoldsAs p push m.storeTable jsonstr m

structure Represents (p : Parser) (push : Push) (settings : StoreSettings) (s : RedisStore)
    (t : StoreState) : Prop where
  settings : t.settings = settings
  entries : ∀ table, List.Forall₂ (HoldsAs p push table)
    (s.lists (smppRedisStoreQueueKeyFor table)) (t.stores table)
  pending : ∀ globalId, Option.Rel (PendingAs p push) (s.pendingMsg.find? globalId)
    (t.pendingMsg.find? globalId)

variable {p : Parser} {j : Jansson} {push : Push} {settings : StoreSettings} {s s' : RedisStore}
  {t : StoreState} {table jsonstr : Octstr} {m : StoredMsg} {r : Request}

theorem HoldsAs.storeTable (h : HoldsAs p push table jsonstr m) : m.storeTable = table := by
  rcases Option.map_eq_some_iff.mp h.1 with ⟨root, -, rfl⟩
  rfl

theorem smppRedisStoreQueueKeyFor_inj {table' : Octstr} :
    smppRedisStoreQueueKeyFor table = smppRedisStoreQueueKeyFor table' ↔ table = table' := by
  simp [smppRedisStoreQueueKeyFor]

/-! ## Single operations -/

/-- A list is replaced by texts that are read as messages of its table. -/
theorem Represents.setList (h : Represents p push settings s t) {texts : List Octstr}
    {messages : List StoredMsg} (htexts : List.Forall₂ (HoldsAs p push table) texts messages) :
    Represents p push settings
      { s with lists := Function.update s.lists (smppRedisStoreQueueKeyFor table) texts }
      (t.setStore table messages) where
  settings := h.settings
  pending := h.pending
  entries := by
    intro table'
    by_cases htable : table' = table
    · subst htable
      simpa [StoreState.setStore] using htexts
    · have hkey : smppRedisStoreQueueKeyFor table' ≠ smppRedisStoreQueueKeyFor table :=
        fun heq => htable (smppRedisStoreQueueKeyFor_inj.mp heq)
      simpa [StoreState.setStore, htable, hkey] using h.entries table'

theorem Represents.lpush (h : Represents p push settings s t)
    (hm : HoldsAs p push table jsonstr m) :
    Represents p push settings
      { s with lists := push s.lists (smppRedisStoreQueueKeyFor table) jsonstr }
      (t.lpush m true) := by
  rw [hm.2 s.lists]
  have hset := h.setList (.cons hm (h.entries table))
  rw [← hm.storeTable] at hset ⊢
  exact hset

theorem Represents.claim (h : Represents p push settings s t)
    (hm : HoldsAs p push table jsonstr m) :
    Represents p push settings (s.claim { json := jsonstr, msg := m }) (t.claim m) where
  settings := h.settings
  entries := h.entries
  pending := by
    intro globalId
    by_cases hid : globalId = m.globalId
    · have hentry : (s.pendingMsg.put (Claim.entry { json := jsonstr, msg := m })).find? globalId =
          some (Claim.entry { json := jsonstr, msg := m }) := Keyed.find?_put_self hid.symm
      have hmessage : (t.pendingMsg.put m).find? globalId = some m := Keyed.find?_put_self hid.symm
      rw [RedisStore.claim, StoreState.claim, hentry, hmessage]
      exact .some ⟨jsonstr, rfl, hm.storeTable ▸ hm⟩
    · have hentry : (s.pendingMsg.put (Claim.entry { json := jsonstr, msg := m })).find? globalId =
          s.pendingMsg.find? globalId := Keyed.find?_put_of_ne hid
      have hmessage : (t.pendingMsg.put m).find? globalId = t.pendingMsg.find? globalId :=
        Keyed.find?_put_of_ne hid
      rw [RedisStore.claim, StoreState.claim, hentry, hmessage]
      exact h.pending globalId

theorem Represents.release (h : Represents p push settings s t) (globalId : Nat) :
    Represents p push settings (s.release globalId) (t.release globalId) where
  settings := h.settings
  entries := h.entries
  pending := by
    intro globalId'
    by_cases hid : globalId' = globalId
    · subst hid
      rw [RedisStore.release, StoreState.release, Keyed.find?_remove_self, Keyed.find?_remove_self]
      exact .none
    · rw [RedisStore.release, StoreState.release, Keyed.find?_remove_of_ne hid,
        Keyed.find?_remove_of_ne hid]
      exact h.pending globalId'

/-! ## Calls -/

theorem matches?_of_holdsAs (h : HoldsAs p push r.storeTable jsonstr m) :
    r.matches? p jsonstr = if smppRedisStoreMatches m r.smsType r.service = true then
      some { json := jsonstr, msg := m } else none := by
  rw [Request.matches?, h.1]

/-- `smpp_redis_claim_store_message` on some popped texts does what it does on their messages. -/
theorem represents_foldl_take {items : List Octstr} {ms : List StoredMsg}
    (hitems : List.Forall₂ (HoldsAs p push r.storeTable) items ms) {g : Progress}
    (h : Represents p push settings g.store t) :
    Represents p push settings (items.foldl (Progress.take p push r) g).store
        (claimBatch t r.smsType r.service (fun _ => true) ms).1 ∧
      (claimsOf p r items).map Claim.msg =
        (claimBatch t r.smsType r.service (fun _ => true) ms).2 := by
  induction hitems generalizing g t with
  | nil => exact ⟨h, rfl⟩
  | @cons jsonstr m items ms hm _ ih =>
      have hmatches := matches?_of_holdsAs hm
      by_cases hmatch : smppRedisStoreMatches m r.smsType r.service = true
      · rw [if_pos hmatch] at hmatches
        have htake : g.take p push r jsonstr =
            { g with
              store := g.store.claim { json := jsonstr, msg := m }
              claims := g.claims ++ [{ json := jsonstr, msg := m }] } := by
          rw [Progress.take, hmatches]
        have hclaims : claimsOf p r (jsonstr :: items) =
            { json := jsonstr, msg := m } :: claimsOf p r items := List.filterMap_cons_some hmatches
        rw [List.foldl_cons, htake, hclaims, claimBatch, if_pos hmatch]
        rcases ih (g := { g with
          store := g.store.claim { json := jsonstr, msg := m }
          claims := g.claims ++ [{ json := jsonstr, msg := m }] }) (h.claim hm) with
          ⟨hstore, hrest⟩
        exact ⟨hstore, congrArg (List.cons m) hrest⟩
      · rw [if_neg hmatch] at hmatches
        have htake : g.take p push r jsonstr =
            { g with store := { g.store with lists := push g.store.lists r.listKey jsonstr } } := by
          rw [Progress.take, hmatches]
        have hclaims : claimsOf p r (jsonstr :: items) = claimsOf p r items :=
          List.filterMap_cons_none hmatches
        rw [List.foldl_cons, htake, hclaims, claimBatch, if_neg hmatch]
        exact ih (g := { g with
          store := { g.store with lists := push g.store.lists r.listKey jsonstr } }) (h.lpush hm)

/-- The round stops where there is nothing more to pop, or enough has been popped. -/
theorem getStoredRound_eq_none {limit : Nat} {g : Progress}
    (h : getStoredRound p push r limit g = none) :
    ¬ (g.claims.length < limit ∧ g.emptyBatches < 32) ∨
      (g.store.lists r.listKey).take (limit - g.claims.length) = [] := by
  by_cases hgo : g.claims.length < limit ∧ g.emptyBatches < 32
  · right
    cases hitems : redisPop g.store.lists r.listKey (limit - g.claims.length) with
    | nil => exact hitems
    | cons item items => simp [getStoredRound, hgo, hitems] at h
  · exact Or.inl hgo

/-- The loops of `smpp_database_redis_get_stored` stay in step. -/
theorem represents_loop {limit n : Nat} {g g' : Progress} (h : Represents p push settings g.store t)
    (hloop : loop (getStoredRound p push r limit) n g = some g') :
    Represents p push settings g'.store
        (getStoredLoop t r.storeTable r.smsType r.service (fun _ => true) limit n
          (g.claims.map Claim.msg) g.emptyBatches).1 ∧
      g'.claims.map Claim.msg =
        (getStoredLoop t r.storeTable r.smsType r.service (fun _ => true) limit n
          (g.claims.map Claim.msg) g.emptyBatches).2 := by
  induction n generalizing g t with
  | zero =>
      cases hround : getStoredRound p push r limit g with
      | some g₁ => simp [loop, hround] at hloop
      | none =>
          rw [loop_of_none hround] at hloop
          cases hloop
          exact ⟨h, rfl⟩
  | succ n ih =>
      have hpopped := List.forall₂_take (limit - g.claims.length) (h.entries r.storeTable)
      have hleft := List.forall₂_drop (limit - g.claims.length) (h.entries r.storeTable)
      rw [getStoredLoop, List.length_map]
      cases hround : getStoredRound p push r limit g with
      | none =>
          rw [loop_of_none hround] at hloop
          cases hloop
          rcases getStoredRound_eq_none hround with hstop | hempty
          · rw [if_neg hstop]
            exact ⟨h, rfl⟩
          · -- the list of messages is as empty as the list of texts
            have hnone : (t.stores r.storeTable).take (limit - g'.claims.length) = [] := by
              have hboth : List.Forall₂ (HoldsAs p push r.storeTable) [] _ := hempty ▸ hpopped
              exact List.forall₂_nil_left_iff.mp hboth
            simp only [hnone]
            split
            · exact ⟨h, rfl⟩
            · exact ⟨h, rfl⟩
      | some g₁ =>
          rw [loop_of_some hround] at hloop
          rcases getStoredRound_cases hround with
            ⟨items, hne, hitems, hlimit, hempty, hstore, hclaims, hbatches⟩
          rw [if_pos ⟨hlimit, hempty⟩]
          have htexts : List.Forall₂ (HoldsAs p push r.storeTable) items
              ((t.stores r.storeTable).take (limit - g.claims.length)) := hitems ▸ hpopped
          have hbatch := represents_foldl_take htexts (g := g.pop r (limit - g.claims.length))
            (h.setList hleft)
          cases hms : (t.stores r.storeTable).take (limit - g.claims.length) with
          | nil =>
              rw [hms] at htexts
              exact absurd (List.forall₂_nil_right_iff.mp htexts) hne
          | cons m ms =>
              rw [hms, ← hstore] at hbatch
              have hnext := ih hbatch.1 hloop
              rw [hclaims, List.map_append, hbatch.2, hbatches] at hnext
              -- a batch that claims no text picks no message
              have hnone : claimsOf p r items = [] ↔
                  (claimBatch (t.setStore r.storeTable
                    ((t.stores r.storeTable).drop (limit - g.claims.length))) r.smsType r.service
                      (fun _ => true) (m :: ms)).2.length = 0 := by
                rw [← hbatch.2, List.length_map, List.length_eq_zero_iff]
              simp only [hnone] at hnext
              simp only [hms]
              exact hnext

theorem represents_getStored {smsType : Int} {service : Option Octstr} {limit : Nat}
    {kind : StoreKind} {claims : List Claim} (h : Represents p push settings s t)
    (hcall : smppDatabaseRedisGetStored p push s (requestFor settings smsType service kind) limit =
      some (s', claims)) :
    Represents p push settings s' (Database.smppDatabaseRedisGetStored t smsType service limit kind
        (roundsFor (effectiveLimit limit)) (fun _ => true)).1 ∧
      claims.map Claim.msg = (Database.smppDatabaseRedisGetStored t smsType service limit kind
        (roundsFor (effectiveLimit limit)) (fun _ => true)).2 := by
  rcases Option.map_eq_some_iff.mp hcall with ⟨g, hloop, heq⟩
  cases heq
  have hboth := represents_loop (t := t) h hloop
  rw [Database.smppDatabaseRedisGetStored, h.settings]
  exact hboth

theorem represents_remove (h : Represents p push settings s t) (globalId : Nat)
    (temporary : Bool) :
    Represents p push settings (smppDatabaseRedisRemove push s globalId temporary).1
      (Database.smppDatabaseRedisRemove t globalId temporary true) := by
  have hpending := h.pending globalId
  unfold smppDatabaseRedisRemove Database.smppDatabaseRedisRemove
  cases hentry : s.pendingMsg.find? globalId with
  | none =>
      rw [hentry] at hpending
      cases hmessage : t.pendingMsg.find? globalId with
      | none => exact h
      | some m =>
          rw [hmessage] at hpending
          cases hpending
  | some entry =>
      rw [hentry] at hpending
      cases hmessage : t.pendingMsg.find? globalId with
      | none =>
          rw [hmessage] at hpending
          cases hpending
      | some m =>
          rw [hmessage] at hpending
          cases hpending with
          | some hentry' =>
              rcases hentry' with ⟨jsonstr, rfl, hm⟩
              cases temporary with
              | true => exact (h.lpush hm).release globalId
              | false => exact h.release globalId

theorem represents_addMessage (hj : j.Documented) (hreads : Reads j p) {m : Sms}
    (h : Represents p push settings s t) {kind : StoreKind} {globalId : Nat} (hm : Storable m)
    (hnext : s.counters (smppRedisStoreIdKeyFor (smppDatabaseStoreTableName settings kind)) + 1 =
      globalId) (hid : globalId < 2 ^ 63)
    (hwhole : PushedWhole push (smppRedisStoreQueueKeyFor (smppDatabaseStoreTableName settings kind))
      (addMessageJson j globalId m)) :
    Represents p push settings (smppDatabaseRedisAddMessage j push settings s kind m)
      (t.lpush (newMsg t kind globalId (presentSms m)) true) := by
  have hholds : HoldsAs p push (smppDatabaseStoreTableName settings kind)
      (addMessageJson j globalId m) (newMsg t kind globalId (presentSms m)) := by
    refine ⟨?_, hwhole⟩
    rw [storedMsg_addMessageJson hj hreads hm hid, newMsg, h.settings]
  have hpushed := h.lpush hholds
  subst hnext
  exact ⟨hpushed.settings, hpushed.entries, hpushed.pending⟩

/-! ## Runs -/

/-- The store of texts and the store of messages, with what was claimed from them. -/
structure Refines (p : Parser) (push : Push) (s : ClaimState) (t : MessageState) : Prop where
  store : Represents p push s.settings s.store t.store
  counters : t.counters = s.store.counters
  outstanding : (s.outstanding.map Claim.msg).Perm t.outstanding

theorem counters_foldl_take (items : List Octstr) (g : Progress) :
    (items.foldl (Progress.take p push r) g).store.counters = g.store.counters := by
  induction items generalizing g with
  | nil => rfl
  | cons jsonstr items ih =>
      rw [List.foldl_cons, ih, Progress.take]
      split
      · rfl
      · rfl

theorem counters_getStored {limit : Nat} {claims : List Claim}
    (h : smppDatabaseRedisGetStored p push s r limit = some (s', claims)) :
    s'.counters = s.counters := by
  rcases @getStored_total p push r limit (fun g => g.store.counters = s.counters) s (by
      intro g g' hg hround
      rcases getStoredRound_cases hround with ⟨items, -, -, -, -, hstore, -, -⟩
      rw [hstore, counters_foldl_take]
      exact hg) rfl with ⟨g, hcall, hg, -⟩
  rw [hcall] at h
  cases h
  exact hg

theorem counters_remove (globalId : Nat) (temporary : Bool) :
    (smppDatabaseRedisRemove push s globalId temporary).1.counters = s.counters := by
  unfold smppDatabaseRedisRemove
  split
  · rfl
  · rfl

theorem refines_step (hj : j.Documented) (hreads : Reads j p) {s s' : ClaimState}
    {t : MessageState} {l : StoreLabel Claim} (h : Refines p push s t)
    (hok : AddsWhole j push s l) (hstep : textStep p j push s l = some s') :
    ∃ t', messageStep t (l.map Claim.msg) = some t' ∧ Refines p push s' t' := by
  cases l with
  | addMessage kind m =>
      cases hstep
      rcases hok with ⟨hm, hid, hwhole⟩
      refine ⟨_, rfl, ?_, ?_, h.outstanding⟩
      · rw [h.counters, h.store.settings]
        exact represents_addMessage hj hreads h.store hm rfl hid hwhole
      · rw [h.counters, h.store.settings]
        rfl
  | getStored smsType service limit kind =>
      rcases Option.map_eq_some_iff.mp hstep with ⟨⟨u, claims⟩, hcall, rfl⟩
      rcases represents_getStored h.store hcall with ⟨hstore, hclaims⟩
      refine ⟨_, rfl, hstore, h.counters.trans (counters_getStored hcall).symm, ?_⟩
      rw [List.map_append, hclaims]
      exact h.outstanding.append_right _
  | remove c temporary =>
      simp only [textStep] at hstep
      split at hstep
      · rename_i hc
        cases hstep
        have hmem : c.msg ∈ t.outstanding :=
          h.outstanding.mem_iff.mp (List.mem_map_of_mem hc)
        refine ⟨_, if_pos hmem, represents_remove h.store _ temporary,
          h.counters.trans (counters_remove _ temporary).symm, ?_⟩
        -- what was claimed besides it stays, in whatever order
        have hold := (List.perm_cons_erase hc).map Claim.msg
        have hnew := List.perm_cons_erase hmem
        exact (hold.symm.trans (h.outstanding.trans hnew)).cons_inv
      · cases hstep

theorem refines_init (settings : StoreSettings) :
    Refines p push (claimInit settings) (messageInit settings) where
  store :=
    { settings := rfl
      entries := fun _ => .nil
      pending := fun _ => .none }
  counters := rfl
  outstanding := .nil

/-- As long as what is added is pushed as it is, every run on lists of texts is one on lists of
messages: what is claimed in the one is claimed in the other, and each text stands for the message
in its place. -/
theorem texts_refine_messages (hj : j.Documented) (hreads : Reads j p) {settings : StoreSettings}
    {ls : List (StoreLabel Claim)} {s : ClaimState}
    (hrun : Run (textStep p j push) (AddsWhole j push) (claimInit settings) ls s) :
    ∃ t, Run messageStep anyStep (messageInit settings) (ls.map (StoreLabel.map Claim.msg)) t ∧
      (s.outstanding.map Claim.msg).Perm t.outstanding ∧
      ∀ table, List.Forall₂ (fun jsonstr m => storedMsg p table jsonstr = some m)
        (s.store.lists (smppRedisStoreQueueKeyFor table)) (t.store.stores table) := by
  rcases hrun.simulate (Refines p push)
    (fun _ _ _ _ h hok hstep => refines_step hj hreads h hok hstep) (refines_init settings) with
    ⟨t, hrun', h⟩
  exact ⟨t, hrun', h.outstanding, fun table => (h.store.entries table).imp fun _ _ hm => hm.1⟩

/-- The text of the message is pushed as it is by `smpp_redis_lpush` itself. -/
theorem sampleOf_whole (smsType : Int) (globalId : Nat) :
    PushedWhole smppRedisLpush (smppRedisStoreQueueKeyFor (octstrImm "store"))
      (addMessageJson sampleJansson globalId (sampleOf smsType)) := by
  have htext : ∀ os ∈ textFields (sampleOf smsType), ∀ x ∈ os, IsText x := sampleSms_text none
  have hplain : Plain blank percent (addMessageJson sampleJansson globalId (sampleOf smsType)) := by
    refine (plain_addMessageJson_iff sampleJansson_documented globalId htext).mpr ⟨?_, rfl, rfl⟩
    have hsender : Plain blank percent (octstrImm "ksmppd") := by decide
    simpa [textFields, sampleOf, sampleSms, msgCreateSms] using hsender
  have hkey : Plain blank percent (smppRedisStoreQueueKeyFor (octstrImm "store")) :=
    (plain_storeQueueKey_iff (octstrImm "store")).mpr (by decide)
  exact fun lists => smppRedisLpush_eq lists (storeQueueKey_ne_nil _)
    (addMessageJson_ne_nil sampleJansson globalId _) ⟨hkey, hplain⟩

/-- A report is stored and claimed, as a text and as a message. -/
def sampleStoredAndClaimed : List (StoreLabel Claim) :=
  [.addMessage .primary (sampleOf smsTypeReportMo), .getStored smsTypeReportMo none 1 .primary]

theorem texts_refine_messages_sample :
    ∃ (s : ClaimState) (t : MessageState), s.outstanding.length = 1 ∧
      Run messageStep anyStep (messageInit sampleStores)
        (sampleStoredAndClaimed.map (StoreLabel.map Claim.msg)) t ∧
      (s.outstanding.map Claim.msg).Perm t.outstanding ∧
      ∀ table, List.Forall₂ (fun jsonstr m => storedMsg sampleJsonParser table jsonstr = some m)
        (s.store.lists (smppRedisStoreQueueKeyFor table)) (t.store.stores table) := by
  let add := textStep sampleJsonParser sampleJansson smppRedisLpush (claimInit sampleStores)
    (.addMessage .primary (sampleOf smsTypeReportMo))
  have hexec : ((add.bind (fun s => textStep sampleJsonParser sampleJansson smppRedisLpush s
      (.getStored smsTypeReportMo none 1 .primary))).any
        (fun s => decide (s.outstanding.length = 1))) = true := by
    decide +kernel
  rcases (Option.any_eq_true _ _).mp hexec with ⟨s, hs, hlength⟩
  rcases Option.bind_eq_some_iff.mp hs with ⟨s₁, hadd, hget⟩
  have hstorable : Storable (sampleOf smsTypeReportMo) :=
    ⟨sampleSms_text none, by decide⟩
  have hadds : AddsWhole sampleJansson smppRedisLpush (claimInit sampleStores)
      (.addMessage .primary (sampleOf smsTypeReportMo)) :=
    ⟨hstorable, by decide, sampleOf_whole smsTypeReportMo 1⟩
  have hgets : AddsWhole sampleJansson smppRedisLpush s₁ (.getStored smsTypeReportMo none 1 .primary) :=
    trivial
  have hrun : Run (textStep sampleJsonParser sampleJansson smppRedisLpush)
      (AddsWhole sampleJansson smppRedisLpush) (claimInit sampleStores) sampleStoredAndClaimed s :=
    Run.cons hadds hadd (Run.single hgets hget)
  rcases texts_refine_messages sampleJansson_documented sampleJsonParser_reads hrun with
    ⟨t, hrun', hperm, hlists⟩
  exact ⟨s, t, of_decide_eq_true hlength, hrun', hperm, hlists⟩

end Redis
end Ksmppd
