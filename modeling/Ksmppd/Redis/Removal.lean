import Ksmppd.Lib.Transition
import Ksmppd.Database.Claims
import Ksmppd.Redis.GetStored

/-!
# Removal — claimed messages and their way out of pending_msg

The messages of both stores, and whatever other programs push, are kept in one dictionary under
their bare `global_id`.  Two claims that are out under one number share one entry; only the text
of the later one is still there.
-/

namespace Ksmppd
namespace Redis

open Lib
open Database (StoreSettings StoreKind getStoredTable smppDatabaseStoreTableName)

/-! ## Steps -/

structure ClaimState where
  settings : StoreSettings
  store : RedisStore
  /-- The messages that were claimed and not removed yet. -/
  outstanding : List Claim

inductive ClaimLabel
  /-- Another program pushes an entry. -/
  | push (listKey payload : Octstr)
  /-- Another program pops entries. -/
  | pop (listKey : Octstr) (count : Nat)
  | addMessage (kind : StoreKind) (m : Sms)
  | getStored (smsType : Int) (service : Option Octstr) (limit : Nat) (kind : StoreKind)
  /-- A claimed message is removed. -/
  | remove (c : Claim) (temporary : Bool)

/-- The store and the type `get_stored` is asked for. -/
def requestFor (settings : StoreSettings) (smsType : Int) (service : Option Octstr)
    (kind : StoreKind) : Request where
  storeTable := getStoredTable settings smsType kind
  smsType := smsType
  service := service

def claimStep (p : Parser) (j : Jansson) (s : ClaimState) : ClaimLabel → Option ClaimState
  | .push listKey payload =>
      some { s with store := { s.store with lists := lpush s.store.lists listKey payload } }
  | .pop listKey count =>
      some { s with store := { s.store with
        lists := Function.update s.store.lists listKey ((s.store.lists listKey).drop count) } }
  | .addMessage kind m =>
      some { s with
        store := smppDatabaseRedisAddMessage j smppRedisLpush s.settings s.store kind m }
  | .getStored smsType service limit kind =>
      (smppDatabaseRedisGetStored p smppRedisLpush s.store
        (requestFor s.settings smsType service kind) limit).map (fun (t, claims) =>
          { s with store := t, outstanding := s.outstanding ++ claims })
  | .remove c temporary =>
      if c ∈ s.outstanding then
        some { s with
          store := (smppDatabaseRedisRemove smppRedisLpush s.store c.msg.globalId temporary).1
          outstanding := s.outstanding.erase c }
      else none

def claimInit (settings : StoreSettings) : ClaimState where
  settings := settings
  store :=
    { lists := fun _ => []
      counters := fun _ => 0
      pendingMsg := Keyed.empty
      pendingMsgStore := Keyed.empty }
  outstanding := []

/-- No other claim that is out has the number of a claim. -/
def Unshared (s : ClaimState) (c : Claim) : Prop :=
  ∀ d ∈ s.outstanding.erase c, d.msg.globalId ≠ c.msg.globalId

/-- A message is removed while no other claim has its number, and put back only with a text that
`redisCommand` takes for one argument. -/
def RemovesUnshared (s : ClaimState) : ClaimLabel → Prop
  | .remove c temporary =>
      Unshared s c ∧ (temporary = true →
        Plain blank percent c.listKey ∧ Plain blank percent c.json)
  | _ => True

/-- What removing a claimed message is to do. -/
structure Removes (s : ClaimState) (c : Claim) (temporary : Bool) : Prop where
  /-- It finds the entry of that message. -/
  found : (smppDatabaseRedisRemove smppRedisLpush s.store c.msg.globalId temporary).2 = some c.entry
  /-- Its text goes back to its list if the removal is temporary, and nothing else changes there. -/
  lists : (smppDatabaseRedisRemove smppRedisLpush s.store c.msg.globalId temporary).1.lists =
    if temporary then lpush s.store.lists c.listKey c.json else s.store.lists
  /-- The entries of all other claims stay. -/
  others : ∀ d ∈ s.outstanding.erase c,
    (smppDatabaseRedisRemove smppRedisLpush s.store c.msg.globalId temporary).1.pendingMsg.find?
      d.msg.globalId = s.store.pendingMsg.find? d.msg.globalId
  /-- It cannot be removed again. -/
  once : ∀ again, (smppDatabaseRedisRemove smppRedisLpush
    (smppDatabaseRedisRemove smppRedisLpush s.store c.msg.globalId temporary).1
      c.msg.globalId again).2 = none

variable {p : Parser} {j : Jansson} {s t : ClaimState} {c d : Claim} {push : Push} {r : Request}
  {g g' : Progress}

/-! ## What claiming does to the dictionary -/

def claimAll (d : Keyed RedisPendingEntry.globalId) (cs : List Claim) :
    Keyed RedisPendingEntry.globalId :=
  cs.foldl (fun d c => d.put c.entry) d

theorem claimAll_append (d : Keyed RedisPendingEntry.globalId) (cs cs' : List Claim) :
    claimAll d (cs ++ cs') = claimAll (claimAll d cs) cs' :=
  List.foldl_append

theorem find?_claimAll_of_ne {d : Keyed RedisPendingEntry.globalId} {cs : List Claim}
    {globalId : Nat} (h : ∀ c ∈ cs, c.msg.globalId ≠ globalId) :
    (claimAll d cs).find? globalId = d.find? globalId := by
  induction cs generalizing d with
  | nil => rfl
  | cons c cs ih =>
      have hc : globalId ≠ c.entry.globalId := (h c (by simp)).symm
      calc
        (claimAll d (c :: cs)).find? globalId = (d.put c.entry).find? globalId :=
          ih (fun x hx => h x (by simp [hx]))
        _ = d.find? globalId := Keyed.find?_put_of_ne hc

/-- The last claim under a number is the one whose entry is kept. -/
theorem find?_claimAll_of_unique {d : Keyed RedisPendingEntry.globalId} {cs : List Claim}
    (hc : c ∈ cs) (hunique : ∀ x ∈ cs.erase c, x.msg.globalId ≠ c.msg.globalId) :
    (claimAll d cs).find? c.msg.globalId = some c.entry := by
  induction cs generalizing d with
  | nil => cases hc
  | cons x cs ih =>
      by_cases hx : x = c
      · -- nothing after it overwrites its entry
        subst hx
        simp only [List.erase_cons_head] at hunique
        calc
          (claimAll d (x :: cs)).find? x.msg.globalId =
              (d.put x.entry).find? x.msg.globalId := find?_claimAll_of_ne hunique
          _ = some x.entry := Keyed.find?_put_self rfl
      · have hmem : c ∈ cs := (List.mem_cons.mp hc).resolve_left (Ne.symm hx)
        have hne : ¬ (x == c) = true := by simpa using hx
        rw [List.erase_cons_tail hne] at hunique
        exact ih hmem (fun y hy => hunique y (by simp [hy]))

theorem pendingMsg_foldl_take (items : List Octstr) (g : Progress) :
    (items.foldl (Progress.take p push r) g).store.pendingMsg =
      claimAll g.store.pendingMsg (claimsOf p r items) := by
  induction items generalizing g with
  | nil => rfl
  | cons jsonstr items ih =>
      rw [List.foldl_cons, ih]
      cases hmatch : r.matches? p jsonstr with
      | none => simp [Progress.take, claimsOf, hmatch]
      | some c => simp [Progress.take, claimsOf, hmatch, claimAll, RedisStore.claim]

theorem getStored_pendingMsg {s : RedisStore} {limit : Nat} {t : RedisStore} {claims : List Claim}
    (h : smppDatabaseRedisGetStored p push s r limit = some (t, claims)) :
    t.pendingMsg = claimAll s.pendingMsg claims ∧ ∀ c ∈ claims, Matches p r c := by
  have hround : ∀ g g', g.store.pendingMsg = claimAll s.pendingMsg g.claims ∧
      (∀ c ∈ g.claims, Matches p r c) →
      getStoredRound p push r (Database.effectiveLimit limit) g = some g' →
      g'.store.pendingMsg = claimAll s.pendingMsg g'.claims ∧ ∀ c ∈ g'.claims, Matches p r c := by
    rintro g g' ⟨hpending, hmatches⟩ hg
    rcases getStoredRound_cases hg with ⟨items, -, -, -, -, hstore, hclaims, -⟩
    refine ⟨?_, ?_⟩
    · rw [hstore, pendingMsg_foldl_take, hclaims, claimAll_append, ← hpending]
      rfl
    · intro c hc
      rw [hclaims] at hc
      rcases List.mem_append.mp hc with hold | hnew
      · exact hmatches c hold
      · rcases List.mem_filterMap.mp hnew with ⟨jsonstr, -, hmatch⟩
        exact (matches?_eq_some hmatch).2
  rcases @getStored_total p push r limit _ s hround ⟨rfl, by simp⟩ with ⟨g, hcall, hg, -⟩
  rw [hcall] at h
  cases h
  exact hg

/-! ## Claims and their entries -/

/-- A claim that shares its number with no other is the one its entry was made for. -/
structure Kept (s : ClaimState) : Prop where
  texts : ∀ c ∈ s.outstanding, c.json ≠ []
  entries : ∀ c ∈ s.outstanding, Unshared s c →
    s.store.pendingMsg.find? c.msg.globalId = some c.entry

theorem kept_of_eq (h : Kept s) (hout : t.outstanding = s.outstanding)
    (hpending : t.store.pendingMsg = s.store.pendingMsg) : Kept t := by
  refine ⟨by simpa [hout] using h.texts, ?_⟩
  intro c hc hunshared
  rw [hout] at hc
  rw [hpending]
  exact h.entries c hc (by simpa [Unshared, hout] using hunshared)

theorem json_ne_nil_of_matches (h : Matches p r c) : c.json ≠ [] := by
  intro hnil
  have hread := h.read
  simp [storedMsg, hnil, p.jsonLoads_nil] at hread

theorem addMessage_pendingMsg (settings : StoreSettings) (s : RedisStore) (kind : StoreKind)
    (m : Sms) :
    (smppDatabaseRedisAddMessage j push settings s kind m).pendingMsg = s.pendingMsg := rfl

theorem remove_pendingMsg (s : RedisStore) (globalId : Nat) (temporary : Bool) :
    (smppDatabaseRedisRemove push s globalId temporary).1.pendingMsg.find? globalId = none := by
  unfold smppDatabaseRedisRemove
  cases hfind : s.pendingMsg.find? globalId with
  | none => exact hfind
  | some entry => exact Keyed.find?_remove_self _ _

theorem remove_pendingMsg_of_ne (s : RedisStore) {globalId globalId' : Nat} (temporary : Bool)
    (h : globalId' ≠ globalId) :
    (smppDatabaseRedisRemove push s globalId temporary).1.pendingMsg.find? globalId' =
      s.pendingMsg.find? globalId' := by
  unfold smppDatabaseRedisRemove
  cases s.pendingMsg.find? globalId with
  | none => rfl
  | some entry => exact Keyed.find?_remove_of_ne h

theorem kept_getStored {smsType : Int} {service : Option Octstr} {limit : Nat} {kind : StoreKind}
    (h : Kept s) (hstep : claimStep p j s (.getStored smsType service limit kind) = some t) :
    Kept t := by
  simp only [claimStep, Option.map_eq_some_iff] at hstep
  rcases hstep with ⟨⟨store, claims⟩, hget, rfl⟩
  rcases getStored_pendingMsg hget with ⟨hpending, hmatches⟩
  refine ⟨?_, ?_⟩
  · intro c hc
    rcases List.mem_append.mp hc with hold | hnew
    · exact h.texts c hold
    · exact json_ne_nil_of_matches (hmatches c hnew)
  · intro c hc hunshared
    by_cases hold : c ∈ s.outstanding
    · -- an earlier claim: none of the new ones has its number, so its entry is not overwritten
      have hunshared' : ∀ d ∈ s.outstanding.erase c ++ claims,
          d.msg.globalId ≠ c.msg.globalId := by
        simpa [Unshared, List.erase_append_left _ hold] using hunshared
      calc
        store.pendingMsg.find? c.msg.globalId
            = (claimAll s.store.pendingMsg claims).find? c.msg.globalId := by rw [hpending]
        _ = s.store.pendingMsg.find? c.msg.globalId :=
            find?_claimAll_of_ne (fun d hd => hunshared' d (List.mem_append_right _ hd))
        _ = some c.entry :=
            h.entries c hold (fun d hd => hunshared' d (List.mem_append_left _ hd))
    · -- a new claim: it is the only one in this batch with its number
      have hnew : c ∈ claims := (List.mem_append.mp hc).resolve_left hold
      have hunshared' : ∀ d ∈ s.outstanding ++ claims.erase c,
          d.msg.globalId ≠ c.msg.globalId := by
        simpa [Unshared, List.erase_append_right _ hold] using hunshared
      show store.pendingMsg.find? c.msg.globalId = some c.entry
      rw [hpending]
      exact find?_claimAll_of_unique hnew (fun d hd => hunshared' d (List.mem_append_right _ hd))

theorem kept_remove {temporary : Bool} (h : Kept s) (hunshared : Unshared s c)
    (hstep : claimStep p j s (.remove c temporary) = some t) : Kept t := by
  simp only [claimStep] at hstep
  split at hstep
  · cases hstep
    refine ⟨fun d hd => h.texts d (List.mem_of_mem_erase hd), ?_⟩
    intro d hd hd'
    have hne : d.msg.globalId ≠ c.msg.globalId := hunshared d hd
    -- `d` shared its number with nothing before either: `c` has another one
    have hd'' : Unshared s d := by
      intro e he
      by_cases hec : e = c
      · rw [hec]
        exact hne.symm
      · apply hd' e
        show e ∈ (s.outstanding.erase c).erase d
        rw [List.erase_comm]
        exact (List.mem_erase_of_ne hec).mpr he
    show (smppDatabaseRedisRemove smppRedisLpush s.store c.msg.globalId
      temporary).1.pendingMsg.find? d.msg.globalId = some d.entry
    rw [remove_pendingMsg_of_ne s.store temporary hne]
    exact h.entries d (List.mem_of_mem_erase hd) hd''
  · cases hstep

theorem kept_step {l : ClaimLabel} (h : Kept s) (hok : RemovesUnshared s l)
    (hstep : claimStep p j s l = some t) : Kept t := by
  cases l with
  | push listKey payload =>
      cases hstep
      exact kept_of_eq h rfl rfl
  | pop listKey count =>
      cases hstep
      exact kept_of_eq h rfl rfl
  | addMessage kind m =>
      simp only [claimStep, Option.some.injEq] at hstep
      subst hstep
      exact kept_of_eq h rfl (addMessage_pendingMsg _ _ _ _)
  | getStored smsType service limit kind => exact kept_getStored h hstep
  | remove c temporary => exact kept_remove h hok.1 hstep

theorem kept_init (settings : StoreSettings) : Kept (claimInit settings) :=
  ⟨by simp [claimInit], by simp [claimInit]⟩

/-! ## Removing a claim -/

theorem smppRedisLpush_eq (lists : RedisLists) {listKey payload : Octstr} (hkey : listKey ≠ [])
    (hpayload : payload ≠ []) (hplain : Plain blank percent listKey ∧ Plain blank percent payload) :
    smppRedisLpush lists listKey payload = lpush lists listKey payload := by
  have hargs := (redisCommandArgs_push_iff hkey hpayload).mpr hplain
  simp [smppRedisLpush, hargs, redisPush, lpush]

/-- As long as messages are removed only while no other claim has their number, a removal of a
claimed message is about that message and no other. -/
theorem claims_removed_once {settings : StoreSettings} {ls : List ClaimLabel} {temporary : Bool}
    (hrun : Run (claimStep p j) RemovesUnshared (claimInit settings) ls s)
    (hclaim : c ∈ s.outstanding) (hok : RemovesUnshared s (.remove c temporary)) :
    Removes s c temporary := by
  have hkept : Kept s := hrun.invariant Kept (fun _ _ _ h hok hstep => kept_step h hok hstep)
    (kept_init settings)
  rcases hok with ⟨hunshared, hplain⟩
  have hfind := hkept.entries c hclaim hunshared
  refine ⟨by simp [smppDatabaseRedisRemove, hfind], ?_, ?_, ?_⟩
  · cases temporary with
    | false => simp [smppDatabaseRedisRemove, hfind, RedisStore.release]
    | true =>
        have hpush := smppRedisLpush_eq s.store.lists
          (storeQueueKey_ne_nil c.msg.storeTable) (hkept.texts c hclaim) (hplain rfl)
        simpa [smppDatabaseRedisRemove, hfind, RedisStore.release, Claim.entry, Claim.listKey]
          using hpush
  · intro d hd
    exact remove_pendingMsg_of_ne s.store temporary (hunshared d hd)
  · intro again
    have hgone := @remove_pendingMsg smppRedisLpush s.store c.msg.globalId temporary
    generalize (smppDatabaseRedisRemove smppRedisLpush s.store c.msg.globalId temporary).1 = rest
      at hgone
    simp [smppDatabaseRedisRemove, hgone]

/-! ## Samples -/

instance (s : ClaimState) (c : Claim) : Decidable (Unshared s c) :=
  inferInstanceAs (Decidable (∀ d ∈ s.outstanding.erase c, d.msg.globalId ≠ c.msg.globalId))

instance (s : ClaimState) : (l : ClaimLabel) → Decidable (RemovesUnshared s l)
  | .remove c temporary =>
      inferInstanceAs (Decidable (Unshared s c ∧ (temporary = true →
        Plain blank percent c.listKey ∧ Plain blank percent c.json)))
  | .push _ _ => isTrue trivial
  | .pop _ _ => isTrue trivial
  | .addMessage _ _ => isTrue trivial
  | .getStored _ _ _ _ => isTrue trivial

/-- Both stores, each with a table of its own. -/
def sampleStores : StoreSettings :=
  { Database.sampleSettings with databaseQueueStoreTable := some (octstrImm "queue") }

def sampleOf (smsType : Int) : Sms := { sampleSms none with smsType := smsType }

/-- The text of the first message that is added to a store. -/
def sampleText (smsType : Int) : Octstr := addMessageJson sampleJansson 1 (sampleOf smsType)

/-- What `json_loads` gives for that text. -/
def sampleMembers (smsType : Int) : JsonObject :=
  ((octstrImm "global_id", JsonValue.integer 1) ::
    (smsFields (encodeMsg (sampleOf smsType))).flatMap (fieldMembers sampleJansson)).map
      (fun (key, value) => match value with
        | .integer n => (key, .integer n)
        | .string os => (key, .string os))

def sampleReader : Parser where
  jsonLoads := fun jsonstr =>
    if jsonstr = [] then none
    else if jsonstr = sampleText smsTypeMtPush then some (sampleMembers smsTypeMtPush)
    else if jsonstr = sampleText smsTypeReportMo then some (sampleMembers smsTypeReportMo)
    else none
  jsonLoads_nil := rfl
  uuidParse := fun os =>
    if os = smppUuidGet (Vector.replicate 16 0) then some (Vector.replicate 16 0) else none
  generated := fun _ => Vector.replicate 16 0

/-- The claim of that message from a table. -/
def sampleClaimOf (storeTable : Octstr) (smsType : Int) : Claim where
  json := sampleText smsType
  msg :=
    { storeTable := storeTable
      globalId := 1
      msg := smppRedisJsonToMsg sampleReader (sampleMembers smsType) (Vector.replicate 16 0) }

/-- A report is stored and claimed. -/
def sampleReportClaimed : List ClaimLabel :=
  [.addMessage .primary (sampleOf smsTypeReportMo), .getStored smsTypeReportMo none 1 .primary]

theorem claims_removed_once_sample :
    ∃ s, Run (claimStep sampleReader sampleJansson) RemovesUnshared (claimInit sampleStores)
        sampleReportClaimed s ∧
      Removes s (sampleClaimOf (octstrImm "store") smsTypeReportMo) true := by
  have hexec : ((execute (claimStep sampleReader sampleJansson) RemovesUnshared
      (claimInit sampleStores) sampleReportClaimed).any (fun s =>
        decide (sampleClaimOf (octstrImm "store") smsTypeReportMo ∈ s.outstanding) &&
        decide (RemovesUnshared s
          (.remove (sampleClaimOf (octstrImm "store") smsTypeReportMo) true)))) = true := by
    decide +kernel
  rcases exists_run_of_execute hexec with ⟨s, hrun, hend⟩
  have hboth := (Bool.and_eq_true _ _).mp hend
  exact ⟨s, hrun, claims_removed_once hrun (of_decide_eq_true hboth.1)
    (of_decide_eq_true hboth.2)⟩

/-- The first message of the other store is claimed as well. -/
def sampleBothClaimed : List ClaimLabel :=
  sampleReportClaimed ++ [.addMessage .bearerboxQueue (sampleOf smsTypeMtPush),
    .getStored smsTypeMtPush none 1 .bearerboxQueue]

/-- Both stores count from one: to put the report back, the server pushes the other message, onto
the list of the other store. -/
theorem claim_removed_for_another :
    ∃ s, Run (claimStep sampleReader sampleJansson) anyStep (claimInit sampleStores)
        sampleBothClaimed s ∧
      sampleClaimOf (octstrImm "store") smsTypeReportMo ∈ s.outstanding ∧
      ¬ Removes s (sampleClaimOf (octstrImm "store") smsTypeReportMo) true := by
  have hexec : ((execute (claimStep sampleReader sampleJansson) anyStep
      (claimInit sampleStores) sampleBothClaimed).any (fun s =>
        decide (sampleClaimOf (octstrImm "store") smsTypeReportMo ∈ s.outstanding) &&
        decide ((smppDatabaseRedisRemove smppRedisLpush s.store 1 true).2 =
          some (sampleClaimOf (octstrImm "queue") smsTypeMtPush).entry))) = true := by
    decide +kernel
  rcases exists_run_of_execute hexec with ⟨s, hrun, hend⟩
  have hboth := (Bool.and_eq_true _ _).mp hend
  refine ⟨s, hrun, of_decide_eq_true hboth.1, ?_⟩
  intro hremoves
  have hfound := hremoves.found
  rw [show (sampleClaimOf (octstrImm "store") smsTypeReportMo).msg.globalId = 1 from rfl,
    of_decide_eq_true hboth.2] at hfound
  have htable := congrArg RedisPendingEntry.storeTable (Option.some.inj hfound)
  exact absurd htable (by decide)

end Redis
end Ksmppd
