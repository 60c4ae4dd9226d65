import Ksmppd.Redis.Store

/-!
# GetStored — what a call of get_stored takes from its list

Every popped entry is either claimed or pushed back, so no entry is lost.  But the entries pushed
back become the head of the list again, so that the next round pops them once more: beyond the
first batch the call never looks.
-/

namespace Ksmppd
namespace Redis

open Lib
open Database (smppRedisStoreMatches smppRedisNormService effectiveLimit)

variable {p : Parser} {push : Push} {r : Request} {limit : Nat} {g g' : Progress}
  {items : List Octstr} {jsonstr : Octstr} {c : Claim}

/-! ## Matching -/

/-- A claim is the message its text holds, of the type and the service asked for. -/
structure Matches (p : Parser) (r : Request) (c : Claim) : Prop where
  read : storedMsg p r.storeTable c.json = some c.msg
  smsType : c.msg.msg.smsType = r.smsType
  service : octstrLen r.service = 0 ∨
    smppRedisNormService r.service = smppRedisNormService c.msg.msg.service

theorem matches?_eq_some (h : r.matches? p jsonstr = some c) : c.json = jsonstr ∧ Matches p r c := by
  unfold Request.matches? at h
  split at h
  · rename_i m hread
    split at h
    · rename_i hmatch
      obtain rfl : { json := jsonstr, msg := m } = c := by simpa using h
      have hboth : m.msg.smsType = r.smsType ∧ (octstrLen r.service = 0 ∨
          smppRedisNormService r.service = smppRedisNormService m.msg.service) := by
        simpa [smppRedisStoreMatches] using hmatch
      exact ⟨rfl, hread, hboth.1, hboth.2⟩
    · cases h
  · cases h

/-- The claims among some popped entries. -/
def claimsOf (p : Parser) (r : Request) (items : List Octstr) : List Claim :=
  items.filterMap (r.matches? p)

/-- The others, which go back. -/
def restOf (p : Parser) (r : Request) (items : List Octstr) : List Octstr :=
  items.filter (fun jsonstr => (r.matches? p jsonstr).isNone)

/-- Each popped entry is one or the other. -/
theorem restOf_add_claimsOf (items : List Octstr) :
    (restOf p r items : Multiset Octstr) + ((claimsOf p r items).map Claim.json : List Octstr) =
      (items : Multiset Octstr) := by
  induction items with
  | nil => simp [restOf, claimsOf]
  | cons jsonstr items ih =>
      cases hmatch : r.matches? p jsonstr with
      | none =>
          have hrest : restOf p r (jsonstr :: items) = jsonstr :: restOf p r items := by
            simp [restOf, hmatch]
          have hclaims : claimsOf p r (jsonstr :: items) = claimsOf p r items := by
            simp [claimsOf, hmatch]
          rw [hrest, hclaims, ← Multiset.cons_coe, ← Multiset.cons_coe, Multiset.cons_add, ih]
      | some c =>
          have hrest : restOf p r (jsonstr :: items) = restOf p r items := by
            simp [restOf, hmatch]
          have hclaims : claimsOf p r (jsonstr :: items) = c :: claimsOf p r items := by
            simp [claimsOf, hmatch]
          rw [hrest, hclaims, List.map_cons, (matches?_eq_some hmatch).1, ← Multiset.cons_coe,
            ← Multiset.cons_coe, Multiset.add_cons, ih]

theorem length_claimsOf_le (items : List Octstr) : (claimsOf p r items).length ≤ items.length :=
  List.length_filterMap_le _ _

/-! ## One round -/

/-- What has been claimed does not depend on how the other entries go back. -/
theorem claims_foldl_take (items : List Octstr) (g : Progress) :
    (items.foldl (Progress.take p push r) g).claims = g.claims ++ claimsOf p r items := by
  induction items generalizing g with
  | nil => simp [claimsOf]
  | cons jsonstr items ih =>
      rw [List.foldl_cons, ih]
      cases hmatch : r.matches? p jsonstr with
      | none => simp [Progress.take, claimsOf, hmatch]
      | some c => simp [Progress.take, claimsOf, hmatch]

/-- The entries that go back come to stand at the head, the last one first. -/
theorem lists_foldl_take (items : List Octstr) (g : Progress) :
    (items.foldl (Progress.take p lpush r) g).store.lists =
      Function.update g.store.lists r.listKey
        ((restOf p r items).reverse ++ g.store.lists r.listKey) := by
  induction items generalizing g with
  | nil => simp [restOf]
  | cons jsonstr items ih =>
      rw [List.foldl_cons, ih]
      cases hmatch : r.matches? p jsonstr with
      | none => simp [Progress.take, restOf, hmatch, lpush]
      | some c => simp [Progress.take, restOf, hmatch, RedisStore.claim]

theorem getStoredRound_cases (h : getStoredRound p push r limit g = some g') :
    ∃ items, items ≠ [] ∧ items = (g.store.lists r.listKey).take (limit - g.claims.length) ∧
      g.claims.length < limit ∧ g.emptyBatches < 32 ∧
      g'.store = (items.foldl (Progress.take p push r)
        (g.pop r (limit - g.claims.length))).store ∧
      g'.claims = g.claims ++ claimsOf p r items ∧
      g'.emptyBatches = if claimsOf p r items = [] then g.emptyBatches + 1 else 0 := by
  unfold getStoredRound at h
  split at h
  · rename_i hgo
    dsimp only at h
    split at h
    · cases h
    · rename_i item items hpop
      have hclaims := @claims_foldl_take p push r (item :: items)
        (g.pop r (limit - g.claims.length))
      cases h
      refine ⟨item :: items, by simp, hpop.symm, hgo.1, hgo.2, rfl, hclaims, ?_⟩
      have hsame : ((item :: items).foldl (Progress.take p push r)
          (g.pop r (limit - g.claims.length))).claims.length = g.claims.length ↔
            claimsOf p r (item :: items) = [] := by
        rw [hclaims]
        simp [Progress.pop]
      simp only [hsame]
  · cases h

/-- The list after a round: what went back, in front of what was not popped. -/
theorem lists_getStoredRound (h : getStoredRound p lpush r limit g = some g') :
    g'.store.lists = Function.update g.store.lists r.listKey
      ((restOf p r ((g.store.lists r.listKey).take (limit - g.claims.length))).reverse ++
        (g.store.lists r.listKey).drop (limit - g.claims.length)) := by
  rcases getStoredRound_cases h with ⟨items, -, rfl, -, -, hstore, -, -⟩
  rw [hstore, lists_foldl_take]
  simp [Progress.pop]

/-! ## The whole call -/

/-- Every round claims a message or adds to the 32 batches that may give none. -/
def roundsLeft (limit : Nat) (g : Progress) : Nat :=
  33 * (limit - g.claims.length) + (32 - g.emptyBatches)

theorem roundsLeft_lt (h : getStoredRound p push r limit g = some g') :
    roundsLeft limit g' < roundsLeft limit g := by
  rcases getStoredRound_cases h with ⟨items, -, -, hlimit, hempty, -, hclaims, hbatches⟩
  unfold roundsLeft
  rw [hclaims, hbatches, List.length_append]
  by_cases hnone : claimsOf p r items = []
  · -- one more batch without a claim, and there are at most 32 of them in a row
    simp only [hnone, List.length_nil, if_true]
    omega
  · -- a claim outweighs the batches that may follow it again
    have hpos := List.length_pos_of_ne_nil hnone
    simp only [hnone, if_false]
    omega

/-- What holds between the rounds of a call on `lists`. -/
structure Conserves (p : Parser) (r : Request) (limit : Nat) (lists : RedisLists)
    (g : Progress) : Prop where
  bounded : g.claims.length ≤ limit
  matching : ∀ c ∈ g.claims, Matches p r c
  entries : (lists r.listKey : Multiset Octstr) =
    (g.store.lists r.listKey : Multiset Octstr) + (g.claims.map Claim.json : List Octstr)
  elsewhere : ∀ key, key ≠ r.listKey → g.store.lists key = lists key

theorem conserves_round {lists : RedisLists} (hg : Conserves p r limit lists g)
    (h : getStoredRound p lpush r limit g = some g') : Conserves p r limit lists g' := by
  have hlists := lists_getStoredRound h
  rcases getStoredRound_cases h with ⟨items, -, hitems, hlimit, -, -, hclaims, -⟩
  rw [← hitems] at hlists
  refine ⟨?_, ?_, ?_, ?_⟩
  · -- no batch is longer than what the limit leaves
    have hpopped : items.length ≤ limit - g.claims.length := by
      rw [hitems]
      exact List.length_take_le _ _
    have hclaimed := @length_claimsOf_le p r items
    rw [hclaims, List.length_append]
    omega
  · intro c hc
    rw [hclaims] at hc
    rcases List.mem_append.mp hc with hold | hnew
    · exact hg.matching c hold
    · rcases List.mem_filterMap.mp hnew with ⟨jsonstr, -, hmatch⟩
      exact (matches?_eq_some hmatch).2
  · -- a popped entry is claimed or goes back, and the order does not matter here
    have hsplit : (g.store.lists r.listKey : Multiset Octstr) = (items : Multiset Octstr) +
        ((g.store.lists r.listKey).drop (limit - g.claims.length) : List Octstr) := by
      rw [hitems, Multiset.coe_add, List.take_append_drop]
    calc
      (lists r.listKey : Multiset Octstr)
          = (items : Multiset Octstr) +
              ((g.store.lists r.listKey).drop (limit - g.claims.length) : List Octstr) +
              (g.claims.map Claim.json : List Octstr) := by rw [hg.entries, hsplit]
      _ = (restOf p r items : Multiset Octstr) +
            ((g.store.lists r.listKey).drop (limit - g.claims.length) : List Octstr) +
            ((g.claims.map Claim.json : List Octstr) +
              ((claimsOf p r items).map Claim.json : List Octstr)) := by
          rw [← restOf_add_claimsOf (p := p) (r := r) items]
          abel
      _ = (g'.store.lists r.listKey : Multiset Octstr) + (g'.claims.map Claim.json : List Octstr) := by
          rw [hlists, hclaims, Function.update_self, List.map_append, ← Multiset.coe_add,
            ← Multiset.coe_add, Multiset.coe_reverse]
  · intro key hkey
    rw [hlists, Function.update_of_ne hkey]
    exact hg.elsewhere key hkey

theorem getStored_total (Inv : Progress → Prop) {s : RedisStore}
    (hround : ∀ g g', Inv g → getStoredRound p push r (effectiveLimit limit) g = some g' → Inv g')
    (hinit : Inv { store := s, claims := [], emptyBatches := 0 }) :
    ∃ g, smppDatabaseRedisGetStored p push s r limit = some (g.store, g.claims) ∧ Inv g ∧
      getStoredRound p push r (effectiveLimit limit) g = none := by
  have htotal := @loop_total _ (getStoredRound p push r (effectiveLimit limit))
    { store := s, claims := [], emptyBatches := 0 } (roundsFor (effectiveLimit limit)) Inv
    (roundsLeft (effectiveLimit limit))
    (fun g g' hg h => ⟨hround g g' hg h, roundsLeft_lt h⟩) hinit
    (by simp [roundsLeft, roundsFor])
  rcases htotal with ⟨g, hloop, hg, hstop⟩
  exact ⟨g, by simp [smppDatabaseRedisGetStored, hloop], hg, hstop⟩

/-- The call ends, keeps its limit, claims only what was asked for, and loses no entry. -/
theorem getStored_conserves (p : Parser) (s : RedisStore) (r : Request) (limit : Nat) :
    ∃ t claims, smppDatabaseRedisGetStored p lpush s r limit = some (t, claims) ∧
      claims.length ≤ effectiveLimit limit ∧ (∀ c ∈ claims, Matches p r c) ∧
      (s.lists r.listKey : Multiset Octstr) =
        (t.lists r.listKey : Multiset Octstr) + (claims.map Claim.json : List Octstr) ∧
      ∀ key, key ≠ r.listKey → t.lists key = s.lists key := by
  have hinit : Conserves p r (effectiveLimit limit) s.lists
      { store := s, claims := [], emptyBatches := 0 } :=
    ⟨Nat.zero_le _, by simp, by simp, fun _ _ => rfl⟩
  rcases @getStored_total p lpush r limit (Conserves p r (effectiveLimit limit) s.lists) s
    (fun _ _ hg h => conserves_round hg h) hinit with ⟨g, hcall, hg, -⟩
  exact ⟨g.store, g.claims, hcall, hg.bounded, hg.matching, hg.entries, hg.elsewhere⟩

/-! ## How far a call looks -/

/-- The entries a call with this limit pops first. -/
def window (s : RedisStore) (r : Request) (limit : Nat) : List Octstr :=
  (s.lists r.listKey).take limit

theorem claimsOf_eq_nil_iff (items : List Octstr) :
    claimsOf p r items = [] ↔ ∀ jsonstr ∈ items, r.matches? p jsonstr = none := by
  simp [claimsOf, List.filterMap_eq_nil_iff]

/-- The entries that went back are the first ones that are popped again. -/
theorem take_reverse_take_append_drop (l : List Octstr) (n : Nat) :
    ((l.take n).reverse ++ l.drop n).take n = (l.take n).reverse := by
  by_cases hn : n ≤ l.length
  · apply List.take_left'
    simp [hn]
  · have hl : l.length ≤ n := by omega
    rw [List.take_of_length_le hl, List.drop_eq_nil_of_le hl, List.append_nil]
    exact List.take_of_length_le (by simpa using hl)

/-- A call that finds nothing in its window pops the same entries over and over. -/
theorem window_round (hnone : g.claims = [])
    (hwindow : ∀ jsonstr ∈ window g.store r limit, r.matches? p jsonstr = none)
    (h : getStoredRound p lpush r limit g = some g') :
    g'.claims = [] ∧ ∀ jsonstr ∈ window g'.store r limit, r.matches? p jsonstr = none := by
  have hlists := lists_getStoredRound h
  rcases getStoredRound_cases h with ⟨items, -, hitems, -, -, -, hclaims, -⟩
  simp only [hnone, List.length_nil, Nat.sub_zero] at hlists hitems
  have hempty : claimsOf p r items = [] := by
    rw [claimsOf_eq_nil_iff, hitems]
    exact hwindow
  have hrest : restOf p r items = items := by
    apply List.filter_eq_self.mpr
    intro jsonstr hjson
    simp [(claimsOf_eq_nil_iff items).mp hempty jsonstr hjson]
  refine ⟨by rw [hclaims, hnone, hempty]; rfl, ?_⟩
  -- the whole batch went back, and stands at the head of the list again
  intro jsonstr hjson
  rw [window, hlists, Function.update_self, ← hitems, hrest, hitems,
    take_reverse_take_append_drop] at hjson
  exact hwindow jsonstr (List.mem_reverse.mp hjson)

theorem claims_round_ne_nil (hg : g.claims ≠ [])
    (h : getStoredRound p push r limit g = some g') : g'.claims ≠ [] := by
  rcases getStoredRound_cases h with ⟨items, -, -, -, -, -, hclaims, -⟩
  rw [hclaims]
  simp [hg]

theorem getStored_nothing {s : RedisStore} {limit : Nat} (hlimit : 1 ≤ limit)
    (hwindow : ∀ jsonstr ∈ window s r limit, r.matches? p jsonstr = none) :
    ∃ t, smppDatabaseRedisGetStored p lpush s r limit = some (t, []) := by
  have heff : effectiveLimit limit = limit := if_neg (by omega)
  rcases @getStored_total p lpush r limit
    (fun g => g.claims = [] ∧ ∀ jsonstr ∈ window g.store r limit, r.matches? p jsonstr = none) s
    (fun g g' hg h => window_round hg.1 hg.2 (heff ▸ h)) ⟨rfl, hwindow⟩ with
    ⟨g, hcall, ⟨hnone, -⟩, -⟩
  exact ⟨g.store, by rw [hcall, hnone]⟩

theorem getStored_something {s : RedisStore} {limit : Nat} (hlimit : 1 ≤ limit)
    {jsonstr : Octstr} (hjson : jsonstr ∈ window s r limit)
    (hmatch : r.matches? p jsonstr ≠ none) :
    ∃ t claims, smppDatabaseRedisGetStored p lpush s r limit = some (t, claims) ∧
      claims ≠ [] := by
  have heff : effectiveLimit limit = limit := if_neg (by omega)
  let start : Progress := { store := s, claims := [], emptyBatches := 0 }
  -- the first batch is popped, and the entry is in it
  have hfirst : ∀ g, getStoredRound p lpush r limit start = some g → g.claims ≠ [] := by
    intro g h
    rcases getStoredRound_cases h with ⟨items, -, hitems, -, -, -, hclaims, -⟩
    intro hnil
    rw [hclaims, List.append_eq_nil_iff] at hnil
    refine hmatch ((claimsOf_eq_nil_iff items).mp hnil.2 jsonstr ?_)
    rw [hitems]
    simpa [start, window] using hjson
  rcases @getStored_total p lpush r limit (fun g => g = start ∨ g.claims ≠ []) s (by
      rintro g g' (rfl | hg) h
      · exact Or.inr (hfirst g' (heff ▸ h))
      · exact Or.inr (claims_round_ne_nil hg h)) (Or.inl rfl) with ⟨g, hcall, hg, hstop⟩
  refine ⟨g.store, g.claims, hcall, ?_⟩
  rcases hg with rfl | hg
  · -- the loop cannot have stopped where it started
    exfalso
    have hpop : redisPop s.lists r.listKey limit = window s r limit := rfl
    cases hbatch : window s r limit with
    | nil => simp [hbatch] at hjson
    | cons item items =>
        have hgo : start.claims.length < limit ∧ start.emptyBatches < 32 := by
          exact ⟨hlimit, Nat.zero_lt_succ 31⟩
        rw [heff] at hstop
        simp [getStoredRound, hgo, start, hpop, hbatch] at hstop
        omega
  · exact hg

/-- A call with a limit finds a message exactly if one that matches stands within that limit from
the head of the list. -/
theorem getStored_finds_iff (p : Parser) (s : RedisStore) (r : Request) {limit : Nat}
    (hlimit : 1 ≤ limit) :
    (∃ t claims, smppDatabaseRedisGetStored p lpush s r limit = some (t, claims) ∧
      claims ≠ []) ↔ ∃ jsonstr ∈ window s r limit, r.matches? p jsonstr ≠ none := by
  constructor
  · rintro ⟨t, claims, hcall, hclaims⟩
    by_contra hnone
    have hwindow : ∀ jsonstr ∈ window s r limit, r.matches? p jsonstr = none := by
      intro jsonstr hjson
      by_contra hmatch
      exact hnone ⟨jsonstr, hjson, hmatch⟩
    rcases getStored_nothing hlimit hwindow with ⟨t', hcall'⟩
    rw [hcall'] at hcall
    exact hclaims (Prod.mk.inj (Option.some.inj hcall)).2.symm
  · rintro ⟨jsonstr, hjson, hmatch⟩
    exact getStored_something hlimit hjson hmatch

/-! ## Samples -/

/-! ## What a call claims -/

/-- Where an entry goes back as `LPUSH` puts it, the rest of the push does not matter. -/
theorem foldl_take_congr (items : List Octstr) (g : Progress)
    (hpush : ∀ lists, ∀ jsonstr ∈ items, r.matches? p jsonstr = none →
      push lists r.listKey jsonstr = lpush lists r.listKey jsonstr) :
    items.foldl (Progress.take p push r) g = items.foldl (Progress.take p lpush r) g := by
  induction items generalizing g with
  | nil => rfl
  | cons jsonstr items ih =>
      have hhead : Progress.take p push r g jsonstr = Progress.take p lpush r g jsonstr := by
        cases hmatch : r.matches? p jsonstr with
        | some c => simp [Progress.take, hmatch]
        | none => simp [Progress.take, hmatch, hpush _ jsonstr List.mem_cons_self hmatch]
      rw [List.foldl_cons, List.foldl_cons, hhead]
      exact ih _ (fun lists j hj => hpush lists j (List.mem_cons_of_mem _ hj))

/-- What the next round pops after a first one was nothing that matches. -/
structure Exhausted (p : Parser) (r : Request) (limit : Nat) (items : List Octstr)
    (g : Progress) : Prop where
  claims : g.claims = claimsOf p r items
  next : ∀ jsonstr ∈ (g.store.lists r.listKey).take (limit - g.claims.length),
    jsonstr ∈ items ∧ r.matches? p jsonstr = none

theorem mem_restOf : jsonstr ∈ restOf p r items ↔
    jsonstr ∈ items ∧ r.matches? p jsonstr = none := by
  simp [restOf]

theorem length_restOf_add (items : List Octstr) :
    (restOf p r items).length + (claimsOf p r items).length = items.length := by
  have hsplit := congrArg Multiset.card (restOf_add_claimsOf (p := p) (r := r) items)
  simpa using hsplit

/-- The entries that the first round pops and puts back fill what it leaves of the limit, or are
all there is. -/
theorem exhausted_first {s : RedisStore}
    (hpush : ∀ lists, ∀ jsonstr ∈ window s r limit, r.matches? p jsonstr = none →
      push lists r.listKey jsonstr = lpush lists r.listKey jsonstr)
    (h : getStoredRound p push r limit { store := s, claims := [], emptyBatches := 0 } = some g') :
    Exhausted p r limit (window s r limit) g' := by
  rcases getStoredRound_cases h with ⟨items, -, hitems, -, -, hstore, hclaims, -⟩
  obtain rfl : items = window s r limit := hitems
  refine ⟨hclaims, ?_⟩
  have hlists : g'.store.lists r.listKey =
      (restOf p r (window s r limit)).reverse ++ (s.lists r.listKey).drop limit := by
    rw [hstore, foldl_take_congr _ _ hpush, lists_foldl_take]
    simp [Progress.pop]
  have hlength := length_restOf_add (p := p) (r := r) (window s r limit)
  intro jsonstr hjson
  rw [hlists, hclaims] at hjson
  apply mem_restOf.mp
  by_cases hlimit : limit ≤ (s.lists r.listKey).length
  · have hfull : (window s r limit).length = limit := List.length_take_of_le hlimit
    rw [List.take_left' (by simp; omega)] at hjson
    exact List.mem_reverse.mp hjson
  · rw [List.drop_eq_nil_of_le (by omega), List.append_nil] at hjson
    exact List.mem_reverse.mp (List.mem_of_mem_take hjson)

theorem exhausted_round {items : List Octstr} (hg : Exhausted p r limit items g)
    (hpush : ∀ lists, ∀ jsonstr ∈ items, r.matches? p jsonstr = none →
      push lists r.listKey jsonstr = lpush lists r.listKey jsonstr)
    (h : getStoredRound p push r limit g = some g') : Exhausted p r limit items g' := by
  rcases getStoredRound_cases h with ⟨popped, -, hpopped, -, -, hstore, hclaims, -⟩
  have hnext : ∀ jsonstr ∈ popped, jsonstr ∈ items ∧ r.matches? p jsonstr = none := by
    rw [hpopped]
    exact hg.next
  have hempty : claimsOf p r popped = [] :=
    (claimsOf_eq_nil_iff popped).mpr (fun jsonstr hjson => (hnext jsonstr hjson).2)
  have hsame : g'.claims = g.claims := by rw [hclaims, hempty, List.append_nil]
  have hrest : restOf p r popped = popped := by
    apply List.filter_eq_self.mpr
    intro jsonstr hjson
    simp [(hnext jsonstr hjson).2]
  refine ⟨hsame.trans hg.claims, ?_⟩
  have hlists : g'.store.lists r.listKey =
      popped.reverse ++ (g.store.lists r.listKey).drop (limit - g.claims.length) := by
    rw [hstore, foldl_take_congr _ _ (fun lists j hj => hpush lists j (hnext j hj).1),
      lists_foldl_take, hrest]
    simp [Progress.pop]
  intro jsonstr hjson
  rw [hlists, hsame, hpopped, take_reverse_take_append_drop, ← hpopped] at hjson
  exact hnext jsonstr (List.mem_reverse.mp hjson)

/-- Where the entries of the window that do not match go back as they were, a call claims exactly
those that match. -/
theorem getStored_claims {s : RedisStore} (limit : Nat)
    (hpush : ∀ lists, ∀ jsonstr ∈ window s r (effectiveLimit limit),
      r.matches? p jsonstr = none → push lists r.listKey jsonstr = lpush lists r.listKey jsonstr) :
    ∃ t, smppDatabaseRedisGetStored p push s r limit =
      some (t, claimsOf p r (window s r (effectiveLimit limit))) := by
  let start : Progress := { store := s, claims := [], emptyBatches := 0 }
  rcases @getStored_total p push r limit
    (fun g => g = start ∨ Exhausted p r (effectiveLimit limit) (window s r (effectiveLimit limit)) g)
    s (by
      rintro g g' (rfl | hg) hround
      · exact Or.inr (exhausted_first hpush hround)
      · exact Or.inr (exhausted_round hg hpush hround)) (Or.inl rfl) with ⟨g, hcall, hg, hstop⟩
  refine ⟨g.store, hcall.trans ?_⟩
  rcases hg with rfl | hg
  · -- no round was made, so that nothing was there to pop
    have hpos : 0 < effectiveLimit limit := by
      unfold effectiveLimit
      split
      · decide
      · omega
    cases hbatch : window s r (effectiveLimit limit) with
    | nil => rfl
    | cons item items =>
        have hpop : redisPop s.lists r.listKey (effectiveLimit limit) = item :: items := hbatch
        simp [getStoredRound, start, hpos, hpop] at hstop
  · rw [hg.claims]

/-- An MT message waiting for external pickup, and a report. -/
def sampleMtJson : Octstr := octstrImm "\x7b\"global_id\":1,\"sms_type\":2\x7d"

def sampleReportJson : Octstr := octstrImm "\x7b\"global_id\":1,\"sms_type\":3\x7d"

def sampleParser : Parser where
  jsonLoads := fun jsonstr =>
    if jsonstr = sampleMtJson then
      some [(octstrImm "global_id", .integer 1), (octstrImm "sms_type", .integer 2)]
    else if jsonstr = sampleReportJson then
      some [(octstrImm "global_id", .integer 1), (octstrImm "sms_type", .integer 3)]
    else none
  jsonLoads_nil := by decide
  uuidParse := fun _ => none
  generated := fun _ => Vector.replicate 16 0

def sampleReports : Request where
  storeTable := octstrImm "smpp_store"
  smsType := smsTypeReportMo
  service := none

/-- A store whose list has these entries. -/
def sampleStore (jsons : List Octstr) : RedisStore where
  lists := fun key => if key = sampleReports.listKey then jsons else []
  counters := fun _ => 0
  pendingMsg := Keyed.empty
  pendingMsgStore := Keyed.empty

theorem getStored_finds_iff_sample :
    ∃ t claims, smppDatabaseRedisGetStored sampleParser lpush
      (sampleStore [sampleMtJson, sampleReportJson]) sampleReports 2 = some (t, claims) ∧
        claims ≠ [] :=
  (getStored_finds_iff sampleParser _ sampleReports (by decide)).mpr
    ⟨sampleReportJson, by decide +kernel, by decide +kernel⟩

/-- With a limit of one, the MT message at the head hides the report behind it. -/
theorem getStored_misses_buried :
    sampleReportJson ∈ (sampleStore [sampleMtJson, sampleReportJson]).lists sampleReports.listKey ∧
      sampleReports.matches? sampleParser sampleReportJson ≠ none ∧
      ¬ ∃ t claims, smppDatabaseRedisGetStored sampleParser lpush
        (sampleStore [sampleMtJson, sampleReportJson]) sampleReports 1 = some (t, claims) ∧
          claims ≠ [] := by
  refine ⟨by decide +kernel, by decide +kernel, ?_⟩
  have hwindow : ∀ jsonstr ∈ window (sampleStore [sampleMtJson, sampleReportJson]) sampleReports 1,
      sampleReports.matches? sampleParser jsonstr = none := by
    decide +kernel
  rintro ⟨t, claims, hcall, hclaims⟩
  rcases getStored_nothing (Nat.le_refl 1) hwindow with ⟨t', hcall'⟩
  rw [hcall'] at hcall
  exact hclaims (Prod.mk.inj (Option.some.inj hcall)).2.symm

end Redis
end Ksmppd
