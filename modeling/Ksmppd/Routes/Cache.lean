import Ksmppd.Routes.Rebuild

/-!
# Cache — no list outlives a rebuild

A list that is in place after a rebuild was read since that rebuild began: the inbound list by the
rebuild itself, and an outbound list under the lock, which keeps the rebuild from changing the tables
while the list is on its way into the cache.  So a request that starts when the rebuild has returned
finds no list that is older.
-/

namespace Ksmppd
namespace Routes

open Lib

variable {smsSplit : Sms → Nat} {p p' : Pool Routing Call} {s s' : Routing} {c c' : Call}
  {r r' : Rebuild} {q q' : Request} {l : RouteList} {i : Nat} {S : Rebuild → Prop}
  {direction : Direction} {service : Option Octstr}

/-! ## Locks -/

/-- The request holds the lock for reading. -/
def Call.isReading : Call → Bool
  | .request q =>
      match q.phase with
      | .called | .returned _ _ => false
      | _ => true
  | _ => false

/-- The rebuild holds the lock for writing. -/
def Call.isWriting : Call → Bool
  | .rebuild r =>
      match r.phase with
      | .locked _ | .inboundSet | .swapped => true
      | _ => false
  | _ => false

/-- What the two counts of the lock stand for. -/
structure LockInv (p : Pool Routing Call) : Prop where
  readers : p.shared.readers = p.calls.countP Call.isReading
  writers : p.calls.countP Call.isWriting = p.shared.writing.toNat
  exclusive : p.shared.writing = true → p.shared.readers = 0

/-- What a step of a call does to the lock. -/
structure LockStep (s : Routing) (c : Call) (s' : Routing) (c' : Call) : Prop where
  readers : s'.readers + c.isReading.toNat = s.readers + c'.isReading.toNat
  writers : s'.writing.toNat + c.isWriting.toNat = s.writing.toNat + c'.isWriting.toNat
  exclusive : s'.writing = true → s'.readers = 0

theorem lockStep_rebuild (h : smppRouteRebuildDatabase s r = some (s', r'))
    (hwriting : (Call.rebuild r).isWriting = true → s.writing = true)
    (hexclusive : s.writing = true → s.readers = 0) :
    LockStep s (.rebuild r) s' (.rebuild r') := by
  rcases r with ⟨beganAt, phase⟩
  cases phase with
  | called =>
      cases h
      exact ⟨rfl, rfl, hexclusive⟩
  | read list =>
      simp only [smppRouteRebuildDatabase] at h
      split at h
      · rename_i hfree
        cases h
        exact ⟨rfl, by simp [hfree.2, Call.isWriting], fun _ => hfree.1⟩
      · cases h
  | locked list =>
      cases h
      exact ⟨rfl, rfl, hexclusive⟩
  | inboundSet =>
      cases h
      exact ⟨rfl, rfl, hexclusive⟩
  | swapped =>
      cases h
      exact ⟨rfl, by simp [hwriting rfl, Call.isWriting], fun h => nomatch h⟩
  | unlocked =>
      cases h
      exact ⟨rfl, rfl, hexclusive⟩
  | returned returnedAt => cases h

theorem lockStep_request (h : smppRouteMessageStep smsSplit s q = some (s', q'))
    (hreading : (Call.request q).isReading = true → 0 < s.readers)
    (hexclusive : s.writing = true → s.readers = 0) :
    LockStep s (.request q) s' (.request q') := by
  rcases q with ⟨direction, smscId, systemId, msg, startedAt, phase⟩
  cases phase with
  | called =>
      simp only [smppRouteMessageStep] at h
      split at h
      · rename_i hfree
        cases h
        refine ⟨rfl, rfl, ?_⟩
        intro hwriting
        rw [hfree] at hwriting
        cases hwriting
      · cases h
  | reading =>
      simp only [smppRouteMessageStep] at h
      split at h
      · split at h
        · cases h
          exact ⟨rfl, rfl, hexclusive⟩
        · cases h
      · cases h
        exact ⟨rfl, rfl, hexclusive⟩
      · cases h
        exact ⟨rfl, rfl, hexclusive⟩
  | outboundLocked =>
      rcases Option.map_eq_some_iff.mp h with ⟨dict, -, hmatch⟩
      split at hmatch
      · cases hmatch
        exact ⟨rfl, rfl, hexclusive⟩
      · cases hmatch
        exact ⟨rfl, rfl, hexclusive⟩
  | fetched list =>
      rcases Option.map_eq_some_iff.mp h with ⟨dict, -, hput⟩
      cases hput
      exact ⟨rfl, rfl, hexclusive⟩
  | cached list =>
      cases h
      exact ⟨rfl, rfl, hexclusive⟩
  | chosen list =>
      cases h
      exact ⟨rfl, rfl, hexclusive⟩
  | decided list result =>
      cases h
      refine ⟨?_, rfl, ?_⟩
      · have hone := hreading rfl
        simp only [Call.isReading, Bool.toNat_true, Bool.toNat_false]
        omega
      · intro hwriting
        simp [hexclusive hwriting]
  | returned list result => cases h

theorem writing_of_isWriting (h : LockInv p) (hmem : c ∈ p.calls) (hc : c.isWriting = true) :
    p.shared.writing = true := by
  have hpos : 0 < p.calls.countP Call.isWriting := List.countP_pos_iff.mpr ⟨c, hmem, hc⟩
  rw [h.writers] at hpos
  cases hwriting : p.shared.writing with
  | true => rfl
  | false => simp [hwriting] at hpos

theorem lockInv_advance (h : LockInv p) (hi : p.calls[i]? = some c)
    (hadvance : advanceCall smsSplit p.shared c = some (s', c')) :
    LockInv { shared := s', calls := p.calls.set i c' } := by
  have hmem := List.mem_of_getElem? hi
  have hreading : c.isReading = true → 0 < p.shared.readers := by
    intro hc
    rw [h.readers]
    exact List.countP_pos_iff.mpr ⟨c, hmem, hc⟩
  have hwriting := writing_of_isWriting h hmem
  have hstep : LockStep p.shared c s' c' := by
    rcases Option.map_eq_some_iff.mp hadvance with ⟨⟨s, d⟩, hact, hpast⟩
    have hcall : LockStep p.shared c s d := by
      cases c with
      | rebuild r =>
          rcases Option.map_eq_some_iff.mp hact with ⟨⟨s₁, r'⟩, hrebuild, heq⟩
          cases heq
          exact lockStep_rebuild hrebuild hwriting h.exclusive
      | request q =>
          rcases Option.map_eq_some_iff.mp hact with ⟨⟨s₁, q'⟩, hrequest, heq⟩
          cases heq
          exact lockStep_request hrequest hreading h.exclusive
      | edit rows =>
          cases rows with
          | none => cases hact
          | some rows =>
              cases hact
              exact ⟨rfl, rfl, h.exclusive⟩
    cases hpast
    exact ⟨hcall.readers, hcall.writers, hcall.exclusive⟩
  have hcountReaders := countP_calls_set Call.isReading hi c'
  have hcountWriters := countP_calls_set Call.isWriting hi c'
  have hreaders := hstep.readers
  have hwriters := hstep.writers
  have holdReaders := h.readers
  have holdWriters := h.writers
  refine ⟨?_, ?_, hstep.exclusive⟩
  · show s'.readers = (p.calls.set i c').countP Call.isReading
    omega
  · show (p.calls.set i c').countP Call.isWriting = s'.writing.toNat
    omega

/-- While the tables are changed no request looks at them. -/
theorem not_isReading (h : LockInv p) (hmem : c ∈ p.calls) (hc : c.isWriting = true) :
    ∀ c' ∈ p.calls, c'.isReading = false := by
  have hnone : p.calls.countP Call.isReading = 0 := by
    rw [← h.readers]
    exact h.exclusive (writing_of_isWriting h hmem hc)
  intro c' hc'
  simpa using List.countP_eq_zero.mp hnone c' hc'

/-! ## Lists -/

/-- The inbound list is the one of this rebuild, or a later one. -/
def Rebuild.hasSetInbound (r : Rebuild) : Prop :=
  match r.phase with
  | .inboundSet | .swapped | .unlocked | .returned _ => True
  | _ => False

/-- So are all outbound lists. -/
def Rebuild.hasSwapped (r : Rebuild) : Prop :=
  match r.phase with
  | .swapped | .unlocked | .returned _ => True
  | _ => False

def Rebuild.returnedBefore (r : Rebuild) (time : Nat) : Prop :=
  match r.phase with
  | .returned returnedAt => returnedAt < time
  | _ => False

/-- The routes of a list are those the database had when the list was read. -/
def FromDatabase (s : Routing) (direction : Direction) (service : Option Octstr) (l : RouteList) :
    Prop :=
  ∃ rows, s.past[l.readAt]? = some rows ∧ l.routes = rows direction service

/-- Some steps were made. -/
def Later (s s' : Routing) : Prop := ∃ more, s'.past = s.past ++ more

theorem FromDatabase.later (h : FromDatabase s direction service l) (hlater : Later s s') :
    FromDatabase s' direction service l := by
  rcases h with ⟨rows, hrows, hroutes⟩
  rcases hlater with ⟨more, hmore⟩
  refine ⟨rows, ?_, hroutes⟩
  rw [hmore, List.getElem?_append_left (List.getElem?_eq_some_iff.mp hrows).1]
  exact hrows

theorem Later.now (h : Later s s') : s.now ≤ s'.now := by
  rcases h with ⟨more, hmore⟩
  simp [Routing.now, hmore]

/-- The list was read from the database since these rebuilds began. -/
structure ReadAfter (p : Pool Routing Call) (S : Rebuild → Prop) (direction : Direction)
    (service : Option Octstr) (l : RouteList) : Prop where
  fromDatabase : FromDatabase p.shared direction service l
  after : ∀ r, .rebuild r ∈ p.calls → S r → r.beganAt ≤ l.readAt

/-- The rebuilds of a kind began when rebuilds of this kind began before. -/
def Covered (p p' : Pool Routing Call) (S : Rebuild → Prop) : Prop :=
  ∀ r', .rebuild r' ∈ p'.calls → S r' → ∃ r, .rebuild r ∈ p.calls ∧ S r ∧ r.beganAt = r'.beganAt

theorem ReadAfter.later (h : ReadAfter p S direction service l) (hlater : Later p.shared p'.shared)
    (hcovered : Covered p p' S) : ReadAfter p' S direction service l where
  fromDatabase := h.fromDatabase.later hlater
  after := by
    intro r' hr' hS'
    rcases hcovered r' hr' hS' with ⟨r, hr, hS, hbegan⟩
    rw [← hbegan]
    exact h.after r hr hS

/-! ## Calls -/

/-- A request that starts when a rebuild has returned decides by routes that are newer. -/
def DecidesByNew (p : Pool Routing Call) (q : Request) (list : Option RouteList) : Prop :=
  ∀ table, q.table = some table → ∀ r, .rebuild r ∈ p.calls → r.returnedBefore q.startedAt →
    ∃ l, list = some l ∧ FromDatabase p.shared table.1 table.2 l ∧ r.beganAt ≤ l.readAt

structure RequestInv (smsSplit : Sms → Nat) (p : Pool Routing Call) (q : Request) : Prop where
  started : q.startedAt ≤ p.shared.now
  phase :
    match q.phase with
    | .called | .reading => True
    | .outboundLocked => q.table = some (.outbound, some q.account)
    | .fetched l | .cached l => q.table = some (.outbound, some q.account) ∧
        ReadAfter p Rebuild.hasSwapped .outbound (some q.account) l
    | .chosen list => DecidesByNew p q list
    | .decided list result | .returned list result =>
        DecidesByNew p q list ∧ result = q.decideBy smsSplit list

structure RebuildInv (p : Pool Routing Call) (r : Rebuild) : Prop where
  began : r.beganAt ≤ p.shared.now
  inboundSet : r.hasSetInbound → p.shared.inboundRoutes.isSome = true
  phase :
    match r.phase with
    | .read l | .locked l => ReadAfter p (fun _ => True) .inbound none l
    | .returned returnedAt => returnedAt < p.shared.now
    | _ => True

def CallInv (smsSplit : Sms → Nat) (p : Pool Routing Call) : Call → Prop
  | .rebuild r => RebuildInv p r
  | .request q => RequestInv smsSplit p q
  | .edit _ => True

theorem DecidesByNew.later {list : Option RouteList} (h : DecidesByNew p q list)
    (hlater : Later p.shared p'.shared)
    (hcovered : Covered p p' (fun r => r.returnedBefore q.startedAt)) : DecidesByNew p' q list := by
  intro table htable r' hr' hreturned'
  rcases hcovered r' hr' hreturned' with ⟨r, hr, hreturned, hbegan⟩
  rcases h table htable r hr hreturned with ⟨l, hlist, hfrom, hle⟩
  exact ⟨l, hlist, hfrom.later hlater, hbegan ▸ hle⟩

/-- What a step of another call leaves true of a request. -/
theorem RequestInv.later (h : RequestInv smsSplit p q) (hlater : Later p.shared p'.shared)
    (hswapped : Covered p p' Rebuild.hasSwapped ∨ (Call.request q).isReading = false)
    (hreturned : ∀ time ≤ p.shared.now, Covered p p' (fun r => r.returnedBefore time)) :
    RequestInv smsSplit p' q := by
  refine ⟨Nat.le_trans h.started hlater.now, ?_⟩
  have hphase := h.phase
  have hnew := hreturned q.startedAt h.started
  -- a list on its way into the cache is held under the lock
  have hheld : ∀ l, ((Call.request q).isReading = true) →
      ReadAfter p Rebuild.hasSwapped .outbound (some q.account) l →
      ReadAfter p' Rebuild.hasSwapped .outbound (some q.account) l := by
    intro l hreading hl
    rcases hswapped with hcovered | hnot
    · exact hl.later hlater hcovered
    · rw [hreading] at hnot
      cases hnot
  cases hq : q.phase with
  | called => trivial
  | reading => trivial
  | outboundLocked =>
      rw [hq] at hphase
      exact hphase
  | fetched l =>
      rw [hq] at hphase
      exact ⟨hphase.1, hheld l (by simp [Call.isReading, hq]) hphase.2⟩
  | cached l =>
      rw [hq] at hphase
      exact ⟨hphase.1, hheld l (by simp [Call.isReading, hq]) hphase.2⟩
  | chosen list =>
      rw [hq] at hphase
      exact hphase.later hlater hnew
  | decided list result =>
      rw [hq] at hphase
      exact ⟨hphase.1.later hlater hnew, hphase.2⟩
  | returned list result =>
      rw [hq] at hphase
      exact ⟨hphase.1.later hlater hnew, hphase.2⟩

/-- What a step of another call leaves true of a rebuild. -/
theorem RebuildInv.later (h : RebuildInv p r) (hlater : Later p.shared p'.shared)
    (hinbound : p.shared.inboundRoutes.isSome = true → p'.shared.inboundRoutes.isSome = true)
    (hall : Covered p p' (fun _ => True) ∨ (Call.rebuild r).isOver = true) : RebuildInv p' r := by
  refine ⟨Nat.le_trans h.began hlater.now, fun hset => hinbound (h.inboundSet hset), ?_⟩
  have hphase := h.phase
  rcases r with ⟨beganAt, phase⟩
  have hbuilt : ∀ l, (Call.rebuild ⟨beganAt, phase⟩).isOver = false →
      ReadAfter p (fun _ => True) .inbound none l →
      ReadAfter p' (fun _ => True) .inbound none l := by
    intro l hover hl
    rcases hall with hcovered | hnot
    · exact hl.later hlater hcovered
    · rw [hnot] at hover
      cases hover
  cases phase with
  | read l => exact hbuilt l rfl hphase
  | locked l => exact hbuilt l rfl hphase
  | returned returnedAt => exact Nat.lt_of_lt_of_le hphase hlater.now
  | called => trivial
  | inboundSet => trivial
  | swapped => trivial
  | unlocked => trivial

theorem CallInv.later (h : CallInv smsSplit p c) (hlater : Later p.shared p'.shared)
    (hinbound : p.shared.inboundRoutes.isSome = true → p'.shared.inboundRoutes.isSome = true)
    (hall : Covered p p' (fun _ => True) ∨ c.isOver = true)
    (hswapped : Covered p p' Rebuild.hasSwapped ∨ c.isReading = false)
    (hreturned : ∀ time ≤ p.shared.now, Covered p p' (fun r => r.returnedBefore time)) :
    CallInv smsSplit p' c := by
  cases c with
  | rebuild r => exact RebuildInv.later h hlater hinbound hall
  | request q => exact RequestInv.later h hlater hswapped hreturned
  | edit rows => trivial

theorem hasSwapped_of_returnedBefore {time : Nat} (h : r.returnedBefore time) : r.hasSwapped := by
  unfold Rebuild.returnedBefore at h
  unfold Rebuild.hasSwapped
  cases hr : r.phase with
  | returned returnedAt => trivial
  | _ =>
      rw [hr] at h
      exact h.elim

theorem hasSetInbound_of_hasSwapped (h : r.hasSwapped) : r.hasSetInbound := by
  unfold Rebuild.hasSwapped at h
  unfold Rebuild.hasSetInbound
  cases hr : r.phase with
  | swapped => trivial
  | unlocked => trivial
  | returned returnedAt => trivial
  | _ =>
      rw [hr] at h
      exact h.elim

/-! ## The invariant -/

structure CacheInv (smsSplit : Sms → Nat) (p : Pool Routing Call) : Prop where
  locks : LockInv p
  calls : ∀ c ∈ p.calls, CallInv smsSplit p c
  inbound : ∀ l, p.shared.inboundRoutes = some l →
    ReadAfter p Rebuild.hasSetInbound .inbound none l
  outbound : ∀ dict, p.shared.outboundRoutes = some dict → ∀ c ∈ dict.entries,
    ReadAfter p Rebuild.hasSwapped .outbound (some c.systemId) c.list

/-- A step of this call was made. -/
structure Advanced (p : Pool Routing Call) (i : Nat) (c' : Call) (p' : Pool Routing Call) :
    Prop where
  past : p'.shared.past = p.shared.past ++ [p.shared.rows]
  calls : p'.calls = p.calls.set i c'

theorem Advanced.later (h : Advanced p i c' p') : Later p.shared p'.shared := ⟨_, h.past⟩

theorem Advanced.now_lt (h : Advanced p i c' p') : p.shared.now < p'.shared.now := by
  simp [Routing.now, h.past]

/-- A step of another call than a rebuild. -/
theorem Advanced.covered (h : Advanced p i c' p') (hc' : ∀ r, c' ≠ .rebuild r) :
    Covered p p' S := by
  intro r hr hS
  rw [h.calls] at hr
  rcases List.mem_or_eq_of_mem_set hr with hold | hnew
  · exact ⟨r, hold, hS, rfl⟩
  · exact absurd hnew.symm (hc' r)

/-- A step of a rebuild, which began when it began before. -/
theorem Advanced.covered_rebuild (h : Advanced p i (.rebuild r') p')
    (hi : p.calls[i]? = some (.rebuild r)) (hbegan : r'.beganAt = r.beganAt) (hS : S r' → S r) :
    Covered p p' S := by
  intro u hu hSu
  rw [h.calls] at hu
  rcases List.mem_or_eq_of_mem_set hu with hold | hnew
  · exact ⟨u, hold, hSu, rfl⟩
  · cases hnew
    exact ⟨r, List.mem_of_getElem? hi, hS hSu, hbegan.symm⟩

/-- A list that is read now is newer than all rebuilds. -/
theorem readAfter_getRoutes (h : CacheInv smsSplit p) (hadvanced : Advanced p i c' p')
    (hcovered : Covered p p' S) :
    ReadAfter p' S direction service (p.shared.getRoutes direction service) where
  fromDatabase := by
    refine ⟨p.shared.rows, ?_, rfl⟩
    rw [hadvanced.past]
    exact List.getElem?_concat_length
  after := by
    intro r' hr' hS'
    rcases hcovered r' hr' hS' with ⟨r, hr, -, hbegan⟩
    rw [← hbegan]
    exact (h.calls _ hr).began

/-! ## Steps of a request -/

theorem table_cases (q : Request) :
    q.table = some (.outbound, some q.account) ∨ q.table = some (.inbound, none) ∨
      q.table = none := by
  unfold Request.table
  split
  · exact Or.inl rfl
  · split
    · exact Or.inr (Or.inl rfl)
    · exact Or.inr (Or.inr rfl)

theorem decidesByNew_inbound (h : CacheInv smsSplit p) (htable : q.table = some (.inbound, none)) :
    DecidesByNew p q p.shared.inboundRoutes := by
  intro table htable' r hr hreturned
  have hset := hasSetInbound_of_hasSwapped (hasSwapped_of_returnedBefore hreturned)
  rcases Option.isSome_iff_exists.mp ((h.calls _ hr).inboundSet hset) with ⟨l, hl⟩
  have hread := h.inbound l hl
  cases Option.some.inj (htable.symm.trans htable')
  exact ⟨l, hl, hread.fromDatabase, hread.after r hr hset⟩

theorem decidesByNew_outbound (htable : q.table = some (.outbound, some q.account))
    (hread : ReadAfter p Rebuild.hasSwapped .outbound (some q.account) l) :
    DecidesByNew p q (some l) := by
  intro table htable' r hr hreturned
  cases Option.some.inj (htable.symm.trans htable')
  exact ⟨l, rfl, hread.fromDatabase, hread.after r hr (hasSwapped_of_returnedBefore hreturned)⟩

/-- What a step of a request leaves of the tables, and of the request itself. -/
structure RequestStep (smsSplit : Sms → Nat) (p p' : Pool Routing Call) (q' : Request) : Prop where
  inbound : p'.shared.inboundRoutes = p.shared.inboundRoutes
  outbound : ∀ dict', p'.shared.outboundRoutes = some dict' → ∀ c ∈ dict'.entries,
    (∃ dict, p.shared.outboundRoutes = some dict ∧ c ∈ dict.entries) ∨
      ReadAfter p' Rebuild.hasSwapped .outbound (some c.systemId) c.list
  request : RequestInv smsSplit p' q'

/-- The pool after a step of its call `i`. -/
def afterStep (p : Pool Routing Call) (i : Nat) (s' : Routing) (c' : Call) : Pool Routing Call where
  shared := { s' with past := p.shared.past ++ [p.shared.rows] }
  calls := p.calls.set i c'

theorem advanced_afterStep : Advanced p i c' (afterStep p i s' c') := ⟨rfl, rfl⟩

/-- A step of a request that leaves the tables. -/
theorem requestStep_of_same (hrequest : RequestInv smsSplit p' q')
    (hinbound : p'.shared.inboundRoutes = p.shared.inboundRoutes)
    (houtbound : p'.shared.outboundRoutes = p.shared.outboundRoutes) :
    RequestStep smsSplit p p' q' := by
  refine ⟨hinbound, ?_, hrequest⟩
  intro dict' hdict' c hc
  rw [houtbound] at hdict'
  exact Or.inl ⟨dict', hdict', hc⟩

theorem requestStep_of_step (h : CacheInv smsSplit p) (hi : p.calls[i]? = some (.request q))
    (hstep : smppRouteMessageStep smsSplit p.shared q = some (s', q')) :
    RequestStep smsSplit p (afterStep p i s' (.request q')) q' := by
  have hrequest : RequestInv smsSplit p q := h.calls _ (List.mem_of_getElem? hi)
  have hadvanced : Advanced p i (.request q') (afterStep p i s' (.request q')) := advanced_afterStep
  have hcovered : ∀ S, Covered p (afterStep p i s' (.request q')) S :=
    fun S => hadvanced.covered (fun _ hr => nomatch hr)
  have hlater := hadvanced.later
  have hstarted : q.startedAt ≤ (afterStep p i s' (.request q')).shared.now :=
    Nat.le_trans hrequest.started hlater.now
  have hphase := hrequest.phase
  unfold smppRouteMessageStep at hstep
  cases hq : q.phase with
  | called =>
      simp only [hq] at hstep
      split at hstep
      · cases hstep
        exact requestStep_of_same ⟨hstarted, trivial⟩ rfl rfl
      · cases hstep
  | reading =>
      rcases table_cases q with htable | htable | htable
      · simp only [hq, htable] at hstep
        split at hstep
        · cases hstep
          exact requestStep_of_same ⟨hstarted, htable⟩ rfl rfl
        · cases hstep
      · simp only [hq, htable] at hstep
        cases hstep
        have hdecides := (decidesByNew_inbound h htable).later hlater (hcovered _)
        exact requestStep_of_same ⟨hstarted, hdecides⟩ rfl rfl
      · simp only [hq, htable] at hstep
        cases hstep
        refine requestStep_of_same ⟨hstarted, ?_⟩ rfl rfl
        -- a request of no direction looks at no table
        intro table htable'
        cases htable.symm.trans htable'
  | outboundLocked =>
      simp only [hq] at hstep
      rw [hq] at hphase
      rcases Option.map_eq_some_iff.mp hstep with ⟨dict, hdict, hmatch⟩
      split at hmatch
      · rename_i c hc
        cases hmatch
        have hread := h.outbound dict hdict c (Keyed.find?_eq_some_iff.mp hc).1
        rw [Keyed.key_of_find? hc] at hread
        exact requestStep_of_same ⟨hstarted, hphase, hread.later hlater (hcovered _)⟩ rfl rfl
      · cases hmatch
        -- the list is read now, under the lock
        refine requestStep_of_same ⟨hstarted, hphase, ?_⟩ rfl rfl
        exact readAfter_getRoutes h hadvanced (hcovered _)
  | fetched list =>
      simp only [hq] at hstep
      rw [hq] at hphase
      rcases Option.map_eq_some_iff.mp hstep with ⟨dict, hdict, hput⟩
      have hread := hphase.2.later hlater (hcovered _)
      cases hput
      refine ⟨rfl, ?_, hstarted, hphase.1, hread⟩
      intro dict' hdict' c hc
      cases hdict'
      rcases Keyed.mem_put.mp hc with rfl | ⟨hold, -⟩
      · exact Or.inr hread
      · exact Or.inl ⟨dict, hdict, hold⟩
  | cached list =>
      simp only [hq] at hstep
      rw [hq] at hphase
      cases hstep
      have hdecides := (decidesByNew_outbound hphase.1 hphase.2).later hlater (hcovered _)
      exact requestStep_of_same ⟨hstarted, hdecides⟩ rfl rfl
  | chosen list =>
      simp only [hq] at hstep
      rw [hq] at hphase
      cases hstep
      have hdecides := hphase.later hlater (hcovered _)
      exact requestStep_of_same ⟨hstarted, hdecides, rfl⟩ rfl rfl
  | decided list result =>
      simp only [hq] at hstep
      rw [hq] at hphase
      cases hstep
      have hdecides := hphase.1.later hlater (hcovered _)
      exact requestStep_of_same ⟨hstarted, hdecides, hphase.2⟩ rfl rfl
  | returned list result =>
      simp only [hq] at hstep
      cases hstep

theorem lockInv_afterStep (h : CacheInv smsSplit p) (hi : p.calls[i]? = some c)
    (hact : actCall smsSplit p.shared c = some (s', c')) : LockInv (afterStep p i s' c') := by
  have hadvance : advanceCall smsSplit p.shared c = some ((afterStep p i s' c').shared, c') := by
    simp [advanceCall, hact, afterStep]
  exact lockInv_advance h.locks hi hadvance

/-- A step of another call than a rebuild leaves the inbound routes and adds to the outbound. -/
theorem cacheInv_of_not_rebuild (h : CacheInv smsSplit p) (hi : p.calls[i]? = some c)
    (hact : actCall smsSplit p.shared c = some (s', c')) (hc' : ∀ r, c' ≠ .rebuild r)
    (hnew : CallInv smsSplit (afterStep p i s' c') c')
    (hinbound : s'.inboundRoutes = p.shared.inboundRoutes)
    (houtbound : ∀ dict', s'.outboundRoutes = some dict' → ∀ c ∈ dict'.entries,
      (∃ dict, p.shared.outboundRoutes = some dict ∧ c ∈ dict.entries) ∨
        ReadAfter (afterStep p i s' c') Rebuild.hasSwapped .outbound (some c.systemId) c.list) :
    CacheInv smsSplit (afterStep p i s' c') := by
  have hadvanced : Advanced p i c' (afterStep p i s' c') := advanced_afterStep
  have hcovered : ∀ S, Covered p (afterStep p i s' c') S := fun S => hadvanced.covered hc'
  have hsame : (afterStep p i s' c').shared.inboundRoutes = p.shared.inboundRoutes := hinbound
  refine ⟨lockInv_afterStep h hi hact, ?_, ?_, ?_⟩
  · refine forall_calls_set h.calls hnew ?_
    intro c _ hc
    refine hc.later hadvanced.later ?_ (Or.inl (hcovered _)) (Or.inl (hcovered _))
      (fun _ _ => hcovered _)
    rw [hsame]
    exact id
  · intro l hl
    rw [hsame] at hl
    exact (h.inbound l hl).later hadvanced.later (hcovered _)
  · intro dict' hdict' c hc
    rcases houtbound dict' hdict' c hc with ⟨dict, hdict, hmem⟩ | hread
    · exact (h.outbound dict hdict c hmem).later hadvanced.later (hcovered _)
    · exact hread

theorem cacheInv_request (h : CacheInv smsSplit p) (hi : p.calls[i]? = some (.request q))
    (hstep : smppRouteMessageStep smsSplit p.shared q = some (s', q')) :
    CacheInv smsSplit (afterStep p i s' (.request q')) := by
  have hspec := requestStep_of_step h hi hstep
  have hact : actCall smsSplit p.shared (.request q) = some (s', .request q') := by
    simp [actCall, hstep]
  exact cacheInv_of_not_rebuild h hi hact (fun _ hr => nomatch hr) hspec.request hspec.inbound
    hspec.outbound

theorem cacheInv_edit {rows : RouteRows} (h : CacheInv smsSplit p)
    (hi : p.calls[i]? = some (.edit (some rows))) :
    CacheInv smsSplit (afterStep p i { p.shared with rows := rows } (.edit none)) :=
  cacheInv_of_not_rebuild h hi rfl (fun _ hr => nomatch hr) trivial rfl
    (fun dict hdict _ hc => Or.inl ⟨dict, hdict, hc⟩)

/-! ## Steps of a rebuild -/

/-- What a step of a rebuild has to keep, where it changes the tables or what is known of it. -/
theorem cacheInv_rebuild_of (h : CacheInv smsSplit p) (hi : p.calls[i]? = some (.rebuild r))
    (hact : actCall smsSplit p.shared (.rebuild r) = some (s', .rebuild r'))
    (hbegan : r'.beganAt = r.beganAt)
    (hnew : RebuildInv (afterStep p i s' (.rebuild r')) r')
    (hsome : p.shared.inboundRoutes.isSome = true → s'.inboundRoutes.isSome = true)
    (hswapped : (r'.hasSwapped → r.hasSwapped) ∨ (Call.rebuild r).isWriting = true)
    (hreturned : ∀ time ≤ p.shared.now, r'.returnedBefore time → r.returnedBefore time)
    (hinbound : ∀ l, s'.inboundRoutes = some l →
      ReadAfter (afterStep p i s' (.rebuild r')) Rebuild.hasSetInbound .inbound none l)
    (houtbound : ∀ dict, s'.outboundRoutes = some dict → ∀ c ∈ dict.entries,
      ReadAfter (afterStep p i s' (.rebuild r')) Rebuild.hasSwapped .outbound (some c.systemId)
        c.list) :
    CacheInv smsSplit (afterStep p i s' (.rebuild r')) := by
  have hadvanced : Advanced p i (.rebuild r') (afterStep p i s' (.rebuild r')) := advanced_afterStep
  refine ⟨lockInv_afterStep h hi hact, ?_, hinbound, houtbound⟩
  refine forall_calls_set h.calls hnew ?_
  intro c hc hinv
  refine hinv.later hadvanced.later hsome
    (Or.inl (hadvanced.covered_rebuild hi hbegan (fun _ => trivial))) ?_
    (fun time htime => hadvanced.covered_rebuild hi hbegan (hreturned time htime))
  rcases hswapped with hmono | hwriting
  · exact Or.inl (hadvanced.covered_rebuild hi hbegan hmono)
  · exact Or.inr (not_isReading h.locks (List.mem_of_getElem? hi) hwriting c hc)

theorem cacheInv_rebuild (h : CacheInv smsSplit p) (hi : p.calls[i]? = some (.rebuild r))
    (hstep : smppRouteRebuildDatabase p.shared r = some (s', r')) :
    CacheInv smsSplit (afterStep p i s' (.rebuild r')) := by
  have hact : actCall smsSplit p.shared (.rebuild r) = some (s', .rebuild r') := by
    simp [actCall, hstep]
  have hadvanced : Advanced p i (.rebuild r') (afterStep p i s' (.rebuild r')) := advanced_afterStep
  have hlater := hadvanced.later
  have hinv : RebuildInv p r := h.calls _ (List.mem_of_getElem? hi)
  -- tables that stay are as new as before
  have hkeepIn : r'.beganAt = r.beganAt → (r'.hasSetInbound → r.hasSetInbound) →
      ∀ l, p.shared.inboundRoutes = some l →
        ReadAfter (afterStep p i s' (.rebuild r')) Rebuild.hasSetInbound .inbound none l :=
    fun hbegan hmono l hl => (h.inbound l hl).later hlater
      (hadvanced.covered_rebuild hi hbegan hmono)
  have hkeepOut : r'.beganAt = r.beganAt → (r'.hasSwapped → r.hasSwapped) →
      ∀ dict, p.shared.outboundRoutes = some dict → ∀ c ∈ dict.entries,
        ReadAfter (afterStep p i s' (.rebuild r')) Rebuild.hasSwapped .outbound (some c.systemId)
          c.list :=
    fun hbegan hmono dict hdict c hc => (h.outbound dict hdict c hc).later hlater
      (hadvanced.covered_rebuild hi hbegan hmono)
  rcases r with ⟨beganAt, phase⟩
  have hbegan := Nat.le_trans hinv.began hlater.now
  have hinboundSet := hinv.inboundSet
  have hphase := hinv.phase
  cases phase with
  | called =>
      cases hstep
      refine cacheInv_rebuild_of h hi hact rfl ⟨hbegan, hinboundSet, ?_⟩ id (Or.inl id)
        (fun _ _ => id) (hkeepIn rfl id) (hkeepOut rfl id)
      exact readAfter_getRoutes h hadvanced (hadvanced.covered_rebuild hi rfl id)
  | read list =>
      simp only [smppRouteRebuildDatabase] at hstep
      split at hstep
      · cases hstep
        refine cacheInv_rebuild_of h hi hact rfl ⟨hbegan, hinboundSet, ?_⟩ id (Or.inl id)
          (fun _ _ => id) (hkeepIn rfl id) (hkeepOut rfl id)
        exact hphase.later hlater (hadvanced.covered_rebuild hi rfl id)
      · cases hstep
  | locked list =>
      cases hstep
      have hread : ReadAfter _ (fun _ => True) .inbound none list :=
        hphase.later hlater (hadvanced.covered_rebuild hi rfl id)
      refine cacheInv_rebuild_of h hi hact rfl ⟨hbegan, fun _ => rfl, trivial⟩ (fun _ => rfl)
        (Or.inl id) (fun _ _ => id) ?_ (hkeepOut rfl id)
      -- the list in place is the one of this rebuild, and newer than all others
      intro l hl
      cases hl
      exact ⟨hread.fromDatabase, fun r hr _ => hread.after r hr trivial⟩
  | inboundSet =>
      cases hstep
      refine cacheInv_rebuild_of h hi hact rfl ⟨hbegan, hinboundSet, trivial⟩ id (Or.inr rfl)
        (fun _ _ => id) (hkeepIn rfl id) ?_
      intro dict hdict c hc
      cases hdict
      cases hc
  | swapped =>
      cases hstep
      exact cacheInv_rebuild_of h hi hact rfl ⟨hbegan, hinboundSet, trivial⟩ id (Or.inl id)
        (fun _ _ => id) (hkeepIn rfl id) (hkeepOut rfl id)
  | unlocked =>
      cases hstep
      refine cacheInv_rebuild_of h hi hact rfl ⟨hbegan, hinboundSet, hadvanced.now_lt⟩ id
        (Or.inl id) ?_ (hkeepIn rfl id) (hkeepOut rfl id)
      -- no request that was made up to now starts after this
      intro time htime hbefore
      exact absurd hbefore (Nat.not_lt.mpr htime)
  | returned returnedAt => cases hstep

/-! ## Runs -/

theorem lockInv_enter (h : LockInv p) (hreading : c.isReading = false)
    (hwriting : c.isWriting = false) : LockInv { p with calls := p.calls ++ [c] } where
  readers := by simpa [List.countP_append, hreading] using h.readers
  writers := by simpa [List.countP_append, hwriting] using h.writers
  exclusive := h.exclusive

/-- A call that is entered has not done anything yet. -/
theorem cacheInv_enter {a : Args} (h : CacheInv smsSplit p) (henter : enterCall p a = some c) :
    CacheInv smsSplit { p with calls := p.calls ++ [c] } := by
  let p' : Pool Routing Call := { p with calls := p.calls ++ [c] }
  have hlater : Later p.shared p'.shared := ⟨[], (List.append_nil _).symm⟩
  have hcovered : ∀ S, (∀ r, c = .rebuild r → ¬ S r) → Covered p p' S := by
    intro S hnone r hr hS
    rcases List.mem_append.mp hr with hold | hnew
    · exact ⟨r, hold, hS, rfl⟩
    · exact absurd hS (hnone r (List.mem_singleton.mp hnew).symm)
  have hnew : c.isReading = false ∧ c.isWriting = false ∧ CallInv smsSplit p' c ∧
      (∀ r, c = .rebuild r → r.phase = .called) ∧
      ((∀ r, c ≠ .rebuild r) ∨ ∀ u ∈ p.calls, u.isOver = true) := by
    cases a with
    | rebuild =>
        simp only [enterCall] at henter
        split at henter
        · rename_i hover
          cases henter
          refine ⟨rfl, rfl, ⟨Nat.le_refl _, fun hset => hset.elim, trivial⟩, ?_,
            Or.inr (List.all_eq_true.mp hover)⟩
          intro r hr
          cases hr
          rfl
        · cases henter
    | request direction smscId systemId msg =>
        cases henter
        exact ⟨rfl, rfl, ⟨Nat.le_refl _, trivial⟩, (fun _ hr => nomatch hr),
          Or.inl (fun _ hr => nomatch hr)⟩
    | edit rows =>
        cases henter
        exact ⟨rfl, rfl, trivial, (fun _ hr => nomatch hr), Or.inl (fun _ hr => nomatch hr)⟩
  rcases hnew with ⟨hreading, hwriting, hcall, hcalled, hone⟩
  have hset : Covered p p' Rebuild.hasSetInbound := by
    refine hcovered _ (fun r hr => ?_)
    simp [Rebuild.hasSetInbound, hcalled r hr]
  have hswapped : Covered p p' Rebuild.hasSwapped := by
    refine hcovered _ (fun r hr => ?_)
    simp [Rebuild.hasSwapped, hcalled r hr]
  refine ⟨lockInv_enter h.locks hreading hwriting, ?_, ?_, ?_⟩
  · have hold : ∀ u ∈ p.calls, CallInv smsSplit p' u := by
      intro u hu
      refine (h.calls u hu).later hlater id ?_ (Or.inl hswapped) ?_
      · rcases hone with hother | hover
        · exact Or.inl (hcovered _ (fun r hr => absurd hr (hother r)))
        · exact Or.inr (hover u hu)
      · intro time _
        refine hcovered _ (fun r hr => ?_)
        simp [Rebuild.returnedBefore, hcalled r hr]
    exact forall_calls_append hold hcall
  · exact fun l hl => (h.inbound l hl).later hlater hset
  · exact fun dict hdict u hu => (h.outbound dict hdict u hu).later hlater hswapped

theorem cacheInv_step {l : PoolLabel Args} (h : CacheInv smsSplit p)
    (hstep : poolStep enterCall (advanceCall smsSplit) p l = some p') : CacheInv smsSplit p' := by
  cases poolStep_move hstep with
  | enter henter => exact cacheInv_enter h henter
  | advance hi hadvance =>
      rename_i i c c' s'
      rcases Option.map_eq_some_iff.mp hadvance with ⟨⟨s, d⟩, hact, hpast⟩
      cases hpast
      cases c with
      | rebuild r =>
          rcases Option.map_eq_some_iff.mp hact with ⟨⟨s₁, r'⟩, hrebuild, heq⟩
          cases heq
          exact cacheInv_rebuild h hi hrebuild
      | request q =>
          rcases Option.map_eq_some_iff.mp hact with ⟨⟨s₁, q'⟩, hrequest, heq⟩
          cases heq
          exact cacheInv_request h hi hrequest
      | edit rows =>
          cases rows with
          | none => cases hact
          | some rows =>
              cases hact
              exact cacheInv_edit h hi

theorem cacheInv_init (smsSplit : Sms → Nat) (rows : RouteRows) :
    CacheInv smsSplit (routingInit rows) where
  locks := ⟨rfl, rfl, fun h => nomatch h⟩
  calls := fun _ h => nomatch h
  inbound := fun _ h => nomatch h
  outbound := fun _ h => nomatch h

/-- What a request was decided by, and the decision. -/
def Request.decision (q : Request) : Option (Option RouteList × Option RouteResult) :=
  match q.phase with
  | .decided list result | .returned list result => some (list, result)
  | _ => none

/-- Nothing from before a rebuild is left: a request that starts when it has returned is decided by
routes that were read from the database since it began, and so are all lists that are in place. -/
structure NewRoutesOnly (smsSplit : Sms → Nat) (p : Pool Routing Call) (r : Rebuild)
    (returnedAt : Nat) : Prop where
  requests : ∀ q list result, .request q ∈ p.calls → q.decision = some (list, result) →
    returnedAt < q.startedAt → result = q.decideBy smsSplit list ∧
      ∀ table, q.table = some table → ∃ l, list = some l ∧
        FromDatabase p.shared table.1 table.2 l ∧ r.beganAt ≤ l.readAt
  inbound : ∃ l, p.shared.inboundRoutes = some l ∧ FromDatabase p.shared .inbound none l ∧
    r.beganAt ≤ l.readAt
  outbound : ∀ dict, p.shared.outboundRoutes = some dict → ∀ c ∈ dict.entries,
    FromDatabase p.shared .outbound (some c.systemId) c.list ∧ r.beganAt ≤ c.list.readAt

/-- After a rebuild has returned, only routes that were read since it began are in use. -/
theorem new_routes_after_rebuild {rows : RouteRows} {ls : List (PoolLabel Args)}
    {returnedAt : Nat}
    (hrun : Run (poolStep enterCall (advanceCall smsSplit)) anyStep (routingInit rows) ls p)
    (hr : .rebuild r ∈ p.calls) (hreturned : r.phase = .returned returnedAt) :
    NewRoutesOnly smsSplit p r returnedAt := by
  have h : CacheInv smsSplit p :=
    hrun.invariant (CacheInv smsSplit) (fun _ _ _ h _ hstep => cacheInv_step h hstep)
      (cacheInv_init smsSplit rows)
  have hswapped : r.hasSwapped := by simp [Rebuild.hasSwapped, hreturned]
  have hset := hasSetInbound_of_hasSwapped hswapped
  refine ⟨?_, ?_, ?_⟩
  · intro q list result hq hdecision hafter
    have hphase := (h.calls _ hq).phase
    have hbefore : r.returnedBefore q.startedAt := by
      simpa [Rebuild.returnedBefore, hreturned] using hafter
    have hdecided : DecidesByNew p q list ∧ result = q.decideBy smsSplit list := by
      unfold Request.decision at hdecision
      split at hdecision
      · rename_i heq
        cases hdecision
        rw [heq] at hphase
        exact hphase
      · rename_i heq
        cases hdecision
        rw [heq] at hphase
        exact hphase
      · cases hdecision
    exact ⟨hdecided.2, fun table htable => hdecided.1 table htable r hr hbefore⟩
  · rcases Option.isSome_iff_exists.mp ((h.calls _ hr).inboundSet hset) with ⟨l, hl⟩
    have hread := h.inbound l hl
    exact ⟨l, hl, hread.fromDatabase, hread.after r hr hset⟩
  · intro dict hdict c hc
    have hread := h.outbound dict hdict c hc
    exact ⟨hread.fromDatabase, hread.after r hr hswapped⟩

/-! ## A rebuild beside a request -/

/-- One route for everything, towards this SMSC. -/
def sampleRows (smscId : String) : RouteRows :=
  fun _ _ => [{
    regex := fun _ => true
    systemId := none
    smscId := some (octstrImm smscId)
    cost := 1
    sourceRegex := none }]

/-- A message of the account "test". -/
def sampleRequest : Args :=
  .request .outbound none (some (octstrImm "test"))
    { msgCreateSms (Vector.replicate 16 0) with receiver := some (octstrImm "123") }

/-- All steps of one call. -/
def advanceAll (i n : Nat) : List (PoolLabel Args) := List.replicate n (.advance i)

/-- The first rebuild; a request that has read its routes when the table is edited and a second
rebuild begins; and a request after the second rebuild. -/
def sampleRun : List (PoolLabel Args) :=
  .enter .rebuild :: advanceAll 0 6 ++ .enter sampleRequest :: advanceAll 1 3 ++
    .enter (.edit (sampleRows "new")) :: .advance 2 :: .enter .rebuild :: .advance 3 ::
    advanceAll 1 4 ++ advanceAll 3 5 ++ .enter sampleRequest :: advanceAll 4 7

/-- A rebuild that has returned, and when. -/
def Call.returnedRebuild : Call → Option (Rebuild × Nat)
  | .rebuild r =>
      match r.phase with
      | .returned returnedAt => some (r, returnedAt)
      | _ => none
  | _ => none

/-- The second rebuild, with the step at which it returned. -/
def secondRebuild (p : Pool Routing Call) : Option (Rebuild × Nat) :=
  p.calls[3]?.bind Call.returnedRebuild

theorem secondRebuild_spec {returnedAt : Nat} (h : secondRebuild p = some (r, returnedAt)) :
    .rebuild r ∈ p.calls ∧ r.phase = .returned returnedAt := by
  rcases Option.bind_eq_some_iff.mp h with ⟨c, hc, hreturned⟩
  cases c with
  | rebuild u =>
      simp only [Call.returnedRebuild] at hreturned
      split at hreturned
      · rename_i hphase
        cases hreturned
        exact ⟨List.mem_of_getElem? hc, hphase⟩
      · cases hreturned
  | request q => cases hreturned
  | edit rows => cases hreturned

theorem new_routes_after_rebuild_sample :
    ∃ p r returnedAt, Run (poolStep enterCall (advanceCall (fun _ => 1))) anyStep
        (routingInit (sampleRows "old")) sampleRun p ∧
      secondRebuild p = some (r, returnedAt) ∧ NewRoutesOnly (fun _ => 1) p r returnedAt := by
  have hexec : (execute (poolStep enterCall (advanceCall (fun _ => 1))) anyStep
      (routingInit (sampleRows "old")) sampleRun).any (fun p => (secondRebuild p).isSome) = true := by
    decide +kernel
  rcases exists_run_of_execute hexec with ⟨p, hrun, hsome⟩
  rcases Option.isSome_iff_exists.mp hsome with ⟨⟨r, returnedAt⟩, hrebuild⟩
  rcases secondRebuild_spec hrebuild with ⟨hr, hreturned⟩
  exact ⟨p, r, returnedAt, hrun, hrebuild, new_routes_after_rebuild hrun hr hreturned⟩

end Routes
end Ksmppd
