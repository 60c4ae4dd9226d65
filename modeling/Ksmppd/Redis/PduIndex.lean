import Ksmppd.Lib.Pool
import Ksmppd.Redis.PduStore

/-!
# PduIndex — the index of the lists that have entries

Calls of `smpp_database_redis_add_pdu` and `smpp_database_redis_get_stored_pdu` by any threads,
each Redis command one step.  A list with entries is in the index, or a call that has pushed onto it
has its `SADD` still to come.  Only `SREM` can break this: it acts on the answer to an `LLEN` that
other calls may have made out of date.
-/

namespace Ksmppd
namespace Redis

open Lib
open Database (smppRedisNormService)

/-! ## Interleavings -/

inductive PduArgs
  | addPdu (q : SmppQueuedPdu)
  | getStoredPdu (service : Option Octstr) (limit : Int)
  deriving DecidableEq, Repr

def PduArgs.call : PduArgs → PduCall
  | .addPdu q => .addPdu q .called
  | .getStoredPdu service limit => .getStoredPdu service limit .called

abbrev PduPool := Pool RedisKeys PduCall

def pduStep (c : PduSettings) : PduPool → PoolLabel PduArgs → Option PduPool :=
  poolStep (fun _ a => some a.call) (PduCall.command c)

def PduCall.returned : PduCall → Bool
  | .addPdu _ .returned => true
  | .getStoredPdu _ _ (.returned _) => true
  | _ => false

/-- Whether the call has pushed onto the list of this service and is about to enter it into the
index. -/
def PduCall.pushedFor (sid : Octstr) : PduCall → Bool
  | .addPdu q .pushed => smppRedisNormService q.systemId = sid
  | _ => false

/-- The service is a member of the index. -/
def Indexed (c : PduSettings) (r : RedisKeys) (service : Option Octstr) : Prop :=
  smppRedisNormService service ∈ r.sets (smppRedisPduEsmesKey c)

/-- An `SREM` finds the list still empty, or a call that has pushed onto it has its `SADD` still to
come. -/
def RemovesUnused (c : PduSettings) (p : PduPool) : PoolLabel PduArgs → Prop
  | .enter _ => True
  | .advance i =>
      match p.calls[i]? with
      | some (.getStoredPdu service _ .listEmpty) =>
          p.shared.lists (smppRedisPduListKey c service) = [] ∨
            ∃ d ∈ p.calls, d.pushedFor (smppRedisNormService service) = true
      | _ => True

/-- Every list with entries is in the index, or is about to be. -/
def Covered (c : PduSettings) (p : PduPool) : Prop :=
  ∀ service, p.shared.lists (smppRedisPduListKey c service) ≠ [] →
    Indexed c p.shared service ∨
      ∃ d ∈ p.calls, d.pushedFor (smppRedisNormService service) = true

variable {c : PduSettings} {p p' : PduPool} {l : PoolLabel PduArgs} {i : Nat} {t t' : PduCall}
  {r : RedisKeys} {q : SmppQueuedPdu} {sid : Octstr}

/-! ## What a command does -/

theorem pushedFor_eq_true_iff :
    t.pushedFor sid = true ↔ ∃ q, t = .addPdu q .pushed ∧ smppRedisNormService q.systemId = sid := by
  constructor
  · intro h
    cases t with
    | addPdu q phase =>
        cases phase with
        | pushed => exact ⟨q, rfl, by simpa [PduCall.pushedFor] using h⟩
        | called => cases h
        | numbered globalId => cases h
        | returned => cases h
    | getStoredPdu service limit phase => cases h
  · rintro ⟨q, rfl, rfl⟩
    simp [PduCall.pushedFor]

/-- A command is one that fills no list and leaves the index as it is, or the `LPUSH` of an
`add_pdu`, or its `SADD`, or the `SREM` of a `get_stored_pdu`. -/
inductive PduMove (c : PduSettings) (r : RedisKeys) : PduCall → RedisKeys → PduCall → Prop
  | read {t t' : PduCall} {r' : RedisKeys} (hfree : ∀ sid, t.pushedFor sid = false)
      (hlists : ∀ key, r'.lists key ≠ [] → r.lists key ≠ []) (hsets : r'.sets = r.sets)
      (hother : ∀ service limit, t ≠ .getStoredPdu service limit .listEmpty) :
      PduMove c r t r' t'
  | push {q : SmppQueuedPdu} {globalId : Nat} :
      PduMove c r (.addPdu q (.numbered globalId))
        (r.lpush (smppRedisPduListKey c q.systemId) (pduJson c globalId q)) (.addPdu q .pushed)
  | enter {q : SmppQueuedPdu} :
      PduMove c r (.addPdu q .pushed)
        (r.sadd (smppRedisPduEsmesKey c) (smppRedisNormService q.systemId)) (.addPdu q .returned)
  | leave {service : Option Octstr} {limit : Int} :
      PduMove c r (.getStoredPdu service limit .listEmpty)
        (r.srem (smppRedisPduEsmesKey c) (smppRedisNormService service))
        (.getStoredPdu service limit (.returned []))

theorem command_move {r' : RedisKeys} (h : t.command c r = some (r', t')) :
    PduMove c r t r' t' := by
  cases t with
  | addPdu q phase =>
      cases phase with
      | called =>
          cases h
          exact .read (fun _ => rfl) (fun _ hne => hne) rfl (by simp)
      | numbered globalId =>
          cases h
          exact .push
      | pushed =>
          cases h
          exact .enter
      | returned => cases h
  | getStoredPdu service limit phase =>
      cases phase with
      | called =>
          cases h
          exact .read (fun _ => rfl) (fun _ hne => RedisKeys.lists_of_lpop hne) rfl (by simp)
      | noMessages =>
          cases h
          exact .read (fun _ => rfl) (fun _ hne => hne) rfl (by simp)
      | listEmpty =>
          cases h
          exact .leave
      | returned messages => cases h

/-! ## The index covers the lists -/

/-- The calls that are about to enter their service, after a step of another call. -/
theorem exists_pushedFor_set (hi : p.calls[i]? = some t) (hfree : t.pushedFor sid = false)
    (h : ∃ d ∈ p.calls, d.pushedFor sid = true) :
    ∃ d ∈ p.calls.set i t', d.pushedFor sid = true := by
  rcases h with ⟨d, hd, hpushed⟩
  refine ⟨d, mem_calls_set hi hd ?_, hpushed⟩
  rintro rfl
  exact absurd hpushed (by simp [hfree])

theorem covered_advance (h : Covered c p) (hi : p.calls[i]? = some t)
    (hok : RemovesUnused c p (.advance i)) {r' : RedisKeys} (hmove : PduMove c p.shared t r' t') :
    Covered c { shared := r', calls := p.calls.set i t' } := by
  intro service hlist
  cases hmove with
  | read hfree hlists hsets hother =>
      -- what was indexed or pushed for still is
      rcases h service (hlists _ hlist) with hindexed | hpushed
      · left
        simpa [Indexed, hsets] using hindexed
      · right
        exact exists_pushedFor_set hi (hfree _) hpushed
  | @push q globalId =>
      by_cases hsame : smppRedisNormService q.systemId = smppRedisNormService service
      · -- the call itself is about to enter the service
        right
        exact ⟨_, mem_calls_set_self hi, pushedFor_eq_true_iff.mpr ⟨q, rfl, hsame⟩⟩
      · have hkey : smppRedisPduListKey c service ≠ smppRedisPduListKey c q.systemId :=
          fun heq => hsame (smppRedisPduListKey_inj.mp heq).symm
        -- the list of another service is not changed
        simp only [RedisKeys.lists_lpush_of_ne hkey] at hlist
        rcases h service hlist with hindexed | hpushed
        · exact Or.inl hindexed
        · right
          exact exists_pushedFor_set hi rfl hpushed
  | @enter q =>
      by_cases hsame : smppRedisNormService service = smppRedisNormService q.systemId
      · left
        exact RedisKeys.mem_sadd.mpr (Or.inl hsame)
      · rcases h service hlist with hindexed | hpushed
        · left
          exact RedisKeys.mem_sadd.mpr (Or.inr hindexed)
        · right
          have hfree : (PduCall.addPdu q .pushed).pushedFor (smppRedisNormService service) = false := by
            simpa [PduCall.pushedFor] using Ne.symm hsame
          exact exists_pushedFor_set hi hfree hpushed
  | @leave gone limit =>
      rcases h service hlist with hindexed | hpushed
      · by_cases hsame : smppRedisNormService service = smppRedisNormService gone
        · -- the service leaves the index; its list has entries, so a call must be about to enter it
          simp only [RemovesUnused, hi] at hok
          right
          apply exists_pushedFor_set hi rfl
          rw [hsame]
          apply hok.resolve_left
          rw [← smppRedisPduListKey_inj.mpr hsame]
          exact hlist
        · left
          exact RedisKeys.mem_srem.mpr ⟨hindexed, hsame⟩
      · right
        exact exists_pushedFor_set hi rfl hpushed

theorem covered_step (h : Covered c p) (hok : RemovesUnused c p l)
    (hstep : pduStep c p l = some p') : Covered c p' := by
  cases poolStep_move hstep with
  | enter henter =>
      -- a new call changes nothing
      intro service hlist
      rcases h service hlist with hindexed | ⟨d, hd, hpushed⟩
      · exact Or.inl hindexed
      · exact Or.inr ⟨d, List.mem_append.mpr (Or.inl hd), hpushed⟩
  | advance hi hadvance => exact covered_advance h hi hok (command_move hadvance)

theorem covered_run {ls : List (PoolLabel PduArgs)} (hcovered : Covered c p)
    (h : Run (pduStep c) (RemovesUnused c) p ls p') : Covered c p' :=
  h.invariant (Covered c) (fun _ _ _ hcovered hok hstep => covered_step hcovered hok hstep)
    hcovered

/-- A call that has returned is not about to do anything. -/
theorem pushedFor_of_returned (h : t.returned = true) : t.pushedFor sid = false := by
  cases t with
  | addPdu q phase =>
      cases phase with
      | returned => rfl
      | called => cases h
      | numbered globalId => cases h
      | pushed => cases h
  | getStoredPdu service limit phase => rfl

/-- Every service whose list has entries is a member of the index. -/
def IndexComplete (c : PduSettings) (r : RedisKeys) : Prop :=
  ∀ service, r.lists (smppRedisPduListKey c service) ≠ [] → Indexed c r service

/-- Where every `SREM` finds its list still empty, or about to be entered again, each service with
refused PDUs is listed whenever no call is in progress. -/
theorem pdu_index_complete {start : RedisKeys} (hstart : IndexComplete c start)
    {ls : List (PoolLabel PduArgs)}
    (h : Run (pduStep c) (RemovesUnused c) { shared := start, calls := [] } ls p)
    (hidle : ∀ t ∈ p.calls, t.returned = true) :
    IndexComplete c p.shared ∧ ∀ tables service,
      p.shared.lists (smppRedisPduListKey c service) ≠ [] →
        smppRedisNormService service ∈ smppDatabaseRedisGetEsmesWithQueued c tables p.shared := by
  have hinit : Covered c { shared := start, calls := [] } :=
    fun service hlist => Or.inl (hstart service hlist)
  have hcomplete : IndexComplete c p.shared := by
    intro service hlist
    -- no call is about to enter anything
    rcases covered_run hinit h service hlist with hindexed | ⟨t, ht, hpushed⟩
    · exact hindexed
    · exact absurd hpushed (by simp [pushedFor_of_returned (hidle t ht)])
  exact ⟨hcomplete, fun tables service hlist => mem_getEsmesWithQueued (hcomplete service hlist) tables⟩

/-! ## Samples -/

instance (p : PduPool) : (l : PoolLabel PduArgs) → Decidable (RemovesUnused c p l)
  | .enter _ => isTrue trivial
  | .advance i =>
      match hi : p.calls[i]? with
      | some (.getStoredPdu service limit .listEmpty) =>
          decidable_of_iff (p.shared.lists (smppRedisPduListKey c service) = [] ∨
            ∃ d ∈ p.calls, d.pushedFor (smppRedisNormService service) = true) (by
              simp [RemovesUnused, hi])
      | some (.getStoredPdu _ _ .called) => isTrue (by simp [RemovesUnused, hi])
      | some (.getStoredPdu _ _ .noMessages) => isTrue (by simp [RemovesUnused, hi])
      | some (.getStoredPdu _ _ (.returned _)) => isTrue (by simp [RemovesUnused, hi])
      | some (.addPdu _ _) => isTrue (by simp [RemovesUnused, hi])
      | none => isTrue (by simp [RemovesUnused, hi])

/-- A table `pdus`; no entry is read in the samples, and a packed PDU is a text of zeros. -/
def samplePduSettings : PduSettings where
  databasePduTable := octstrImm "pdus"
  jansson := sampleJansson
  parser :=
    { jsonLoads := fun _ => none
      jsonLoads_nil := rfl
      uuidParse := fun _ => none
      generated := fun _ => Vector.replicate 16 0 }
  codec :=
    { pack := fun _ _ => List.replicate 12 0
      unpack := fun _ _ => none }

def sampleKeys : RedisKeys where
  lists := fun _ => []
  sets := fun _ => []
  counters := fun _ => 0

def sampleService : Option Octstr := some (octstrImm "esme")

def sampleRefused : SmppQueuedPdu :=
  { smppQueuedPduCreate with
    pdu := some (.deliverSm { sequenceNumber := 1, esmClass := 0 })
    systemId := sampleService }

/-- A service without entries is looked at, and then a PDU is stored for it. -/
def samplePollThenAdd : List (PoolLabel PduArgs) :=
  [.enter (.getStoredPdu sampleService 10), .advance 0, .advance 0, .advance 0,
    .enter (.addPdu sampleRefused), .advance 1, .advance 1, .advance 1]

/-- All calls have returned, and the list of the service has an entry. -/
def samplePending (p : PduPool) : Bool :=
  p.calls.all PduCall.returned &&
    !(p.shared.lists (smppRedisPduListKey samplePduSettings sampleService)).isEmpty

theorem samplePending_iff {p : PduPool} : samplePending p = true ↔
    (∀ t ∈ p.calls, t.returned = true) ∧
      p.shared.lists (smppRedisPduListKey samplePduSettings sampleService) ≠ [] := by
  simp [samplePending]

theorem pdu_index_complete_sample :
    ∃ p, Run (pduStep samplePduSettings) (RemovesUnused samplePduSettings)
        { shared := sampleKeys, calls := [] } samplePollThenAdd p ∧
      p.shared.lists (smppRedisPduListKey samplePduSettings sampleService) ≠ [] ∧
      IndexComplete samplePduSettings p.shared := by
  have hexec : ((execute (pduStep samplePduSettings) (RemovesUnused samplePduSettings)
      { shared := sampleKeys, calls := [] } samplePollThenAdd).any samplePending) = true := by
    decide +kernel
  rcases exists_run_of_execute hexec with ⟨p, hrun, hpending⟩
  rcases samplePending_iff.mp hpending with ⟨hidle, hlist⟩
  have hstart : IndexComplete samplePduSettings sampleKeys := fun _ hne => absurd rfl hne
  exact ⟨p, hrun, hlist, (pdu_index_complete hstart hrun hidle).1⟩

/-- The same calls, the PDU being stored between the `LLEN` and the `SREM`. -/
def sampleAddInPoll : List (PoolLabel PduArgs) :=
  [.enter (.getStoredPdu sampleService 10), .advance 0, .advance 0,
    .enter (.addPdu sampleRefused), .advance 1, .advance 1, .advance 1, .advance 0]

/-- Both calls have returned, the list has an entry, and the index does not have the service. -/
theorem pdu_index_incomplete :
    ∃ p, Run (pduStep samplePduSettings) anyStep { shared := sampleKeys, calls := [] }
        sampleAddInPoll p ∧
      (∀ t ∈ p.calls, t.returned = true) ∧ ¬ IndexComplete samplePduSettings p.shared := by
  have hexec : ((execute (pduStep samplePduSettings) anyStep
      { shared := sampleKeys, calls := [] } sampleAddInPoll).any (fun p =>
        samplePending p &&
        decide (smppRedisNormService sampleService ∉
          p.shared.sets (smppRedisPduEsmesKey samplePduSettings)))) = true := by
    decide +kernel
  rcases exists_run_of_execute hexec with ⟨p, hrun, hend⟩
  rcases (Bool.and_eq_true _ _).mp hend with ⟨hpending, hnot⟩
  rcases samplePending_iff.mp hpending with ⟨hidle, hlist⟩
  exact ⟨p, hrun, hidle, fun hcomplete => of_decide_eq_true hnot (hcomplete sampleService hlist)⟩

end Redis
end Ksmppd
