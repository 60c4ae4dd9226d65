import Ksmppd.Dispatch.AckLimit
import Ksmppd.Dispatch.GetQueued
import Ksmppd.Redis.PduIndex

/-!
# FreeWindow — what is fetched for a session and the room it has

The first two fetchers keep the limit they are given.  The third does not: on tables its statement
has a limit of its own, and a limit of zero stands for a whole batch on either backend.  What is
fetched is counted by rows, of which each may become several PDUs.
-/

namespace Ksmppd
namespace Dispatch

open Lib
open Database (HandoutState smppDatabaseBatchLimit)
open Redis (smppRedisPduListKey smppRedisLpush requestFor)
open Receipts (smppPduMsgToPdu)

variable {env : QueueEnv} {e : SmppEsme}

/-! ## Counting -/

/-- How many PDUs a message becomes. -/
def convertedCount (env : QueueEnv) (e : SmppEsme) (m : SmppDatabaseMsg) : Nat :=
  match smppPduMsgToPdu env.kannel e env.catenatedSmsCounter m.msg with
  | .pdus ps => ps.length
  | .refused => 0
  | .crash => 0

def pdusOf (env : QueueEnv) (e : SmppEsme) (ms : List SmppDatabaseMsg) : Nat :=
  (ms.map (convertedCount env e)).sum

/-- What waits for a session, as far as a turn looks. -/
structure Backlog where
  pdus : Nat
  dlrs : List SmppDatabaseMsg
  reports : List SmppDatabaseMsg

/-- The first rows of the PDU table, of the DLR table behind them, and a batch of the store. -/
def mysqlBacklog (env : QueueEnv) (s : HandoutState) (e : SmppEsme) : Backlog :=
  let window := e.window.toNat
  let pdus := ((waitingPduRows s e.systemId).take window).length
  { pdus := pdus
    dlrs := ((waitingDlrRows s e.systemId).take (window - pdus)).map (dlrRowMsg env e.systemId)
    reports := ((waitingStoredRows s smsTypeReportMo e.systemId).take smppDatabaseBatchLimit).map
      storedMsgMsg }

/-- The reports the loop of `get_stored` finds in the list of the store. -/
def redisReports (env : QueueEnv) (s : RedisQueues) (e : SmppEsme) (limit : Nat) :
    List SmppDatabaseMsg :=
  match Redis.smppDatabaseRedisGetStored env.pduSettings.parser smppRedisLpush s.store
      (requestFor s.settings smsTypeReportMo e.systemId .auto) limit with
  | none => []
  | some (_, claims) => claims.map (fun c => storedMsgMsg c.msg)

/-- The lists without the entries of the PDU list that a turn pops. -/
def poppedPdus (env : QueueEnv) (s : RedisQueues) (e : SmppEsme) : RedisQueues :=
  s.setLists (smppRedisPduListKey env.pduSettings e.systemId)
    ((s.store.lists (smppRedisPduListKey env.pduSettings e.systemId)).drop e.window.toNat)

/-- The DLRs among the first entries of their list. -/
def waitingDlrEntries (env : QueueEnv) (s : RedisQueues) (e : SmppEsme) (limit : Nat) :
    List SmppDatabaseMsg :=
  if octstrLen s.databaseDlrTable = 0 then []
  else ((s.store.lists (smppRedisDlrListKey s e.systemId)).take limit).filterMap
    (dlrEntryMsg env e.systemId)

/-- The lists without these entries. -/
def poppedDlrs (s : RedisQueues) (e : SmppEsme) (limit : Nat) : RedisQueues :=
  if octstrLen s.databaseDlrTable = 0 then s
  else s.setLists (smppRedisDlrListKey s e.systemId)
    ((s.store.lists (smppRedisDlrListKey s e.systemId)).drop limit)

/-- The first entries of the PDU list that can be read, of the DLR list behind them, and the
reports of the store behind both. -/
def redisBacklog (env : QueueEnv) (s : RedisQueues) (e : SmppEsme) : Backlog :=
  let pdus := (((s.store.lists (smppRedisPduListKey env.pduSettings e.systemId)).take
    e.window.toNat).filterMap (Redis.storedPdu env.pduSettings e.systemId)).length
  let left := e.window.toNat - pdus
  let dlrs := waitingDlrEntries env (poppedPdus env s e) e left
  { pdus := pdus
    dlrs := dlrs
    reports := redisReports env (poppedDlrs (poppedPdus env s e) e left) e (left - dlrs.length) }

def backlog (env : QueueEnv) (s : QueueStore) (e : SmppEsme) : Backlog :=
  match s with
  | .mysql s => mysqlBacklog env s e
  | .redis s => redisBacklog env s e

/-- The PDUs of a backlog: DLRs and reports are only fetched while the PDUs leave room. -/
def Backlog.total (env : QueueEnv) (e : SmppEsme) (b : Backlog) : Nat :=
  if e.window ≤ b.pdus then b.pdus else b.pdus + pdusOf env e b.dlrs + pdusOf env e b.reports

/-! ## The fetchers -/

/-- What the turn of a reader fetches is its backlog. -/
structure FetchesBacklog (e : SmppEsme) (b : Backlog) (f : Fetched) : Prop where
  pdus : f.esmeQueue.length = b.pdus
  full : e.window ≤ b.pdus → f.dlrQueue = [] ∧ f.msgQueue = []
  room : ¬ e.window ≤ b.pdus → f.dlrQueue = b.dlrs ∧ f.msgQueue = b.reports

/-- The store after the PDU fetcher, and its PDUs. -/
def pduTurn (env : QueueEnv) (s : QueueStore) (e : SmppEsme) : QueueStore × List SmppQueuedPdu :=
  smppDatabaseGetStoredPdu env s e.systemId e.window

/-- The store after the DLR fetcher, and its DLRs. -/
def dlrTurn (env : QueueEnv) (s : QueueStore) (e : SmppEsme) :
    QueueStore × List SmppDatabaseMsg :=
  smppDatabaseGetDlrs env (pduTurn env s e).1 e.systemId
    (e.window - ((pduTurn env s e).2.length : Int))

/-- The store after the last fetcher, and its reports. -/
def reportTurn (env : QueueEnv) (s : QueueStore) (e : SmppEsme) :
    QueueStore × List SmppDatabaseMsg :=
  smppDatabaseGetStored env (dlrTurn env s e).1 smsTypeReportMo e.systemId
    (e.window - ((pduTurn env s e).2.length : Int) - ((dlrTurn env s e).2.length : Int))

theorem fetchQueues_full {s : QueueStore} (hwindow : e.window > 0)
    (hfull : e.window ≤ (pduTurn env s e).2.length) :
    fetchQueues env s e = ((pduTurn env s e).1, ⟨(pduTurn env s e).2, [], []⟩) := by
  have hnone : ¬ e.window - ((pduTurn env s e).2.length : Int) > 0 := by omega
  unfold pduTurn at hnone
  simp only [fetchQueues, if_pos hwindow, if_neg hnone, pduTurn]

theorem fetchQueues_room {s : QueueStore} (hwindow : e.window > 0)
    (hroom : ¬ e.window ≤ (pduTurn env s e).2.length) :
    fetchQueues env s e = ((reportTurn env s e).1,
      ⟨(pduTurn env s e).2, (dlrTurn env s e).2, (reportTurn env s e).2⟩) := by
  have hsome : e.window - ((pduTurn env s e).2.length : Int) > 0 := by omega
  unfold pduTurn at hsome
  simp only [fetchQueues, if_pos hwindow, if_pos hsome, pduTurn, dlrTurn, reportTurn]

/-- What each fetcher gives in its turn makes up what is fetched. -/
theorem fetchesBacklog_of_turns {s : QueueStore} {b : Backlog} (hwindow : e.window > 0)
    (hpdus : (pduTurn env s e).2.length = b.pdus)
    (hrest : ¬ e.window ≤ b.pdus →
      (dlrTurn env s e).2 = b.dlrs ∧ (reportTurn env s e).2 = b.reports) :
    FetchesBacklog e b (fetchQueues env s e).2 := by
  by_cases hfull : e.window ≤ b.pdus
  · have hturn := @fetchQueues_full env e s hwindow (hpdus.symm ▸ hfull)
    rw [hturn]
    exact ⟨hpdus, fun _ => ⟨rfl, rfl⟩, fun hroom => absurd hfull hroom⟩
  · have hturn := @fetchQueues_room env e s hwindow (hpdus.symm ▸ hfull)
    rw [hturn]
    exact ⟨hpdus, fun h => absurd h hfull, fun _ => hrest hfull⟩

theorem batchLimit_pos {limit : Int} (h : limit > 0) : batchLimit limit = limit.toNat :=
  if_neg (by omega)

theorem lpopCount_pos {limit : Int} (h : limit > 0) : Redis.lpopCount limit = limit.toNat :=
  if_neg (by omega)

/-- On tables no fetcher touches the rows that the next one selects. -/
theorem mysql_fetchesBacklog (env : QueueEnv) (s : HandoutState) (hwindow : e.window > 0) :
    FetchesBacklog e (mysqlBacklog env s e) (fetchQueues env (.mysql s) e).2 := by
  have hpdus : (pduTurn env (.mysql s) e).2.length = (mysqlBacklog env s e).pdus := by
    simp [pduTurn, smppDatabaseGetStoredPdu, mysqlGetStoredPdu, mysqlBacklog]
  apply fetchesBacklog_of_turns hwindow hpdus
  intro hroom
  have hlimit : batchLimit (e.window - ((pduTurn env (.mysql s) e).2.length : Int)) =
      e.window.toNat - (mysqlBacklog env s e).pdus := by
    rw [batchLimit_pos (by omega)]
    omega
  constructor
  · calc
      (dlrTurn env (.mysql s) e).2
          = ((waitingDlrRows s e.systemId).take
              (batchLimit (e.window - ((pduTurn env (.mysql s) e).2.length : Int)))).map
                (dlrRowMsg env e.systemId) := rfl
      _ = (mysqlBacklog env s e).dlrs := by rw [hlimit]; rfl
  · rfl

theorem redisGetStored_reports (env : QueueEnv) (s : RedisQueues) {limit : Int}
    (hlimit : 0 ≤ limit) :
    (redisGetStored env s smsTypeReportMo e.systemId limit).2 =
      redisReports env s e limit.toNat := by
  have hpos : ¬ limit < 0 := by omega
  unfold redisGetStored redisReports
  rw [if_neg hpos]
  cases Redis.smppDatabaseRedisGetStored env.pduSettings.parser smppRedisLpush s.store
      (requestFor s.settings smsTypeReportMo e.systemId .auto) limit.toNat with
  | none => simp
  | some p => simp

/-- Where nothing that goes back is torn apart, these are the reports for the session among the
first entries, as many as the limit says. -/
theorem redisReports_eq (env : QueueEnv) (s : RedisQueues) (limit : Nat)
    {r : Redis.Request} (hr : r = requestFor s.settings smsTypeReportMo e.systemId .auto)
    (hkey : Plain Redis.blank Redis.percent r.listKey)
    (hplain : ∀ jsonstr ∈ Redis.window s.store r (Database.effectiveLimit limit),
      r.matches? env.pduSettings.parser jsonstr = none →
        jsonstr ≠ [] ∧ Plain Redis.blank Redis.percent jsonstr) :
    redisReports env s e limit =
      (Redis.claimsOf env.pduSettings.parser r
        (Redis.window s.store r (Database.effectiveLimit limit))).map
          (fun c => storedMsgMsg c.msg) := by
  have hclaims := @Redis.getStored_claims env.pduSettings.parser smppRedisLpush r s.store
    limit (by
      intro lists jsonstr hjson hmatch
      rcases hplain jsonstr hjson hmatch with ⟨hne, hwhole⟩
      exact Redis.smppRedisLpush_eq lists (Redis.storeQueueKey_ne_nil r.storeTable) hne
        ⟨hkey, hwhole⟩)
  rcases hclaims with ⟨t, hcall⟩
  simp only [redisReports, ← hr, hcall]

theorem redis_pduTurn (env : QueueEnv) (s : RedisQueues) (hwindow : e.window > 0) :
    pduTurn env (.redis s) e = (.redis (poppedPdus env s e),
      ((s.store.lists (smppRedisPduListKey env.pduSettings e.systemId)).take
        e.window.toNat).filterMap (Redis.storedPdu env.pduSettings e.systemId)) := by
  simp [pduTurn, smppDatabaseGetStoredPdu, redisGetStoredPdu, RedisQueues.pop, poppedPdus,
    lpopCount_pos hwindow, Redis.redisPop]

theorem redisGetDlrs_eq (env : QueueEnv) (s : RedisQueues) {limit : Int} (hlimit : limit > 0) :
    redisGetDlrs env s e.systemId limit =
      (poppedDlrs s e limit.toNat, waitingDlrEntries env s e limit.toNat) := by
  by_cases htable : octstrLen s.databaseDlrTable = 0
  · simp [redisGetDlrs, poppedDlrs, waitingDlrEntries, htable]
  · simp [redisGetDlrs, poppedDlrs, waitingDlrEntries, htable, RedisQueues.pop,
      lpopCount_pos hlimit, Redis.redisPop]

theorem length_waitingDlrEntries_le (env : QueueEnv) (s : RedisQueues) (limit : Nat) :
    (waitingDlrEntries env s e limit).length ≤ limit := by
  unfold waitingDlrEntries
  split
  · exact Nat.zero_le limit
  · exact (List.length_filterMap_le _ _).trans (List.length_take_le _ _)

theorem redis_fetchesBacklog (env : QueueEnv) (s : RedisQueues) (hwindow : e.window > 0) :
    FetchesBacklog e (redisBacklog env s e) (fetchQueues env (.redis s) e).2 := by
  have hturn := redis_pduTurn env s hwindow
  have hpdus : (pduTurn env (.redis s) e).2.length = (redisBacklog env s e).pdus := by
    simp [hturn, redisBacklog]
  apply fetchesBacklog_of_turns hwindow hpdus
  intro hroom
  have hleft : (e.window - ((pduTurn env (.redis s) e).2.length : Int)).toNat =
      e.window.toNat - (redisBacklog env s e).pdus := by omega
  have hdlrs : dlrTurn env (.redis s) e =
      (.redis (poppedDlrs (poppedPdus env s e) e (e.window.toNat - (redisBacklog env s e).pdus)),
        (redisBacklog env s e).dlrs) := by
    have hsome : e.window - ((pduTurn env (.redis s) e).2.length : Int) > 0 := by omega
    have heq := redisGetDlrs_eq (e := e) env (poppedPdus env s e) hsome
    calc
      dlrTurn env (.redis s) e
          = (redisGetDlrs env (poppedPdus env s e) e.systemId
              (e.window - ((pduTurn env (.redis s) e).2.length : Int))).map .redis id := by
            simp only [dlrTurn, smppDatabaseGetDlrs, hturn]
      _ = _ := by
            rw [heq, hleft]
            rfl
  refine ⟨congrArg Prod.snd hdlrs, ?_⟩
  -- the DLRs are no more than what was left for them, so that a limit is left for the reports
  have hshort : (redisBacklog env s e).dlrs.length ≤
      e.window.toNat - (redisBacklog env s e).pdus :=
    length_waitingDlrEntries_le env _ _
  have hlimit : 0 ≤ e.window - ((pduTurn env (.redis s) e).2.length : Int) -
      ((redisBacklog env s e).dlrs.length : Int) := by omega
  have hreports := redisGetStored_reports (e := e) env
    (poppedDlrs (poppedPdus env s e) e (e.window.toNat - (redisBacklog env s e).pdus)) hlimit
  calc
    (reportTurn env (.redis s) e).2
        = (redisGetStored env (poppedDlrs (poppedPdus env s e) e
            (e.window.toNat - (redisBacklog env s e).pdus)) smsTypeReportMo e.systemId
            (e.window - ((pduTurn env (.redis s) e).2.length : Int) -
              ((redisBacklog env s e).dlrs.length : Int))).2 := by
          simp only [reportTurn, hdlrs, smppDatabaseGetStored, Prod.map, id]
    _ = redisReports env (poppedDlrs (poppedPdus env s e) e
            (e.window.toNat - (redisBacklog env s e).pdus)) e
            (e.window.toNat - (redisBacklog env s e).pdus - (redisBacklog env s e).dlrs.length) := by
          rw [hreports]
          congr 1
          omega
    _ = (redisBacklog env s e).reports := rfl

theorem fetchesBacklog (env : QueueEnv) (s : QueueStore) (hwindow : e.window > 0) :
    FetchesBacklog e (backlog env s e) (fetchQueues env s e).2 := by
  cases s with
  | mysql s => exact mysql_fetchesBacklog env s hwindow
  | redis s => exact redis_fetchesBacklog env s hwindow

/-! ## What the first two fetchers keep -/

theorem backlog_pdus_le (env : QueueEnv) (s : QueueStore) (e : SmppEsme) :
    (backlog env s e).pdus ≤ e.window.toNat := by
  cases s with
  | mysql s => exact List.length_take_le _ _
  | redis s => exact (List.length_filterMap_le _ _).trans (List.length_take_le _ _)

theorem backlog_dlrs_le (env : QueueEnv) (s : QueueStore) (e : SmppEsme) :
    (backlog env s e).dlrs.length ≤ e.window.toNat - (backlog env s e).pdus := by
  cases s with
  | mysql s =>
      simp only [backlog, mysqlBacklog, List.length_map]
      exact List.length_take_le _ _
  | redis s => exact length_waitingDlrEntries_le env _ _

/-! ## Reports -/

theorem claims_match {p : Redis.Parser} {push : Redis.Push} {r : Redis.Request} {limit : Nat}
    {s t : Redis.RedisStore} {claims : List Redis.Claim}
    (h : Redis.smppDatabaseRedisGetStored p push s r limit = some (t, claims)) :
    ∀ c ∈ claims, Redis.Matches p r c := by
  rcases @Redis.getStored_total p push r limit (fun g => ∀ c ∈ g.claims, Redis.Matches p r c)
    s (by
      intro g g' hg hround c hc
      rcases Redis.getStoredRound_cases hround with ⟨items, -, -, -, -, -, hclaims, -⟩
      rw [hclaims] at hc
      rcases List.mem_append.mp hc with hold | hnew
      · exact hg c hold
      · rcases List.mem_filterMap.mp hnew with ⟨jsonstr, -, hmatch⟩
        exact (Redis.matches?_eq_some hmatch).2) (by simp) with ⟨g, hcall, hg, -⟩
  rw [h] at hcall
  cases hcall
  exact hg

/-- All that is fetched besides PDUs is a report. -/
theorem backlog_reports (env : QueueEnv) (s : QueueStore) (e : SmppEsme) :
    (∀ m ∈ (backlog env s e).dlrs, m.msg.smsType = smsTypeReportMo) ∧
      ∀ m ∈ (backlog env s e).reports, m.msg.smsType = smsTypeReportMo := by
  cases s with
  | mysql s =>
      constructor
      · intro m hm
        rcases List.mem_map.mp hm with ⟨row, -, rfl⟩
        rfl
      · intro m hm
        rcases List.mem_map.mp hm with ⟨row, hrow, rfl⟩
        have hselect := (List.mem_filter.mp (List.mem_of_mem_take hrow)).2
        simp only [Database.StoreState.selects, Bool.and_eq_true, decide_eq_true_eq] at hselect
        exact hselect.1.1
  | redis s =>
      constructor
      · intro m hm
        simp only [backlog, redisBacklog, waitingDlrEntries] at hm
        split at hm
        · cases hm
        · rcases List.mem_filterMap.mp hm with ⟨jsonstr, -, hread⟩
          rcases Option.map_eq_some_iff.mp hread with ⟨root, -, rfl⟩
          rfl
      · intro m hm
        simp only [backlog, redisBacklog, redisReports] at hm
        split at hm
        · cases hm
        · rename_i t claims hcall
          rcases List.mem_map.mp hm with ⟨c, hc, rfl⟩
          exact (claims_match hcall c hc).smsType

theorem convert_report {m : SmppDatabaseMsg} (h : m.msg.smsType = smsTypeReportMo) :
    smppPduMsgToPdu env.kannel e env.catenatedSmsCounter m.msg ≠ .crash := by
  unfold smppPduMsgToPdu
  simp only [h, if_true]
  split
  · simp
  · unfold Receipts.reportPdus
    split
    · simp
    · split <;> simp

/-- A report that is converted is queued by its PDUs, one that is refused is not queued. -/
theorem length_queueMsgs (fromDlrTable : Bool) (s : QueueStore) {ms : List SmppDatabaseMsg}
    (hreports : ∀ m ∈ ms, m.msg.smsType = smsTypeReportMo) :
    ∃ t qs, queueMsgs env e fromDlrTable s ms = some (t, qs) ∧ qs.length = pdusOf env e ms := by
  induction ms generalizing s with
  | nil => exact ⟨s, [], rfl, rfl⟩
  | cons m ms ih =>
      have hrest := fun n hn => hreports n (List.mem_cons_of_mem m hn)
      cases hconvert : smppPduMsgToPdu env.kannel e env.catenatedSmsCounter m.msg with
      | crash => exact absurd hconvert (convert_report (hreports m List.mem_cons_self))
      | refused =>
          rcases ih (removeRefused env fromDlrTable (env.freed m.globalId) s) hrest with
            ⟨t, qs, hqueue, hlength⟩
          refine ⟨t, qs, by simpa [queueMsgs, hconvert] using hqueue, ?_⟩
          simp [pdusOf, convertedCount, hconvert, hlength]
      | pdus ps =>
          rcases ih s hrest with ⟨t, qs, hqueue, hlength⟩
          refine ⟨t, ps.map (queuedPart e fromDlrTable m.globalId) ++ qs,
            by simp [queueMsgs, hconvert, hqueue], ?_⟩
          simp [pdusOf, convertedCount, hconvert, hlength]

/-! ## Turns -/

/-- A turn is that of a reader, and queues its backlog. -/
structure TurnOf (env : QueueEnv) (turn : Turn) : Prop where
  window : turn.esme.window > 0
  fetched : FetchesBacklog turn.esme (backlog env turn.before turn.esme) turn.fetched
  queued : turn.queued.length = (backlog env turn.before turn.esme).total env turn.esme

theorem getQueuedFor_turnOf (env : QueueEnv) (s : QueueStore) (hwindow : e.window > 0) :
    ∃ t turn, getQueuedFor env s e = some (t, turn) ∧ turn.before = s ∧ turn.esme = e ∧
      TurnOf env turn := by
  have hfetch := fetchesBacklog env s hwindow
  have hreports := backlog_reports env s e
  have hdlrs : ∀ m ∈ (fetchQueues env s e).2.dlrQueue, m.msg.smsType = smsTypeReportMo := by
    by_cases hfull : e.window ≤ (backlog env s e).pdus
    · simp [(hfetch.full hfull).1]
    · simpa [(hfetch.room hfull).1] using hreports.1
  have hmsgs : ∀ m ∈ (fetchQueues env s e).2.msgQueue, m.msg.smsType = smsTypeReportMo := by
    by_cases hfull : e.window ≤ (backlog env s e).pdus
    · simp [(hfetch.full hfull).2]
    · simpa [(hfetch.room hfull).2] using hreports.2
  rcases @length_queueMsgs env e true (fetchQueues env s e).1 _ hdlrs with
    ⟨t, dlrs, hqueueDlrs, hlengthDlrs⟩
  rcases @length_queueMsgs env e false t _ hmsgs with
    ⟨u, msgs, hqueueMsgs, hlengthMsgs⟩
  refine ⟨u, ⟨s, e, (fetchQueues env s e).2, (fetchQueues env s e).2.esmeQueue ++ dlrs ++ msgs⟩,
    ?_, rfl, rfl, hwindow, hfetch, ?_⟩
  · simp [getQueuedFor, hqueueDlrs, hqueueMsgs]
  · by_cases hfull : e.window ≤ (backlog env s e).pdus
    · simp [Backlog.total, hfull, hlengthDlrs, hlengthMsgs, hfetch.pdus, hfetch.full hfull, pdusOf]
    · simp [Backlog.total, hfull, hlengthDlrs, hlengthMsgs, hfetch.pdus, hfetch.room hfull,
        Nat.add_assoc]

theorem getQueuedTurns_turnOf (env : QueueEnv) (s : QueueStore) {readers : List SmppEsme}
    (hwindow : ∀ e ∈ readers, e.window > 0) :
    ∃ t turns, getQueuedTurns env s readers = some (t, turns) ∧
      turns.map Turn.esme = readers ∧ ∀ turn ∈ turns, TurnOf env turn := by
  induction readers generalizing s with
  | nil => exact ⟨s, [], rfl, rfl, by simp⟩
  | cons e es ih =>
      rcases getQueuedFor_turnOf env s (hwindow e List.mem_cons_self) with
        ⟨t, turn, hfor, -, hesme, hturn⟩
      rcases ih t (fun e he => hwindow e (List.mem_cons_of_mem _ he)) with
        ⟨u, turns, hturns, hesmes, hall⟩
      refine ⟨u, turn :: turns, by simp [getQueuedTurns, hfor, hturns], by simp [hesme, hesmes], ?_⟩
      intro x hx
      rcases List.mem_cons.mp hx with rfl | hx
      · exact hturn
      · exact hall x hx

/-! ## The whole call -/

/-- Where a turn starts. -/
def Turn.start (turn : Turn) : QueueStore × SmppEsme := (turn.before, turn.esme)

/-- How many PDUs a call fetches for a session. -/
def queuedFor (turns : List Turn) (esme : EsmeRef) : Nat :=
  ((turns.filter (fun turn => turn.esme.id = esme)).map (fun turn => turn.queued.length)).sum

/-- Each session gets at most its free window, and each fetcher gives at most what is left of it
by the fetchers before. -/
structure WithinWindows (turns : List Turn) : Prop where
  sessions : ∀ turn ∈ turns, (queuedFor turns turn.esme.id : Int) ≤ turn.esme.window
  esmeQueue : ∀ turn ∈ turns, (turn.fetched.esmeQueue.length : Int) ≤ turn.esme.window
  dlrQueue : ∀ turn ∈ turns, (turn.fetched.dlrQueue.length : Int) ≤
    turn.esme.window - turn.fetched.esmeQueue.length
  msgQueue : ∀ turn ∈ turns, (turn.fetched.msgQueue.length : Int) ≤
    turn.esme.window - turn.fetched.esmeQueue.length - turn.fetched.dlrQueue.length

/-- The PDUs that wait for a session where its turns start. -/
def backlogFor (env : QueueEnv) (starts : List (QueueStore × SmppEsme)) (esme : EsmeRef) : Nat :=
  ((starts.filter (fun p => p.2.id = esme)).map
    (fun p => (backlog env p.1 p.2).total env p.2)).sum

/-- The backlog of each session fits into its window by PDUs; and where refused PDUs do not fill
the window, the reports that wait fit by rows into what the other rows leave. -/
structure Fits (env : QueueEnv) (starts : List (QueueStore × SmppEsme)) : Prop where
  pdus : ∀ p ∈ starts, (backlogFor env starts p.2.id : Int) ≤ p.2.window
  reports : ∀ p ∈ starts, ¬ p.2.window ≤ (backlog env p.1 p.2).pdus →
    ((backlog env p.1 p.2).reports.length : Int) ≤
      p.2.window - (backlog env p.1 p.2).pdus - (backlog env p.1 p.2).dlrs.length

theorem queuedFor_eq {turns : List Turn} (hturns : ∀ turn ∈ turns, TurnOf env turn)
    (esme : EsmeRef) : queuedFor turns esme = backlogFor env (turns.map Turn.start) esme := by
  induction turns with
  | nil => rfl
  | cons turn turns ih =>
      have hrest := ih (fun x hx => hturns x (List.mem_cons_of_mem _ hx))
      have hturn := (hturns turn List.mem_cons_self).queued
      unfold queuedFor backlogFor at hrest ⊢
      by_cases hesme : turn.esme.id = esme
      · simp [Turn.start, hesme, hturn, hrest]
      · simp [Turn.start, hesme, hrest]

/-- The second and the third part of a turn never exceed what is left. -/
theorem TurnOf.keeps {turn : Turn} (h : TurnOf env turn) :
    (turn.fetched.esmeQueue.length : Int) ≤ turn.esme.window ∧
      (turn.fetched.dlrQueue.length : Int) ≤
        turn.esme.window - turn.fetched.esmeQueue.length := by
  have hwindow := h.window
  have hpdus := backlog_pdus_le env turn.before turn.esme
  have hdlrs := backlog_dlrs_le env turn.before turn.esme
  rw [h.fetched.pdus]
  by_cases hfull : turn.esme.window ≤ (backlog env turn.before turn.esme).pdus
  · rw [(h.fetched.full hfull).1]
    simp only [List.length_nil]
    omega
  · rw [(h.fetched.room hfull).1]
    omega

/-- Whether the reports of a turn keep what is left for them. -/
theorem TurnOf.msgQueue_iff {turn : Turn} (h : TurnOf env turn) :
    (turn.fetched.msgQueue.length : Int) ≤
        turn.esme.window - turn.fetched.esmeQueue.length - turn.fetched.dlrQueue.length ↔
      (¬ turn.esme.window ≤ (backlog env turn.before turn.esme).pdus →
        ((backlog env turn.before turn.esme).reports.length : Int) ≤
          turn.esme.window - (backlog env turn.before turn.esme).pdus -
            (backlog env turn.before turn.esme).dlrs.length) := by
  have hkeeps := h.keeps
  have hpdus := h.fetched.pdus
  by_cases hfull : turn.esme.window ≤ (backlog env turn.before turn.esme).pdus
  · have hnone := (h.fetched.full hfull).2
    have hleft := hkeeps.2
    refine ⟨fun _ hroom => absurd hfull hroom, fun _ => ?_⟩
    rw [hnone]
    simp only [List.length_nil]
    omega
  · have hroom := h.fetched.room hfull
    rw [hpdus, hroom.1, hroom.2]
    exact ⟨fun hle _ => hle, fun hle => hle hfull⟩

theorem withinWindows_iff {turns : List Turn} (hturns : ∀ turn ∈ turns, TurnOf env turn) :
    WithinWindows turns ↔ Fits env (turns.map Turn.start) := by
  constructor
  · intro hwithin
    refine ⟨?_, ?_⟩
    · intro p hp
      rcases List.mem_map.mp hp with ⟨turn, hturn, rfl⟩
      have hsession := hwithin.sessions turn hturn
      rw [queuedFor_eq hturns] at hsession
      exact hsession
    · intro p hp
      rcases List.mem_map.mp hp with ⟨turn, hturn, rfl⟩
      exact (hturns turn hturn).msgQueue_iff.mp (hwithin.msgQueue turn hturn)
  · intro hfits
    have hstart := fun turn (hturn : turn ∈ turns) => List.mem_map_of_mem (f := Turn.start) hturn
    refine ⟨?_, fun turn hturn => (hturns turn hturn).keeps.1,
      fun turn hturn => (hturns turn hturn).keeps.2, ?_⟩
    · intro turn hturn
      rw [queuedFor_eq hturns]
      exact hfits.pdus turn.start (hstart turn hturn)
    · intro turn hturn
      exact (hturns turn hturn).msgQueue_iff.mpr (hfits.reports turn.start (hstart turn hturn))

theorem readers_window {smppServer : SmppServer} {data : SmppEsmeData}
    {esmesWithQueued : List Octstr} :
    ∀ e ∈ smppEsmeGlobalGetReaders smppServer data esmesWithQueued true, e.window > 0 := by
  intro e he
  rcases List.mem_flatMap.mp he with ⟨key, -, hkey⟩
  have hreader : e ∈ ((sessionsOf data (bindsOf data key)).filter (·.isReader)).take 1 := hkey
  have hwindow := (List.mem_filter.mp (List.mem_of_mem_take hreader)).2
  simp only [SmppEsme.isReader, Bool.and_eq_true, decide_eq_true_eq] at hwindow
  exact hwindow.2

def sampleEnv : QueueEnv where
  kannel := Receipts.sampleKannel
  dlrContext := Receipts.sampleContext
  pduSettings := Redis.samplePduSettings
  catenatedSmsCounter := 0
  removed := fun _ => true
  freed := fun globalId => globalId

def sampleData : SmppEsmeData where
  esmes := Keyed.empty.put ((smppEsmeGlobalCreate sampleServer (octstrImm "test")).produceBind 0)
  sessions := Keyed.empty.put sampleEsme

/-- A report for the sample session. -/
def sampleReport (globalId : Nat) : Database.StoredMsg where
  storeTable := octstrImm "store"
  globalId := globalId
  msg := (Receipts.sampleDlr (smppUuidGet (Vector.replicate 16 0))).record.toMsg
    Receipts.sampleContext (octstrImm "test")

def sampleStore : QueueStore :=
  .mysql { Database.handoutInit Database.sampleSettings none true with
    store := (Database.storeInit Database.sampleSettings .mysql).setStore (octstrImm "store")
      [sampleReport 1, sampleReport 2] }

/-- What a call with the sample store fetches for each of its turns, next to the window. -/
def sampleWindows : Option (List (Int × Nat)) :=
  (getQueuedTurns sampleEnv sampleStore
    (smppEsmeGlobalGetReaders sampleServer sampleData [octstrImm "test"] true)).map
      (fun p => p.2.map (fun turn => (turn.esme.window, queuedFor p.2 turn.esme.id)))

end Dispatch
end Ksmppd
