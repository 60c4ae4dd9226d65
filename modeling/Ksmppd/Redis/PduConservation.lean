import Ksmppd.Redis.Json
import Ksmppd.Redis.PduIndex

/-!
# PduConservation — refused PDUs are handed out once, as they were

`smpp_database_redis_get_stored_pdu` never puts an entry back: what it pops it hands out, or drops
if it is no object.  The entries of `smpp_database_redis_add_pdu` are objects, and hold the PDU and
the time at which it was sent under the names they are looked for.
-/

namespace Ksmppd
namespace Redis

open Lib
open Database (smppRedisNormService)

variable {c : PduSettings} {p p' : PduPool} {l : PoolLabel PduArgs} {i : Nat} {t t' : PduCall}
  {r r' start : RedisKeys} {q : SmppQueuedPdu} {service : Option Octstr} {text : Octstr}
  {globalId : Nat}

/-! ## Reading an entry back -/

/-- A PDU that jansson can hold, and that Kannel reads back from its octets under any spelling of
its system id. -/
structure PduStorable (c : PduSettings) (q : SmppQueuedPdu) : Prop where
  systemId : ∀ os ∈ q.systemId, IsText os
  timeSent : IsLong q.timeSent
  unpack : ∀ service, smppRedisNormService service = smppRedisNormService q.systemId →
    c.codec.unpack service (c.codec.pack q.systemId q.pdu) = q.pdu

theorem PduStorable.ofText (h : PduStorable c q) : (Field.octstr q.systemId).OfText := h.systemId

/-- The members of the object that is stored. -/
def pduMembers (c : PduSettings) (globalId : Nat) (q : SmppQueuedPdu) :
    List (Octstr × JsonValue) :=
  [(octstrImm "global_id", .integer globalId), (octstrImm "time", .integer q.timeSent),
    (octstrImm "system_id", (Field.octstr q.systemId).value),
    (octstrImm "pdu", (Field.octstr (some
      (smppDbUrlEncodeOctstr (c.codec.pack q.systemId q.pdu)))).value)]

theorem encode_ofText (os : Octstr) : (Field.octstr (some (smppDbUrlEncodeOctstr os))).OfText := by
  cases os with
  | nil =>
      rintro x ⟨⟩
      exact isText_nil
  | cons b os => exact encodeData_ofText (some (b :: os))

theorem pduJson_eq (hj : c.jansson.Documented) (h : PduStorable c q) (globalId : Nat) :
    pduJson c globalId q = jsonDumps c.jansson (pduMembers c globalId q) := by
  have hsystemId : smppRedisJsonSetStr c.jansson (octstrImm "system_id") q.systemId =
      [(octstrImm "system_id", (Field.octstr q.systemId).value)] :=
    fieldMembers_eq hj h.ofText
  have hpdu : smppRedisJsonSetStr c.jansson (octstrImm "pdu")
      (some (smppDbUrlEncodeOctstr (c.codec.pack q.systemId q.pdu))) =
        [(octstrImm "pdu", (Field.octstr (some
          (smppDbUrlEncodeOctstr (c.codec.pack q.systemId q.pdu)))).value)] :=
    fieldMembers_eq hj (encode_ofText _)
  rw [pduJson, hsystemId, hpdu]
  rfl

theorem pduMembers_wellFormed (h : PduStorable c q) (hid : globalId < 2 ^ 63) :
    ∀ x ∈ pduMembers c globalId q, IsText x.1 ∧ x.2.WellFormed := by
  have hnames : ∀ name ∈ [octstrImm "global_id", octstrImm "time", octstrImm "system_id",
      octstrImm "pdu"], name.all (fun c => decide (c < 128 ∧ c ≠ 0)) = true := by decide
  have hname : ∀ x ∈ pduMembers c globalId q, IsText x.1 := by
    intro x hx
    have hmem := List.mem_map_of_mem (f := Prod.fst) hx
    exact isText_of_ascii (by simpa using hnames x.1 hmem)
  have hlong : IsLong (globalId : Int) :=
    ⟨le_trans (by decide) (Int.natCast_nonneg globalId), by exact_mod_cast hid⟩
  intro x hx
  refine ⟨hname x hx, ?_⟩
  simp only [pduMembers, List.mem_cons, List.not_mem_nil, or_false] at hx
  rcases hx with rfl | rfl | rfl | rfl
  · exact hlong
  · exact h.timeSent
  · exact wellFormed_value h.ofText trivial
  · exact wellFormed_value (encode_ofText _) trivial

/-- What is stored for a PDU is read back as that PDU. -/
theorem storedPdu_pduJson (hj : c.jansson.Documented) (hreads : Reads c.jansson c.parser)
    (h : PduStorable c q) (hid : globalId < 2 ^ 63)
    (hservice : smppRedisNormService service = smppRedisNormService q.systemId) :
    storedPdu c service (pduJson c globalId q) =
      some { smppQueuedPduCreate with
        bearerboxId := some (octstrFormatLong globalId)
        callback := some .redisQueuedPdu
        systemId := service
        timeSent := q.timeSent
        pdu := q.pdu
        smppServer := true } := by
  have hnodup : ((pduMembers c globalId q).map Prod.fst).Nodup := by
    have hnames : [octstrImm "global_id", octstrImm "time", octstrImm "system_id",
      octstrImm "pdu"].Nodup := by decide
    exact hnames
  have hloads : c.parser.jsonLoads (pduJson c globalId q) =
      some ((pduMembers c globalId q).map (fun x => (x.1, x.2.read))) := by
    rw [pduJson_eq hj h globalId]
    exact hreads.json _ hnodup (pduMembers_wellFormed h hid)
  have hdecode : smppDbUrlDecodeOctstr (smppDbUrlEncodeOctstr (c.codec.pack q.systemId q.pdu)) =
      c.codec.pack q.systemId q.pdu := by
    rw [smppDbUrlDecodeOctstr, Database.decodeTriples_encode]
    rfl
  have hpdu : c.codec.unpack service (smppDbUrlDecodeOctstr
      (smppRedisJsonGetOctstr ((pduMembers c globalId q).map (fun x => (x.1, x.2.read))) "pdu")) =
        q.pdu :=
    calc
      _ = c.codec.unpack service
            (smppDbUrlDecodeOctstr (smppDbUrlEncodeOctstr (c.codec.pack q.systemId q.pdu))) := rfl
      _ = c.codec.unpack service (c.codec.pack q.systemId q.pdu) := by rw [hdecode]
      _ = q.pdu := h.unpack service hservice
  rw [storedPdu, hloads, Option.map_some, hpdu]
  rfl

/-! ## Where a PDU is -/

/-- What is kept of a PDU while it is stored. -/
structure PduRecord where
  timeSent : Int
  pdu : Option SmppPdu

def PduRecord.of (q : SmppQueuedPdu) : PduRecord where
  timeSent := q.timeSent
  pdu := q.pdu

/-- What an entry of the list of a service holds. -/
def recordOf (c : PduSettings) (service : Option Octstr) (text : Octstr) : Option PduRecord :=
  (storedPdu c service text).map PduRecord.of

/-- An entry that is read alike under any spelling of the service. -/
def Steady (c : PduSettings) (service : Option Octstr) (text : Octstr) : Prop :=
  ∃ record, ∀ service', smppRedisNormService service' = smppRedisNormService service →
    recordOf c service' text = some record

/-- What the list of a service holds. -/
def waiting (c : PduSettings) (service : Option Octstr) (r : RedisKeys) : Multiset PduRecord :=
  ((r.lists (smppRedisPduListKey c service)).filterMap (recordOf c service) : List PduRecord)

/-- The records of a service that has the same list. -/
def ofService (service asked : Option Octstr) (records : Multiset PduRecord) :
    Multiset PduRecord :=
  if smppRedisNormService asked = smppRedisNormService service then records else 0

/-- What a call has handed out for a service. -/
def PduCall.handed (service : Option Octstr) : PduCall → Multiset PduRecord
  | .getStoredPdu asked _ (.returned messages) =>
      ofService service asked (messages.map PduRecord.of : List PduRecord)
  | _ => 0

/-- What a call has stored for a service. -/
def PduCall.brought (service : Option Octstr) : PduCall → Multiset PduRecord
  | .addPdu q .pushed | .addPdu q .returned => ofService service q.systemId {PduRecord.of q}
  | _ => 0

/-- What is added can be read back under its number. -/
def AddsStorable (c : PduSettings) (p : PduPool) : PoolLabel PduArgs → Prop
  | .enter _ => True
  | .advance i => ∀ q globalId, p.calls[i]? = some (.addPdu q (.numbered globalId)) →
      PduStorable c q ∧ globalId < 2 ^ 63

/-- Every entry of the lists is read alike under any spelling of its service. -/
def AllSteady (c : PduSettings) (r : RedisKeys) : Prop :=
  ∀ service, ∀ text ∈ r.lists (smppRedisPduListKey c service), Steady c service text

/-! ## What a step does -/

theorem recordOf_pduJson (hj : c.jansson.Documented) (hreads : Reads c.jansson c.parser)
    (h : PduStorable c q) (hid : globalId < 2 ^ 63)
    (hservice : smppRedisNormService service = smppRedisNormService q.systemId) :
    recordOf c service (pduJson c globalId q) = some (PduRecord.of q) := by
  rw [recordOf, storedPdu_pduJson hj hreads h hid hservice]
  rfl

theorem Steady.recordOf_eq (h : Steady c service text) {service' : Option Octstr}
    (hservice : smppRedisNormService service' = smppRedisNormService service) :
    recordOf c service' text = recordOf c service text := by
  rcases h with ⟨record, hrecord⟩
  rw [hrecord service' hservice, hrecord service rfl]

theorem filterMap_recordOf {texts : List Octstr} (h : ∀ text ∈ texts, Steady c service text)
    {service' : Option Octstr}
    (hservice : smppRedisNormService service' = smppRedisNormService service) :
    (texts.filterMap (storedPdu c service')).map PduRecord.of =
      texts.filterMap (recordOf c service) := by
  rw [List.map_filterMap]
  exact List.filterMap_congr fun text htext => (h text htext).recordOf_eq hservice

/-- A push adds what the text holds. -/
theorem waiting_lpush (hj : c.jansson.Documented) (hreads : Reads c.jansson c.parser)
    (h : PduStorable c q) (hid : globalId < 2 ^ 63) (service : Option Octstr) :
    waiting c service (r.lpush (smppRedisPduListKey c q.systemId) (pduJson c globalId q)) =
      waiting c service r + ofService service q.systemId {PduRecord.of q} := by
  unfold waiting ofService
  by_cases hsame : smppRedisNormService q.systemId = smppRedisNormService service
  · have hkey := smppRedisPduListKey_inj (c := c).mpr hsame
    have hlist : (r.lpush (smppRedisPduListKey c q.systemId) (pduJson c globalId q)).lists
        (smppRedisPduListKey c service) =
          pduJson c globalId q :: r.lists (smppRedisPduListKey c service) := by
      rw [← hkey]
      exact Function.update_self _ _ _
    rw [hlist, if_pos hsame,
      List.filterMap_cons_some (recordOf_pduJson hj hreads h hid hsame.symm), ← Multiset.cons_coe,
      ← Multiset.singleton_add, add_comm]
  · have hkey : smppRedisPduListKey c service ≠ smppRedisPduListKey c q.systemId :=
      fun heq => hsame (smppRedisPduListKey_inj.mp heq).symm
    rw [RedisKeys.lists_lpush_of_ne hkey, if_neg hsame, add_zero]

/-- A pop takes out what its messages hold. -/
theorem waiting_lpop (h : AllSteady c r) (asked service : Option Octstr) (count : Nat) :
    waiting c service (r.lpop (smppRedisPduListKey c asked) count) +
        ofService service asked (((redisPop r.lists (smppRedisPduListKey c asked) count).filterMap
          (storedPdu c asked)).map PduRecord.of : List PduRecord) =
      waiting c service r := by
  unfold waiting ofService
  by_cases hsame : smppRedisNormService asked = smppRedisNormService service
  · have hkey := smppRedisPduListKey_inj (c := c).mpr hsame
    have hsteady : ∀ text ∈ (r.lists (smppRedisPduListKey c service)).take count,
        Steady c service text := fun text htext => h service text (List.mem_of_mem_take htext)
    have hlist : (r.lpop (smppRedisPduListKey c asked) count).lists
        (smppRedisPduListKey c service) =
          (r.lists (smppRedisPduListKey c service)).drop count := by
      rw [← hkey]
      exact Function.update_self _ _ _
    rw [hlist, if_pos hsame, hkey, redisPop, filterMap_recordOf hsteady hsame]
    calc
      _ = (((r.lists (smppRedisPduListKey c service)).take count).filterMap (recordOf c service) :
            Multiset PduRecord) +
          (((r.lists (smppRedisPduListKey c service)).drop count).filterMap (recordOf c service) :
            List PduRecord) := add_comm _ _
      _ = ((r.lists (smppRedisPduListKey c service)).filterMap (recordOf c service) :
            List PduRecord) := by
          rw [Multiset.coe_add, ← List.filterMap_append, List.take_append_drop]
  · have hkey : smppRedisPduListKey c service ≠ smppRedisPduListKey c asked :=
      fun heq => hsame (smppRedisPduListKey_inj.mp heq).symm
    have hlist : (r.lpop (smppRedisPduListKey c asked) count).lists
        (smppRedisPduListKey c service) = r.lists (smppRedisPduListKey c service) :=
      Function.update_of_ne hkey _ _
    rw [hlist, if_neg hsame, add_zero]

/-- What a step stores and what it hands out is all that comes and goes. -/
theorem pduCommand_balance (hj : c.jansson.Documented) (hreads : Reads c.jansson c.parser)
    (hsteady : AllSteady c r)
    (hok : ∀ q globalId, t = .addPdu q (.numbered globalId) → PduStorable c q ∧ globalId < 2 ^ 63)
    (h : t.command c r = some (r', t')) (service : Option Octstr) :
    waiting c service r' + t'.handed service + t.brought service =
      waiting c service r + t.handed service + t'.brought service := by
  cases t with
  | addPdu q phase =>
      cases phase with
      | called =>
          cases h
          rfl
      | numbered globalId =>
          rcases hok q globalId rfl with ⟨hq, hid⟩
          cases h
          rw [waiting_lpush hj hreads hq hid]
          simp [PduCall.handed, PduCall.brought, ofService]
      | pushed =>
          cases h
          rfl
      | returned => cases h
  | getStoredPdu asked limit phase =>
      cases phase with
      | called =>
          cases h
          have hpop := waiting_lpop hsteady asked service (lpopCount limit)
          split
          · rename_i hnone
            rw [hnone] at hpop
            simpa [PduCall.handed, PduCall.brought, ofService] using hpop
          · simpa only [PduCall.handed, PduCall.brought, add_zero] using hpop
      | noMessages =>
          cases h
          split
          · rfl
          · simp [PduCall.handed, PduCall.brought, ofService]
      | listEmpty =>
          cases h
          simp [PduCall.handed, PduCall.brought, ofService, waiting]
      | returned messages => cases h

theorem pduCommand_steady (hj : c.jansson.Documented) (hreads : Reads c.jansson c.parser)
    (hsteady : AllSteady c r)
    (hok : ∀ q globalId, t = .addPdu q (.numbered globalId) → PduStorable c q ∧ globalId < 2 ^ 63)
    (h : t.command c r = some (r', t')) : AllSteady c r' := by
  cases t with
  | addPdu q phase =>
      cases phase with
      | called =>
          cases h
          exact hsteady
      | numbered globalId =>
          rcases hok q globalId rfl with ⟨hq, hid⟩
          cases h
          intro service text htext
          by_cases hsame : smppRedisNormService q.systemId = smppRedisNormService service
          · rw [← smppRedisPduListKey_inj.mpr hsame] at htext
            have hcons : text ∈ pduJson c globalId q ::
                r.lists (smppRedisPduListKey c q.systemId) := by
              simpa [RedisKeys.lpush, lpush] using htext
            rcases List.mem_cons.mp hcons with rfl | hold
            · exact ⟨PduRecord.of q, fun service' hservice' =>
                recordOf_pduJson hj hreads hq hid (hservice'.trans hsame.symm)⟩
            · rw [smppRedisPduListKey_inj.mpr hsame] at hold
              exact hsteady service text hold
          · have hkey : smppRedisPduListKey c service ≠ smppRedisPduListKey c q.systemId :=
              fun heq => hsame (smppRedisPduListKey_inj.mp heq).symm
            rw [RedisKeys.lists_lpush_of_ne hkey] at htext
            exact hsteady service text htext
      | pushed =>
          cases h
          exact hsteady
      | returned => cases h
  | getStoredPdu asked limit phase =>
      cases phase with
      | called =>
          cases h
          intro service text htext
          refine hsteady service text ?_
          by_cases hkey : smppRedisPduListKey c service = smppRedisPduListKey c asked
          · rw [hkey] at htext ⊢
            have hdrop : text ∈ (r.lists (smppRedisPduListKey c asked)).drop (lpopCount limit) := by
              simpa [RedisKeys.lpop] using htext
            exact List.mem_of_mem_drop hdrop
          · simpa [RedisKeys.lpop, Function.update_of_ne hkey] using htext
      | noMessages =>
          cases h
          exact hsteady
      | listEmpty =>
          cases h
          exact hsteady
      | returned messages => cases h

/-! ## Runs -/

/-- What holds of a run that has started from `start`. -/
structure PdusConserved (c : PduSettings) (start : RedisKeys) (p : PduPool) : Prop where
  steady : AllSteady c p.shared
  eq : ∀ service, waiting c service p.shared + p.total (PduCall.handed service) =
    waiting c service start + p.total (PduCall.brought service)

theorem pdusConserved_step (hj : c.jansson.Documented) (hreads : Reads c.jansson c.parser)
    (h : PdusConserved c start p) (hok : AddsStorable c p l) (hstep : pduStep c p l = some p') :
    PdusConserved c start p' := by
  cases poolStep_move hstep with
  | @enter a t henter =>
      cases henter
      refine ⟨h.steady, fun service => ?_⟩
      have hnothing : a.call.handed service = 0 ∧ a.call.brought service = 0 := by
        cases a <;> exact ⟨rfl, rfl⟩
      rw [Pool.total_enter _ hnothing.1, Pool.total_enter _ hnothing.2]
      exact h.eq service
  | @advance i t t' r hi hadvance =>
      have hadds : ∀ q globalId, t = .addPdu q (.numbered globalId) →
          PduStorable c q ∧ globalId < 2 ^ 63 :=
        fun q globalId heq => hok q globalId (heq ▸ hi)
      refine ⟨pduCommand_steady hj hreads h.steady hadds hadvance, fun service => ?_⟩
      have hown := pduCommand_balance hj hreads h.steady hadds hadvance service
      have hhanded := Pool.total_advance (PduCall.handed service) hi r t'
      have hbrought := Pool.total_advance (PduCall.brought service) hi r t'
      -- what the call had before its step is on both sides
      refine add_right_cancel (b := PduCall.handed service t + PduCall.brought service t) ?_
      calc
        _ = waiting c service r + (Pool.total (PduCall.handed service)
              { shared := r, calls := p.calls.set i t' } + t.handed service) + t.brought service := by
            abel
        _ = (waiting c service r + t'.handed service + t.brought service) +
              p.total (PduCall.handed service) := by
            rw [hhanded]
            abel
        _ = (waiting c service p.shared + p.total (PduCall.handed service)) + t.handed service +
              t'.brought service := by
            rw [hown]
            abel
        _ = waiting c service start + (p.total (PduCall.brought service) + t'.brought service) +
              t.handed service := by
            rw [h.eq service]
            abel
        _ = _ := by
            rw [← hbrought]
            abel

/-- A table `pdus` whose entries can be read, for the PDU of the samples. -/
def sampleReadable : PduSettings where
  databasePduTable := octstrImm "pdus"
  jansson := sampleJansson
  parser := sampleJsonParser
  codec :=
    { pack := fun _ _ => List.replicate 12 0
      unpack := fun _ os => if os = List.replicate 12 0 then sampleRefused.pdu else none }

theorem sampleRefused_storable : PduStorable sampleReadable sampleRefused where
  systemId := by
    rintro os ⟨⟩
    have hascii : (octstrImm "esme").all (fun c => decide (c < 128 ∧ c ≠ 0)) = true := by decide
    exact isText_of_ascii (by simpa using hascii)
  timeSent := by decide
  unpack := fun _ _ => rfl

def sampleRefusedOnly (p : PduPool) : PoolLabel PduArgs → Bool
  | .enter _ => true
  | .advance i =>
      match p.calls[i]? with
      | some (.addPdu q (.numbered globalId)) => q = sampleRefused ∧ globalId = 1
      | _ => true

/-- A PDU is added while its service is polled; only the next poll finds it. -/
def sampleAddDuringPoll : List (PoolLabel PduArgs) :=
  [.enter (.addPdu sampleRefused), .enter (.getStoredPdu sampleService 10), .advance 0, .advance 1,
    .advance 0, .advance 1, .advance 0, .enter (.getStoredPdu sampleService 10), .advance 2]

end Redis
end Ksmppd
