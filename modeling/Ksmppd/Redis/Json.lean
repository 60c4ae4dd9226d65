import Ksmppd.Database.Rows
import Ksmppd.Redis.Store

/-!
# Json — messages read back from their JSON texts

`smpp_redis_json_to_msg` finds every field of a message under the name it was written with, and
turns the triples of the user data into octets again.
-/

namespace Ksmppd
namespace Redis

open Lib
open Database (StoredMsg SameField SameSms LongFields smsColumns)

/-! ## The reader -/

def JsonValue.read : JsonValue → Json
  | .integer n => .integer n
  | .string os => .string os

/-- What jansson can hold: 64-bit integers, and UTF-8 without `NUL`. -/
def JsonValue.WellFormed : JsonValue → Prop
  | .integer n => IsLong n
  | .string os => IsText os

/-- The code around an entry, where jansson and libuuid read what they have written. -/
structure Reads (j : Jansson) (p : Parser) : Prop where
  json : ∀ members : List (Octstr × JsonValue), (members.map Prod.fst).Nodup →
    (∀ q ∈ members, IsText q.1 ∧ q.2.WellFormed) →
      p.jsonLoads (jsonDumps j members) = some (members.map (fun q => (q.1, q.2.read)))
  uuid : ∀ u, p.uuidParse (smppUuidGet u) = some u

/-! ## What is read back -/

/-- A message that jansson can hold. -/
structure Storable (m : Sms) : Prop where
  text : ∀ os ∈ textFields m, ∀ x ∈ os, IsText x
  long : LongFields m

/-- The message that is read back: a text that was absent is empty. -/
def presentSms (m : Sms) : Sms :=
  { m with
    sender := some (m.sender.getD [])
    receiver := some (m.receiver.getD [])
    udhdata := some (m.udhdata.getD [])
    msgdata := some (m.msgdata.getD [])
    smscId := some (m.smscId.getD [])
    smscNumber := some (m.smscNumber.getD [])
    foreignId := some (m.foreignId.getD [])
    service := some (m.service.getD [])
    account := some (m.account.getD [])
    dlrUrl := some (m.dlrUrl.getD [])
    charset := some (m.charset.getD [])
    boxcId := some (m.boxcId.getD [])
    binfo := some (m.binfo.getD [])
    metaData := some (m.metaData.getD []) }

/-- No field is changed by it. -/
theorem presentSms_same (m : Sms) : SameSms (presentSms m) m := by
  unfold SameSms smsFields
  simp [SameField, presentSms]

/-! ## Members -/

/-- The value a field is written as. -/
def Field.value : Field → JsonValue
  | .integer n => .integer n
  | .octstr os => .string (os.getD [])
  | .uuid u => .string (smppUuidGet u)

def storedMembers (globalId : Nat) (m : Sms) : List (Octstr × JsonValue) :=
  (octstrImm "global_id", .integer globalId) ::
    (smsFields (encodeMsg m)).map (fun q => (q.1, q.2.value))

variable {j : Jansson} {p : Parser} {m : Sms} {globalId : Nat}

/-- Every field has a member. -/
theorem fieldMembers_eq (hj : j.Documented) {key : Octstr} {f : Field} (htext : f.OfText) :
    fieldMembers j (key, f) = [(key, f.value)] := by
  cases f with
  | integer n => rfl
  | uuid u => rfl
  | octstr os =>
      cases os with
      | none => rfl
      | some x =>
          have hx : IsText x := htext x rfl
          by_cases hnil : x = []
          · simp [fieldMembers, smppRedisJsonSetStr, Field.value, hnil]
          · simp [fieldMembers, smppRedisJsonSetStr, Field.value, hnil,
              octstrGetCstr_of_text hx, hj.utf8 x hx.2]

theorem ofText_encodeMsg (htext : ∀ os ∈ textFields m, ∀ x ∈ os, IsText x) :
    ∀ q ∈ smsFields (encodeMsg m), q.2.OfText :=
  (forall_smsFields (P := Field.OfText) (fun _ => trivial) (fun _ => trivial)
    (encodeMsg m)).mpr ⟨htext, encodeData_ofText m.udhdata, encodeData_ofText m.msgdata⟩

theorem addMessageJson_eq (hj : j.Documented) (globalId : Nat)
    (htext : ∀ os ∈ textFields m, ∀ x ∈ os, IsText x) :
    addMessageJson j globalId m = jsonDumps j (storedMembers globalId m) := by
  have hmembers : ∀ q ∈ smsFields (encodeMsg m), fieldMembers j q = [(q.1, q.2.value)] :=
    fun q hq => fieldMembers_eq hj (ofText_encodeMsg htext q hq)
  rw [addMessageJson, smppRedisMsgToJson, storedMembers, List.flatMap_congr hmembers,
    ← List.map_eq_flatMap]

theorem storedMembers_nodup (globalId : Nat) (m : Sms) :
    ((storedMembers globalId m).map Prod.fst).Nodup := by
  have hnames : (storedMembers globalId m).map Prod.fst = octstrImm "global_id" :: smsColumns := by
    simp only [storedMembers, List.map_cons, List.map_map]
    rfl
  rw [hnames]
  exact List.nodup_cons.mpr ⟨Database.globalId_not_mem_smsColumns, Database.smsColumns_nodup⟩

theorem isText_nil : IsText [] := isText_of_ascii (fun _ hc => by cases hc)

theorem isText_smppUuidGet (u : Uuid) : IsText (smppUuidGet u) := by
  refine isText_of_ascii (fun c hc => ?_)
  rcases octet_of_mem_smppUuidGet hc with rfl | hdigit | ⟨hlow, hhigh⟩
  · decide
  · simp only [isDigit] at hdigit
    grind
  · grind

theorem isText_name {key : Octstr} (h : key ∈ octstrImm "global_id" :: smsColumns) :
    IsText key := by
  have hall : ∀ name ∈ octstrImm "global_id" :: smsColumns,
      name.all (fun c => decide (c < 128 ∧ c ≠ 0)) = true := by decide
  exact isText_of_ascii (by simpa using hall key h)

theorem wellFormed_value {f : Field} (htext : f.OfText) (hlong : Database.Field.IsLong f) :
    f.value.WellFormed := by
  cases f with
  | integer n => exact hlong
  | uuid u => exact isText_smppUuidGet u
  | octstr os =>
      cases os with
      | none => exact isText_nil
      | some x => exact htext x rfl

theorem longFields_encodeMsg (h : LongFields m) : LongFields (encodeMsg m) := by
  unfold LongFields smsFields at h ⊢
  simpa [encodeMsg, Database.Field.IsLong] using h

theorem storedMembers_wellFormed (h : Storable m) (hid : globalId < 2 ^ 63) :
    ∀ q ∈ storedMembers globalId m, IsText q.1 ∧ q.2.WellFormed := by
  intro q hq
  rcases List.mem_cons.mp hq with rfl | hfield
  · refine ⟨isText_name List.mem_cons_self, ?_, ?_⟩
    · exact le_trans (by decide) (Int.natCast_nonneg globalId)
    · exact_mod_cast hid
  · rcases List.mem_map.mp hfield with ⟨f, hf, rfl⟩
    have hname : f.1 ∈ smsColumns :=
      Database.map_fst_smsFields (encodeMsg m) ▸ List.mem_map_of_mem hf
    exact ⟨isText_name (List.mem_cons_of_mem _ hname),
      wellFormed_value (ofText_encodeMsg h.text f hf) (longFields_encodeMsg h.long f hf)⟩

/-! ## Fields -/

/-- The members `json_loads` gives for a stored message. -/
def storedRoot (globalId : Nat) (m : Sms) : JsonObject :=
  (storedMembers globalId m).map (fun q => (q.1, q.2.read))

/-- Under the name of a field stands its value. -/
theorem jsonObjectGet_storedRoot {key : String} {f : Field}
    (h : (octstrImm key, f) ∈ smsFields (encodeMsg m)) :
    jsonObjectGet (storedRoot globalId m) key = some f.value.read := by
  have hmember : (octstrImm key, f.value) ∈ storedMembers globalId m :=
    List.mem_cons_of_mem _ (List.mem_map_of_mem (f := fun q => (q.1, q.2.value)) h)
  unfold jsonObjectGet storedRoot
  rw [List.lookup_eq_findSome?, List.findSome?_map]
  refine Eq.trans ?_ (findSome?_key_eq (fun q => some q.2.read) (storedMembers_nodup globalId m)
    hmember)
  congr
  funext q
  simp [beq_eq_decide, eq_comm]

variable {key : String}

theorem getLong_storedRoot {n : Int}
    (h : (octstrImm key, Field.integer n) ∈ smsFields (encodeMsg m)) :
    smppRedisJsonGetLong (storedRoot globalId m) key = n := by
  rw [smppRedisJsonGetLong, jsonObjectGet_storedRoot h]
  rfl

theorem getOctstr_storedRoot {os : Option Octstr}
    (h : (octstrImm key, Field.octstr os) ∈ smsFields (encodeMsg m)) :
    smppRedisJsonGetOctstr (storedRoot globalId m) key = os.getD [] := by
  rw [smppRedisJsonGetOctstr, jsonObjectGet_storedRoot h]
  rfl

theorem getUuid_storedRoot (hreads : Reads j p) {u generated : Uuid}
    (h : (octstrImm key, Field.uuid u) ∈ smsFields (encodeMsg m)) :
    jsonUuid p (storedRoot globalId m) key generated = u := by
  rw [jsonUuid, jsonObjectGet_storedRoot h]
  exact congrArg (fun v => Option.getD v generated) (hreads.uuid u)

/-- User data comes back from its triples. -/
theorem decode_encodeData (os : Option Octstr) :
    smppDbUrlDecodeOctstr ((encodeData os).getD []) = os.getD [] := by
  cases os with
  | none => rfl
  | some x =>
      cases x with
      | nil => rfl
      | cons b x =>
          have hencoded : encodeData (some (b :: x)) = some (smppDbUrlEncodeOctstr (b :: x)) := rfl
          rw [hencoded, Option.getD_some, Option.getD_some, smppDbUrlDecodeOctstr,
            Database.decodeTriples_encode]
          rfl

/-- The member at a position of the field list. -/
theorem mem_smsFields {i : Nat} {f : Octstr × Field} (h : (smsFields (encodeMsg m))[i]? = some f) :
    f ∈ smsFields (encodeMsg m) :=
  List.mem_of_getElem? h

theorem smppRedisJsonToMsg_storedRoot (hreads : Reads j p) (m : Sms) (generated : Uuid) :
    smppRedisJsonToMsg p (storedRoot globalId m) generated = presentSms m := by
  rw [smppRedisJsonToMsg, presentSms, Sms.mk.injEq]
  -- one entry for each field, in the order of the list
  exact
    ⟨congrArg some (getOctstr_storedRoot (mem_smsFields (i := 0) rfl)),
      congrArg some (getOctstr_storedRoot (mem_smsFields (i := 1) rfl)),
      congrArg some ((congrArg smppDbUrlDecodeOctstr (getOctstr_storedRoot (mem_smsFields (i := 2) rfl))).trans
      (decode_encodeData _)),
      congrArg some ((congrArg smppDbUrlDecodeOctstr (getOctstr_storedRoot (mem_smsFields (i := 3) rfl))).trans
      (decode_encodeData _)),
      getLong_storedRoot (mem_smsFields (i := 4) rfl),
      congrArg some (getOctstr_storedRoot (mem_smsFields (i := 5) rfl)),
      congrArg some (getOctstr_storedRoot (mem_smsFields (i := 6) rfl)),
      congrArg some (getOctstr_storedRoot (mem_smsFields (i := 7) rfl)),
      congrArg some (getOctstr_storedRoot (mem_smsFields (i := 8) rfl)),
      congrArg some (getOctstr_storedRoot (mem_smsFields (i := 9) rfl)),
      getUuid_storedRoot hreads (mem_smsFields (i := 10) rfl),
      getLong_storedRoot (mem_smsFields (i := 11) rfl),
      getLong_storedRoot (mem_smsFields (i := 12) rfl),
      getLong_storedRoot (mem_smsFields (i := 13) rfl),
      getLong_storedRoot (mem_smsFields (i := 14) rfl),
      getLong_storedRoot (mem_smsFields (i := 15) rfl),
      getLong_storedRoot (mem_smsFields (i := 16) rfl),
      getLong_storedRoot (mem_smsFields (i := 17) rfl),
      getLong_storedRoot (mem_smsFields (i := 18) rfl),
      congrArg some (getOctstr_storedRoot (mem_smsFields (i := 19) rfl)),
      getLong_storedRoot (mem_smsFields (i := 20) rfl),
      getLong_storedRoot (mem_smsFields (i := 21) rfl),
      getLong_storedRoot (mem_smsFields (i := 22) rfl),
      congrArg some (getOctstr_storedRoot (mem_smsFields (i := 23) rfl)),
      congrArg some (getOctstr_storedRoot (mem_smsFields (i := 24) rfl)),
      congrArg some (getOctstr_storedRoot (mem_smsFields (i := 25) rfl)),
      getLong_storedRoot (mem_smsFields (i := 26) rfl),
      getLong_storedRoot (mem_smsFields (i := 27) rfl),
      getLong_storedRoot (mem_smsFields (i := 28) rfl),
      getLong_storedRoot (mem_smsFields (i := 29) rfl),
      congrArg some (getOctstr_storedRoot (mem_smsFields (i := 30) rfl))⟩

/-! ## A reader -/

/-- The octets of a string up to its quotation mark, and what follows it. -/
def readString : Octstr → Option (Octstr × Octstr)
  | [] => none
  | c :: os =>
      if c = 34 then some ([], os)
      else if c = 92 then
        match os with
        | 117 :: _ :: _ :: hi :: lo :: rest =>
            match smppDbHexNibble hi, smppDbHexNibble lo with
            | some h, some l => (readString rest).map (fun r => ((16 * h + l) :: r.1, r.2))
            | _, _ => none
        | d :: rest => (readString rest).map (fun r => (d :: r.1, r.2))
        | [] => none
      else (readString os).map (fun r => (c :: r.1, r.2))

/-- An octet of a number as `json_dumps` writes it. -/
def inNumber (c : UInt8) : Bool := c == 45 || isDigit c

def readValue : Octstr → Option (Json × Octstr)
  | [] => none
  | c :: os =>
      if c = 34 then (readString os).map (fun r => (.string r.1, r.2))
      else if inNumber c then
        some (.integer (atol ((c :: os).takeWhile inNumber)), (c :: os).dropWhile inNumber)
      else none

/-- The members of an object and its brace, at most so many. -/
def readMembers : Nat → Octstr → Option JsonObject
  | 0, _ => none
  | n + 1, os =>
      match os with
      | 34 :: text =>
          match readString text with
          | some (key, 58 :: value) =>
              match readValue value with
              | some (v, 44 :: rest) => (readMembers n rest).map (fun members => (key, v) :: members)
              | some (v, [125]) => some [(key, v)]
              | _ => none
          | _ => none
      | _ => none

/-- `json_loads` on the objects of strings and integers that `json_dumps` writes. -/
def readObject : Octstr → Option JsonObject
  | [123, 125] => some []
  | 123 :: os => readMembers os.length os
  | _ => none

def sampleJsonParser : Parser where
  jsonLoads := readObject
  jsonLoads_nil := rfl
  uuidParse := uuidParse
  generated := fun _ => Vector.replicate 16 0

theorem smppDbHexNibble_hexDigitUpper {n : UInt8} (hn : n < 16) :
    smppDbHexNibble (hexDigitUpper n) = some n := by
  unfold smppDbHexNibble hexDigitUpper
  grind

theorem readString_quote (os : Octstr) : readString (34 :: os) = some ([], os) := by
  rw [readString.eq_def]
  rfl

theorem readString_plain {c : UInt8} (hquote : c ≠ 34) (hbackslash : c ≠ 92) (os : Octstr) :
    readString (c :: os) = (readString os).map (fun r => (c :: r.1, r.2)) := by
  rw [readString.eq_def]
  simp [hquote, hbackslash]

theorem readString_escape (c : UInt8) (os : Octstr) :
    readString (sampleJansson.escape c ++ os) = (readString os).map (fun r => (c :: r.1, r.2)) := by
  by_cases hmark : c = 34 ∨ c = 92
  · rcases hmark with rfl | rfl
    · simp [sampleJansson, readString]
    · simp [sampleJansson, readString]
  · rcases not_or.mp hmark with ⟨hquote, hbackslash⟩
    by_cases hcontrol : c < 32
    · have hhigh := smppDbHexNibble_hexDigitUpper (n := c / 16) (by grind)
      have hlow := smppDbHexNibble_hexDigitUpper (n := c % 16) (by grind)
      have hoctet : 16 * (c / 16) + c % 16 = c := by grind
      simp [sampleJansson, readString, hmark, hcontrol, hhigh, hlow, hoctet]
    · simp [sampleJansson, readString_plain, hquote, hbackslash, hcontrol]

theorem readString_text (text os : Octstr) :
    readString (text.flatMap sampleJansson.escape ++ 34 :: os) = some (text, os) := by
  induction text with
  | nil => exact readString_quote os
  | cons c text ih =>
      rw [List.flatMap_cons, List.append_assoc, readString_escape, ih]
      rfl

theorem inNumber_octstrFormatLong (n : Int) : ∀ c ∈ octstrFormatLong n, inNumber c = true := by
  intro c hc
  rcases octet_of_mem_octstrFormatLong hc with rfl | hdigit
  · rfl
  · simp [inNumber, hdigit]

theorem readValue_jsonText {v : JsonValue} (hv : v.WellFormed) {c : UInt8} (hc : inNumber c = false)
    (os : Octstr) : readValue (jsonText sampleJansson v ++ c :: os) = some (v.read, c :: os) := by
  cases v with
  | string text => simp [jsonText, readValue, readString_text, JsonValue.read]
  | integer n =>
      have hnumber := inNumber_octstrFormatLong n
      have htake : (octstrFormatLong n ++ c :: os).takeWhile inNumber = octstrFormatLong n := by
        simp [List.takeWhile_append_of_pos hnumber, hc]
      have hdrop : (octstrFormatLong n ++ c :: os).dropWhile inNumber = c :: os := by
        simp [List.dropWhile_append_of_pos hnumber, hc]
      cases htext : octstrFormatLong n with
      | nil => exact absurd htext (octstrFormatLong_ne_nil n)
      | cons d ds =>
          rw [htext] at htake hdrop
          have hd : inNumber d = true := hnumber d (htext ▸ List.mem_cons_self)
          have hne : d ≠ 34 := by
            rintro rfl
            exact absurd hd (by decide)
          have hatol : atol (d :: ds) = n := htext ▸ atol_octstrFormatLong hv
          rw [jsonText, htext, List.cons_append, readValue, if_neg hne, if_pos hd,
            ← List.cons_append, htake, hdrop, hatol]
          rfl

theorem jsonMember_append (q : Octstr × JsonValue) (os : Octstr) :
    jsonMember sampleJansson q ++ os = 34 :: (q.1.flatMap sampleJansson.escape ++
      34 :: 58 :: (jsonText sampleJansson q.2 ++ os)) := by
  simp [jsonMember, jsonText]

theorem readMembers_dumped {members : List (Octstr × JsonValue)} (hne : members ≠ [])
    (hwell : ∀ q ∈ members, q.2.WellFormed) {n : Nat} (hn : members.length ≤ n) :
    readMembers n (List.intercalate [44] (members.map (jsonMember sampleJansson)) ++ [125]) =
      some (members.map (fun q => (q.1, q.2.read))) := by
  induction members generalizing n with
  | nil => exact absurd rfl hne
  | cons q members ih =>
      cases n with
      | zero => simp at hn
      | succ n =>
          have hvalue := hwell q List.mem_cons_self
          have hcomma : inNumber 44 = false := by decide
          have hbrace : inNumber 125 = false := by decide
          cases members with
          | nil =>
              have hlast : List.intercalate [44] ([q].map (jsonMember sampleJansson)) ++ [125] =
                  jsonMember sampleJansson q ++ 125 :: [] := by simp [List.intercalate]
              rw [hlast, jsonMember_append]
              simp [readMembers, readString_text, readValue_jsonText hvalue hbrace]
          | cons q' members =>
              have hrest := ih (by simp) (fun x hx => hwell x (List.mem_cons_of_mem _ hx))
                (Nat.le_of_succ_le_succ hn)
              have hmore : List.intercalate [44]
                    ((q :: q' :: members).map (jsonMember sampleJansson)) ++ [125] =
                  jsonMember sampleJansson q ++ 44 ::
                    (List.intercalate [44] ((q' :: members).map (jsonMember sampleJansson)) ++
                      [125]) := by
                simp [List.intercalate]
              rw [hmore, jsonMember_append]
              simp only [readMembers, readString_text, readValue_jsonText hvalue hcomma, hrest]
              rfl

theorem length_le_intercalate (members : List (Octstr × JsonValue)) :
    members.length ≤
      (List.intercalate [44] (members.map (jsonMember sampleJansson)) ++ [125]).length := by
  induction members with
  | nil => simp
  | cons q members ih =>
      cases members with
      | nil => simp
      | cons q' members =>
          simp only [List.intercalate, List.map_cons, List.intersperse, List.flatten_cons,
            List.length_cons, List.length_append] at ih ⊢
          omega

theorem sampleJsonParser_reads : Reads sampleJansson sampleJsonParser where
  json := by
    intro members _ hwell
    cases members with
    | nil => rfl
    | cons q members =>
        have hread := readMembers_dumped (List.cons_ne_nil q members)
          (fun x hx => (hwell x hx).2) (length_le_intercalate (q :: members))
        -- an object with members goes on with a quotation mark
        have hobject : ∃ os, List.intercalate [44]
            ((q :: members).map (jsonMember sampleJansson)) ++ [125] = 34 :: os := by
          cases members with
          | nil => exact ⟨_, by simp [List.intercalate, jsonMember, jsonText]; rfl⟩
          | cons q' members => exact ⟨_, by simp [List.intercalate, jsonMember, jsonText]; rfl⟩
        rcases hobject with ⟨os, hos⟩
        rw [hos] at hread
        have hdumps : jsonDumps sampleJansson (q :: members) = 123 :: 34 :: os := by
          rw [jsonDumps, List.append_assoc, hos]
          rfl
        rw [sampleJsonParser, hdumps]
        simpa [readObject] using hread
  uuid := uuidParse_smppUuidGet

/-! ## The round trip -/

/-- What is pushed for a message is read back as that message, under the number it was given. -/
theorem storedMsg_addMessageJson (hj : j.Documented) (hreads : Reads j p) (hm : Storable m)
    (hid : globalId < 2 ^ 63) (storeTable : Octstr) :
    storedMsg p storeTable (addMessageJson j globalId m) =
      some { storeTable := storeTable, globalId := globalId, msg := presentSms m } := by
  have hloads : p.jsonLoads (addMessageJson j globalId m) = some (storedRoot globalId m) := by
    rw [addMessageJson_eq hj globalId hm.text]
    exact hreads.json (storedMembers globalId m) (storedMembers_nodup globalId m)
      (storedMembers_wellFormed hm hid)
  have hnumber : (smppRedisJsonGetLong (storedRoot globalId m) "global_id" % 2 ^ 64).toNat =
      globalId := by
    have hget : smppRedisJsonGetLong (storedRoot globalId m) "global_id" = globalId := rfl
    rw [hget]
    omega
  rw [storedMsg, hloads, Option.map_some, smppRedisJsonToMsg_storedRoot hreads, hnumber]

/-- Whatever the octets of its user data are, a stored message is read back equal in every field. -/
theorem stored_text_read_back (hj : j.Documented) (hreads : Reads j p) (hm : Storable m)
    (hid : globalId < 2 ^ 63) (storeTable : Octstr) :
    ∃ msg, storedMsg p storeTable (addMessageJson j globalId m) =
        some { storeTable := storeTable, globalId := globalId, msg := msg } ∧ SameSms msg m :=
  ⟨presentSms m, storedMsg_addMessageJson hj hreads hm hid storeTable, presentSms_same m⟩

theorem sampleSms_storable (data : Option Octstr) : Storable (sampleSms data) where
  text := sampleSms_text data
  long := by
    have hnone : LongFields (sampleSms none) := by decide
    unfold LongFields smsFields at hnone ⊢
    simpa [sampleSms, Database.Field.IsLong] using hnone

theorem stored_text_read_back_sample :
    ∃ msg, storedMsg sampleJsonParser (octstrImm "store")
        (addMessageJson sampleJansson 7 (sampleSms (some [0, 37, 255]))) =
          some { storeTable := octstrImm "store", globalId := 7, msg := msg } ∧
      SameSms msg (sampleSms (some [0, 37, 255])) :=
  stored_text_read_back sampleJansson_documented sampleJsonParser_reads
    (sampleSms_storable (some [0, 37, 255])) (by decide) (octstrImm "store")

end Redis
end Ksmppd
