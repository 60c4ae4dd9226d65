import Mathlib.Data.List.TakeWhile
import Ksmppd.Redis.Command
import Ksmppd.Text

/-!
# Message — messages as JSON texts in Redis

`smpp_database_redis_add_message` URL-encodes the user data of a message, writes the message as
JSON and pushes the text.  Every octet of the text is read twice, by jansson's escaping and by
`redisCommand`, so the text survives only without spaces and percent signs; and percent signs are
what URL-encoding makes of all user data.
-/

namespace Ksmppd
namespace Redis

open Lib

/-! ## URL encoding -/

/-- A digit as `%X` prints it. -/
def hexDigitUpper (n : UInt8) : UInt8 := if n < 10 then 48 + n else 55 + n

/-- `smpp_db_url_encode_octstr`. -/
def smppDbUrlEncodeOctstr (os : Octstr) : Octstr :=
  os.flatMap (fun b => [percent, hexDigitUpper (b / 16), hexDigitUpper (b % 16)])

/-- User data as it is stored. -/
def encodeData (os : Option Octstr) : Option Octstr :=
  if octstrLen os > 0 then os.map smppDbUrlEncodeOctstr else os

/-- The message after `smpp_database_redis_add_message` has encoded its user data. -/
def encodeMsg (m : Sms) : Sms :=
  { m with udhdata := encodeData m.udhdata, msgdata := encodeData m.msgdata }

/-! ## JSON -/

/-- What jansson does with strings. -/
structure Jansson where
  /-- How `json_dumps` writes an octet of a string. -/
  escape : UInt8 → Octstr
  /-- Whether `json_string` takes the text for UTF-8. -/
  valid : Octstr → Bool

/-- The UTF-8 text of some characters. -/
def IsUtf8 (os : Octstr) : Prop := ∃ cs : List Char, os = cs.flatMap String.utf8EncodeChar

/-- Quotation marks, backslashes and control characters are escaped, by sequences without spaces
and percent signs; everything else stands for itself; and all UTF-8 is taken. -/
structure Jansson.Documented (j : Jansson) : Prop where
  unescaped : ∀ c, 32 ≤ c → c ≠ 34 → c ≠ 92 → j.escape c = [c]
  escaped : ∀ c, c < 32 ∨ c = 34 ∨ c = 92 → Plain blank percent (j.escape c)
  utf8 : ∀ os, IsUtf8 os → j.valid os = true

inductive JsonValue
  | integer (n : Int)
  | string (os : Octstr)
  deriving DecidableEq, Repr

def jsonText (j : Jansson) : JsonValue → Octstr
  | .integer n => octstrFormatLong n
  | .string os => [34] ++ os.flatMap j.escape ++ [34]

/-- A member of an object, and the colon of `JSON_COMPACT`. -/
def jsonMember (j : Jansson) (p : Octstr × JsonValue) : Octstr :=
  jsonText j (.string p.1) ++ [58] ++ jsonText j p.2

/-- `json_dumps(root, JSON_COMPACT)` of an object with these members. -/
def jsonDumps (j : Jansson) (members : List (Octstr × JsonValue)) : Octstr :=
  [123] ++ List.intercalate [44] (members.map (jsonMember j)) ++ [125]

/-! ## Messages -/

/-- The fields `msg-decl.h` declares with `INTEGER`, `OCTSTR` and `UUID`. -/
inductive Field
  | integer (n : Int)
  | octstr (os : Option Octstr)
  | uuid (u : Uuid)
  deriving DecidableEq, Repr

/-- The fields of an `sms`, in the order of `msg-decl.h`. -/
def smsFields (m : Sms) : List (Octstr × Field) :=
  [(octstrImm "sender", .octstr m.sender),
    (octstrImm "receiver", .octstr m.receiver),
    (octstrImm "udhdata", .octstr m.udhdata),
    (octstrImm "msgdata", .octstr m.msgdata),
    (octstrImm "time", .integer m.time),
    (octstrImm "smsc_id", .octstr m.smscId),
    (octstrImm "smsc_number", .octstr m.smscNumber),
    (octstrImm "foreign_id", .octstr m.foreignId),
    (octstrImm "service", .octstr m.service),
    (octstrImm "account", .octstr m.account),
    (octstrImm "id", .uuid m.id),
    (octstrImm "sms_type", .integer m.smsType),
    (octstrImm "mclass", .integer m.mclass),
    (octstrImm "mwi", .integer m.mwi),
    (octstrImm "coding", .integer m.coding),
    (octstrImm "compress", .integer m.compress),
    (octstrImm "validity", .integer m.validity),
    (octstrImm "deferred", .integer m.deferred),
    (octstrImm "dlr_mask", .integer m.dlrMask),
    (octstrImm "dlr_url", .octstr m.dlrUrl),
    (octstrImm "pid", .integer m.pid),
    (octstrImm "alt_dcs", .integer m.altDcs),
    (octstrImm "rpi", .integer m.rpi),
    (octstrImm "charset", .octstr m.charset),
    (octstrImm "boxc_id", .octstr m.boxcId),
    (octstrImm "binfo", .octstr m.binfo),
    (octstrImm "msg_left", .integer m.msgLeft),
    (octstrImm "priority", .integer m.priority),
    (octstrImm "resend_try", .integer m.resendTry),
    (octstrImm "resend_time", .integer m.resendTime),
    (octstrImm "meta_data", .octstr m.metaData)]

/-- `octstr_get_cstr` as a C function reads it. -/
def octstrGetCstr (os : Octstr) : Octstr := os.takeWhile (fun c => c ≠ 0)

/-- `smpp_redis_json_set_str`: a text that is not UTF-8 leaves no member. -/
def smppRedisJsonSetStr (j : Jansson) (key : Octstr) (val : Option Octstr) :
    List (Octstr × JsonValue) :=
  match val with
  | none => [(key, .string [])]
  | some os =>
      if os = [] then [(key, .string [])]
      else if j.valid (octstrGetCstr os) then [(key, .string (octstrGetCstr os))]
      else []

def fieldMembers (j : Jansson) : Octstr × Field → List (Octstr × JsonValue)
  | (key, .integer n) => [(key, .integer n)]
  | (key, .octstr os) => smppRedisJsonSetStr j key os
  | (key, .uuid u) => [(key, .string (smppUuidGet u))]

/-- `smpp_redis_msg_to_json`. -/
def smppRedisMsgToJson (j : Jansson) (m : Sms) (globalId : Nat) : Octstr :=
  jsonDumps j ((octstrImm "global_id", .integer globalId) ::
    (smsFields m).flatMap (fieldMembers j))

/-- `smpp_redis_store_queue_key_for`. -/
def smppRedisStoreQueueKeyFor (storeTable : Octstr) : Octstr := storeTable ++ octstrImm ":queue"

/-- The JSON text `smpp_database_redis_add_message` pushes, under the number `INCR` gave. -/
def addMessageJson (j : Jansson) (globalId : Nat) (m : Sms) : Octstr :=
  smppRedisMsgToJson j (encodeMsg m) globalId

/-- The text `smpp_database_redis_add_message` hands to `redisCommand`. -/
def addMessageCommand (j : Jansson) (storeTable : Octstr) (globalId : Nat) (m : Sms) : Octstr :=
  smppRedisQueuePush (smppRedisStoreQueueKeyFor storeTable) (addMessageJson j globalId m)

/-! ## Plain texts -/

variable {j : Jansson} {os : Octstr}

theorem plain_cons {c : UInt8} :
    Plain blank percent (c :: os) ↔ (c ≠ blank ∧ c ≠ percent) ∧ Plain blank percent os := by
  simp [Plain]

theorem plain_nil : Plain blank percent [] := by
  simp [Plain]

/-- Escaping neither hides a space or a percent sign nor makes one. -/
theorem plain_escape_iff (hj : j.Documented) (c : UInt8) :
    Plain blank percent (j.escape c) ↔ c ≠ blank ∧ c ≠ percent := by
  by_cases hspecial : c < 32 ∨ c = 34 ∨ c = 92
  · -- an escaped octet is neither of the two, and neither is anything it is escaped to
    have hc : c ≠ blank ∧ c ≠ percent := by
      rcases hspecial with hcontrol | rfl | rfl
      · constructor
        · rintro rfl
          exact absurd hcontrol (by decide)
        · rintro rfl
          exact absurd hcontrol (by decide)
      · decide
      · decide
    exact ⟨fun _ => hc, fun _ => hj.escaped c hspecial⟩
  · rcases not_or.mp hspecial with ⟨hcontrol, hrest⟩
    rcases not_or.mp hrest with ⟨hquote, hbackslash⟩
    rw [hj.unescaped c (UInt8.not_lt.mp hcontrol) hquote hbackslash]
    simp [Plain]

theorem plain_of_isDigit {c : UInt8} (h : isDigit c = true) : c ≠ blank ∧ c ≠ percent := by
  constructor
  · rintro rfl
    exact absurd h (by decide)
  · rintro rfl
    exact absurd h (by decide)

theorem plain_octstrFormatLong (n : Int) : Plain blank percent (octstrFormatLong n) := by
  intro c hc
  rcases octet_of_mem_octstrFormatLong hc with rfl | hdigit
  · decide
  · exact plain_of_isDigit hdigit

theorem plain_smppUuidGet (u : Uuid) : Plain blank percent (smppUuidGet u) := by
  intro c hc
  rcases octet_of_mem_smppUuidGet hc with rfl | hdigit | ⟨hlow, -⟩
  · decide
  · exact plain_of_isDigit hdigit
  · -- a hexadecimal letter
    constructor
    · rintro rfl
      exact absurd hlow (by decide)
    · rintro rfl
      exact absurd hlow (by decide)

theorem plain_jsonText_iff (hj : j.Documented) (v : JsonValue) :
    Plain blank percent (jsonText j v) ↔ match v with
      | .integer _ => True
      | .string os => Plain blank percent os := by
  cases v with
  | integer n => simpa [jsonText] using plain_octstrFormatLong n
  | string os =>
      have hquote : Plain blank percent [34] := by decide
      simp only [jsonText, plain_append, hquote, true_and, and_true, plain_flatMap,
        plain_escape_iff hj]
      rfl

/-- An object is plain if its keys and values are. -/
theorem plain_jsonDumps_iff (hj : j.Documented) {members : List (Octstr × JsonValue)} :
    Plain blank percent (jsonDumps j members) ↔ ∀ p ∈ members,
      Plain blank percent p.1 ∧ Plain blank percent (jsonText j p.2) := by
  have hopen : Plain blank percent [123] := by decide
  have hclose : Plain blank percent [125] := by decide
  have hcomma : Plain blank percent [44] := by decide
  have hcolon : Plain blank percent [58] := by decide
  have hmember : ∀ p, Plain blank percent (jsonMember j p) ↔
      Plain blank percent p.1 ∧ Plain blank percent (jsonText j p.2) := by
    intro p
    simp only [jsonMember, plain_append, plain_jsonText_iff hj (.string p.1), hcolon, and_true]
  simp only [jsonDumps, plain_append, plain_intercalate hcomma, hopen, hclose, true_and, and_true,
    List.forall_mem_map, hmember]

/-! ## Plain messages -/

/-- A text of the fields of a message: no `NUL` in it, and UTF-8. -/
def IsText (os : Octstr) : Prop := 0 ∉ os ∧ IsUtf8 os

def Field.OfText : Field → Prop
  | .octstr os => ∀ x ∈ os, IsText x
  | _ => True

def Field.IsPlain : Field → Prop
  | .octstr os => ∀ x ∈ os, Plain blank percent x
  | _ => True

theorem octstrGetCstr_of_text (h : IsText os) : octstrGetCstr os = os := by
  refine List.takeWhile_eq_self_iff.mpr (fun c hc => ?_)
  have hne : c ≠ 0 := fun heq => h.1 (heq ▸ hc)
  simpa using hne

theorem plain_fieldMembers_iff (hj : j.Documented) {key : Octstr} {f : Field}
    (hkey : Plain blank percent key) (htext : f.OfText) :
    (∀ p ∈ fieldMembers j (key, f), Plain blank percent p.1 ∧ Plain blank percent (jsonText j p.2)) ↔
      f.IsPlain := by
  cases f with
  | integer n =>
      have hvalue : Plain blank percent (jsonText j (.integer n)) := plain_octstrFormatLong n
      simp [fieldMembers, Field.IsPlain, hkey, hvalue]
  | uuid u =>
      have hvalue := (plain_jsonText_iff hj (.string (smppUuidGet u))).mpr (plain_smppUuidGet u)
      simp [fieldMembers, Field.IsPlain, hkey, hvalue]
  | octstr os =>
      have hempty : Plain blank percent (jsonText j (.string [])) :=
        (plain_jsonText_iff hj (.string [])).mpr plain_nil
      cases os with
      | none => simp [fieldMembers, smppRedisJsonSetStr, Field.IsPlain, hkey, hempty]
      | some x =>
          have hx : IsText x := htext x rfl
          by_cases hnil : x = []
          · simp [fieldMembers, smppRedisJsonSetStr, Field.IsPlain, hkey, hempty, hnil, plain_nil]
          · have hvalue := plain_jsonText_iff hj (.string x)
            simp [fieldMembers, smppRedisJsonSetStr, Field.IsPlain, hkey, hnil,
              octstrGetCstr_of_text hx, hj.utf8 x hx.2, hvalue]

theorem plain_keys (m : Sms) : ∀ p ∈ smsFields m, Plain blank percent p.1 := by
  have hkeys : ∀ key ∈ (smsFields m).map Prod.fst, Plain blank percent key := by
    -- the keys do not depend on the message
    change ∀ key ∈ (smsFields (msgCreateSms (Vector.replicate 16 0))).map Prod.fst, _
    decide
  exact fun p hp => hkeys p.1 (List.mem_map_of_mem hp)

/-- The JSON text of a message is plain if the texts of its fields are. -/
theorem plain_smppRedisMsgToJson_iff (hj : j.Documented) {m : Sms} (globalId : Nat)
    (htext : ∀ p ∈ smsFields m, p.2.OfText) :
    Plain blank percent (smppRedisMsgToJson j m globalId) ↔ ∀ p ∈ smsFields m, p.2.IsPlain := by
  have hfirst : Plain blank percent (octstrImm "global_id") ∧
      Plain blank percent (jsonText j (.integer globalId)) := by
    refine ⟨?_, plain_octstrFormatLong globalId⟩
    decide
  rw [smppRedisMsgToJson, plain_jsonDumps_iff hj, List.forall_mem_cons]
  simp only [hfirst, true_and, List.mem_flatMap]
  constructor
  · intro h p hp
    apply (plain_fieldMembers_iff hj (plain_keys m p hp) (htext p hp)).mp
    exact fun q hq => h q ⟨p, hp, hq⟩
  · rintro h q ⟨p, hp, hq⟩
    exact (plain_fieldMembers_iff hj (plain_keys m p hp) (htext p hp)).mpr (h p hp) q hq

/-- The texts of a message besides its user data. -/
def textFields (m : Sms) : List (Option Octstr) :=
  [m.sender, m.receiver, m.smscId, m.smscNumber, m.foreignId, m.service, m.account, m.dlrUrl,
    m.charset, m.boxcId, m.binfo, m.metaData]

theorem forall_smsFields {P : Field → Prop} (hinteger : ∀ n, P (.integer n))
    (huuid : ∀ u, P (.uuid u)) (m : Sms) :
    (∀ p ∈ smsFields m, P p.2) ↔ (∀ os ∈ textFields m, P (.octstr os)) ∧
      P (.octstr m.udhdata) ∧ P (.octstr m.msgdata) := by
  simp only [smsFields, textFields, List.forall_mem_cons, hinteger, huuid, true_and]
  tauto

theorem hexDigitUpper_lt {n : UInt8} (hn : n < 16) : hexDigitUpper n < 128 ∧ hexDigitUpper n ≠ 0 := by
  unfold hexDigitUpper
  grind

theorem utf8EncodeChar_ascii {c : UInt8} (hc : c < 128) :
    String.utf8EncodeChar (Char.ofNat c.toNat) = [c] := by
  have hlt : c.toNat < 128 := hc
  have hchar : (Char.ofNat c.toNat).val.toNat = c.toNat := by
    have hvalid : c.toNat.isValidChar := Or.inl (by omega)
    have hofNat : Char.ofNat c.toNat = Char.ofNatAux c.toNat hvalid := dif_pos hvalid
    rw [hofNat]
    rfl
  simp [String.utf8EncodeChar, hchar]
  omega

theorem isText_of_ascii (h : ∀ c ∈ os, c < 128 ∧ c ≠ 0) : IsText os := by
  refine ⟨fun hzero => (h 0 hzero).2 rfl, os.map (fun c => Char.ofNat c.toNat), ?_⟩
  induction os with
  | nil => rfl
  | cons c os ih =>
      have hrest := ih (fun d hd => h d (by simp [hd]))
      rw [List.map_cons, List.flatMap_cons, utf8EncodeChar_ascii (h c (by simp)).1, ← hrest]
      rfl

theorem encodeData_ofText (os : Option Octstr) : (Field.octstr (encodeData os)).OfText := by
  intro x hx
  refine isText_of_ascii (fun c hc => ?_)
  unfold encodeData at hx
  split at hx
  · rcases Option.map_eq_some_iff.mp hx with ⟨data, -, rfl⟩
    rcases List.mem_flatMap.mp hc with ⟨b, -, hc⟩
    have hhigh := hexDigitUpper_lt (n := b / 16) (by grind)
    have hlow := hexDigitUpper_lt (n := b % 16) (by grind)
    simp only [List.mem_cons, List.not_mem_nil, or_false] at hc
    rcases hc with rfl | rfl | rfl
    · decide
    · exact hhigh
    · exact hlow
  · -- data without octets is left as it is
    rename_i hempty
    cases hx
    have hnil : x = [] := by simpa [octstrLen] using hempty
    rw [hnil] at hc
    cases hc

/-- All user data is encoded with percent signs. -/
theorem encodeData_isPlain_iff (os : Option Octstr) :
    (Field.octstr (encodeData os)).IsPlain ↔ octstrLen os = 0 := by
  cases os with
  | none => simp [encodeData, octstrLen, Field.IsPlain]
  | some x =>
      cases x with
      | nil => simp [encodeData, octstrLen, Field.IsPlain, plain_nil]
      | cons b x =>
          -- the first octet is written as a percent sign and two digits
          simp [encodeData, octstrLen, Field.IsPlain, smppDbUrlEncodeOctstr, Plain]

/-! ## Messages that survive -/

/-- The command is the three-argument `LPUSH` of the JSON text, and a following `LPOP` gives the
text back. -/
def PushesWhole (j : Jansson) (storeTable : Octstr) (globalId : Nat) (m : Sms) : Prop :=
  redisCommandArgs (addMessageCommand j storeTable globalId m) =
      some [octstrImm "LPUSH", smppRedisStoreQueueKeyFor storeTable, addMessageJson j globalId m] ∧
    ∀ lists count, 0 < count →
      (redisPop (smppRedisLpush lists (smppRedisStoreQueueKeyFor storeTable)
        (addMessageJson j globalId m)) (smppRedisStoreQueueKeyFor storeTable) count).head? =
          some (addMessageJson j globalId m)

theorem plain_storeQueueKey_iff (storeTable : Octstr) :
    Plain blank percent (smppRedisStoreQueueKeyFor storeTable) ↔ Plain blank percent storeTable := by
  have hqueue : Plain blank percent (octstrImm ":queue") := by decide
  simp [smppRedisStoreQueueKeyFor, plain_append, hqueue]

theorem storeQueueKey_ne_nil (storeTable : Octstr) : smppRedisStoreQueueKeyFor storeTable ≠ [] := by
  simp [smppRedisStoreQueueKeyFor, octstrImm]

theorem addMessageJson_ne_nil (j : Jansson) (globalId : Nat) (m : Sms) :
    addMessageJson j globalId m ≠ [] := by
  simp [addMessageJson, smppRedisMsgToJson, jsonDumps]

theorem plain_addMessageJson_iff (hj : j.Documented) (globalId : Nat) {m : Sms}
    (htext : ∀ os ∈ textFields m, ∀ x ∈ os, IsText x) :
    Plain blank percent (addMessageJson j globalId m) ↔
      (∀ os ∈ textFields m, ∀ x ∈ os, Plain blank percent x) ∧
        octstrLen m.udhdata = 0 ∧ octstrLen m.msgdata = 0 := by
  have hfields : ∀ p ∈ smsFields (encodeMsg m), p.2.OfText :=
    (forall_smsFields (P := Field.OfText) (fun _ => trivial) (fun _ => trivial)
      (encodeMsg m)).mpr ⟨htext, encodeData_ofText m.udhdata, encodeData_ofText m.msgdata⟩
  rw [addMessageJson, plain_smppRedisMsgToJson_iff hj globalId hfields,
    forall_smsFields (P := Field.IsPlain) (fun _ => trivial) (fun _ => trivial)]
  exact and_congr Iff.rfl
    (and_congr (encodeData_isPlain_iff m.udhdata) (encodeData_isPlain_iff m.msgdata))

/-- A stored message survives exactly if it has no user data, and no space and no percent sign in
its texts or in the name of its table. -/
theorem addMessage_pushesWhole_iff {j : Jansson} (hj : j.Documented) (storeTable : Octstr)
    (globalId : Nat) (m : Sms) (htext : ∀ os ∈ textFields m, ∀ x ∈ os, IsText x) :
    PushesWhole j storeTable globalId m ↔
      Plain blank percent storeTable ∧ (∀ os ∈ textFields m, ∀ x ∈ os, Plain blank percent x) ∧
        octstrLen m.udhdata = 0 ∧ octstrLen m.msgdata = 0 := by
  have hargs := redisCommandArgs_push_iff (storeQueueKey_ne_nil storeTable)
    (addMessageJson_ne_nil j globalId m)
  rw [plain_storeQueueKey_iff, plain_addMessageJson_iff hj globalId htext] at hargs
  constructor
  · intro h
    exact hargs.mp h.1
  · intro h
    have hcommand := hargs.mpr h
    exact ⟨hcommand, fun lists _ hcount => redisPop_smppRedisLpush hcommand lists hcount⟩

/-- Escapes, the control characters all in hexadecimal, and the check for UTF-8. -/
def sampleJansson : Jansson where
  escape := fun c =>
    if c = 34 ∨ c = 92 then [92, c]
    else if c < 32 then [92, 117, 48, 48, hexDigitUpper (c / 16), hexDigitUpper (c % 16)]
    else [c]
  valid := fun os => os.toByteArray.validateUTF8

theorem hexDigitUpper_plain {n : UInt8} (hn : n < 16) :
    hexDigitUpper n ≠ blank ∧ hexDigitUpper n ≠ percent := by
  unfold hexDigitUpper blank percent
  grind

theorem sampleJansson_documented : sampleJansson.Documented where
  unescaped := by
    intro c hc hquote hbackslash
    have hlt : ¬ c < 32 := UInt8.not_lt.mpr hc
    simp [sampleJansson, hquote, hbackslash, hlt]
  escaped := by
    rintro c (hcontrol | rfl | rfl)
    · have hnot : ¬ (c = 34 ∨ c = 92) := by
        rintro (rfl | rfl)
        · exact absurd hcontrol (by decide)
        · exact absurd hcontrol (by decide)
      have hhigh := hexDigitUpper_plain (n := c / 16) (by grind)
      have hlow := hexDigitUpper_plain (n := c % 16) (by grind)
      have hstart : Plain blank percent [92, 117, 48, 48] := by decide
      simp only [sampleJansson, hnot, hcontrol, if_false, if_true]
      exact plain_append.mpr ⟨hstart, plain_cons.mpr ⟨hhigh, plain_cons.mpr ⟨hlow, plain_nil⟩⟩⟩
    · decide
    · decide
  utf8 := by
    rintro os ⟨cs, rfl⟩
    exact ByteArray.validateUTF8_eq_true_iff.mpr ⟨cs, rfl⟩

/-- A message from `ksmppd`, with user data or without. -/
def sampleSms (data : Option Octstr) : Sms :=
  { msgCreateSms (Vector.replicate 16 0) with
    sender := some (octstrImm "ksmppd")
    msgdata := data }

theorem sampleSms_text (data : Option Octstr) :
    ∀ os ∈ textFields (sampleSms data), ∀ x ∈ os, IsText x := by
  have hascii : (octstrImm "ksmppd").all (fun c => decide (c < 128 ∧ c ≠ 0)) = true := by decide
  have hsender : IsText (octstrImm "ksmppd") := isText_of_ascii (by simpa using hascii)
  simpa [textFields, sampleSms, msgCreateSms] using hsender

theorem addMessage_pushesWhole_sample :
    PushesWhole sampleJansson (octstrImm "store") 1 (sampleSms none) := by
  refine (addMessage_pushesWhole_iff sampleJansson_documented (octstrImm "store") 1
    (sampleSms none) (sampleSms_text none)).mpr ⟨?_, ?_, rfl, rfl⟩
  · decide
  · have hsender : Plain blank percent (octstrImm "ksmppd") := by decide
    simpa [textFields, sampleSms, msgCreateSms] using hsender

/-- The user data `A` is stored as `%41`, which `redisCommand` takes for a directive. -/
theorem addMessage_data_not_pushed :
    ¬ PushesWhole sampleJansson (octstrImm "store") 1 (sampleSms (some (octstrImm "A"))) := by
  intro h
  have hplain := ((redisCommandArgs_push_iff (storeQueueKey_ne_nil (octstrImm "store"))
    (addMessageJson_ne_nil sampleJansson 1 (sampleSms (some (octstrImm "A"))))).mp h.1).2
  have hdata := ((plain_addMessageJson_iff sampleJansson_documented 1
    (sampleSms_text (some (octstrImm "A")))).mp hplain).2.2
  exact absurd hdata (by decide)

end Redis
end Ksmppd
