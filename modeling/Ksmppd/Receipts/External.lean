import Ksmppd.Database.Rows
import Ksmppd.Receipts.MsgToPdu

/-!
# External — receipts that other systems put into the database

`get_dlrs` makes a report of a record in the DLR table or list: it writes a `dlr_url` and a receipt
text as a bearerbox would send them, and `smpp_pdu_msg_to_pdu` takes them apart again.  A report it
refuses is destroyed, and so is its record.
-/

namespace Ksmppd
namespace Receipts

open Lib
open Database (gwlistGet)
open Redis (JsonObject smppRedisJsonGetOctstr octstrGetCstr)

/-! ## Records -/

/-- What `get_dlrs` reads of a record. -/
structure DlrRecord where
  messageId : Option Octstr
  status : Option Octstr
  errCode : Option Octstr
  submitDate : Option Octstr
  doneDate : Option Octstr
  destinationAddr : Option Octstr
  sourceAddr : Option Octstr
  smscId : Option Octstr
  text : Option Octstr
  deriving DecidableEq, Repr

/-- A row of the `SELECT` of `smpp_database_mysql_get_dlrs`. -/
def mysqlDlrRecord (row : List (Option Octstr)) : DlrRecord where
  messageId := gwlistGet row 1
  status := gwlistGet row 3
  errCode := gwlistGet row 4
  submitDate := gwlistGet row 5
  doneDate := gwlistGet row 6
  destinationAddr := gwlistGet row 7
  sourceAddr := gwlistGet row 8
  smscId := gwlistGet row 9
  text := gwlistGet row 10

/-- An entry popped by `smpp_database_redis_get_dlrs`. -/
def redisDlrRecord (root : JsonObject) : DlrRecord where
  messageId := some (smppRedisJsonGetOctstr root "message_id")
  status := some (smppRedisJsonGetOctstr root "status")
  errCode := some (smppRedisJsonGetOctstr root "err_code")
  submitDate := some (smppRedisJsonGetOctstr root "submit_date")
  doneDate := some (smppRedisJsonGetOctstr root "done_date")
  destinationAddr := some (smppRedisJsonGetOctstr root "destination_addr")
  sourceAddr := some (smppRedisJsonGetOctstr root "source_addr")
  smscId := some (smppRedisJsonGetOctstr root "smsc_id")
  text := some (smppRedisJsonGetOctstr root "text")

/-- A record in either backend. -/
inductive ExternalDlr
  | mysql (row : List (Option Octstr))
  | redis (root : JsonObject)
  deriving DecidableEq, Repr

def ExternalDlr.record : ExternalDlr → DlrRecord
  | .mysql row => mysqlDlrRecord row
  | .redis root => redisDlrRecord root

/-! ## Reports -/

/-- `octstr_parse_long(&n, os, 0, 10)`, if it sets `n`. -/
def octstrParseLong (os : Octstr) : Option Int :=
  let rest := (octstrGetCstr os).dropWhile isSpace
  let digits := if rest.head? = some 45 ∨ rest.head? = some 43 then rest.drop 1 else rest
  if (digits.takeWhile isDigit) = [] then none
  else
    let n := if rest.head? = some 45 then -leadingDigits digits else leadingDigits digits
    if IsLong n then some n else none

/-- What `get_dlrs` has besides the record. -/
structure DlrContext where
  clock : Clock
  /-- The id `msg_create` generates. -/
  generated : Uuid
  /-- What is in the variable `octstr_parse_long` does not set. -/
  unset : Int

def DlrRecord.dlrMask (r : DlrRecord) : Int :=
  if r.status.map octstrToLower = some (octstrToLower (octstrImm "DELIVRD")) then dlrSuccess
  else dlrFail

/-- `err_val`, an `unsigned int`. -/
def DlrRecord.errVal (c : DlrContext) (r : DlrRecord) : Nat :=
  match r.errCode with
  | none => 0
  -- a negative number wraps
  | some os => if os = [] then 0 else (((octstrParseLong os).getD c.unset) % 2 ^ 32).toNat

/-- The time of the report: its submit date, its done date or now. -/
def DlrRecord.msgTime (c : DlrContext) (r : DlrRecord) : Int :=
  let submitTime := smppTimeToCTime c.clock (smppDatabaseFormatDlrDate c.clock r.submitDate)
  let doneTime := smppTimeToCTime c.clock (smppDatabaseFormatDlrDate c.clock r.doneDate)
  -- a date that is not given is zeros, which is no time
  if submitTime > 0 then submitTime
  else if doneTime > 0 then doneTime
  else c.clock.time

/-- The receipt text of the report. -/
def DlrRecord.receipt (c : DlrContext) (r : DlrRecord) : Octstr :=
  receiptText (r.messageId.getD []) (dlvrd r.dlrMask)
    (smppDatabaseFormatDlrDate c.clock r.submitDate) (smppDatabaseFormatDlrDate c.clock r.doneDate)
    (if octstrLen r.status ≠ 0 then r.status.getD [] else octstrImm "DELIVRD") (r.errVal c)
    (r.text.getD [])

/-- The report that `get_dlrs` makes of a record for a service. -/
def DlrRecord.toMsg (c : DlrContext) (service : Octstr) (r : DlrRecord) : Sms :=
  { msgCreateSms c.generated with
    smsType := smsTypeReportMo
    service := some service
    receiver := some (r.destinationAddr.getD [])
    sender := some (r.sourceAddr.getD [])
    smscId := some (r.smscId.getD [])
    time := r.msgTime c
    dlrMask := r.dlrMask
    msgdata := some (r.receipt c)
    dlrUrl := some (dlrUrl service (octstrFormatLong (r.msgTime c)) (r.messageId.getD [])) }

/-- The deliver_sm `smpp_esme_global_get_queued` queues for a record, or its refusal, upon which the
record is removed. -/
def externalDlrPdus (k : MsgKannel) (c : DlrContext) (esme : SmppEsme) (catenatedSmsCounter : Nat)
    (service : Octstr) (d : ExternalDlr) : Converted :=
  smppPduMsgToPdu k esme catenatedSmsCounter (d.record.toMsg c service)

/-- The receipt text starts with the message id, and so does the TLV of a session that has it. -/
structure Names (esme : SmppEsme) (messageId : Octstr) (p : DeliverSmPdu) : Prop where
  text : ∃ rest, p.shortMessage = some (octstrImm "id:" ++ (messageId ++ blank :: rest))
  tlv : esme.version > 0x33 → p.receiptedMessageId = some messageId

/-- When the report of a record can be taken apart again. -/
structure Deliverable (c : DlrContext) (service : Octstr) (r : DlrRecord) : Prop where
  plain : bar ∉ service
  /-- The `dlr_url` is longer than the id of a message of the server. -/
  long : uuidStrLen < (dlrUrl service (octstrFormatLong (r.msgTime c)) (r.messageId.getD [])).length
  destination : r.destinationAddr ≠ some [43]
  /-- Of a message id that starts with `NUL` nothing is seen, so a status must be. -/
  status : (r.messageId.getD []).head? = some 0 →
    octstrGetCstr (fallbackField (r.receipt c) (octstrImm "stat:") 16) ≠ []

variable {k : MsgKannel} {c : DlrContext} {esme : SmppEsme} {catenatedSmsCounter : Nat}
  {service time id : Octstr} {r : DlrRecord}

/-! ## The dlr_url -/

theorem dlrInfo_dlrUrl (htime : bar ∉ time) (hid : bar ∉ id) (hne : id ≠ []) :
    dlrInfo (some (dlrUrl service time id)) =
      if uuidStrLen < (dlrUrl service time id).length ∧ bar ∉ service then
        some (service, time, id)
      else none := by
  by_cases hlong : uuidStrLen < (dlrUrl service time id).length
  · have hle : ¬ octstrLen (some (dlrUrl service time id)) ≤ uuidStrLen := Nat.not_le.mpr hlong
    simp only [dlrInfo, hle, if_false, Option.getD_some, hlong, true_and]
    by_cases hbar : bar ∈ service
    · -- more than three pieces
      have hcount : (octstrSplit (dlrUrl service time id) bar).length ≠ 3 :=
        fun hlength => (length_octstrSplit_dlrUrl htime hid hne).mp hlength hbar
      rw [if_neg (not_not.mpr hbar)]
      split
      · rename_i heq
        exact absurd (by rw [heq]; rfl) hcount
      · rfl
    · rw [if_pos hbar, octstrSplit_dlrUrl_of_not_mem hbar htime hid hne]
  · have hle : octstrLen (some (dlrUrl service time id)) ≤ uuidStrLen := Nat.not_lt.mp hlong
    simp only [dlrInfo, hle, if_true, hlong, false_and, if_false]

/-! ## The receipt text -/

/-- What a receipt text goes on with behind its message id. -/
theorem exists_receiptText (m dlvrd submitDate doneDate stat : Octstr) (err : Nat) (text : Octstr) :
    ∃ rest, receiptText m dlvrd submitDate doneDate stat err text =
      octstrImm "id:" ++ (m ++ blank :: rest) :=
  ⟨_, rfl⟩

theorem octstrGetCstr_cons {b : UInt8} (hb : b ≠ 0) (os : Octstr) :
    octstrGetCstr (b :: os) = b :: octstrGetCstr os := by
  simp [octstrGetCstr, hb]

theorem octstrGetCstr_id (os : Octstr) :
    octstrGetCstr (octstrImm "id:" ++ os) = octstrImm "id:" ++ octstrGetCstr os := rfl

/-- The first conversion of the format, behind the label that comes first. -/
theorem sscanf_dlrFormat (os : Octstr) : ∃ ds, sscanf dlrFormat (octstrImm "id:" ++ os) =
    sscanf (.set 64 (fun c => c ≠ blank) :: ds) os :=
  ⟨_, sscanf_text (octstrImm "id:")⟩

/-- An id that is seen on both paths is in its buffer. -/
theorem head_dlrBuffers_id {text : Octstr} {b : UInt8}
    (hscanned : (assigned (sscanf dlrFormat (octstrGetCstr text)) 0).head? = some b)
    (hfallback : (fallbackField text (octstrImm "id:") 65).head? = some b) :
    (dlrBuffers text).id.head? = some b := by
  unfold dlrBuffers
  simp only
  split
  · exact hscanned
  · -- the fallback writes over what `sscanf` has left
    cases hfield : fallbackField text (octstrImm "id:") 65 with
    | nil => simp [hfield] at hfallback
    | cons b' os => simpa [fallbackBuffers, overlay, hfield] using hfallback

/-- Of an id that `sscanf` does not see, nothing but the fallback fills the buffers. -/
theorem dlrBuffers_of_nil {text : Octstr} (h : sscanf dlrFormat (octstrGetCstr text) = []) :
    dlrBuffers text = fallbackBuffers text (scannedBuffers []) := by
  simp [dlrBuffers, h]

theorem fallbackField_id {m rest : Octstr} (hblank : ∀ b ∈ m, b ≠ blank) :
    fallbackField (octstrImm "id:" ++ (m ++ blank :: rest)) (octstrImm "id:") 65 = m.take 64 := by
  apply fallbackField_prefix (by decide)
  intro b hb
  rcases List.mem_append.mp hb with hb | hb
  · -- the label has no blank
    have hid : octstrImm "id:" = [105, 100, 58] := rfl
    rintro rfl
    simp [hid, blank] at hb
  · exact hblank b hb

/-- The parser takes a receipt text unless its id starts with `NUL` and no status is seen. -/
theorem parseDlrShortMessage_isSome_iff (clock : Clock) {m rest : Octstr} (hne : m ≠ [])
    (hblank : ∀ b ∈ m, b ≠ blank) {text : Octstr}
    (htext : text = octstrImm "id:" ++ (m ++ blank :: rest)) :
    (parseDlrShortMessage clock text).isSome ↔
      (m.head? = some 0 → octstrGetCstr (fallbackField text (octstrImm "stat:") 16) ≠ []) := by
  have hnil : text ≠ [] := by simp [htext, octstrImm]
  have hfallback : fallbackField text (octstrImm "id:") 65 = m.take 64 :=
    htext ▸ fallbackField_id hblank
  rcases sscanf_dlrFormat (octstrGetCstr (m ++ blank :: rest)) with ⟨ds, hds⟩
  rw [← octstrGetCstr_id, ← htext] at hds
  cases m with
  | nil => exact absurd rfl hne
  | cons b m =>
      by_cases hb : b = 0
      · subst hb
        -- the C string ends before the id
        have hnone : sscanf dlrFormat (octstrGetCstr text) = [] := by
          rw [hds]
          simp [octstrGetCstr, sscanf]
        have hbuffers := dlrBuffers_of_nil hnone
        have hid : octstrGetCstr (dlrBuffers text).id = [] := by
          simp only [hbuffers, fallbackBuffers, hfallback]
          rfl
        have hstat : (dlrBuffers text).stat = fallbackField text (octstrImm "stat:") 16 := by
          simp [hbuffers, fallbackBuffers, scannedBuffers, assigned, overlay]
        simp only [parseDlrShortMessage, if_neg hnil, hid, hstat, true_and]
        split
        · rename_i hempty
          simp [hempty]
        · rename_i hseen
          simp [hseen]
      · -- `sscanf` and the fallback both see the first octet
        have hscanned : (assigned (sscanf dlrFormat (octstrGetCstr text)) 0).head? = some b := by
          have hblankb : b ≠ blank := hblank b List.mem_cons_self
          rw [hds, List.cons_append, octstrGetCstr_cons hb]
          simp [sscanf, assigned, hblankb]
        have hhead := head_dlrBuffers_id hscanned (by simp [hfallback])
        have hid : octstrGetCstr (dlrBuffers text).id ≠ [] := by
          cases hbuffer : (dlrBuffers text).id with
          | nil => simp [hbuffer] at hhead
          | cons b' os =>
              have hbb : b' = b := by simpa [hbuffer] using hhead
              rw [hbb, octstrGetCstr_cons hb]
              simp
        simp [parseDlrShortMessage, hnil, hid, hb]

/-! ## Records that become a receipt -/

theorem names_reportPdu {msg : Sms} {h : DeliverSmPdu} {dlrTime : Int} {f : DlrFields} {m : Octstr} :
    Names esme m (reportPdu k esme msg h dlrTime f m) := by
  by_cases hversion : esme.version > 0x33
  · simp only [reportPdu, hversion, if_true]
    exact ⟨⟨_, rfl⟩, fun _ => rfl⟩
  · simp only [reportPdu, hversion, if_false]
    exact ⟨⟨_, rfl⟩, fun h => absurd h hversion⟩

theorem octstrLen_getD (os : Option Octstr) : octstrLen (some (os.getD [])) = octstrLen os := by
  cases os with
  | none => rfl
  | some os => rfl

/-- A report with one message id, through the three checks. -/
theorem smppPduMsgToPdu_report {msg : Sms} {m text : Octstr} (htype : msg.smsType = smsTypeReportMo)
    (hurl : msg.dlrUrl = some (dlrUrl service time m)) (hdata : msg.msgdata = some text)
    (htime : bar ∉ time) (hbar : bar ∉ m) (hsemicolon : semicolon ∉ m) (hne : m ≠ []) :
    smppPduMsgToPdu k esme catenatedSmsCounter msg =
      if addressesFit (header k msg) = true ∧
          (uuidStrLen < (dlrUrl service time m).length ∧ bar ∉ service) then
        match parseDlrShortMessage k.clock text with
        | none => .refused
        | some f => .pdus [reportPdu k esme msg (header k msg) (atol time) f m]
      else .refused := by
  have hsplit : octstrSplit m semicolon = [m] := pieces_eq_singleton hne hsemicolon
  by_cases hfit : addressesFit (header k msg) = true
  · simp only [smppPduMsgToPdu, hfit, htype, reportPdus, hurl, hdata,
      dlrInfo_dlrUrl htime hbar hne, true_and, if_true, Bool.not_true, Bool.false_eq_true, if_false,
      Option.getD_some]
    by_cases hcut : uuidStrLen < (dlrUrl service time m).length ∧ bar ∉ service
    · simp only [hcut, not_false_iff, and_self, if_true, hsplit]
      rfl
    · simp only [hcut, if_false]
  · -- the addresses are checked before anything else
    simp [smppPduMsgToPdu, hfit]

/-- The record of a receipt with a plain message id becomes exactly one deliver_sm that names it, if
and only if its report can be taken apart again. -/
theorem external_dlr_delivered_iff (k : MsgKannel) (c : DlrContext) (esme : SmppEsme)
    (catenatedSmsCounter : Nat) (service : Octstr) {d : ExternalDlr} {m dest : Octstr}
    (hid : d.record.messageId = some m) (hne : m ≠ [])
    (hplain : ∀ b ∈ m, b ≠ bar ∧ b ≠ semicolon ∧ b ≠ blank)
    (hdest : d.record.destinationAddr = some dest) (hdestLength : 1 ≤ dest.length ∧ dest.length ≤ 20)
    (hsource : octstrLen d.record.sourceAddr ≤ 20) :
    (∃ p, externalDlrPdus k c esme catenatedSmsCounter service d = .pdus [p] ∧ Names esme m p) ↔
      Deliverable c service d.record := by
  have hbar : bar ∉ m := fun hmem => (hplain bar hmem).1 rfl
  have hsemicolon : semicolon ∉ m := fun hmem => (hplain semicolon hmem).2.1 rfl
  have hblank : ∀ b ∈ m, b ≠ blank := fun b hb => (hplain b hb).2.2
  have hdestNe : dest ≠ [] := List.ne_nil_of_length_pos hdestLength.1
  have hget : d.record.messageId.getD [] = m := by rw [hid]; rfl
  -- the three checks, each on its own
  have hfit : addressesFit (header k (d.record.toMsg c service)) = true ↔ dest ≠ [43] :=
    addressesFit_header (by simp [DlrRecord.toMsg, hdest]) hdestNe hdestLength.2
      (by simpa [DlrRecord.toMsg, octstrLen_getD] using hsource)
  have hparse : ∀ clock, (parseDlrShortMessage clock (d.record.receipt c)).isSome ↔
      (m.head? = some 0 →
        octstrGetCstr (fallbackField (d.record.receipt c) (octstrImm "stat:") 16) ≠ []) := by
    intro clock
    rcases exists_receiptText m (dlvrd d.record.dlrMask)
      (smppDatabaseFormatDlrDate c.clock d.record.submitDate)
      (smppDatabaseFormatDlrDate c.clock d.record.doneDate)
      (if octstrLen d.record.status ≠ 0 then d.record.status.getD [] else octstrImm "DELIVRD")
      (d.record.errVal c) (d.record.text.getD []) with ⟨rest, hrest⟩
    exact parseDlrShortMessage_isSome_iff clock hne hblank
      ((by rw [DlrRecord.receipt, hget] : d.record.receipt c = _).trans hrest)
  have hdeliverable : Deliverable c service d.record ↔
      (dest ≠ [43] ∧
        uuidStrLen < (dlrUrl service (octstrFormatLong (d.record.msgTime c)) m).length ∧
          bar ∉ service) ∧
      (m.head? = some 0 →
        octstrGetCstr (fallbackField (d.record.receipt c) (octstrImm "stat:") 16) ≠ []) := by
    constructor
    · intro h
      exact ⟨⟨fun heq => h.destination (heq ▸ hdest), hget ▸ h.long, h.plain⟩, hget ▸ h.status⟩
    · rintro ⟨⟨hplus, hlong, hservice⟩, hstatus⟩
      exact ⟨hservice, hget.symm ▸ hlong, fun heq => hplus (Option.some.inj (hdest.symm.trans heq)),
        hget.symm ▸ hstatus⟩
  have hpdus := @smppPduMsgToPdu_report k esme catenatedSmsCounter service
    (octstrFormatLong (d.record.msgTime c)) (d.record.toMsg c service) m (d.record.receipt c) rfl
    (by rw [DlrRecord.toMsg, hget]) rfl (bar_not_mem_octstrFormatLong _) hbar hsemicolon hne
  rw [hdeliverable, ← hfit, ← hparse k.clock, externalDlrPdus, hpdus]
  split
  · rename_i hchecks
    cases hf : parseDlrShortMessage k.clock (d.record.receipt c) with
    | none => simp
    | some f =>
        exact ⟨fun _ => ⟨hchecks, rfl⟩, fun _ => ⟨_, rfl, names_reportPdu⟩⟩
  · rename_i hchecks
    simp only [hchecks, false_and, iff_false]
    rintro ⟨p, hp, _⟩
    cases hp

/-! ## Samples -/

/-- The hour from 12:00 on 2024-01-01 on, in UTC. -/
def sampleClock : Clock where
  time := 1704110400
  localtime := fun t =>
    { tmYear := 124
      tmMon := 0
      tmMday := 1
      tmHour := 12
      tmMin := (t - 1704110400) / 60
      tmSec := (t - 1704110400) % 60
      tmIsdst := 0 }
  mktime := fun tm => 1704110400 + 60 * tm.tmMin + tm.tmSec

def sampleKannel : MsgKannel where
  clock := sampleClock
  fieldsToDcs := fun _ _ => 0
  metaDataGetValues := fun _ _ => none
  smsSplit := fun msg _ => [msg]
  charsetUtf8ToGsm := fun os => os
  charsetConvert := fun _ _ os => os

def sampleContext : DlrContext where
  clock := sampleClock
  generated := Vector.replicate 16 0
  unset := 0

/-- The documented record for the DLR list, with a message id. -/
def sampleDlr (messageId : Octstr) : ExternalDlr :=
  .redis [(octstrImm "global_id", .integer 0), (octstrImm "message_id", .string messageId),
    (octstrImm "service", .string (octstrImm "myesme")),
    (octstrImm "status", .string (octstrImm "DELIVRD")), (octstrImm "err_code", .integer 0),
    (octstrImm "submit_date", .string (octstrImm "2401011200")),
    (octstrImm "done_date", .string (octstrImm "2401011201")),
    (octstrImm "destination_addr", .string (octstrImm "1234")),
    (octstrImm "source_addr", .string (octstrImm "5678")),
    (octstrImm "smsc_id", .string (octstrImm "smsc1")), (octstrImm "text", .string [])]

/-- With an id as the server gives them, the record is delivered. -/
theorem external_dlr_delivered_sample :
    ∃ p, externalDlrPdus sampleKannel sampleContext (smppEsmeCreate 0) 0 (octstrImm "myesme")
        (sampleDlr (smppUuidGet (Vector.replicate 16 0))) = .pdus [p] ∧
      Names (smppEsmeCreate 0) (smppUuidGet (Vector.replicate 16 0)) p := by
  refine (external_dlr_delivered_iff sampleKannel sampleContext (smppEsmeCreate 0) 0
    (octstrImm "myesme") rfl (by decide) (by decide +kernel) rfl
    (by decide) (by decide)).mpr ⟨by decide, ?_, by decide, ?_⟩
  · decide +kernel
  · intro hnul
    exact absurd hnul (by decide +kernel)

/-- With the id of the documentation, `abc123`, it is refused: the `dlr_url` is too short. -/
theorem external_dlr_documented_refused :
    ¬ ∃ p, externalDlrPdus sampleKannel sampleContext (smppEsmeCreate 0) 0 (octstrImm "myesme")
        (sampleDlr (octstrImm "abc123")) = .pdus [p] ∧
      Names (smppEsmeCreate 0) (octstrImm "abc123") p := by
  have hrefused : externalDlrPdus sampleKannel sampleContext (smppEsmeCreate 0) 0
      (octstrImm "myesme") (sampleDlr (octstrImm "abc123")) = .refused := by
    decide +kernel
  rintro ⟨p, hp, _⟩
  rw [hrefused] at hp
  cases hp

end Receipts
end Ksmppd
