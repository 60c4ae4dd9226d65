import Ksmppd.Receipts.External

/-!
# PartPdus — what a message keeps when it goes out in parts

A message that is no report is copied, field by field, from one deliver_sm into as many as it has
parts.  Two things get lost on the way.  The text is converted in the branch for parts without a
header only; and the priority never reaches a part, nor do the bits of the ESM class reach one
without a header.
-/

namespace Ksmppd
namespace Receipts

universe u v

variable {α : Type u} {β : Type v} {k : MsgKannel} {esme : SmppEsme} {msg part : Sms}
  {h : DeliverSmPdu} {ps : List DeliverSmPdu}

/-! ## The parts -/

/-- The parts of a message. -/
def partsOf (k : MsgKannel) (catenatedSmsCounter : Nat) (msg : Sms) : List Sms :=
  k.smsSplit msg (catenatedSmsCounter &&& 0xFF)

theorem forall₂_mapIdx_iff {R : α → β → Prop} {P : α → Prop} {f : Nat → α → β} {l : List α}
    (hf : ∀ i a, R a (f i a) ↔ P a) : List.Forall₂ R l (l.mapIdx f) ↔ ∀ a ∈ l, P a := by
  induction l generalizing f with
  | nil => simp
  | cons a l ih =>
      have hrest := @ih (fun i => f (i + 1)) (fun i b => hf (i + 1) b)
      rw [List.mapIdx_cons, List.forall₂_cons, hf, hrest, List.forall_mem_cons]

/-- Whatever holds of the copy of each part, or does not, is known from the parts. -/
theorem forall₂_parts_iff {R : Sms → DeliverSmPdu → Prop} {P : Sms → Prop}
    {catenatedSmsCounter : Nat} (hreport : msg.smsType ≠ smsTypeReportMo)
    (hconverted : smppPduMsgToPdu k esme catenatedSmsCounter msg = .pdus ps)
    (hpart : ∀ n part, R part (partPdu k esme msg (header k msg) n part) ↔ P part) :
    List.Forall₂ R (partsOf k catenatedSmsCounter msg) ps ↔
      ∀ part ∈ partsOf k catenatedSmsCounter msg, P part := by
  unfold smppPduMsgToPdu at hconverted
  dsimp only at hconverted
  rw [if_neg hreport] at hconverted
  split_ifs at hconverted
  unfold messagePdus at hconverted
  split_ifs at hconverted
  rw [← Converted.pdus.inj hconverted]
  exact forall₂_mapIdx_iff (fun i part => hpart (esme.sequenceNumber + i) part)

/-- A text that is converted at all is copied part by part. -/
theorem smppPduMsgToPdu_of_text {catenatedSmsCounter : Nat}
    (hreport : msg.smsType ≠ smsTypeReportMo) (hfit : addressesFit (header k msg) = true)
    (hudh : octstrLen msg.udhdata = 0) :
    smppPduMsgToPdu k esme catenatedSmsCounter msg =
      .pdus ((partsOf k catenatedSmsCounter msg).mapIdx (fun i part =>
        partPdu k esme msg (header k msg) (esme.sequenceNumber + i) part)) := by
  have hinsert : ¬ (octstrLen msg.udhdata ≠ 0 ∧ msg.msgdata = none) := fun h => h.1 hudh
  unfold smppPduMsgToPdu
  dsimp only
  rw [hfit, if_neg (by decide), if_neg hreport, messagePdus, if_neg hinsert]
  rfl

theorem shortMessage_partPdu (n : Nat) : (partPdu k esme msg h n part).shortMessage =
    if octstrLen part.udhdata > 0 then some (part.udhdata.getD [] ++ part.msgdata.getD [])
    else encodePart k esme msg h.dataCoding part.msgdata := by
  unfold partPdu
  dsimp only
  split_ifs <;> rfl

/-! ## The text -/

/-- Behind its header, if it has one, the deliver_sm has the text of the part, converted like the
text of a message in one part. -/
def TextConverted (k : MsgKannel) (esme : SmppEsme) (msg part : Sms) (p : DeliverSmPdu) : Prop :=
  (p.shortMessage.getD []).drop (octstrLen part.udhdata) =
    (encodePart k esme msg (header k msg).dataCoding part.msgdata).getD []

/-- The conversion that the data coding and the session's character set ask for leaves the text as
it is. -/
structure SameWhenConverted (k : MsgKannel) (esme : SmppEsme) (dataCoding : Int)
    (text : Option Octstr) : Prop where
  gsm : hasBit dataCoding 0xF0 = true ∨ (esme.altCharset = none ∧ dataCoding = 0) →
    (k.charsetUtf8ToGsm text).getD [] = text.getD []
  altCharset : ∀ charset, esme.altCharset = some charset → dataCoding = 0 →
    (k.charsetConvert bearerboxDefaultCharset charset text).getD [] = text.getD []

theorem encodePart_eq_text_iff (hcoding : msg.coding = dc7bit) (dataCoding : Int)
    (text : Option Octstr) :
    text.getD [] = (encodePart k esme msg dataCoding text).getD [] ↔
      SameWhenConverted k esme dataCoding text := by
  have hzero : hasBit 0 0xF0 = false := by decide
  rw [encodePart, if_pos (Or.inl hcoding)]
  -- the first branch converts to GSM, the second to the charset of the ESME or not at all
  by_cases hgsm : hasBit dataCoding 0xF0 = true ∨ (esme.altCharset = none ∧ dataCoding = 0)
  · rw [if_pos hgsm]
    constructor
    · intro heq
      refine ⟨fun _ => heq.symm, ?_⟩
      intro charset hcharset hdefault
      rcases hgsm with hbit | ⟨hnone, -⟩
      · rw [hdefault, hzero] at hbit
        cases hbit
      · rw [hcharset] at hnone
        cases hnone
    · intro hsame
      exact (hsame.gsm hgsm).symm
  · rw [if_neg hgsm]
    cases hcharset : esme.altCharset with
    | none =>
        refine iff_of_true rfl ⟨fun h => absurd h (hcharset ▸ hgsm), ?_⟩
        intro charset hsome
        rw [hcharset] at hsome
        cases hsome
    | some charset =>
        dsimp only
        by_cases hdefault : dataCoding = 0
        · rw [if_pos hdefault]
          constructor
          · intro heq
            refine ⟨fun h => absurd h hgsm, ?_⟩
            intro charset' hcharset' _
            rw [hcharset] at hcharset'
            cases hcharset'
            exact heq.symm
          · intro hsame
            exact (hsame.altCharset charset hcharset hdefault).symm
        · rw [if_neg hdefault]
          exact iff_of_true rfl
            ⟨fun h => absurd h hgsm, fun _ _ hzero => absurd hzero hdefault⟩

/-- The parts of a 7 bit message are converted alike exactly if those with a header need not be
converted at all. -/
theorem parts_converted_alike_iff {catenatedSmsCounter : Nat}
    (hreport : msg.smsType ≠ smsTypeReportMo) (hcoding : msg.coding = dc7bit)
    (hconverted : smppPduMsgToPdu k esme catenatedSmsCounter msg = .pdus ps) :
    List.Forall₂ (TextConverted k esme msg) (partsOf k catenatedSmsCounter msg) ps ↔
      ∀ part ∈ partsOf k catenatedSmsCounter msg, octstrLen part.udhdata > 0 →
        SameWhenConverted k esme (header k msg).dataCoding part.msgdata := by
  apply forall₂_parts_iff hreport hconverted
  intro n part
  rw [TextConverted, shortMessage_partPdu]
  by_cases hudh : octstrLen part.udhdata > 0
  · have hlength : octstrLen part.udhdata = (part.udhdata.getD []).length := by
      cases part.udhdata <;> rfl
    have htext : (part.udhdata.getD [] ++ part.msgdata.getD []).drop (octstrLen part.udhdata) =
        part.msgdata.getD [] := by
      rw [hlength, List.drop_left]
    rw [if_pos hudh, Option.getD_some, htext, encodePart_eq_text_iff hcoding]
    exact ⟨fun hsame _ => hsame, fun hsame => hsame hudh⟩
  · have hnone : octstrLen part.udhdata = 0 := Nat.eq_zero_of_not_pos hudh
    rw [if_neg hudh, hnone]
    exact iff_of_true rfl (fun hpos => absurd hpos (Nat.lt_irrefl 0))

/-! ## The header -/

/-- The deliver_sm the parts are copied from: only a priority from 0 to 3 is set. -/
def template (k : MsgKannel) (msg : Sms) : DeliverSmPdu :=
  { header k msg with
    priorityFlag :=
      if 0 ≤ msg.priority ∧ msg.priority ≤ 3 then msg.priority else (header k msg).priorityFlag }

/-- The fields that are copied in either branch, and the length of the text. -/
structure Copied (h p : DeliverSmPdu) : Prop where
  serviceType : p.serviceType = h.serviceType
  sourceAddr : p.sourceAddr = h.sourceAddr
  sourceAddrTon : p.sourceAddrTon = h.sourceAddrTon
  sourceAddrNpi : p.sourceAddrNpi = h.sourceAddrNpi
  destinationAddr : p.destinationAddr = h.destinationAddr
  destAddrTon : p.destAddrTon = h.destAddrTon
  destAddrNpi : p.destAddrNpi = h.destAddrNpi
  dataCoding : p.dataCoding = h.dataCoding
  protocolId : p.protocolId = h.protocolId
  smLength : p.smLength = octstrLen p.shortMessage

/-- Every field that was computed for the message has reached the deliver_sm of the part. -/
structure FieldsReached (k : MsgKannel) (msg part : Sms) (p : DeliverSmPdu) : Prop
    extends Copied (template k msg) p where
  priorityFlag : p.priorityFlag = (template k msg).priorityFlag
  esmClass : p.esmClass = (template k msg).esmClass |||
    (if octstrLen part.udhdata > 0 then esmClassDeliverUdhIndicator else 0)

theorem copied_partPdu (n : Nat) :
    Copied (template k msg) (partPdu k esme msg (header k msg) n part) := by
  unfold partPdu
  dsimp only
  split_ifs
  all_goals exact ⟨rfl, rfl, rfl, rfl, rfl, rfl, rfl, rfl, rfl, rfl⟩

theorem priorityFlag_partPdu (n : Nat) : (partPdu k esme msg h n part).priorityFlag = 0 := by
  unfold partPdu
  dsimp only
  split_ifs <;> rfl

theorem esmClass_partPdu (n : Nat) : (partPdu k esme msg h n part).esmClass =
    if octstrLen part.udhdata > 0 then h.esmClass ||| esmClassDeliverUdhIndicator else 0 := by
  unfold partPdu
  dsimp only
  split_ifs <;> rfl

theorem priorityFlag_header (k : MsgKannel) (msg : Sms) : (header k msg).priorityFlag = 0 := by
  have hsource : ∀ sender (p : DeliverSmPdu), (setSource sender p).priorityFlag = p.priorityFlag := by
    intro sender p
    unfold setSource
    dsimp only
    split
    · rfl
    · rfl
    · split_ifs <;> rfl
  have hdestination : ∀ receiver (p : DeliverSmPdu),
      (setDestination receiver p).priorityFlag = p.priorityFlag := by
    intro receiver p
    unfold setDestination
    split <;> rfl
  change (setDestination msg.receiver (setSource msg.sender _)).priorityFlag = 0
  rw [hdestination, hsource]

theorem esmClass_template (k : MsgKannel) (msg : Sms) : (template k msg).esmClass =
    if msg.rpi > 0 then
      (if octstrLen msg.udhdata ≠ 0 then esmClassSubmitUdhIndicator else 0) ||| esmClassSubmitRpi
    else if octstrLen msg.udhdata ≠ 0 then esmClassSubmitUdhIndicator else 0 := rfl

theorem priorityFlag_eq_zero_iff (k : MsgKannel) (msg : Sms) :
    (template k msg).priorityFlag = 0 ↔ ¬ (1 ≤ msg.priority ∧ msg.priority ≤ 3) := by
  have hflag : (template k msg).priorityFlag =
      if 0 ≤ msg.priority ∧ msg.priority ≤ 3 then msg.priority else 0 := by
    rw [template, priorityFlag_header]
  rw [hflag]
  split_ifs <;> omega

theorem esmClass_eq_zero_iff (k : MsgKannel) (msg : Sms) :
    (template k msg).esmClass = 0 ↔ octstrLen msg.udhdata = 0 ∧ msg.rpi ≤ 0 := by
  rw [esmClass_template]
  by_cases hudh : octstrLen msg.udhdata = 0
  · by_cases hrpi : msg.rpi > 0
    · simp [hudh, hrpi, esmClassSubmitRpi]
    · simp [hudh, hrpi, Int.not_lt.mp hrpi]
  · by_cases hrpi : msg.rpi > 0
    · simp [hudh, hrpi, esmClassSubmitRpi, esmClassSubmitUdhIndicator]
    · simp [hudh, hrpi, esmClassSubmitUdhIndicator]

/-- Of the other two fields one is not copied at all, and one with a header only. -/
theorem fieldsReached_iff (n : Nat) :
    FieldsReached k msg part (partPdu k esme msg (header k msg) n part) ↔
      (template k msg).priorityFlag = 0 ∧
        (octstrLen part.udhdata > 0 ∨ (template k msg).esmClass = 0) := by
  constructor
  · intro hreached
    have hflag := hreached.priorityFlag
    have hesm := hreached.esmClass
    rw [priorityFlag_partPdu] at hflag
    rw [esmClass_partPdu] at hesm
    refine ⟨hflag.symm, ?_⟩
    by_cases hudh : octstrLen part.udhdata > 0
    · exact Or.inl hudh
    · rw [if_neg hudh, if_neg hudh, Nat.or_zero] at hesm
      exact Or.inr hesm.symm
  · rintro ⟨hflag, hesm⟩
    refine ⟨copied_partPdu n, (priorityFlag_partPdu n).trans hflag.symm, ?_⟩
    rw [esmClass_partPdu]
    by_cases hudh : octstrLen part.udhdata > 0
    · rw [if_pos hudh, if_pos hudh]
      rfl
    · rw [if_neg hudh, if_neg hudh, Nat.or_zero, hesm.resolve_left hudh]

/-- Every field reaches every part exactly if there is no priority to lose, and no bit of the ESM
class where a part has no header. -/
theorem fields_reach_parts_iff {catenatedSmsCounter : Nat}
    (hreport : msg.smsType ≠ smsTypeReportMo)
    (hconverted : smppPduMsgToPdu k esme catenatedSmsCounter msg = .pdus ps) :
    List.Forall₂ (FieldsReached k msg) (partsOf k catenatedSmsCounter msg) ps ↔
      ∀ part ∈ partsOf k catenatedSmsCounter msg,
        ¬ (1 ≤ msg.priority ∧ msg.priority ≤ 3) ∧
          (octstrLen part.udhdata > 0 ∨ (octstrLen msg.udhdata = 0 ∧ msg.rpi ≤ 0)) := by
  apply forall₂_parts_iff hreport hconverted
  intro n part
  rw [fieldsReached_iff, priorityFlag_eq_zero_iff, esmClass_eq_zero_iff]

/-! ## A text of 161 commercial ats -/

/-- '@' has the code 0 in the GSM alphabet; letters and digits keep theirs. -/
def sampleUtf8ToGsm (text : Option Octstr) : Option Octstr :=
  text.map (List.map (fun c => if c = 64 then 0 else c))

/-- A text of more than 160 octets goes out in parts of 153, with a header each; two are enough
here. -/
def sampleSmsSplit (msg : Sms) (number : Nat) : List Sms :=
  match msg.msgdata with
  | none => [msg]
  | some text =>
      if text.length ≤ 160 then [msg]
      else
        [{ msg with
            udhdata := some [5, 0, 3, UInt8.ofNat number, 2, 1]
            msgdata := some (text.take 153) },
          { msg with
            udhdata := some [5, 0, 3, UInt8.ofNat number, 2, 2]
            msgdata := some (text.drop 153) }]

def splittingKannel : MsgKannel :=
  { sampleKannel with smsSplit := sampleSmsSplit, charsetUtf8ToGsm := sampleUtf8ToGsm }

/-- A text of one octet again and again. -/
def repeated (c : UInt8) (length : Nat) (priority rpi : Int) : Sms :=
  { msgCreateSms (Vector.replicate 16 0) with
    sender := some [49, 48, 48, 48]
    receiver := some [50, 48, 48, 48]
    coding := dc7bit
    priority := priority
    rpi := rpi
    msgdata := some (List.replicate length c) }

/-- A part of it, with its header. -/
def repeatedPart (c : UInt8) (length : Nat) (priority rpi : Int) (number : UInt8) : Sms :=
  { repeated c length priority rpi with udhdata := some [5, 0, 3, 0, 2, number] }

theorem partsOf_repeated (c : UInt8) (priority rpi : Int) :
    partsOf splittingKannel 0 (repeated c 161 priority rpi) =
      [repeatedPart c 153 priority rpi 1, repeatedPart c 8 priority rpi 2] := by
  have hlong : ¬ (List.replicate 161 c).length ≤ 160 := by
    rw [List.length_replicate]
    decide
  change sampleSmsSplit (repeated c 161 priority rpi) 0 = _
  simp only [sampleSmsSplit, repeated, if_neg hlong, List.take_replicate, List.drop_replicate]
  rfl

theorem repeated_smsType (c : UInt8) (length : Nat) (priority rpi : Int) :
    (repeated c length priority rpi).smsType ≠ smsTypeReportMo :=
  show msgParamUndefined ≠ smsTypeReportMo by decide

theorem smppPduMsgToPdu_repeated (c : UInt8) (length : Nat) (priority rpi : Int) :
    smppPduMsgToPdu splittingKannel (smppEsmeCreate 0) 0 (repeated c length priority rpi) =
      .pdus ((partsOf splittingKannel 0 (repeated c length priority rpi)).mapIdx (fun i part =>
        partPdu splittingKannel (smppEsmeCreate 0) (repeated c length priority rpi)
          (header splittingKannel (repeated c length priority rpi))
          ((smppEsmeCreate 0).sequenceNumber + i) part)) :=
  smppPduMsgToPdu_of_text (repeated_smsType c length priority rpi) rfl rfl

theorem utf8ToGsm_replicate (c : UInt8) (length : Nat) :
    sampleUtf8ToGsm (some (List.replicate length c)) =
      some (List.replicate length (if c = 64 then 0 else c)) := by
  rw [sampleUtf8ToGsm, Option.map_some, List.map_replicate]

/-- Letters are the same in both alphabets. -/
theorem parts_converted_alike_sample :
    ∃ ps, smppPduMsgToPdu splittingKannel (smppEsmeCreate 0) 0 (repeated 104 161 0 0) = .pdus ps ∧
      List.Forall₂ (TextConverted splittingKannel (smppEsmeCreate 0) (repeated 104 161 0 0))
        (partsOf splittingKannel 0 (repeated 104 161 0 0)) ps := by
  have hsame : ∀ length, SameWhenConverted splittingKannel (smppEsmeCreate 0)
      (header splittingKannel (repeated 104 161 0 0)).dataCoding
        (some (List.replicate length 104)) := by
    intro length
    have hkept := utf8ToGsm_replicate 104 length
    exact ⟨fun _ => congrArg (Option.getD · []) hkept, fun charset hcharset => nomatch hcharset⟩
  have hconverted := smppPduMsgToPdu_repeated 104 161 0 0
  refine ⟨_, hconverted,
    (parts_converted_alike_iff (repeated_smsType 104 161 0 0) rfl hconverted).mpr ?_⟩
  rw [partsOf_repeated]
  intro part hpart _
  rcases List.mem_cons.mp hpart with rfl | hpart
  · exact hsame 153
  · rw [List.mem_singleton.mp hpart]
    exact hsame 8

/-- Split in two, a text of '@' goes out as it is, where an unsplit one is converted. -/
theorem split_text_not_converted :
    (partsOf splittingKannel 0 (repeated 64 161 0 0)).flatMap (fun part => part.msgdata.getD []) =
        List.replicate 161 64 ∧
      (∀ part ∈ partsOf splittingKannel 0 (repeated 64 161 0 0),
        octstrLen part.udhdata > 0) ∧
      ∃ ps, smppPduMsgToPdu splittingKannel (smppEsmeCreate 0) 0 (repeated 64 161 0 0) = .pdus ps ∧
        ¬ List.Forall₂ (TextConverted splittingKannel (smppEsmeCreate 0) (repeated 64 161 0 0))
          (partsOf splittingKannel 0 (repeated 64 161 0 0)) ps := by
  refine ⟨?_, ?_, _, smppPduMsgToPdu_repeated 64 161 0 0, ?_⟩
  · rw [partsOf_repeated]
    simp only [List.flatMap_cons, List.flatMap_nil, List.append_nil, repeatedPart, repeated,
      Option.getD_some, List.replicate_append_replicate]
  · rw [partsOf_repeated]
    intro part hpart
    rcases List.mem_cons.mp hpart with rfl | hpart
    · exact Nat.succ_pos 5
    · rw [List.mem_singleton.mp hpart]
      exact Nat.succ_pos 5
  · rw [partsOf_repeated]
    intro hall
    cases hall with
    | cons hfirst _ =>
        have hkept : List.replicate 153 (64 : UInt8) =
            (sampleUtf8ToGsm (some (List.replicate 153 64))).getD [] := hfirst
        rw [utf8ToGsm_replicate] at hkept
        exact absurd (List.eq_of_mem_replicate (hkept ▸ List.mem_replicate.mpr ⟨by decide, rfl⟩))
          (by decide)

/-- Without priority and with a header on each part nothing is lost. -/
theorem fields_reach_parts_sample :
    ∃ ps, smppPduMsgToPdu splittingKannel (smppEsmeCreate 0) 0 (repeated 104 161 0 1) = .pdus ps ∧
      List.Forall₂ (FieldsReached splittingKannel (repeated 104 161 0 1))
        (partsOf splittingKannel 0 (repeated 104 161 0 1)) ps := by
  have hconverted := smppPduMsgToPdu_repeated 104 161 0 1
  refine ⟨_, hconverted,
    (fields_reach_parts_iff (repeated_smsType 104 161 0 1) hconverted).mpr ?_⟩
  rw [partsOf_repeated]
  have hpriority : ¬ (1 ≤ (0 : Int) ∧ (0 : Int) ≤ 3) := by decide
  intro part hpart
  rcases List.mem_cons.mp hpart with rfl | hpart
  · exact ⟨hpriority, Or.inl (Nat.succ_pos 5)⟩
  · rw [List.mem_singleton.mp hpart]
    exact ⟨hpriority, Or.inl (Nat.succ_pos 5)⟩

/-- A priority is lost, and so is the reply path of a message in one part. -/
theorem priority_and_reply_path_lost :
    (∃ ps, smppPduMsgToPdu splittingKannel (smppEsmeCreate 0) 0 (repeated 104 5 2 0) = .pdus ps ∧
        ¬ List.Forall₂ (FieldsReached splittingKannel (repeated 104 5 2 0))
          (partsOf splittingKannel 0 (repeated 104 5 2 0)) ps) ∧
      ∃ ps, smppPduMsgToPdu splittingKannel (smppEsmeCreate 0) 0 (repeated 104 5 0 1) = .pdus ps ∧
        ¬ List.Forall₂ (FieldsReached splittingKannel (repeated 104 5 0 1))
          (partsOf splittingKannel 0 (repeated 104 5 0 1)) ps := by
  refine ⟨⟨_, smppPduMsgToPdu_repeated 104 5 2 0, ?_⟩, _, smppPduMsgToPdu_repeated 104 5 0 1, ?_⟩
  · intro hall
    cases hall with
    | cons hfirst _ => exact absurd hfirst.priorityFlag (by decide)
  · intro hall
    cases hall with
    | cons hfirst _ => exact absurd hfirst.esmClass (by decide)

end Receipts
end Ksmppd
