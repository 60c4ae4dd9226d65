import Ksmppd.Esme

/-!
# PduUtil — submit_sm and data_sm as SMS messages

`smpp_submit_sm_to_msg` and `smpp_data_sm_to_msg`.  The two are near-copies: the fields they read
are collected in `SmFields` and the conversion is written once.  Kannel's character sets, UDH and
metadata functions are parameters.
-/

namespace Ksmppd

/-! ## Data -/

def gsmAddrTonInternational : Int := 1

def esmClassSubmitUdhIndicator : Nat := 0x40
def esmClassSubmitRpi : Nat := 0x80

def dcUndef : Int := -1
def dc7bit : Int := 0
def dc8bit : Int := 1
def dcUcs2 : Int := 2

/-- What a conversion gets from Kannel, from the clock and from the id generator. -/
structure Kannel where
  /-- The id `msg_create` generates. -/
  uuid : Uuid
  /-- `time(NULL)`. -/
  time : Int
  timestampToMinutes : Octstr → Int
  /-- `charset_convert` from one character set to another, and whether it succeeded. -/
  charsetConvert : Octstr → Octstr → Option Octstr → Option Octstr × Bool
  charsetGsmToUtf8 : Option Octstr → Option Octstr
  dcsToFields : Int → Sms → Sms
  /-- `prepend_catenation_udh` of a part number, a number of parts and a reference. -/
  prependCatenationUdh : Int → Int → Int → Sms → Sms
  /-- `meta_data_set_values` of a dictionary under a group name. -/
  metaDataSetValues : Octstr → Tlv → Octstr → Octstr

/-- The fields of a submit_sm or data_sm that both conversions read. -/
structure SmFields where
  serviceType : Option Octstr
  sourceAddrTon : Int
  sourceAddr : Option Octstr
  destAddrTon : Int
  destinationAddr : Option Octstr
  esmClass : Int
  dataCoding : Int
  -- the payload or the short message, whichever the conversion takes
  msgdata : Option Octstr
  sarMsgRefNum : Int
  sarSegmentSeqnum : Int
  sarTotalSegments : Int
  tlv : Tlv

/-! ## Addresses -/

/-- `octstr_check_range(os, pos, len, gw_isdigit)`. -/
def octstrCheckRangeDigits (os : Octstr) (pos len : Nat) : Bool :=
  ((os.drop pos).take len).all isDigit

/-- An international address without its leading "00" and with its "+". -/
def internationalAddr (addr : Octstr) : Octstr :=
  let addr' := if (octstrImm "00").isPrefixOf addr then addr.drop 2 else addr
  if addr'.head? = some 43 then addr' else 43 :: addr'

/-- `smpp_pdu_util_convert_addr`: the address after it, or the reason to refuse it.  A short
address is only warned about. -/
def smppPduUtilConvertAddr (addr : Option Octstr) (ton : Int) : Except Int (Option Octstr) :=
  match addr with
  | none => .ok none
  | some a =>
      if ton = gsmAddrTonInternational then
        if a.length < 7 then .ok (some (internationalAddr a))
        else if a.head? = some 43 ∧ !octstrCheckRangeDigits a 1 256 then
          .error smppEsmeRinvsrcadr
        else if a.head? ≠ some 43 ∧ !octstrCheckRangeDigits a 0 256 then
          .error smppEsmeRinvsrcadr
        else .ok (some (internationalAddr a))
      else .ok (some a)

/-! ## Data coding -/

def bearerboxDefaultCharset : Octstr := octstrImm "UTF-8"

/-- Convert the text from a character set, or leave it as it is, and call it 7 bit. -/
def recode (k : Kannel) (charset : Octstr) (msg : Sms) : Sms :=
  { msg with
    msgdata := (k.charsetConvert charset bearerboxDefaultCharset msg.msgdata).1
    coding := dc7bit }

/-- Korean text is tried as KSC_5601 first and then as KSC5636. -/
def recodeKorean (k : Kannel) (msg : Sms) : Sms :=
  let first := k.charsetConvert (octstrImm "KSC_5601") bearerboxDefaultCharset msg.msgdata
  let data :=
    if first.2 then first.1
    else (k.charsetConvert (octstrImm "KSC5636") bearerboxDefaultCharset first.1).1
  { msg with msgdata := data, coding := dc7bit }

def gsmToUtf8 (k : Kannel) (msg : Sms) : Sms :=
  { msg with msgdata := k.charsetGsmToUtf8 msg.msgdata, coding := dc7bit }

/-- `esm_class & bit`. -/
def hasBit (esmClass : Int) (bit : Nat) : Bool := decide (esmClass.toNat &&& bit ≠ 0)

/-- `smpp_pdu_util_compute_inbound_dcs`. -/
def smppPduUtilComputeInboundDcs (k : Kannel) (altCharset : Option Octstr) (dataCoding : Int)
    (esmClass : Int) (msg : Sms) : Sms :=
  match dataCoding with
  | 0x00 =>
      match altCharset with
      | some charset => if msg.coding ≠ dc8bit then recode k charset msg else gsmToUtf8 k msg
      | none => gsmToUtf8 k msg
  | 0x01 => { msg with coding := dc7bit }
  | 0x02 => { msg with coding := dc8bit }
  | 0x03 => recode k (octstrImm "ISO-8859-1") msg
  | 0x04 => { msg with coding := dc8bit }
  | 0x05 => recode k (octstrImm "JIS_X0208-1990") msg
  | 0x06 => recode k (octstrImm "ISO-8859-5") msg
  | 0x07 => recode k (octstrImm "ISO-8859-8") msg
  | 0x08 => { msg with coding := dcUcs2 }
  | 0x0D => recode k (octstrImm "JIS_X0212-1990") msg
  | 0x0E => recodeKorean k msg
  | _ =>
      if msg.coding = dcUndef ∧ hasBit esmClass esmClassSubmitUdhIndicator then
        { msg with coding := dc8bit }
      else if msg.coding = dc7bit ∨ msg.coding = dcUndef then gsmToUtf8 k msg
      else msg

/-! ## Conversions -/

/-- `octstr_get_char(msgdata, 0) + 1`. -/
def udhLength : Octstr → Nat
  -- there is no first octet and `octstr_get_char` gives -1
  | [] => 0
  | c :: _ => c.toNat + 1

/-- The header a message with the UDH indicator starts with is cut off; `none` is the crash of
`octstr_get_char` on a message without data. -/
def splitUdh (msg : Sms) : Option (Except Int Sms) :=
  msg.msgdata.map (fun data =>
    if udhLength data > data.length then .error smppEsmeRinvesmclass
    else
      .ok { msg with
        udhdata := some (data.take (udhLength data))
        msgdata := some (data.drop (udhLength data)) })

/-- Part numbers of a segmented message, where the session's version has them. -/
def SmFields.segmented (f : SmFields) (version : Int) : Bool :=
  decide (version > 0x33 ∧ f.sarMsgRefNum ≥ 0 ∧ f.sarSegmentSeqnum > 0 ∧ f.sarTotalSegments > 0)

/-- The text, its header and its coding, once the addresses are converted. -/
def convertText (k : Kannel) (esme : SmppEsme) (f : SmFields) (msg : Sms) :
    Option (Except Int Sms) :=
  let udhi := hasBit f.esmClass esmClassSubmitUdhIndicator
  if f.segmented esme.version && udhi then some (.error smppEsmeRinvtlvval)
  else
    let msg' :=
      if f.segmented esme.version then
        k.prependCatenationUdh f.sarSegmentSeqnum f.sarTotalSegments f.sarMsgRefNum msg
      else msg
    (if udhi then splitUdh msg' else some (.ok msg')).map (Except.map (fun m =>
      let m' := smppPduUtilComputeInboundDcs k esme.altCharset f.dataCoding f.esmClass
        (k.dcsToFields f.dataCoding m)
      { m' with
        time := k.time
        metaData := some (k.metaDataSetValues (m'.metaData.getD []) f.tlv (octstrImm "smpp"))
        -- whatever `registered_delivery` asks for
        dlrMask := dlrSuccess + dlrFail + dlrSmscFail }))

/-- What the two conversions share. -/
def smToMsg (k : Kannel) (esme : SmppEsme) (f : SmFields) : Option (Except Int Sms) :=
  match smppPduUtilConvertAddr f.sourceAddr f.sourceAddrTon with
  | .error reason => some (.error reason)
  | .ok sender =>
      if f.destinationAddr = none then some (.error smppEsmeRinvdstadr)
      else
        match smppPduUtilConvertAddr f.destinationAddr f.destAddrTon with
        | .error reason => some (.error reason)
        | .ok receiver =>
            let msg := msgCreateSms k.uuid
            convertText k esme f
              { msg with
                smsType := smsTypeMtPush
                service := esme.systemId
                sender := sender
                receiver := receiver
                binfo := f.serviceType
                rpi := if hasBit f.esmClass esmClassSubmitRpi then 1 else msg.rpi
                msgdata := f.msgdata }

/-- The fields only submit_sm has. -/
def withSubmitFields (k : Kannel) (p : SubmitSm) (msg : Sms) : Sms :=
  { msg with
    pid := p.protocolId
    validity := match p.validityPeriod with
      -- the product is an `int`
      | some period => k.time + (k.timestampToMinutes period * 60).bmod (2 ^ 32)
      | none => msg.validity
    priority := p.priorityFlag }

/-- `smpp_submit_sm_to_msg`. -/
def smppSubmitSmToMsg (k : Kannel) (esme : SmppEsme) (p : SubmitSm) : Option (Except Int Sms) :=
  (smToMsg k esme
    { serviceType := p.serviceType
      sourceAddrTon := p.sourceAddrTon
      sourceAddr := p.sourceAddr
      destAddrTon := p.destAddrTon
      destinationAddr := p.destinationAddr
      esmClass := p.esmClass
      dataCoding := p.dataCoding
      msgdata :=
        if esme.version > 0x33 ∧ p.smLength = 0 ∧ p.messagePayload.isSome then p.messagePayload
        else p.shortMessage
      sarMsgRefNum := p.sarMsgRefNum
      sarSegmentSeqnum := p.sarSegmentSeqnum
      sarTotalSegments := p.sarTotalSegments
      tlv := p.tlv }).map (Except.map (withSubmitFields k p))

/-- `smpp_data_sm_to_msg`. -/
def smppDataSmToMsg (k : Kannel) (esme : SmppEsme) (p : DataSm) : Option (Except Int Sms) :=
  smToMsg k esme
    { serviceType := p.serviceType
      sourceAddrTon := p.sourceAddrTon
      sourceAddr := p.sourceAddr
      destAddrTon := p.destAddrTon
      destinationAddr := p.destinationAddr
      esmClass := p.esmClass
      dataCoding := p.dataCoding
      msgdata := p.messagePayload
      sarMsgRefNum := p.sarMsgRefNum
      sarSegmentSeqnum := p.sarSegmentSeqnum
      sarTotalSegments := p.sarTotalSegments
      tlv := p.tlv }

/-! ## Every refusal has a reason -/

theorem convertAddr_reason_ne_rok {addr : Option Octstr} {ton reason : Int}
    (h : smppPduUtilConvertAddr addr ton = .error reason) : reason ≠ smppEsmeRok := by
  unfold smppPduUtilConvertAddr at h
  repeat' split at h
  all_goals cases h
  all_goals decide

theorem splitUdh_reason_ne_rok {msg : Sms} {reason : Int}
    (h : splitUdh msg = some (.error reason)) : reason ≠ smppEsmeRok := by
  cases hdata : msg.msgdata with
  | none =>
      simp [splitUdh, hdata] at h
  | some data =>
      simp only [splitUdh, hdata, Option.map_some, Option.some.injEq] at h
      split at h
      · cases h
        decide
      · cases h

theorem convertText_reason_ne_rok {k : Kannel} {esme : SmppEsme} {f : SmFields} {msg : Sms}
    {reason : Int} (h : convertText k esme f msg = some (.error reason)) :
    reason ≠ smppEsmeRok := by
  simp only [convertText] at h
  split at h
  · cases h
    decide
  · split at h
    · rcases Option.map_eq_some_iff.mp h with ⟨r, hr, hreason⟩
      cases r with
      | error reason' =>
          cases hreason
          exact splitUdh_reason_ne_rok hr
      | ok m =>
          cases hreason
    · cases h

/-- A message that is not converted is answered with a status other than ESME_ROK. -/
theorem smToMsg_reason_ne_rok {k : Kannel} {esme : SmppEsme} {f : SmFields} {reason : Int}
    (h : smToMsg k esme f = some (.error reason)) : reason ≠ smppEsmeRok := by
  unfold smToMsg at h
  split at h
  · rename_i hsource
    cases h
    exact convertAddr_reason_ne_rok hsource
  · split at h
    · cases h
      decide
    · split at h
      · rename_i hdest
        cases h
        exact convertAddr_reason_ne_rok hdest
      · exact convertText_reason_ne_rok h

theorem smppSubmitSmToMsg_reason_ne_rok {k : Kannel} {esme : SmppEsme} {p : SubmitSm}
    {reason : Int} (h : smppSubmitSmToMsg k esme p = some (.error reason)) :
    reason ≠ smppEsmeRok := by
  rcases Option.map_eq_some_iff.mp h with ⟨r, hr, hreason⟩
  cases r with
  | error reason' =>
      cases hreason
      exact smToMsg_reason_ne_rok hr
  | ok msg =>
      cases hreason

end Ksmppd
