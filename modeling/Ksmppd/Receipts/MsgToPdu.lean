import Ksmppd.PduUtil
import Ksmppd.Receipts.DlrUrl
import Ksmppd.Receipts.Parse

/-!
# MsgToPdu — SMS messages as deliver_sm

`smpp_pdu_msg_to_pdu`.  A report becomes one deliver_sm for each message id in its `dlr_url`, with a
receipt text that is formatted again from the one the report came with; any other message becomes as
many deliver_sm as `sms_split` makes parts of it.
-/

namespace Ksmppd
namespace Receipts

open Lib

/-! ## Data -/

def gsmAddrTonNational : Int := 2
def gsmAddrTonAlphanumeric : Int := 5
def gsmAddrNpiUnknown : Int := 0
def gsmAddrNpiE164 : Int := 1

def esmClassDeliverSmscDeliverAck : Nat := 0x04
def esmClassDeliverUdhIndicator : Nat := 0x40

/-- `UUID_STR_LEN`. -/
def uuidStrLen : Nat := 36

def dlrUndefined : Int := -1
def dlrNothing : Int := 0x00
def dlrBuffered : Int := 0x04
def dlrSmscSuccess : Int := 0x08

/-- A deliver_sm with all the fields `smpp_pdu_msg_to_pdu` sets; the defaults are those of
`smpp_pdu_create`. -/
structure DeliverSmPdu where
  sequenceNumber : Nat := 0
  serviceType : Option Octstr := none
  sourceAddrTon : Int := 0
  sourceAddrNpi : Int := 0
  sourceAddr : Option Octstr := none
  destAddrTon : Int := 0
  destAddrNpi : Int := 0
  destinationAddr : Option Octstr := none
  esmClass : Nat := 0
  protocolId : Int := 0
  priorityFlag : Int := 0
  dataCoding : Int := 0
  smLength : Nat := 0
  shortMessage : Option Octstr := none
  receiptedMessageId : Option Octstr := none
  messageState : Int := -1
  networkErrorCode : Option Octstr := none
  tlv : Option Tlv := some []
  deriving DecidableEq, Repr

/-- The fields the queues look at. -/
def DeliverSmPdu.toDeliverSm (p : DeliverSmPdu) : DeliverSm where
  sequenceNumber := p.sequenceNumber
  esmClass := p.esmClass

/-- What the conversion gets from Kannel. -/
structure MsgKannel where
  clock : Clock
  /-- `fields_to_dcs` with its mode. -/
  fieldsToDcs : Sms → Int → Int
  /-- `meta_data_get_values` for a group; a dictionary or `NULL`. -/
  metaDataGetValues : Option Octstr → Octstr → Option Tlv
  /-- `sms_split` into at most 255 parts, with a number for the catenation header. -/
  smsSplit : Sms → Nat → List Sms
  charsetUtf8ToGsm : Option Octstr → Option Octstr
  /-- `charset_convert` from one character set to another. -/
  charsetConvert : Octstr → Octstr → Option Octstr → Option Octstr

/-- What `smpp_pdu_msg_to_pdu` does: it returns a list or `NULL`, or crashes on a `NULL` string. -/
inductive Converted
  | crash
  | refused
  | pdus (ps : List DeliverSmPdu)
  deriving DecidableEq, Repr

/-! ## The header -/

/-- The source address with its TON and NPI. -/
def setSource (sender : Option Octstr) (p : DeliverSmPdu) : DeliverSmPdu :=
  let national :=
    { p with
      sourceAddr := sender
      sourceAddrTon := gsmAddrTonNational
      sourceAddrNpi := gsmAddrNpiE164 }
  let alphanumeric :=
    { national with
      sourceAddrTon := gsmAddrTonAlphanumeric
      sourceAddrNpi := gsmAddrNpiUnknown }
  match sender with
  | none => national
  | some [] => national
  | some (c :: rest) =>
      if c = 43 then
        if octstrCheckRangeDigits (c :: rest) 1 256 then
          -- without its '+', if digits follow
          { national with
            sourceAddr := some rest
            sourceAddrTon := gsmAddrTonInternational }
        else alphanumeric
      else if octstrCheckRangeDigits (c :: rest) 0 256 then national
      else alphanumeric

/-- The destination address with its TON and NPI; a '+' at its start is taken off, whatever
follows. -/
def setDestination (receiver : Option Octstr) (p : DeliverSmPdu) : DeliverSmPdu :=
  let national :=
    { p with
      destinationAddr := receiver
      destAddrTon := gsmAddrTonNational
      destAddrNpi := gsmAddrNpiE164 }
  match receiver with
  | some (43 :: rest) =>
      -- the digits behind the '+' are not looked at
      { national with
        destinationAddr := some rest
        destAddrTon := gsmAddrTonInternational }
  | _ => national

/-- The check on the lengths of both addresses. -/
def addressesFit (p : DeliverSmPdu) : Bool :=
  decide (0 < octstrLen p.destinationAddr ∧ octstrLen p.destinationAddr ≤ 20 ∧
    octstrLen p.sourceAddr ≤ 20)

/-- Data coding, protocol id and ESM class. -/
def setCoding (k : MsgKannel) (msg : Sms) (p : DeliverSmPdu) : DeliverSmPdu :=
  let esmClass := if octstrLen msg.udhdata ≠ 0 then esmClassSubmitUdhIndicator else 0
  { p with
    -- `MWI_UNDEF` and `MC_UNDEF` are -1
    dataCoding := k.fieldsToDcs msg (if msg.mwi = -1 ∧ msg.mclass ≠ -1 then 1 else msg.altDcs)
    protocolId := if msg.pid ≠ msgParamUndefined then msg.pid else p.protocolId
    esmClass := if msg.rpi > 0 then esmClass ||| esmClassSubmitRpi else esmClass }

/-- The deliver_sm the parts are made from, up to its text. -/
def header (k : MsgKannel) (msg : Sms) : DeliverSmPdu :=
  setCoding k msg (setDestination msg.receiver (setSource msg.sender
    { serviceType := msg.binfo }))

/-! ## Reports -/

/-- `%03x`. -/
def formatHex3 (n : Nat) : Octstr :=
  let digits := (Nat.toDigits 16 n).map (fun c => UInt8.ofNat c.toNat)
  List.replicate (3 - digits.length) 48 ++ digits

/-- `"id:%S sub:001 dlvrd:%S submit date:%s done date:%s stat:%S err:%03x text:%S"`. -/
def receiptText (id dlvrd submitDate doneDate stat : Octstr) (err : Nat) (text : Octstr) : Octstr :=
  octstrImm "id:" ++ (id ++ blank :: (octstrImm "sub:001 dlvrd:" ++ dlvrd ++
    octstrImm " submit date:" ++ submitDate ++ octstrImm " done date:" ++ doneDate ++
    octstrImm " stat:" ++ stat ++ octstrImm " err:" ++ formatHex3 err ++ octstrImm " text:" ++ text))

/-- `dlr_state` by the type of the report; the status text is only logged. -/
def dlrState (dlrtype : Int) (metadata : Option Tlv) : Int :=
  if (metadata.bind (fun d => d.lookup (octstrImm "dlr_stat"))) = some (octstrImm "EXPIRED") then 3
  else if dlrtype = dlrUndefined ∨ dlrtype = dlrNothing then 8
  else if dlrtype = dlrSuccess then 2
  else if dlrtype = dlrBuffered then 6
  else if dlrtype = dlrSmscSuccess then 0
  else if dlrtype = dlrFail ∨ dlrtype = dlrSmscFail then 5
  else 7

def dlvrd (dlrtype : Int) : Octstr := if dlrtype = dlrSuccess then octstrImm "001" else octstrImm "000"

/-- The deliver_sm for one message id: addresses change places. -/
def reportPdu (k : MsgKannel) (esme : SmppEsme) (msg : Sms) (h : DeliverSmPdu) (dlrTime : Int)
    (f : DlrFields) (msgid : Octstr) : DeliverSmPdu :=
  let metadata := k.metaDataGetValues msg.metaData (octstrImm "smpp")
  let submitTs := if f.submitDate > 0 then f.submitDate else dlrTime
  let doneTs := if f.doneDate > 0 then f.doneDate else msg.time
  let failed := msg.dlrMask = dlrFail ∨ msg.dlrMask = dlrSmscFail
  let shortMessage := receiptText msgid (dlvrd msg.dlrMask)
    (gwStrftime (k.clock.localtime submitTs)) (gwStrftime (k.clock.localtime doneTs)) f.stat
    (if failed ∧ f.err = 0 then 1 else f.err) f.text
  let p :=
    { esmClass := h.esmClass ||| esmClassDeliverSmscDeliverAck
      sourceAddrTon := h.destAddrTon
      sourceAddrNpi := h.destAddrNpi
      destAddrTon := h.sourceAddrTon
      destAddrNpi := h.sourceAddrNpi
      dataCoding := h.dataCoding
      protocolId := h.protocolId
      sourceAddr := h.destinationAddr
      destinationAddr := h.sourceAddr
      serviceType := h.serviceType
      shortMessage := some shortMessage
      smLength := shortMessage.length : DeliverSmPdu }
  if esme.version > 0x33 then
    { p with
      receiptedMessageId := some msgid
      messageState := dlrState msg.dlrMask metadata
      tlv := metadata
      networkErrorCode := metadata.bind (fun d => d.lookup (octstrImm "network_error_code")) }
  else p

/-- The three pieces of a `dlr_url`; anything else is refused. -/
def dlrInfo (dlrUrl : Option Octstr) : Option (Octstr × Octstr × Octstr) :=
  if octstrLen dlrUrl ≤ uuidStrLen then none
  else
    -- `gwlist_len(dlr_info) == 3`
    match octstrSplit (dlrUrl.getD []) bar with
    | [service, submit, url] => some (service, submit, url)
    | _ => none

/-- ';' -/
def semicolon : UInt8 := 59

def reportPdus (k : MsgKannel) (esme : SmppEsme) (msg : Sms) (h : DeliverSmPdu) : Converted :=
  match dlrInfo msg.dlrUrl with
  | none => .refused
  | some (_, submit, url) =>
      -- the text is parsed once for all ids
      match parseDlrShortMessage k.clock (msg.msgdata.getD []) with
      | none => .refused
      | some f =>
          .pdus ((octstrSplit url semicolon).map (reportPdu k esme msg h (atol submit) f))

/-! ## Other messages -/

/-- The text of a part that has no header, in the session's character set. -/
def encodePart (k : MsgKannel) (esme : SmppEsme) (msg : Sms) (dataCoding : Int)
    (text : Option Octstr) : Option Octstr :=
  if msg.coding = dc7bit ∨ (msg.coding = dcUndef ∧ octstrLen msg.udhdata ≠ 0) then
    if hasBit dataCoding 0xF0 ∨ (esme.altCharset = none ∧ dataCoding = 0) then
      k.charsetUtf8ToGsm text
    else
      match esme.altCharset with
      | some charset =>
          -- the default alphabet is that of the session
          if dataCoding = 0 then k.charsetConvert bearerboxDefaultCharset charset text else text
      | none => text
  else text

/-- The deliver_sm for one part.  The ESM class reaches it with a user data header only, the
priority never. -/
def partPdu (k : MsgKannel) (esme : SmppEsme) (msg : Sms) (h : DeliverSmPdu) (sequenceNumber : Nat)
    (part : Sms) : DeliverSmPdu :=
  let p :=
    { sequenceNumber := sequenceNumber
      sourceAddrTon := h.sourceAddrTon
      sourceAddrNpi := h.sourceAddrNpi
      destAddrTon := h.destAddrTon
      destAddrNpi := h.destAddrNpi
      dataCoding := h.dataCoding
      protocolId := h.protocolId
      sourceAddr := h.sourceAddr
      destinationAddr := h.destinationAddr
      serviceType := h.serviceType : DeliverSmPdu }
  let withText :=
    if octstrLen part.udhdata > 0 then
      -- a header goes before the text as it is
      { p with
        esmClass := h.esmClass ||| esmClassDeliverUdhIndicator
        shortMessage := some (part.udhdata.getD [] ++ part.msgdata.getD []) }
    else { p with shortMessage := encodePart k esme msg h.dataCoding part.msgdata }
  let sized := { withText with smLength := octstrLen withText.shortMessage }
  if esme.version > 0x33 then
    { sized with tlv := k.metaDataGetValues msg.metaData (octstrImm "smpp") }
  else sized

/-- The parts carry the numbers `counter_increase(smpp_esme->sequence_number)` gives. -/
def messagePdus (k : MsgKannel) (esme : SmppEsme) (catenatedSmsCounter : Nat) (msg : Sms)
    (h : DeliverSmPdu) : Converted :=
  -- the header of a message without data is inserted into a `NULL` string
  if octstrLen msg.udhdata ≠ 0 ∧ msg.msgdata = none then .crash
  else
    .pdus ((k.smsSplit msg (catenatedSmsCounter &&& 0xFF)).mapIdx
      (fun i part => partPdu k esme msg h (esme.sequenceNumber + i) part))

/-- `smpp_pdu_msg_to_pdu`. -/
def smppPduMsgToPdu (k : MsgKannel) (esme : SmppEsme) (catenatedSmsCounter : Nat) (msg : Sms) :
    Converted :=
  let h := header k msg
  if !addressesFit h then .refused
  else if msg.smsType = smsTypeReportMo then reportPdus k esme msg h
  else messagePdus k esme catenatedSmsCounter msg h

/-! ## Addresses -/

variable {k : MsgKannel} {msg : Sms} {sender receiver : Option Octstr} {p : DeliverSmPdu}

@[simp] theorem sourceAddr_setDestination :
    (setDestination receiver p).sourceAddr = p.sourceAddr := by
  unfold setDestination
  split
  · rfl
  · rfl

@[simp] theorem addresses_setCoding : (setCoding k msg p).sourceAddr = p.sourceAddr ∧
    (setCoding k msg p).destinationAddr = p.destinationAddr :=
  ⟨rfl, rfl⟩

/-- A source address only loses its '+'. -/
theorem octstrLen_setSource : octstrLen (setSource sender p).sourceAddr ≤ octstrLen sender := by
  cases sender with
  | none => exact Nat.le_refl _
  | some os =>
      cases os with
      | nil => exact Nat.le_refl _
      | cons c rest =>
          simp only [setSource]
          split
          · split
            · simp [octstrLen]
            · exact Nat.le_refl _
          · split
            · exact Nat.le_refl _
            · exact Nat.le_refl _

/-- Only a '+' is taken off, so a destination is empty afterwards if it was empty or a '+'. -/
theorem destination_pos_iff {os : Octstr} (hne : os ≠ []) :
    0 < octstrLen (setDestination (some os) p).destinationAddr ↔ os ≠ [43] := by
  cases os with
  | nil => exact absurd rfl hne
  | cons c rest =>
      by_cases hplus : c = 43
      · subst hplus
        simp [setDestination, octstrLen, List.length_pos_iff]
      · have hkept : (setDestination (some (c :: rest)) p).destinationAddr = some (c :: rest) := by
          unfold setDestination
          split
          · rename_i heq
            exact absurd (List.cons.inj (Option.some.inj heq)).1 hplus
          · rfl
        simp [hkept, octstrLen, hplus]

theorem octstrLen_setDestination :
    octstrLen (setDestination receiver p).destinationAddr ≤ octstrLen receiver := by
  unfold setDestination
  split
  · simp [octstrLen]
  · exact Nat.le_refl _

/-- Addresses of at most 20 octets fit exactly if something is left of the destination. -/
theorem addressesFit_header {os : Octstr} (hreceiver : msg.receiver = some os) (hne : os ≠ [])
    (hlength : os.length ≤ 20) (hsender : octstrLen msg.sender ≤ 20) :
    addressesFit (header k msg) = true ↔ os ≠ [43] := by
  have hsource : octstrLen (header k msg).sourceAddr ≤ 20 := by
    have hle := @octstrLen_setSource msg.sender { serviceType := msg.binfo }
    simp only [header, addresses_setCoding, sourceAddr_setDestination]
    omega
  have hdest : octstrLen (header k msg).destinationAddr ≤ 20 := by
    have hle := @octstrLen_setDestination msg.receiver
      (setSource msg.sender { serviceType := msg.binfo })
    have hos : octstrLen msg.receiver = os.length := by rw [hreceiver]; rfl
    simp only [header, addresses_setCoding]
    omega
  simp only [addressesFit, decide_eq_true_eq, hsource, hdest, and_true]
  rw [header, hreceiver]
  exact destination_pos_iff hne

end Receipts
end Ksmppd
