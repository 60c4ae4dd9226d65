import Ksmppd.Routes.GivenId

/-!
# SmToMsg — the two conversions, statement by statement

`smpp_submit_sm_to_msg` duplicates the fields of the PDU, `smpp_data_sm_to_msg` takes them out of it.
Each has its own body here, and both compute what `smToMsg` of PduUtil says once.
-/

namespace Ksmppd

open Routes (SmRequest)
open Submit (Conversion)

/-! ## The two bodies -/

/-- A conversion on its way: `none` is the crash on `NULL`, an error the reason to refuse. -/
abbrev Converting := ExceptT Int Option

/-- `octstr_get_char(os, 0)`, which gives -1 where there is no octet and does not take `NULL`. -/
def octstrGetFirst (os : Option Octstr) : Converting Int :=
  liftM (os.map (fun os => match os with
    | [] => -1
    | c :: _ => (c.toNat : Int)))

def smppPduUtilConvertAddrM (addr : Option Octstr) (ton : Int) : Converting (Option Octstr) :=
  liftExcept (smppPduUtilConvertAddr addr ton)

/-- `smpp_submit_sm_to_msg`, up to the text. -/
def submitSmHead (k : Kannel) (esme : SmppEsme) (pdu : SubmitSm) : Converting Sms := do
  let msg := { msgCreateSms k.uuid with smsType := smsTypeMtPush, service := esme.systemId }
  let sourceAddr ← smppPduUtilConvertAddrM pdu.sourceAddr pdu.sourceAddrTon
  let msg := { msg with sender := sourceAddr }
  if pdu.destinationAddr = none then throw smppEsmeRinvdstadr
  else
    let destinationAddr ← smppPduUtilConvertAddrM pdu.destinationAddr pdu.destAddrTon
    let msg := { msg with receiver := destinationAddr, binfo := pdu.serviceType }
    let msg := if hasBit pdu.esmClass esmClassSubmitRpi then { msg with rpi := 1 } else msg
    if esme.version > 0x33 ∧ pdu.smLength = 0 ∧ pdu.messagePayload.isSome then
      return { msg with msgdata := pdu.messagePayload }
    else return { msg with msgdata := pdu.shortMessage }

/-- Its parts and its header. -/
def submitSmUdh (k : Kannel) (esme : SmppEsme) (pdu : SubmitSm) (msg : Sms) : Converting Sms := do
  let msg ←
    if esme.version > 0x33 ∧ pdu.sarMsgRefNum ≥ 0 ∧ pdu.sarSegmentSeqnum > 0 ∧
        pdu.sarTotalSegments > 0 then
      if hasBit pdu.esmClass esmClassSubmitUdhIndicator then throw smppEsmeRinvtlvval
      else pure (k.prependCatenationUdh pdu.sarSegmentSeqnum pdu.sarTotalSegments
        pdu.sarMsgRefNum msg)
    else pure msg
  if hasBit pdu.esmClass esmClassSubmitUdhIndicator then
    let first ← octstrGetFirst msg.msgdata
    let udhl := first + 1
    if udhl > octstrLen msg.msgdata then throw smppEsmeRinvesmclass
    else return { msg with
      udhdata := msg.msgdata.map (List.take udhl.toNat)
      msgdata := msg.msgdata.map (List.drop udhl.toNat) }
  else return msg

/-- The rest of it. -/
def submitSmTail (k : Kannel) (esme : SmppEsme) (pdu : SubmitSm) (msg : Sms) : Sms :=
  let msg := k.dcsToFields pdu.dataCoding msg
  let msg := smppPduUtilComputeInboundDcs k esme.altCharset pdu.dataCoding pdu.esmClass msg
  let msg := { msg with pid := pdu.protocolId, time := k.time }
  let msg := match pdu.validityPeriod with
    | some period =>
        { msg with validity := k.time + (k.timestampToMinutes period * 60).bmod (2 ^ 32) }
    | none => msg
  let msg := { msg with priority := pdu.priorityFlag }
  let msg := if msg.metaData = none then { msg with metaData := some [] } else msg
  let msg := { msg with
    metaData := msg.metaData.map (fun data =>
      k.metaDataSetValues data pdu.tlv (octstrImm "smpp")) }
  let msg := { msg with
    dlrMask := match pdu.registeredDelivery.toNat &&& 0x03 with
      | 1 => dlrSuccess + dlrFail + dlrSmscFail
      | 2 => dlrFail + dlrSmscFail
      | _ => 0 }
  { msg with dlrMask := dlrSuccess + dlrFail + dlrSmscFail }

/-- `smpp_submit_sm_to_msg`. -/
def submitSmToMsg (k : Kannel) (esme : SmppEsme) (pdu : SubmitSm) : Converting Sms := do
  let msg ← submitSmHead k esme pdu
  let msg ← submitSmUdh k esme pdu msg
  return submitSmTail k esme pdu msg

/-- `smpp_data_sm_to_msg`, up to the text; what it takes out of the PDU is gone from there. -/
def dataSmHead (k : Kannel) (esme : SmppEsme) (pdu : DataSm) : Converting (Sms × DataSm) := do
  let msg := { msgCreateSms k.uuid with smsType := smsTypeMtPush, service := esme.systemId }
  let sourceAddr ← smppPduUtilConvertAddrM pdu.sourceAddr pdu.sourceAddrTon
  let msg := { msg with sender := sourceAddr }
  let pdu := { pdu with sourceAddr := none }
  if pdu.destinationAddr = none then throw smppEsmeRinvdstadr
  else
    let destinationAddr ← smppPduUtilConvertAddrM pdu.destinationAddr pdu.destAddrTon
    let msg := { msg with receiver := destinationAddr }
    let pdu := { pdu with destinationAddr := none }
    let msg := { msg with binfo := pdu.serviceType }
    let pdu := { pdu with serviceType := none }
    let msg := if hasBit pdu.esmClass esmClassSubmitRpi then { msg with rpi := 1 } else msg
    let msg := { msg with msgdata := pdu.messagePayload }
    return (msg, { pdu with messagePayload := none })

/-- Its parts and its header. -/
def dataSmUdh (k : Kannel) (esme : SmppEsme) (pdu : DataSm) (msg : Sms) : Converting Sms := do
  let msg ←
    if esme.version > 0x33 ∧ pdu.sarMsgRefNum ≥ 0 ∧ pdu.sarSegmentSeqnum > 0 ∧
        pdu.sarTotalSegments > 0 then
      if hasBit pdu.esmClass esmClassSubmitUdhIndicator then throw smppEsmeRinvtlvval
      else pure (k.prependCatenationUdh pdu.sarSegmentSeqnum pdu.sarTotalSegments
        pdu.sarMsgRefNum msg)
    else pure msg
  if hasBit pdu.esmClass esmClassSubmitUdhIndicator then
    let first ← octstrGetFirst msg.msgdata
    let udhl := first + 1
    if udhl > octstrLen msg.msgdata then throw smppEsmeRinvesmclass
    else return { msg with
      udhdata := msg.msgdata.map (List.take udhl.toNat)
      msgdata := msg.msgdata.map (List.drop udhl.toNat) }
  else return msg

/-- The rest of it. -/
def dataSmTail (k : Kannel) (esme : SmppEsme) (pdu : DataSm) (msg : Sms) : Sms :=
  let msg := k.dcsToFields pdu.dataCoding msg
  let msg := smppPduUtilComputeInboundDcs k esme.altCharset pdu.dataCoding pdu.esmClass msg
  let msg := { msg with time := k.time }
  let msg := if msg.metaData = none then { msg with metaData := some [] } else msg
  let msg := { msg with
    metaData := msg.metaData.map (fun data =>
      k.metaDataSetValues data pdu.tlv (octstrImm "smpp")) }
  let msg := { msg with
    dlrMask := match pdu.registeredDelivery.toNat &&& 0x03 with
      | 1 => dlrSuccess + dlrFail + dlrSmscFail
      | 2 => dlrFail + dlrSmscFail
      | _ => 0 }
  { msg with dlrMask := dlrSuccess + dlrFail + dlrSmscFail }

/-- `smpp_data_sm_to_msg`. -/
def dataSmToMsg (k : Kannel) (esme : SmppEsme) (pdu : DataSm) : Converting Sms := do
  let (msg, pdu) ← dataSmHead k esme pdu
  let msg ← dataSmUdh k esme pdu msg
  return dataSmTail k esme pdu msg

/-! ## What they share -/

/-- Cutting the header off, in the words of `splitUdh`. -/
theorem octstrGetFirst_bind (msg : Sms) :
    (do
      let first ← octstrGetFirst msg.msgdata
      let udhl := first + 1
      if udhl > octstrLen msg.msgdata then throw smppEsmeRinvesmclass
      else pure { msg with
        udhdata := msg.msgdata.map (List.take udhl.toNat)
        msgdata := msg.msgdata.map (List.drop udhl.toNat) } : Converting Sms) =
      splitUdh msg := by
  cases hdata : msg.msgdata with
  | none =>
      simp only [splitUdh, hdata]
      rfl
  | some data =>
      cases data with
      | nil =>
          -- the first octet of an empty text is `-1`, so the header has length zero
          simp only [splitUdh, hdata]
          rfl
      | cons c data =>
          change (if (c.toNat : Int) + 1 > ((c :: data).length : Nat) then throw smppEsmeRinvesmclass
            else pure { msg with
              udhdata := some ((c :: data).take ((c.toNat : Int) + 1).toNat)
              msgdata := some ((c :: data).drop ((c.toNat : Int) + 1).toNat) } : Converting Sms) = _
          rw [splitUdh, hdata, Option.map_some]
          by_cases hlong : udhLength (c :: data) > (c :: data).length
          · have hcast : (c.toNat : Int) + 1 > ((c :: data).length : Nat) := by exact_mod_cast hlong
            rw [if_pos hcast, if_pos hlong]
            rfl
          · have hcast : ¬ (c.toNat : Int) + 1 > ((c :: data).length : Nat) := by exact_mod_cast hlong
            rw [if_neg hcast, if_neg hlong]
            rfl

/-- The addresses of a request as the message gets them, or why it does not. -/
def convertAddrs (sourceAddr : Option Octstr) (sourceAddrTon : Int)
    (destinationAddr : Option Octstr) (destAddrTon : Int) :
    Except Int (Option Octstr × Option Octstr) :=
  match smppPduUtilConvertAddr sourceAddr sourceAddrTon with
  | .error reason => .error reason
  | .ok sender =>
      if destinationAddr = none then .error smppEsmeRinvdstadr
      else
        match smppPduUtilConvertAddr destinationAddr destAddrTon with
        | .error reason => .error reason
        | .ok receiver => .ok (sender, receiver)

theorem convertAddrs_of_source_error {sourceAddr destinationAddr : Option Octstr}
    {sourceAddrTon destAddrTon reason : Int}
    (h : smppPduUtilConvertAddr sourceAddr sourceAddrTon = .error reason) :
    convertAddrs sourceAddr sourceAddrTon destinationAddr destAddrTon = .error reason := by
  rw [convertAddrs, h]

theorem convertAddrs_of_source {sourceAddr destinationAddr sender : Option Octstr}
    {sourceAddrTon destAddrTon : Int}
    (h : smppPduUtilConvertAddr sourceAddr sourceAddrTon = .ok sender) :
    convertAddrs sourceAddr sourceAddrTon destinationAddr destAddrTon =
      if destinationAddr = none then .error smppEsmeRinvdstadr
      else (smppPduUtilConvertAddr destinationAddr destAddrTon).map (fun receiver =>
        (sender, receiver)) := by
  rw [convertAddrs, h]
  dsimp only
  cases smppPduUtilConvertAddr destinationAddr destAddrTon <;> rfl

theorem submitSmHead_eq (k : Kannel) (esme : SmppEsme) (pdu : SubmitSm) :
    submitSmHead k esme pdu = some ((convertAddrs pdu.sourceAddr pdu.sourceAddrTon
      pdu.destinationAddr pdu.destAddrTon).map (fun addrs =>
        { msgCreateSms k.uuid with
          smsType := smsTypeMtPush
          service := esme.systemId
          sender := addrs.1
          receiver := addrs.2
          binfo := pdu.serviceType
          rpi := if hasBit pdu.esmClass esmClassSubmitRpi then 1 else (msgCreateSms k.uuid).rpi
          msgdata :=
            if esme.version > 0x33 ∧ pdu.smLength = 0 ∧ pdu.messagePayload.isSome then
              pdu.messagePayload
            else pdu.shortMessage })) := by
  unfold submitSmHead smppPduUtilConvertAddrM
  cases hsource : smppPduUtilConvertAddr pdu.sourceAddr pdu.sourceAddrTon with
  | error reason =>
      rw [convertAddrs_of_source_error hsource]
      rfl
  | ok sender =>
      rw [convertAddrs_of_source hsource]
      change (if pdu.destinationAddr = none then throw smppEsmeRinvdstadr else _) = _
      by_cases hnone : pdu.destinationAddr = none
      · rw [if_pos hnone, if_pos hnone]
        rfl
      · rw [if_neg hnone, if_neg hnone]
        cases smppPduUtilConvertAddr pdu.destinationAddr pdu.destAddrTon with
        | error reason => rfl
        | ok receiver =>
            change (if esme.version > 0x33 ∧ pdu.smLength = 0 ∧ pdu.messagePayload.isSome then _
              else _) = _
            by_cases hpayload : esme.version > 0x33 ∧ pdu.smLength = 0 ∧ pdu.messagePayload.isSome
            · rw [if_pos hpayload]
              simp only [if_pos hpayload]
              cases hasBit pdu.esmClass esmClassSubmitRpi <;> rfl
            · rw [if_neg hpayload]
              simp only [if_neg hpayload]
              cases hasBit pdu.esmClass esmClassSubmitRpi <;> rfl

theorem dataSmHead_eq (k : Kannel) (esme : SmppEsme) (pdu : DataSm) :
    dataSmHead k esme pdu = some ((convertAddrs pdu.sourceAddr pdu.sourceAddrTon
      pdu.destinationAddr pdu.destAddrTon).map (fun addrs =>
        ({ msgCreateSms k.uuid with
          smsType := smsTypeMtPush
          service := esme.systemId
          sender := addrs.1
          receiver := addrs.2
          binfo := pdu.serviceType
          rpi := if hasBit pdu.esmClass esmClassSubmitRpi then 1 else (msgCreateSms k.uuid).rpi
          msgdata := pdu.messagePayload },
         { pdu with
            sourceAddr := none
            destinationAddr := none
            serviceType := none
            messagePayload := none }))) := by
  unfold dataSmHead smppPduUtilConvertAddrM
  cases hsource : smppPduUtilConvertAddr pdu.sourceAddr pdu.sourceAddrTon with
  | error reason =>
      rw [convertAddrs_of_source_error hsource]
      rfl
  | ok sender =>
      rw [convertAddrs_of_source hsource]
      change (if pdu.destinationAddr = none then throw smppEsmeRinvdstadr else _) = _
      by_cases hnone : pdu.destinationAddr = none
      · rw [if_pos hnone, if_pos hnone]
        rfl
      · rw [if_neg hnone, if_neg hnone]
        dsimp only
        cases smppPduUtilConvertAddr pdu.destinationAddr pdu.destAddrTon with
        | error reason => rfl
        | ok receiver => cases hasBit pdu.esmClass esmClassSubmitRpi <;> rfl

/-- What `smppSubmitSmToMsg` reads of a submit_sm. -/
def submitSmFields (esme : SmppEsme) (pdu : SubmitSm) : SmFields where
  serviceType := pdu.serviceType
  sourceAddrTon := pdu.sourceAddrTon
  sourceAddr := pdu.sourceAddr
  destAddrTon := pdu.destAddrTon
  destinationAddr := pdu.destinationAddr
  esmClass := pdu.esmClass
  dataCoding := pdu.dataCoding
  msgdata :=
    if esme.version > 0x33 ∧ pdu.smLength = 0 ∧ pdu.messagePayload.isSome then pdu.messagePayload
    else pdu.shortMessage
  sarMsgRefNum := pdu.sarMsgRefNum
  sarSegmentSeqnum := pdu.sarSegmentSeqnum
  sarTotalSegments := pdu.sarTotalSegments
  tlv := pdu.tlv

/-- What `smppDataSmToMsg` reads of a data_sm. -/
def dataSmFields (pdu : DataSm) : SmFields where
  serviceType := pdu.serviceType
  sourceAddrTon := pdu.sourceAddrTon
  sourceAddr := pdu.sourceAddr
  destAddrTon := pdu.destAddrTon
  destinationAddr := pdu.destinationAddr
  esmClass := pdu.esmClass
  dataCoding := pdu.dataCoding
  msgdata := pdu.messagePayload
  sarMsgRefNum := pdu.sarMsgRefNum
  sarSegmentSeqnum := pdu.sarSegmentSeqnum
  sarTotalSegments := pdu.sarTotalSegments
  tlv := pdu.tlv

/-- The message before its parts and its header are looked at. -/
def headOf (k : Kannel) (esme : SmppEsme) (f : SmFields) (addrs : Option Octstr × Option Octstr) :
    Sms :=
  { msgCreateSms k.uuid with
    smsType := smsTypeMtPush
    service := esme.systemId
    sender := addrs.1
    receiver := addrs.2
    binfo := f.serviceType
    rpi := if hasBit f.esmClass esmClassSubmitRpi then 1 else (msgCreateSms k.uuid).rpi
    msgdata := f.msgdata }

/-- The parts and the header, in the words of `convertText`. -/
def udhOf (k : Kannel) (version : Int) (f : SmFields) (msg : Sms) : Conversion :=
  if f.segmented version && hasBit f.esmClass esmClassSubmitUdhIndicator then
    some (.error smppEsmeRinvtlvval)
  else
    let msg' :=
      if f.segmented version then
        k.prependCatenationUdh f.sarSegmentSeqnum f.sarTotalSegments f.sarMsgRefNum msg
      else msg
    if hasBit f.esmClass esmClassSubmitUdhIndicator then splitUdh msg' else some (.ok msg')

/-- What both conversions fill in at their end. -/
def tailOf (k : Kannel) (esme : SmppEsme) (f : SmFields) (msg : Sms) : Sms :=
  let msg' := smppPduUtilComputeInboundDcs k esme.altCharset f.dataCoding f.esmClass
    (k.dcsToFields f.dataCoding msg)
  { msg' with
    time := k.time
    metaData := some (k.metaDataSetValues (msg'.metaData.getD []) f.tlv (octstrImm "smpp"))
    dlrMask := dlrSuccess + dlrFail + dlrSmscFail }

/-- What is filled in at the end does not refuse any more. -/
theorem convertText_eq (k : Kannel) (esme : SmppEsme) (f : SmFields) (msg : Sms) :
    convertText k esme f msg =
      (udhOf k esme.version f msg).map (Except.map (tailOf k esme f)) := by
  unfold convertText udhOf
  dsimp only
  split_ifs <;> rfl

theorem smToMsg_eq (k : Kannel) (esme : SmppEsme) (f : SmFields) :
    smToMsg k esme f =
      match convertAddrs f.sourceAddr f.sourceAddrTon f.destinationAddr f.destAddrTon with
      | .error reason => some (.error reason)
      | .ok addrs =>
          (udhOf k esme.version f (headOf k esme f addrs)).map (Except.map (tailOf k esme f)) := by
  unfold smToMsg
  cases hsource : smppPduUtilConvertAddr f.sourceAddr f.sourceAddrTon with
  | error reason => rw [convertAddrs_of_source_error hsource]
  | ok sender =>
      rw [convertAddrs_of_source hsource]
      dsimp only
      by_cases hnone : f.destinationAddr = none
      · rw [if_pos hnone, if_pos hnone]
      · rw [if_neg hnone, if_neg hnone]
        cases smppPduUtilConvertAddr f.destinationAddr f.destAddrTon with
        | error reason => rfl
        | ok receiver => exact convertText_eq k esme f _

theorem smToMsg_of_refused {k : Kannel} {esme : SmppEsme} {f : SmFields} {reason : Int}
    (h : convertAddrs f.sourceAddr f.sourceAddrTon f.destinationAddr f.destAddrTon =
      .error reason) : smToMsg k esme f = some (.error reason) := by
  rw [smToMsg_eq, h]

theorem smToMsg_of_addrs {k : Kannel} {esme : SmppEsme} {f : SmFields}
    {addrs : Option Octstr × Option Octstr}
    (h : convertAddrs f.sourceAddr f.sourceAddrTon f.destinationAddr f.destAddrTon = .ok addrs) :
    smToMsg k esme f =
      (udhOf k esme.version f (headOf k esme f addrs)).map (Except.map (tailOf k esme f)) := by
  rw [smToMsg_eq, h]

/-- Both bodies look for parts and a header in the same words. -/
theorem udh_steps (k : Kannel) (version : Int) (f : SmFields) (msg : Sms) :
    (do
      let msg ←
        if version > 0x33 ∧ f.sarMsgRefNum ≥ 0 ∧ f.sarSegmentSeqnum > 0 ∧
            f.sarTotalSegments > 0 then
          if hasBit f.esmClass esmClassSubmitUdhIndicator then throw smppEsmeRinvtlvval
          else pure (k.prependCatenationUdh f.sarSegmentSeqnum f.sarTotalSegments
            f.sarMsgRefNum msg)
        else pure msg
      if hasBit f.esmClass esmClassSubmitUdhIndicator then
        let first ← octstrGetFirst msg.msgdata
        let udhl := first + 1
        if udhl > octstrLen msg.msgdata then throw smppEsmeRinvesmclass
        else return { msg with
          udhdata := msg.msgdata.map (List.take udhl.toNat)
          msgdata := msg.msgdata.map (List.drop udhl.toNat) }
      else return msg : Converting Sms) = udhOf k version f msg := by
  unfold udhOf SmFields.segmented
  by_cases hsegmented : version > 0x33 ∧ f.sarMsgRefNum ≥ 0 ∧ f.sarSegmentSeqnum > 0 ∧
    f.sarTotalSegments > 0
  · rw [if_pos hsegmented, decide_eq_true hsegmented]
    cases hasBit f.esmClass esmClassSubmitUdhIndicator with
    | true => rfl
    | false => rfl
  · rw [if_neg hsegmented, decide_eq_false hsegmented]
    cases hasBit f.esmClass esmClassSubmitUdhIndicator with
    | true => exact octstrGetFirst_bind msg
    | false => rfl

/-- The metadata and the receipts that are asked for, at the end of both bodies. -/
def fillTail (k : Kannel) (tlv : Tlv) (registeredDelivery : Int) (msg : Sms) : Sms :=
  let msg := if msg.metaData = none then { msg with metaData := some [] } else msg
  let msg := { msg with
    metaData := msg.metaData.map (fun data => k.metaDataSetValues data tlv (octstrImm "smpp")) }
  let msg := { msg with
    dlrMask := match registeredDelivery.toNat &&& 0x03 with
      | 1 => dlrSuccess + dlrFail + dlrSmscFail
      | 2 => dlrFail + dlrSmscFail
      | _ => 0 }
  { msg with dlrMask := dlrSuccess + dlrFail + dlrSmscFail }

theorem fillTail_eq (k : Kannel) (tlv : Tlv) (registeredDelivery : Int) (msg : Sms) :
    fillTail k tlv registeredDelivery msg =
      { msg with
        metaData := some (k.metaDataSetValues (msg.metaData.getD []) tlv (octstrImm "smpp"))
        dlrMask := dlrSuccess + dlrFail + dlrSmscFail } := by
  unfold fillTail
  cases hmeta : msg.metaData with
  | none => simp only [if_true, Option.map_some, Option.getD_none]
  | some data => simp only [hmeta, reduceCtorEq, if_false, Option.map_some, Option.getD_some]

theorem dataSmTail_eq (k : Kannel) (esme : SmppEsme) (pdu : DataSm) (msg : Sms) :
    dataSmTail k esme pdu msg = tailOf k esme (dataSmFields pdu) msg :=
  fillTail_eq k pdu.tlv pdu.registeredDelivery
    { smppPduUtilComputeInboundDcs k esme.altCharset pdu.dataCoding pdu.esmClass
        (k.dcsToFields pdu.dataCoding msg) with time := k.time }

theorem submitSmTail_eq (k : Kannel) (esme : SmppEsme) (pdu : SubmitSm) (msg : Sms) :
    submitSmTail k esme pdu msg =
      withSubmitFields k pdu (tailOf k esme (submitSmFields esme pdu) msg) := by
  have hfill := fillTail_eq k pdu.tlv pdu.registeredDelivery
    (let msg := k.dcsToFields pdu.dataCoding msg
     let msg := smppPduUtilComputeInboundDcs k esme.altCharset pdu.dataCoding pdu.esmClass msg
     let msg := { msg with pid := pdu.protocolId, time := k.time }
     let msg := match pdu.validityPeriod with
       | some period =>
           { msg with validity := k.time + (k.timestampToMinutes period * 60).bmod (2 ^ 32) }
       | none => msg
     { msg with priority := pdu.priorityFlag })
  refine (show submitSmTail k esme pdu msg = _ from hfill).trans ?_
  unfold withSubmitFields
  cases pdu.validityPeriod with
  | none => rfl
  | some period => rfl

/-- A last statement that neither refuses nor crashes. -/
theorem bind_pure_eq_map {α β : Type} (x : Converting α) (f : α → β) :
    (do let a ← x; return f a : Converting β) =
      Option.map (Except.map f) (x : Option (Except Int α)) := by
  cases x with
  | none => rfl
  | some r => cases r <;> rfl

theorem submitSmToMsg_eq (k : Kannel) (esme : SmppEsme) (pdu : SubmitSm) :
    submitSmToMsg k esme pdu = smppSubmitSmToMsg k esme pdu := by
  have hudh : ∀ msg, submitSmUdh k esme pdu msg =
      udhOf k esme.version (submitSmFields esme pdu) msg :=
    udh_steps k esme.version (submitSmFields esme pdu)
  change _ = (smToMsg k esme (submitSmFields esme pdu)).map _
  rw [smToMsg_eq, submitSmToMsg, submitSmHead_eq]
  dsimp only [submitSmFields]
  cases convertAddrs pdu.sourceAddr pdu.sourceAddrTon pdu.destinationAddr pdu.destAddrTon with
  | error reason => rfl
  | ok addrs =>
      refine (bind_pure_eq_map (submitSmUdh k esme pdu
        (headOf k esme (submitSmFields esme pdu) addrs)) (submitSmTail k esme pdu)).trans ?_
      rw [hudh, funext (submitSmTail_eq k esme pdu), Option.map_map]
      congr 1
      funext r
      cases r <;> rfl

theorem dataSmToMsg_eq (k : Kannel) (esme : SmppEsme) (pdu : DataSm) :
    dataSmToMsg k esme pdu = smppDataSmToMsg k esme pdu := by
  have hudh : ∀ pdu' msg, dataSmUdh k esme pdu' msg =
      udhOf k esme.version (dataSmFields pdu') msg :=
    fun pdu' => udh_steps k esme.version (dataSmFields pdu')
  change _ = smToMsg k esme (dataSmFields pdu)
  rw [smToMsg_eq, dataSmToMsg, dataSmHead_eq]
  dsimp only [dataSmFields]
  cases convertAddrs pdu.sourceAddr pdu.sourceAddrTon pdu.destinationAddr pdu.destAddrTon with
  | error reason => rfl
  | ok addrs =>
      let pdu' : DataSm :=
        { pdu with
          sourceAddr := none
          destinationAddr := none
          serviceType := none
          messagePayload := none }
      refine (bind_pure_eq_map (dataSmUdh k esme pdu'
        (headOf k esme (dataSmFields pdu) addrs)) (dataSmTail k esme pdu')).trans ?_
      rw [hudh, funext (dataSmTail_eq k esme pdu')]
      rfl

/-! ## Requests of either kind -/

def Routes.SmRequest.toMsg (k : Kannel) (esme : SmppEsme) : SmRequest → Conversion
  | .submitSm pdu => submitSmToMsg k esme pdu
  | .dataSm pdu => dataSmToMsg k esme pdu

def Routes.SmRequest.fields (esme : SmppEsme) : SmRequest → SmFields
  | .submitSm pdu => submitSmFields esme pdu
  | .dataSm pdu => dataSmFields pdu

/-- What is filled in for a submit_sm only. -/
def Routes.SmRequest.finish (k : Kannel) : SmRequest → Sms → Sms
  | .submitSm pdu => withSubmitFields k pdu
  | .dataSm _ => id

theorem toMsg_eq (k : Kannel) (esme : SmppEsme) (request : SmRequest) :
    request.toMsg k esme =
      (smToMsg k esme (request.fields esme)).map (Except.map (request.finish k)) := by
  cases request with
  | submitSm pdu => exact submitSmToMsg_eq k esme pdu
  | dataSm pdu =>
      have hid : (smToMsg k esme (dataSmFields pdu)).map (Except.map id) =
          smToMsg k esme (dataSmFields pdu) := by
        rw [Except.map_id, Option.map_id, id]
      exact (dataSmToMsg_eq k esme pdu).trans hid.symm

/-- How a message is accepted: its addresses, its header, and its end. -/
theorem toMsg_ok_cases {k : Kannel} {esme : SmppEsme} {request : SmRequest} {msg : Sms}
    (h : request.toMsg k esme = some (.ok msg)) :
    ∃ addrs m,
      convertAddrs (request.fields esme).sourceAddr (request.fields esme).sourceAddrTon
        (request.fields esme).destinationAddr (request.fields esme).destAddrTon = .ok addrs ∧
      udhOf k esme.version (request.fields esme) (headOf k esme (request.fields esme) addrs) =
        some (.ok m) ∧
      msg = request.finish k (tailOf k esme (request.fields esme) m) := by
  rw [toMsg_eq] at h
  rcases Option.map_eq_some_iff.mp h with ⟨r, hsm, hfinish⟩
  cases hconverted : convertAddrs (request.fields esme).sourceAddr
      (request.fields esme).sourceAddrTon (request.fields esme).destinationAddr
      (request.fields esme).destAddrTon with
  | error reason =>
      rw [smToMsg_of_refused hconverted] at hsm
      cases hsm
      cases hfinish
  | ok addrs =>
      rw [smToMsg_of_addrs hconverted] at hsm
      rcases Option.map_eq_some_iff.mp hsm with ⟨r', hudh, htail⟩
      cases r' with
      | error reason =>
          cases htail
          cases hfinish
      | ok m =>
          cases htail
          cases hfinish
          exact ⟨addrs, m, rfl, hudh, rfl⟩

/-- The text and its coding are set, and only text that becomes 7 bit is converted. -/
theorem computeInboundDcs_cases (k : Kannel) (altCharset : Option Octstr)
    (dataCoding esmClass : Int) (msg : Sms) :
    ∃ data coding, smppPduUtilComputeInboundDcs k altCharset dataCoding esmClass msg =
        { msg with msgdata := data, coding := coding } ∧
      (coding ≠ dc7bit → data = msg.msgdata) := by
  unfold smppPduUtilComputeInboundDcs
  split
  case h_1 =>
    -- both conversions of the default alphabet end in 7 bit
    split
    · split_ifs
      · exact ⟨_, dc7bit, rfl, fun h => absurd rfl h⟩
      · exact ⟨_, dc7bit, rfl, fun h => absurd rfl h⟩
    · exact ⟨_, dc7bit, rfl, fun h => absurd rfl h⟩
  case h_12 =>
    split_ifs
    · exact ⟨_, dc8bit, rfl, fun _ => rfl⟩
    · exact ⟨_, dc7bit, rfl, fun h => absurd rfl h⟩
    · exact ⟨_, msg.coding, rfl, fun _ => rfl⟩
  all_goals first
    | exact ⟨_, dc7bit, rfl, fun h => absurd rfl h⟩
    | exact ⟨_, _, rfl, fun _ => rfl⟩

/-! ## The same request, both ways -/

/-- A data_sm, and the submit_sm with the same fields and with its payload. -/
structure SameRequest (p : SubmitSm) (d : DataSm) : Prop where
  sourceAddrTon : p.sourceAddrTon = d.sourceAddrTon
  sourceAddrNpi : p.sourceAddrNpi = d.sourceAddrNpi
  sourceAddr : p.sourceAddr = d.sourceAddr
  destAddrTon : p.destAddrTon = d.destAddrTon
  destAddrNpi : p.destAddrNpi = d.destAddrNpi
  destinationAddr : p.destinationAddr = d.destinationAddr
  serviceType : p.serviceType = d.serviceType
  esmClass : p.esmClass = d.esmClass
  dataCoding : p.dataCoding = d.dataCoding
  sarMsgRefNum : p.sarMsgRefNum = d.sarMsgRefNum
  sarSegmentSeqnum : p.sarSegmentSeqnum = d.sarSegmentSeqnum
  sarTotalSegments : p.sarTotalSegments = d.sarTotalSegments
  registeredDelivery : p.registeredDelivery = d.registeredDelivery
  tlv : p.tlv = d.tlv
  smLength : p.smLength = 0
  messagePayload : p.messagePayload = d.messagePayload
  present : d.messagePayload.isSome

/-- The messages are the same but for what only a submit_sm sets. -/
structure SameMessage (m m' : Sms) : Prop where
  sender : m.sender = m'.sender
  receiver : m.receiver = m'.receiver
  service : m.service = m'.service
  binfo : m.binfo = m'.binfo
  rpi : m.rpi = m'.rpi
  msgdata : m.msgdata = m'.msgdata
  udhdata : m.udhdata = m'.udhdata
  coding : m.coding = m'.coding
  dlrMask : m.dlrMask = m'.dlrMask
  metaData : m.metaData = m'.metaData

theorem SameRequest.smFields {p : SubmitSm} {d : DataSm} (h : SameRequest p d) {esme : SmppEsme}
    (hversion : esme.version > 0x33) : submitSmFields esme p = dataSmFields d := by
  have hpayload : esme.version > 0x33 ∧ p.smLength = 0 ∧ p.messagePayload.isSome :=
    ⟨hversion, h.smLength, h.messagePayload ▸ h.present⟩
  rw [submitSmFields, if_pos hpayload]
  simp only [dataSmFields, h.sourceAddrTon, h.sourceAddr, h.destAddrTon, h.destinationAddr,
    h.serviceType, h.esmClass, h.dataCoding, h.sarMsgRefNum, h.sarSegmentSeqnum,
    h.sarTotalSegments, h.tlv, h.messagePayload]

theorem sameMessage_withSubmitFields (k : Kannel) (p : SubmitSm) (m : Sms) :
    SameMessage (withSubmitFields k p m) m where
  sender := rfl
  receiver := rfl
  service := rfl
  binfo := rfl
  rpi := rfl
  msgdata := rfl
  udhdata := rfl
  coding := rfl
  dlrMask := rfl
  metaData := rfl

theorem splitUdh_isSome {msg : Sms} (h : msg.msgdata.isSome) : (splitUdh msg).isSome := by
  simpa [splitUdh] using h

/-- With a text there is nothing to crash on: part numbers and a header exclude each other. -/
theorem smToMsg_isSome (k : Kannel) (esme : SmppEsme) {f : SmFields} (h : f.msgdata.isSome) :
    (smToMsg k esme f).isSome := by
  rw [smToMsg_eq]
  cases convertAddrs f.sourceAddr f.sourceAddrTon f.destinationAddr f.destAddrTon with
  | error reason => rfl
  | ok addrs =>
      rw [Option.isSome_map]
      unfold udhOf
      cases f.segmented esme.version with
      | true => cases hasBit f.esmClass esmClassSubmitUdhIndicator <;> rfl
      | false =>
          cases hasBit f.esmClass esmClassSubmitUdhIndicator with
          | true => exact splitUdh_isSome h
          | false => rfl

/-- A payload is converted to the same message, or refused for the same reason, whichever PDU it
comes in. -/
theorem data_sm_converted_alike (k : Kannel) (esme : SmppEsme) {p : SubmitSm} {d : DataSm}
    (hversion : esme.version > 0x33) (hsame : SameRequest p d) :
    (∃ reason, submitSmToMsg k esme p = some (.error reason) ∧
        dataSmToMsg k esme d = some (.error reason)) ∨
      ∃ m m', submitSmToMsg k esme p = some (.ok m) ∧ dataSmToMsg k esme d = some (.ok m') ∧
        SameMessage m m' := by
  have hsubmit : submitSmToMsg k esme p =
      (smToMsg k esme (dataSmFields d)).map (Except.map (withSubmitFields k p)) :=
    (submitSmToMsg_eq k esme p).trans
      (congrArg (fun f => (smToMsg k esme f).map _) (hsame.smFields hversion))
  have hdata : dataSmToMsg k esme d = smToMsg k esme (dataSmFields d) := dataSmToMsg_eq k esme d
  have hsome : (smToMsg k esme (dataSmFields d)).isSome := smToMsg_isSome k esme hsame.present
  rcases Option.isSome_iff_exists.mp hsome with ⟨r, hr⟩
  rw [hsubmit, hdata, hr]
  cases r with
  | error reason => exact Or.inl ⟨reason, rfl, rfl⟩
  | ok m => exact Or.inr ⟨withSubmitFields k p m, m, rfl, rfl, sameMessage_withSubmitFields k p m⟩

/-! ## A payload with a header -/

open Submit (sampleKannel sampleSubmitSm)
open Routes (sampleDataSm)

/-- A session of SMPP 3.4. -/
def sampleEsme : SmppEsme :=
  { smppEsmeCreate 0 with version := 0x34, systemId := some (octstrImm "test") }

/-- A header of five octets and two of text. -/
def samplePayload : Octstr := [5, 0, 3, 7, 2, 1, 104, 105]

theorem data_sm_converted_alike_sample :
    ∃ m m',
      submitSmToMsg sampleKannel sampleEsme
          { sampleSubmitSm with
            esmClass := 0x40, smLength := 0, messagePayload := some samplePayload } =
        some (.ok m) ∧
      dataSmToMsg sampleKannel sampleEsme
          { sampleDataSm with esmClass := 0x40, messagePayload := some samplePayload } =
        some (.ok m') ∧ SameMessage m m' := by
  rcases data_sm_converted_alike sampleKannel sampleEsme
    (p := { sampleSubmitSm with
      esmClass := 0x40, smLength := 0, messagePayload := some samplePayload })
    (d := { sampleDataSm with esmClass := 0x40, messagePayload := some samplePayload })
    (by decide) ⟨rfl, rfl, rfl, rfl, rfl, rfl, rfl, rfl, rfl, rfl, rfl, rfl, rfl, rfl, rfl, rfl, rfl⟩
    with ⟨reason, -, hrefused⟩ | haccepted
  · cases hrefused
  · exact haccepted

end Ksmppd
