import Ksmppd.Receipts.PartPdus
import Ksmppd.SmToMsg

/-!
# Addresses — international numbers on their way in and out

`smpp_pdu_util_convert_addr` is to leave '+' and digits of an international address, which
`smpp_pdu_msg_to_pdu` takes apart again.  The check for digits hangs on the check of the length, so
that an address of less than seven octets is never looked at; and one reason is given for both
addresses of a request.
-/

namespace Ksmppd

open Receipts
open Routes (SmRequest)

/-! ## Addresses of requests, messages and PDUs -/

inductive AddrRole
  | source
  | destination
  deriving DecidableEq, Repr

/-- The reason that names the address. -/
def AddrRole.reason : AddrRole → Int
  | .source => smppEsmeRinvsrcadr
  | .destination => smppEsmeRinvdstadr

def AddrRole.ofSms (msg : Sms) : AddrRole → Option Octstr
  | .source => msg.sender
  | .destination => msg.receiver

/-- An address of a deliver_sm with its TON. -/
def AddrRole.ofPdu (p : DeliverSmPdu) : AddrRole → Option Octstr × Int
  | .source => (p.sourceAddr, p.sourceAddrTon)
  | .destination => (p.destinationAddr, p.destAddrTon)

/-- Where an address of the message stands in the PDU: a report goes back. -/
def AddrRole.emittedAs (msg : Sms) : AddrRole → AddrRole
  | .source => if msg.smsType = smsTypeReportMo then .destination else .source
  | .destination => if msg.smsType = smsTypeReportMo then .source else .destination

/-- What the check on the lengths asks of one address. -/
def AddrRole.Fits (p : DeliverSmPdu) : AddrRole → Prop
  | .source => octstrLen p.sourceAddr ≤ 20
  | .destination => 0 < octstrLen p.destinationAddr ∧ octstrLen p.destinationAddr ≤ 20

theorem addressesFit_iff {p : DeliverSmPdu} :
    addressesFit p = true ↔ ∀ role : AddrRole, role.Fits p := by
  simp only [addressesFit, decide_eq_true_eq]
  constructor
  · rintro ⟨hpos, hdest, hsource⟩ role
    cases role with
    | source => exact hsource
    | destination => exact ⟨hpos, hdest⟩
  · intro h
    exact ⟨(h .destination).1, (h .destination).2, h .source⟩

/-- The conversion comes to the address, which is international. -/
def Routes.SmRequest.Submits (esme : SmppEsme) (request : SmRequest) (a : Octstr) :
    AddrRole → Prop
  | .source =>
      (request.fields esme).sourceAddr = some a ∧
        (request.fields esme).sourceAddrTon = gsmAddrTonInternational
  | .destination =>
      (request.fields esme).destinationAddr = some a ∧
        (request.fields esme).destAddrTon = gsmAddrTonInternational ∧
        -- the source address comes first
        ∃ sender, smppPduUtilConvertAddr (request.fields esme).sourceAddr
          (request.fields esme).sourceAddrTon = .ok sender

/-! ## Numbers -/

/-- One digit or more. -/
def IsDigits (os : Octstr) : Prop := os ≠ [] ∧ ∀ c ∈ os, isDigit c = true

/-- Digits, with or without a '+'. -/
def IsNumber (os : Octstr) : Prop := ∃ ds, IsDigits ds ∧ (os = ds ∨ os = 43 :: ds)

/-- The address behind its leading "00". -/
def withoutZeros (a : Octstr) : Octstr :=
  if (octstrImm "00").isPrefixOf a then a.drop 2 else a

/-- Every deliver_sm made of a message with this address has the digits, as an international
number, and no message is refused for it. -/
structure Emits (role : AddrRole) (a ds : Octstr) : Prop where
  fits : ∀ k msg, role.ofSms msg = some a → role.Fits (header k msg)
  pdus : ∀ k esme n msg ps, role.ofSms msg = some a → smppPduMsgToPdu k esme n msg = .pdus ps →
    ∀ p ∈ ps, (role.emittedAs msg).ofPdu p = (some ds, gsmAddrTonInternational)

/-- What is asked of the conversion of an international address. -/
structure ConvertsAddr (role : AddrRole) (a : Octstr) : Prop where
  accepted : ∀ r, smppPduUtilConvertAddr (some a) gsmAddrTonInternational = .ok r →
    ∃ ds, IsDigits ds ∧ r = some (43 :: ds) ∧
      smppPduUtilConvertAddr r gsmAddrTonInternational = .ok r ∧ Emits role (43 :: ds) ds
  refused : ∀ reason, smppPduUtilConvertAddr (some a) gsmAddrTonInternational = .error reason →
    ∀ k esme request, SmRequest.Submits esme request a role →
      request.toMsg k esme = some (.error role.reason)

variable {role : AddrRole} {a ds : Octstr} {k : Kannel} {esme : SmppEsme} {request : SmRequest}

/-! ## The conversion -/

theorem plus_not_digit : isDigit 43 = false := by decide

theorem IsDigits.head_ne_plus (h : IsDigits ds) : ds.head? ≠ some 43 := by
  intro hhead
  have hplus : (43 : UInt8) ∈ ds := List.mem_of_head? hhead
  have hdigit := h.2 43 hplus
  rw [plus_not_digit] at hdigit
  cases hdigit

theorem length_plus (hlen : ds.length ≤ 20) : (43 :: ds : Octstr).length ≤ 256 := by
  rw [List.length_cons]
  omega

/-- The range of 256 octets covers every address. -/
theorem octstrCheckRangeDigits_iff {os : Octstr} {pos : Nat} (hlen : os.length ≤ 256) :
    octstrCheckRangeDigits os pos 256 = true ↔ ∀ c ∈ os.drop pos, isDigit c = true := by
  have hall : (os.drop pos).take 256 = os.drop pos := by
    apply List.take_of_length_le
    rw [List.length_drop]
    omega
  rw [octstrCheckRangeDigits, hall, List.all_eq_true]

/-- The '+' is put in front unless it is there behind the zeros. -/
theorem internationalAddr_eq (a : Octstr) :
    internationalAddr a =
      if (withoutZeros a).head? = some 43 then withoutZeros a else 43 :: withoutZeros a := rfl

theorem internationalAddr_eq_iff :
    (∃ ds, IsDigits ds ∧ internationalAddr a = 43 :: ds) ↔ IsNumber (withoutZeros a) := by
  rw [internationalAddr_eq]
  constructor
  · rintro ⟨ds, hds, heq⟩
    split at heq
    · exact ⟨ds, hds, Or.inr heq⟩
    · exact ⟨ds, hds, Or.inl (List.cons.inj heq).2⟩
  · rintro ⟨ds, hds, heq | heq⟩
    · refine ⟨ds, hds, ?_⟩
      rw [heq, if_neg hds.head_ne_plus]
    · refine ⟨ds, hds, ?_⟩
      rw [heq]
      rfl

theorem length_withoutZeros : (withoutZeros a).length ≤ a.length := by
  unfold withoutZeros
  split
  · rw [List.length_drop]
    exact Nat.sub_le _ _
  · exact Nat.le_refl _

/-- At most the '+' is longer than the address was. -/
theorem length_internationalAddr (h : internationalAddr a = 43 :: ds) :
    ds.length ≤ a.length := by
  have hlen := length_withoutZeros (a := a)
  rw [internationalAddr_eq] at h
  split at h
  · rw [h] at hlen
    exact Nat.le_of_succ_le hlen
  · rw [(List.cons.inj h).2] at hlen
    exact hlen

/-- A short address is accepted whatever it is made of. -/
theorem convertAddr_of_short (hshort : a.length < 7) :
    smppPduUtilConvertAddr (some a) gsmAddrTonInternational = .ok (some (internationalAddr a)) := by
  simp only [smppPduUtilConvertAddr, if_true, if_pos hshort]

/-- What the two checks of a longer address ask for. -/
theorem isNumber_iff (hlong : 7 ≤ a.length) (hlen : a.length ≤ 256) :
    IsNumber a ↔ ¬ (a.head? = some 43 ∧ octstrCheckRangeDigits a 1 256 = false) ∧
      ¬ (a.head? ≠ some 43 ∧ octstrCheckRangeDigits a 0 256 = false) := by
  have hcheck : ∀ pos, octstrCheckRangeDigits a pos 256 = false ↔
      ¬ ∀ c ∈ a.drop pos, isDigit c = true := by
    intro pos
    rw [← octstrCheckRangeDigits_iff hlen, Bool.not_eq_true]
  rw [hcheck, hcheck]
  constructor
  · rintro ⟨ds, hds, rfl | rfl⟩
    · refine ⟨fun h => hds.head_ne_plus h.1, ?_⟩
      rintro ⟨-, hnot⟩
      exact hnot hds.2
    · refine ⟨?_, fun h => h.1 rfl⟩
      rintro ⟨-, hnot⟩
      exact hnot hds.2
  · rintro ⟨hplus, hplain⟩
    by_cases hhead : a.head? = some 43
    · have hdigits : ∀ c ∈ a.drop 1, isDigit c = true := by
        by_contra hnot
        exact hplus ⟨hhead, hnot⟩
      rcases List.head?_eq_some_iff.mp hhead with ⟨os, rfl⟩
      refine ⟨os, ⟨?_, hdigits⟩, Or.inr rfl⟩
      -- at least six octets follow the '+'
      rintro rfl
      exact absurd hlong (by decide)
    · have hdigits : ∀ c ∈ a.drop 0, isDigit c = true := by
        by_contra hnot
        exact hplain ⟨hhead, hnot⟩
      refine ⟨a, ⟨?_, hdigits⟩, Or.inl rfl⟩
      rintro rfl
      exact absurd hlong (by decide)

/-- A longer one has to be a number. -/
theorem convertAddr_of_number (hlong : 7 ≤ a.length) (hlen : a.length ≤ 256) (h : IsNumber a) :
    smppPduUtilConvertAddr (some a) gsmAddrTonInternational = .ok (some (internationalAddr a)) := by
  rcases (isNumber_iff hlong hlen).mp h with ⟨hplus, hplain⟩
  simp only [smppPduUtilConvertAddr, if_true, if_neg (Nat.not_lt.mpr hlong), Bool.not_eq_true',
    if_neg hplus, if_neg hplain]

theorem convertAddr_of_not_number (hlong : 7 ≤ a.length) (hlen : a.length ≤ 256)
    (h : ¬ IsNumber a) :
    smppPduUtilConvertAddr (some a) gsmAddrTonInternational = .error smppEsmeRinvsrcadr := by
  simp only [smppPduUtilConvertAddr, if_true, if_neg (Nat.not_lt.mpr hlong), Bool.not_eq_true']
  split
  · rfl
  · rename_i hplus
    split
    · rfl
    · rename_i hplain
      exact absurd ((isNumber_iff hlong hlen).mpr ⟨hplus, hplain⟩) h

/-- A number has no digit the conversion would touch but its leading zeros. -/
theorem isNumber_withoutZeros (hlong : 7 ≤ a.length) (h : IsNumber a) :
    IsNumber (withoutZeros a) := by
  unfold withoutZeros
  split
  · rename_i hzeros
    rcases h with ⟨ds, hds, rfl | rfl⟩
    · refine ⟨a.drop 2, ⟨?_, fun c hc => hds.2 c (List.mem_of_mem_drop hc)⟩, Or.inl rfl⟩
      intro hnil
      have hshort : a.length ≤ 2 := List.drop_eq_nil_iff.mp hnil
      omega
    · -- a '+' is no zero
      cases hzeros
  · exact h

/-- What starts with '+' and has digits behind it stays as it is. -/
theorem convertAddr_again (hds : IsDigits ds) (hlen : ds.length ≤ 20) :
    smppPduUtilConvertAddr (some (43 :: ds)) gsmAddrTonInternational = .ok (some (43 :: ds)) := by
  by_cases hshort : (43 :: ds : Octstr).length < 7
  · exact convertAddr_of_short hshort
  · exact convertAddr_of_number (Nat.not_lt.mp hshort) (length_plus hlen) ⟨ds, hds, Or.inr rfl⟩

/-! ## The PDUs of a message -/

section

variable {mk : MsgKannel} {msg : Sms} {p : DeliverSmPdu} {ps : List DeliverSmPdu}

theorem setSource_of_plus (hds : IsDigits ds) (hlen : ds.length ≤ 20) :
    AddrRole.source.ofPdu (setSource (some (43 :: ds)) p) = (some ds, gsmAddrTonInternational) := by
  have hdigits : octstrCheckRangeDigits (43 :: ds) 1 256 = true :=
    (octstrCheckRangeDigits_iff (length_plus hlen)).mpr hds.2
  simp only [setSource, if_true, if_pos hdigits]
  rfl

theorem setDestination_source (receiver : Option Octstr) (p : DeliverSmPdu) :
    AddrRole.source.ofPdu (setDestination receiver p) = AddrRole.source.ofPdu p := by
  unfold setDestination
  split
  · rfl
  · rfl

/-- The header has the digits, on the side of the address. -/
theorem header_ofPdu (hds : IsDigits ds) (hlen : ds.length ≤ 20)
    (haddr : role.ofSms msg = some (43 :: ds)) :
    role.ofPdu (header mk msg) = (some ds, gsmAddrTonInternational) := by
  cases role with
  | source =>
      have hsender : msg.sender = some (43 :: ds) := haddr
      refine (setDestination_source _ _).trans ?_
      rw [hsender]
      exact setSource_of_plus hds hlen
  | destination =>
      have hreceiver : msg.receiver = some (43 :: ds) := haddr
      change AddrRole.destination.ofPdu (setDestination msg.receiver _) = _
      rw [hreceiver]
      rfl

/-- A report has the addresses of the header exchanged, a part has them as they are. -/
theorem ofPdu_of_converted {n : Nat} (hconverted : smppPduMsgToPdu mk esme n msg = .pdus ps)
    (hp : p ∈ ps) : (role.emittedAs msg).ofPdu p = role.ofPdu (header mk msg) := by
  unfold smppPduMsgToPdu at hconverted
  dsimp only at hconverted
  split_ifs at hconverted with hfit hreport
  · unfold reportPdus at hconverted
    split at hconverted
    · cases hconverted
    · split at hconverted
      · cases hconverted
      · cases hconverted
        rcases List.mem_map.mp hp with ⟨msgid, -, rfl⟩
        unfold reportPdu
        dsimp only
        cases role with
        | source =>
            simp only [AddrRole.emittedAs, if_pos hreport]
            split_ifs <;> rfl
        | destination =>
            simp only [AddrRole.emittedAs, if_pos hreport]
            split_ifs <;> rfl
  · unfold messagePdus at hconverted
    split_ifs at hconverted
    cases hconverted
    rcases List.mem_mapIdx.mp hp with ⟨i, hi, rfl⟩
    have hcopied : Copied (template mk msg) (partPdu mk esme msg (header mk msg)
        (esme.sequenceNumber + i) (mk.smsSplit msg (n &&& 0xFF))[i]) := copied_partPdu _
    cases role with
    | source =>
        simp only [AddrRole.emittedAs, if_neg hreport]
        exact Prod.ext hcopied.sourceAddr hcopied.sourceAddrTon
    | destination =>
        simp only [AddrRole.emittedAs, if_neg hreport]
        exact Prod.ext hcopied.destinationAddr hcopied.destAddrTon

theorem emits_of_digits (hds : IsDigits ds) (hlen : ds.length ≤ 20) (role : AddrRole) :
    Emits role (43 :: ds) ds where
  fits := by
    intro k msg haddr
    have hheader : role.ofPdu (header k msg) = (some ds, gsmAddrTonInternational) :=
      header_ofPdu hds hlen haddr
    cases role with
    | source =>
        have haddr' : (header k msg).sourceAddr = some ds := congrArg Prod.fst hheader
        simpa only [AddrRole.Fits, haddr', octstrLen] using hlen
    | destination =>
        have haddr' : (header k msg).destinationAddr = some ds := congrArg Prod.fst hheader
        simp only [AddrRole.Fits, haddr', octstrLen]
        exact ⟨List.length_pos_iff.mpr hds.1, hlen⟩
  pdus := by
    intro k esme n msg ps haddr hconverted p hp
    rw [ofPdu_of_converted hconverted hp]
    exact header_ofPdu hds hlen haddr

end

/-! ## The requests -/

/-- A refused address refuses the request, always with the reason for a source address. -/
theorem toMsg_of_refused {reason : Int}
    (hrefused : smppPduUtilConvertAddr (some a) gsmAddrTonInternational = .error reason)
    (h : SmRequest.Submits esme request a role) :
    request.toMsg k esme = some (.error reason) := by
  have hconverted : convertAddrs (request.fields esme).sourceAddr
      (request.fields esme).sourceAddrTon (request.fields esme).destinationAddr
      (request.fields esme).destAddrTon = .error reason := by
    cases role with
    | source =>
        rcases h with ⟨haddr, hton⟩
        rw [haddr, hton]
        exact convertAddrs_of_source_error hrefused
    | destination =>
        rcases h with ⟨haddr, hton, sender, hsender⟩
        rw [convertAddrs_of_source hsender, haddr, hton, if_neg (by simp), hrefused]
        rfl
  -- the two kinds of request share their conversion
  rw [toMsg_eq, smToMsg_of_refused hconverted]
  rfl

/-- An address that is accepted as '+' and digits. -/
theorem convertsAddr_of_accepted (hlen : a.length ≤ 20)
    (haccepted : smppPduUtilConvertAddr (some a) gsmAddrTonInternational =
      .ok (some (internationalAddr a))) :
    ConvertsAddr role a ↔ IsNumber (withoutZeros a) := by
  rw [← internationalAddr_eq_iff]
  constructor
  · intro h
    rcases h.accepted _ haccepted with ⟨ds, hds, heq, -⟩
    exact ⟨ds, hds, Option.some.inj heq⟩
  · rintro ⟨ds, hds, heq⟩
    have hbound : ds.length ≤ 20 := (length_internationalAddr heq).trans hlen
    refine ⟨?_, ?_⟩
    · intro r hr
      rw [haccepted, heq] at hr
      cases hr
      exact ⟨ds, hds, rfl, convertAddr_again hds hbound, emits_of_digits hds hbound role⟩
    · intro reason hreason
      rw [haccepted] at hreason
      cases hreason

open Submit (sampleKannel sampleSubmitSm)

/-- Any address may stand in a request. -/
theorem exists_submits (a : Octstr) (role : AddrRole) :
    ∃ request, SmRequest.Submits sampleEsme request a role := by
  cases role with
  | source =>
      exact ⟨.submitSm { sampleSubmitSm with
        sourceAddr := some a, sourceAddrTon := gsmAddrTonInternational }, rfl, rfl⟩
  | destination =>
      exact ⟨.submitSm { sampleSubmitSm with
        destinationAddr := some a, destAddrTon := gsmAddrTonInternational }, rfl, rfl, _, rfl⟩

/-- An address that is refused is taken for a source address. -/
theorem convertsAddr_of_refused
    (hrefused : smppPduUtilConvertAddr (some a) gsmAddrTonInternational =
      .error smppEsmeRinvsrcadr) :
    ConvertsAddr role a ↔ role = .source := by
  constructor
  · intro h
    rcases exists_submits a role with ⟨request, hrequest⟩
    have hnamed := h.refused _ hrefused sampleKannel sampleEsme request hrequest
    rw [toMsg_of_refused hrefused hrequest] at hnamed
    cases role with
    | source => rfl
    | destination => cases hnamed
  · rintro rfl
    refine ⟨?_, ?_⟩
    · intro r hr
      rw [hrefused] at hr
      cases hr
    · intro reason hreason k esme request hrequest
      rw [hrefused] at hreason
      cases hreason
      exact toMsg_of_refused hrefused hrequest

/-! ## All addresses -/

/-- An address of less than seven octets has to be a number by itself, apart from leading zeros.  A
longer one is checked, and only a destination that is refused gets the wrong reason. -/
theorem converts_addr_iff (role : AddrRole) (a : Octstr) (hlen : a.length ≤ 20) :
    ConvertsAddr role a ↔
      (7 ≤ a.length ∧ (role = .source ∨ IsNumber a)) ∨
        (a.length < 7 ∧ IsNumber (withoutZeros a)) := by
  have hbound : a.length ≤ 256 := hlen.trans (by decide)
  -- the length decides whether the address is looked at
  rcases Nat.lt_or_ge a.length 7 with hshort | hlong
  · rw [convertsAddr_of_accepted hlen (convertAddr_of_short hshort)]
    simp [hshort, Nat.not_le.mpr hshort]
  · have hnot : ¬ a.length < 7 := Nat.not_lt.mpr hlong
    by_cases hnumber : IsNumber a
    · rw [convertsAddr_of_accepted hlen (convertAddr_of_number hlong hbound hnumber)]
      simp [hlong, hnumber, isNumber_withoutZeros hlong hnumber]
    · rw [convertsAddr_of_refused (convertAddr_of_not_number hlong hbound hnumber)]
      simp [hlong, hnot, hnumber]

theorem converts_addr_sample : ConvertsAddr .destination (octstrImm "0031600000000") := by
  have hnumber : IsNumber (octstrImm "0031600000000") :=
    ⟨octstrImm "0031600000000", ⟨by decide, List.all_eq_true.mp (by decide)⟩, Or.inl rfl⟩
  exact (converts_addr_iff .destination (octstrImm "0031600000000") (by decide)).mpr
    (Or.inl ⟨by decide, Or.inr hnumber⟩)

/-- Three letters are an international number, and a destination with a letter is refused as a
source. -/
theorem addr_slips : ¬ ConvertsAddr .source (octstrImm "abc") ∧
    ¬ ConvertsAddr .destination (octstrImm "31x600000") := by
  constructor
  · intro h
    rcases h.accepted (some (octstrImm "+abc")) (by decide) with ⟨ds, hds, heq, -⟩
    have htail : ds = octstrImm "abc" := (List.cons.inj (Option.some.inj heq)).2.symm
    have hletter : isDigit 97 = true := hds.2 97 (htail ▸ by decide)
    cases hletter
  · intro h
    have hreason := h.refused smppEsmeRinvsrcadr (by decide) sampleKannel sampleEsme
      (.submitSm { sampleSubmitSm with destinationAddr := some (octstrImm "31x600000") })
      ⟨rfl, rfl, _, rfl⟩
    cases hreason

end Ksmppd
