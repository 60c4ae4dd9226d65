import Ksmppd.SmToMsg

/-!
# UdhLength — the length octet of a user data header

With the UDH indicator the first octet of a body says how long its header is.  The check that the
header fits lets pass what has no first octet: an empty body counts as a header of no octets, and an
absent one is read all the same.
-/

namespace Ksmppd

open Routes (SmRequest)
open Submit (Conversion)

/-! ## Requests with the indicator -/

/-- The body the conversion takes: the payload, or the short message. -/
def Routes.SmRequest.body (esme : SmppEsme) (request : SmRequest) : Option Octstr :=
  (request.fields esme).msgdata

/-- The UDH indicator is set and there are no part numbers. -/
structure Routes.SmRequest.HasUdh (esme : SmppEsme) (request : SmRequest) : Prop where
  indicator : hasBit (request.fields esme).esmClass esmClassSubmitUdhIndicator = true
  parts : ¬ ((request.fields esme).sarMsgRefNum ≥ 0 ∧ (request.fields esme).sarSegmentSeqnum > 0 ∧
    (request.fields esme).sarTotalSegments > 0)

/-- The addresses are refused before the text is looked at. -/
def Routes.SmRequest.AddrsRefused (esme : SmppEsme) (request : SmRequest) : Prop :=
  ∃ reason, convertAddrs (request.fields esme).sourceAddr (request.fields esme).sourceAddrTon
    (request.fields esme).destinationAddr (request.fields esme).destAddrTon = .error reason

/-- A header that fits: its length octet, and at least as many octets behind it. -/
def HoldsUdh (body : Option Octstr) : Prop :=
  ∃ c os, body = some (c :: os) ∧ c.toNat + 1 ≤ (c :: os).length

/-- `dcs_to_fields` sets numbers only. -/
structure Kannel.DcsKeepsText (k : Kannel) : Prop where
  msgdata : ∀ dcs msg, (k.dcsToFields dcs msg).msgdata = msg.msgdata
  udhdata : ∀ dcs msg, (k.dcsToFields dcs msg).udhdata = msg.udhdata

/-- The header and the text of a message are `body`, cut behind the header. -/
def CutFrom (body : Option Octstr) (msg : Sms) : Prop :=
  ∃ c os udh text, body = some (c :: os) ∧ msg.udhdata = some udh ∧ msg.msgdata = some text ∧
    udh ++ text = c :: os ∧ udh.length = c.toNat + 1

/-- What is asked of a conversion of a body with a header. -/
structure TreatsUdh (esme : SmppEsme) (request : SmRequest) (r : Conversion) : Prop where
  noCrash : r ≠ none
  accepts : ∀ msg, r = some (.ok msg) → HoldsUdh (request.body esme)
  refuses : ¬ HoldsUdh (request.body esme) → ¬ request.AddrsRefused esme →
    r = some (.error smppEsmeRinvesmclass)
  cut : ∀ msg, r = some (.ok msg) → msg.coding = dc8bit ∨ msg.coding = dcUcs2 →
    CutFrom (request.body esme) msg

variable {k : Kannel} {esme : SmppEsme} {request : SmRequest} {msg : Sms}

/-! ## Text and header after the end of a conversion -/

theorem tailOf_udhdata (hk : k.DcsKeepsText) (f : SmFields) (msg : Sms) :
    (tailOf k esme f msg).udhdata = msg.udhdata := by
  rcases computeInboundDcs_cases k esme.altCharset f.dataCoding f.esmClass
    (k.dcsToFields f.dataCoding msg) with ⟨data, coding, heq, -⟩
  simp [tailOf, heq, hk.udhdata]

theorem tailOf_text (hk : k.DcsKeepsText) (f : SmFields) (msg : Sms)
    (h : (tailOf k esme f msg).coding ≠ dc7bit) : (tailOf k esme f msg).msgdata = msg.msgdata := by
  rcases computeInboundDcs_cases k esme.altCharset f.dataCoding f.esmClass
    (k.dcsToFields f.dataCoding msg) with ⟨data, coding, heq, hkept⟩
  simp only [tailOf, heq] at h ⊢
  exact (hkept h).trans (hk.msgdata f.dataCoding msg)

/-! ## Both conversions at once -/

/-- The end of a conversion leaves the header, and the text unless it becomes 7 bit. -/
structure LeavesText (finish : Sms → Sms) : Prop where
  udhdata : ∀ msg, (finish msg).udhdata = msg.udhdata
  msgdata : ∀ msg, (finish msg).coding ≠ dc7bit → (finish msg).msgdata = msg.msgdata

theorem leavesText_finish (hk : k.DcsKeepsText) (esme : SmppEsme) (request : SmRequest)
    (f : SmFields) :
    LeavesText (fun msg => request.finish k (tailOf k esme f msg)) := by
  cases request with
  | submitSm pdu => exact ⟨tailOf_udhdata hk f, tailOf_text hk f⟩
  | dataSm pdu => exact ⟨tailOf_udhdata hk f, tailOf_text hk f⟩

/-- Without part numbers there is only the header to look for. -/
theorem udhOf_of_hasUdh (h : request.HasUdh esme) (msg : Sms) :
    udhOf k esme.version (request.fields esme) msg = splitUdh msg := by
  have hsegmented : (request.fields esme).segmented esme.version = false := by
    apply decide_eq_false
    rintro ⟨-, hparts⟩
    exact h.parts hparts
  simp [udhOf, hsegmented, h.indicator]

theorem toMsg_refused (h : request.AddrsRefused esme) :
    ∃ reason, request.toMsg k esme = some (.error reason) := by
  rcases h with ⟨reason, hrefused⟩
  refine ⟨reason, ?_⟩
  rw [toMsg_eq, smToMsg_of_refused hrefused]
  rfl

/-- Past the addresses a conversion cuts the header off, and then refuses no more. -/
theorem toMsg_of_hasUdh (hk : k.DcsKeepsText) (h : request.HasUdh esme)
    (haddrs : ¬ request.AddrsRefused esme) :
    ∃ start finish, start.msgdata = request.body esme ∧ LeavesText finish ∧
      request.toMsg k esme = (splitUdh start).map (Except.map finish) := by
  cases hconverted : convertAddrs (request.fields esme).sourceAddr
      (request.fields esme).sourceAddrTon (request.fields esme).destinationAddr
      (request.fields esme).destAddrTon with
  | error reason => exact absurd ⟨reason, hconverted⟩ haddrs
  | ok addrs =>
      refine ⟨headOf k esme (request.fields esme) addrs, _, rfl,
        leavesText_finish hk esme request (request.fields esme), ?_⟩
      rw [toMsg_eq, smToMsg_of_addrs hconverted, udhOf_of_hasUdh h, Option.map_map]
      congr 1
      funext r
      cases r <;> rfl

/-! ## The header -/

theorem splitUdh_cons {c : UInt8} {os : Octstr} (hdata : msg.msgdata = some (c :: os)) :
    splitUdh msg = some (if c.toNat + 1 > (c :: os).length then .error smppEsmeRinvesmclass
      else .ok { msg with
        udhdata := some ((c :: os).take (c.toNat + 1))
        msgdata := some ((c :: os).drop (c.toNat + 1)) }) := by
  rw [splitUdh, hdata]
  rfl

/-- A body with a first octet is treated as asked. -/
theorem treatsUdh_of_body (hk : k.DcsKeepsText) (h : request.HasUdh esme)
    (haddrs : ¬ request.AddrsRefused esme) {c : UInt8} {os : Octstr}
    (hbody : request.body esme = some (c :: os)) :
    TreatsUdh esme request (request.toMsg k esme) := by
  rcases toMsg_of_hasUdh hk h haddrs with ⟨start, finish, hstart, hleaves, htoMsg⟩
  rw [htoMsg, splitUdh_cons (hstart.trans hbody), Option.map_some]
  by_cases hlong : c.toNat + 1 > (c :: os).length
  · rw [if_pos hlong]
    exact
      { noCrash := nofun
        accepts := fun msg haccepted => nomatch haccepted
        refuses := fun _ _ => rfl
        cut := fun msg haccepted => nomatch haccepted }
  · rw [if_neg hlong]
    have hholds : HoldsUdh (request.body esme) := ⟨c, os, hbody, Nat.le_of_not_lt hlong⟩
    refine ⟨nofun, fun _ _ => hholds, fun hnot => absurd hholds hnot, ?_⟩
    intro msg haccepted hcoding
    cases haccepted
    have hnot7bit : ∀ n : Int, n = dc8bit ∨ n = dcUcs2 → n ≠ dc7bit := by
      rintro n (rfl | rfl)
      · decide
      · decide
    refine ⟨c, os, _, _, hbody, hleaves.udhdata _, hleaves.msgdata _ (hnot7bit _ hcoding),
      List.take_append_drop _ _, ?_⟩
    exact List.length_take_of_le (Nat.le_of_not_lt hlong)

theorem splitUdh_nil (hdata : msg.msgdata = some []) :
    splitUdh msg = some (.ok { msg with udhdata := some [], msgdata := some [] }) := by
  rw [splitUdh, hdata]
  rfl

/-- The header is treated as asked exactly if the body has a first octet, or if the request is
refused before its body is looked at. -/
theorem treatsUdh_iff (hk : k.DcsKeepsText) (h : request.HasUdh esme) :
    TreatsUdh esme request (request.toMsg k esme) ↔
      request.AddrsRefused esme ∨ ∃ os, request.body esme = some os ∧ os ≠ [] := by
  by_cases haddrs : request.AddrsRefused esme
  · refine iff_of_true ?_ (Or.inl haddrs)
    rcases @toMsg_refused k esme request haddrs with ⟨reason, hrefused⟩
    rw [hrefused]
    exact
      { noCrash := nofun
        accepts := fun msg haccepted => nomatch haccepted
        refuses := fun _ hnot => absurd haddrs hnot
        cut := fun msg haccepted => nomatch haccepted }
  · rcases toMsg_of_hasUdh hk h haddrs with ⟨start, finish, hstart, -, htoMsg⟩
    cases hbody : request.body esme with
    | none =>
        -- the length octet is read from `NULL`
        refine iff_of_false ?_ (by simp [haddrs])
        intro htreats
        apply htreats.noCrash
        rw [htoMsg, splitUdh, hstart, hbody]
        rfl
    | some os =>
        cases os with
        | nil =>
            -- a length of zero passes the check and the message is accepted
            refine iff_of_false ?_ (by simp [haddrs])
            intro htreats
            rw [htoMsg, splitUdh_nil (hstart.trans hbody)] at htreats
            rcases htreats.accepts _ rfl with ⟨c, os, hcons, -⟩
            rw [hbody] at hcons
            cases hcons
        | cons c os =>
            exact iff_of_true (treatsUdh_of_body hk h haddrs hbody)
              (Or.inr ⟨c :: os, rfl, List.cons_ne_nil c os⟩)

/-! ## Bodies with and without a first octet -/

open Submit (sampleKannel sampleSubmitSm)
open Routes (sampleDataSm)

theorem sampleKannel_keepsText : sampleKannel.DcsKeepsText where
  msgdata := fun _ _ => rfl
  udhdata := fun _ _ => rfl

/-- A body whose length octet promises more than there is. -/
theorem treatsUdh_iff_sample :
    TreatsUdh sampleEsme (.dataSm { sampleDataSm with esmClass := 0x40 })
      (SmRequest.toMsg sampleKannel sampleEsme
        (.dataSm { sampleDataSm with esmClass := 0x40 })) := by
  have hudh : SmRequest.HasUdh sampleEsme (.dataSm { sampleDataSm with esmClass := 0x40 }) :=
    ⟨by decide, by decide⟩
  refine (treatsUdh_iff sampleKannel_keepsText hudh).mpr (Or.inr ⟨octstrImm "hello", rfl, ?_⟩)
  decide

/-- A submit_sm with the indicator and nothing else. -/
def absentBody : SmRequest :=
  .submitSm { sampleSubmitSm with esmClass := 0x40, smLength := 0, shortMessage := none }

/-- A data_sm with a payload of no octets. -/
def emptyBody : SmRequest := .dataSm { sampleDataSm with esmClass := 0x40, messagePayload := some [] }

/-- An absent body is read, and an empty one is accepted. -/
theorem body_without_octet_not_refused :
    (absentBody.HasUdh sampleEsme ∧ absentBody.toMsg sampleKannel sampleEsme = none ∧
        ¬ TreatsUdh sampleEsme absentBody (absentBody.toMsg sampleKannel sampleEsme)) ∧
      (emptyBody.HasUdh sampleEsme ∧
        (∃ msg, emptyBody.toMsg sampleKannel sampleEsme = some (.ok msg)) ∧
        ¬ TreatsUdh sampleEsme emptyBody (emptyBody.toMsg sampleKannel sampleEsme)) := by
  have haccepted : ∃ msg, emptyBody.toMsg sampleKannel sampleEsme = some (.ok msg) := ⟨_, rfl⟩
  refine ⟨⟨⟨by decide, by decide⟩, rfl, ?_⟩, ⟨by decide, by decide⟩, haccepted, ?_⟩
  · intro htreats
    exact htreats.noCrash rfl
  · intro htreats
    rcases haccepted with ⟨msg, hmsg⟩
    rcases htreats.accepts msg hmsg with ⟨c, os, hcons, -⟩
    cases hcons

end Ksmppd
