import Ksmppd.Database.Rows
import Ksmppd.Routes.Model

/-!
# Headers — what an HTTP router gets of a message and may send back

`smpp_http_client_msg_to_headers` writes every field that is set into a header of its own, the texts
URL-encoded.  `smpp_http_client_receive_thread` sets every field to the header of its name as it
stands.  Numbers and ids come back that way; a text does if encoding it changes nothing.
-/

namespace Ksmppd
namespace Routes

open Redis (Field smsFields percent hexDigitUpper octstrGetCstr)
open Database (LongFields map_fst_smsFields smsColumns)
open Submit (SmppRouteStatus)

/-! ## The encoder -/

/-- Kannel's table of the octets that `%E` leaves alone; NUL is not among them. -/
structure UrlTable where
  isSafe : UInt8 → Bool
  nul : isSafe 0 = false

/-- A safe octet stands for itself and '+' for a space, every other octet is written as a triple. -/
def octetUrlEncode (table : UrlTable) (c : UInt8) : Octstr :=
  if table.isSafe c then [c]
  else if c = 32 then [43]
  else [percent, hexDigitUpper (c / 16), hexDigitUpper (c % 16)]

/-- `octstr_format("%E", os)`. -/
def octstrUrlEncode (table : UrlTable) (os : Octstr) : Octstr := os.flatMap (octetUrlEncode table)

/-- The header of a field; `headerKey` of its name. -/
def fieldKey (name : Octstr) : Octstr :=
  (octstrImm "X-KSMPPD-" ++ name).map (fun c => if c = 95 then 45 else c)

/-- The value of a field's header, if it has one: `INTEGER(name)`, `OCTSTR(name)` and
`UUID(name)`. -/
def headerText (table : UrlTable) : Field → Option Octstr
  | .integer n => if n = msgParamUndefined then none else some (octstrFormatLong n)
  | .octstr os =>
      if octstrLen os = 0 then none
      -- `http_header_add` takes a C string
      else some (octstrGetCstr (octstrUrlEncode table (os.getD [])))
  | .uuid u => some (smppUuidGet u)

/-- `smpp_http_client_msg_to_headers`. -/
def smppHttpClientMsgToHeaders (table : UrlTable) (msg : Sms) : List (Octstr × Octstr) :=
  (smsFields msg).filterMap (fun p => (headerText table p.2).map (fun val => (fieldKey p.1, val)))

attribute [ext] Sms

/-! ## The answer of the router -/

/-- `http_header_value`. -/
def httpHeaderValue (headers : List (Octstr × Octstr)) (header : Octstr) : Option Octstr :=
  (headers.find? (fun h => octstrToLower h.1 = octstrToLower header)).map Prod.snd

/-- The route is accepted for a cost, and the headers of the message are sent back as they came. -/
def echoedResponse (table : UrlTable) (msg : Sms) (routeCost : Octstr)
    (parseDouble : Octstr → Option Rat) : HttpResponse where
  headerValue := httpHeaderValue ([(headerKey "Route-Status", octstrImm "1"),
    (headerKey "Route-Cost", routeCost)] ++ smppHttpClientMsgToHeaders table msg)
  parseDouble := parseDouble

/-- The texts that are not put back: all but the account of an outbound request and the SMSC of an
inbound one. -/
def overwrittenTexts (direction : Direction) (msg : Sms) : List (Option Octstr) :=
  [msg.sender, msg.receiver, msg.udhdata, msg.msgdata] ++
    (if direction = .inbound then [] else [msg.smscId]) ++ [msg.smscNumber, msg.foreignId] ++
    (if direction = .outbound then [] else [msg.service]) ++
    [msg.account, msg.dlrUrl, msg.charset, msg.boxcId, msg.binfo, msg.metaData]

/-- Encoding leaves the text as it is. -/
def UrlSafe (table : UrlTable) (os : Option Octstr) : Prop :=
  (os.getD []).all table.isSafe = true

variable {table : UrlTable} {msg : Sms} {routeCost os : Octstr} {parseDouble : Octstr → Option Rat}
  {name : String} {direction : Direction}

/-! ## Encoded texts -/

theorem one_le_length_octetUrlEncode (table : UrlTable) (c : UInt8) :
    1 ≤ (octetUrlEncode table c).length := by
  unfold octetUrlEncode
  split
  · simp
  · split
    · simp
    · simp

theorem length_le_octstrUrlEncode (table : UrlTable) (os : Octstr) :
    os.length ≤ (octstrUrlEncode table os).length := by
  induction os with
  | nil => simp
  | cons c os ih =>
      have hone := one_le_length_octetUrlEncode table c
      simp only [octstrUrlEncode] at ih
      simp only [octstrUrlEncode, List.flatMap_cons, List.length_append, List.length_cons]
      omega

theorem octstrUrlEncode_eq_self_iff :
    octstrUrlEncode table os = os ↔ ∀ c ∈ os, table.isSafe c = true := by
  induction os with
  | nil => simp [octstrUrlEncode]
  | cons c os ih =>
      have hcons : octstrUrlEncode table (c :: os) =
          octetUrlEncode table c ++ octstrUrlEncode table os := rfl
      rw [hcons, List.forall_mem_cons, ← ih]
      by_cases hsafe : table.isSafe c = true
      · simp [octetUrlEncode, hsafe]
      · refine iff_of_false ?_ (fun h => hsafe h.1)
        intro heq
        by_cases hspace : c = 32
        · -- the first octet is a '+' now
          subst hspace
          simp only [octetUrlEncode, hsafe] at heq
          have hhead : (43 : UInt8) = 32 := (List.cons.inj heq).1
          exact absurd hhead (by decide)
        · -- the text has become longer
          have hlength := congrArg List.length heq
          have hle := length_le_octstrUrlEncode table os
          simp [octetUrlEncode, hsafe, hspace] at hlength
          omega

theorem nul_not_mem_octstrUrlEncode : (0 : UInt8) ∉ octstrUrlEncode table os := by
  have hdigit : ∀ n : UInt8, n < 16 → hexDigitUpper n ≠ 0 := by
    intro n hn
    unfold hexDigitUpper
    grind
  intro hmem
  rcases List.mem_flatMap.mp hmem with ⟨c, -, hc⟩
  unfold octetUrlEncode at hc
  split at hc
  · rename_i hsafe
    rw [← List.mem_singleton.mp hc, table.nul] at hsafe
    cases hsafe
  · split at hc
    · exact absurd hc (by decide)
    · simp only [List.mem_cons, List.not_mem_nil, or_false] at hc
      rcases hc with hpercent | hhigh | hlow
      · exact absurd hpercent (by decide)
      · exact hdigit (c / 16) (by grind) hhigh.symm
      · exact hdigit (c % 16) (by grind) hlow.symm

theorem octstrGetCstr_eq_self (h : (0 : UInt8) ∉ os) : octstrGetCstr os = os := by
  refine List.takeWhile_eq_self_iff.mpr ?_
  intro c hc
  have hne : c ≠ 0 := fun heq => h (heq ▸ hc)
  simpa using hne

/-! ## Headers by name -/

/-- The names of the headers, as `http_header_value` compares them. -/
theorem nodup_fieldKeys : (smsColumns.map (fun name => octstrToLower (fieldKey name))).Nodup := by
  decide

theorem route_not_mem_fieldKeys :
    octstrToLower (headerKey "Route-Status") ∉
        smsColumns.map (fun name => octstrToLower (fieldKey name)) ∧
      octstrToLower (headerKey "Route-Cost") ∉
        smsColumns.map (fun name => octstrToLower (fieldKey name)) := by
  decide

/-- The headers of fields whose names differ, looked up one by one. -/
theorem httpHeaderValue_filterMap (table : UrlTable) {l : List (Octstr × Field)}
    (hnodup : (l.map (fun p => octstrToLower (fieldKey p.1))).Nodup) {p : Octstr × Field}
    (hp : p ∈ l) :
    httpHeaderValue
        (l.filterMap (fun q => (headerText table q.2).map (fun val => (fieldKey q.1, val))))
        (fieldKey p.1) = headerText table p.2 := by
  have hfind := Lib.findSome?_key_eq (fun q => headerText table q.2) hnodup hp
  rw [← hfind, httpHeaderValue, List.find?_eq_findSome?_guard, List.map_findSome?,
    ← List.head?_filterMap, List.filterMap_filterMap, List.head?_filterMap]
  congr
  funext q
  -- a field with a value has it under its own name
  cases hvalue : headerText table q.2 with
  | none => simp
  | some val =>
      by_cases hname : octstrToLower (fieldKey q.1) = octstrToLower (fieldKey p.1)
      · simp [hname]
      · simp [hname]

/-- The router's own headers do not hide those of the message. -/
theorem echoed_headerValue (table : UrlTable) (routeCost : Octstr)
    (parseDouble : Octstr → Option Rat) {field : Field}
    (h : (octstrImm name, field) ∈ smsFields msg) :
    (echoedResponse table msg routeCost parseDouble).headerValue (headerKey name) =
      headerText table field := by
  have hnames : (smsFields msg).map (fun p => octstrToLower (fieldKey p.1)) =
      smsColumns.map (fun name => octstrToLower (fieldKey name)) := by
    rw [← map_fst_smsFields msg, List.map_map]
    rfl
  have hmem : octstrToLower (headerKey name) ∈
      smsColumns.map (fun name => octstrToLower (fieldKey name)) := by
    rw [← hnames]
    exact List.mem_map.mpr ⟨_, h, rfl⟩
  have hstatus : ¬ octstrToLower (headerKey "Route-Status") = octstrToLower (headerKey name) :=
    fun heq => route_not_mem_fieldKeys.1 (heq ▸ hmem)
  have hcost : ¬ octstrToLower (headerKey "Route-Cost") = octstrToLower (headerKey name) :=
    fun heq => route_not_mem_fieldKeys.2 (heq ▸ hmem)
  have hvalue := httpHeaderValue_filterMap table (hnames ▸ nodup_fieldKeys) h
  have hskip : (echoedResponse table msg routeCost parseDouble).headerValue (headerKey name) =
      httpHeaderValue (smppHttpClientMsgToHeaders table msg) (headerKey name) := by
    simp [echoedResponse, httpHeaderValue, hstatus, hcost]
  rw [hskip]
  exact hvalue

/-- The router has accepted the route. -/
theorem echoed_routeCost {cost : Rat} (hcost : parseDouble routeCost = some cost) :
    (echoedResponse table msg routeCost parseDouble).routeCost = some cost := by
  have hstatus : (echoedResponse table msg routeCost parseDouble).headerValue
      (headerKey "Route-Status") = some (octstrImm "1") := by
    simp [echoedResponse, httpHeaderValue]
  have hvalue : (echoedResponse table msg routeCost parseDouble).headerValue
      (headerKey "Route-Cost") = some routeCost := by
    have hother : ¬ octstrToLower (headerKey "Route-Status") =
        octstrToLower (headerKey "Route-Cost") := by decide
    simp [echoedResponse, httpHeaderValue, hother]
  have hroutes : atoi (octstrImm "1") ≠ 0 := by decide
  -- the status is not zero, so the cost is looked for
  simp only [HttpResponse.routeCost, hstatus, if_pos hroutes, hvalue]
  exact hcost

/-! ## Each kind of field -/

theorem header_of_headerValue {response : HttpResponse} {val : Octstr}
    (h : response.headerValue (headerKey name) = some val) (hne : val ≠ []) :
    response.header name = some val := by
  rw [HttpResponse.header, h, Option.filter_some, if_pos (by simpa using hne)]

theorem header_of_headerValue_none {response : HttpResponse}
    (h : response.headerValue (headerKey name) = none) : response.header name = none := by
  rw [HttpResponse.header, h, Option.filter_none]

theorem echoed_integer {n : Int} (hlong : LongFields msg)
    (h : (octstrImm name, Field.integer n) ∈ smsFields msg) :
    (echoedResponse table msg routeCost parseDouble).integer name n = n := by
  have hn : IsLong n := hlong _ h
  have hvalue := echoed_headerValue table routeCost parseDouble h
  rw [headerText] at hvalue
  split at hvalue
  · rw [HttpResponse.integer, header_of_headerValue_none hvalue]
    rfl
  · rw [HttpResponse.integer, header_of_headerValue hvalue (octstrFormatLong_ne_nil n)]
    exact atol_octstrFormatLong hn

theorem echoed_uuid {u : Uuid} (h : (octstrImm name, Field.uuid u) ∈ smsFields msg) :
    (echoedResponse table msg routeCost parseDouble).uuid name u = u := by
  have hvalue := echoed_headerValue table routeCost parseDouble h
  have hne : smppUuidGet u ≠ [] := List.ne_nil_of_length_pos (by rw [length_smppUuidGet]; decide)
  have hnul : (0 : UInt8) ∉ smppUuidGet u := by
    intro hmem
    have hoctet := octet_of_mem_smppUuidGet hmem
    exact absurd hoctet (by decide)
  -- the id is read as a C string
  have hcstr : (smppUuidGet u).takeWhile (fun c => c ≠ 0) = smppUuidGet u :=
    octstrGetCstr_eq_self hnul
  rw [HttpResponse.uuid, header_of_headerValue hvalue hne, Option.bind_some, hcstr,
    uuidParse_smppUuidGet]
  rfl

theorem echoed_octstr_iff {os : Option Octstr}
    (h : (octstrImm name, Field.octstr os) ∈ smsFields msg) :
    (echoedResponse table msg routeCost parseDouble).octstr name os = os ↔ UrlSafe table os := by
  have hvalue := echoed_headerValue table routeCost parseDouble h
  have hcstr : ∀ text, octstrGetCstr (octstrUrlEncode table text) = octstrUrlEncode table text :=
    fun _ => octstrGetCstr_eq_self nul_not_mem_octstrUrlEncode
  rw [headerText, hcstr] at hvalue
  by_cases hempty : octstrLen os = 0
  · -- there is no header, and the field is left as it is
    rw [if_pos hempty] at hvalue
    rw [HttpResponse.octstr, header_of_headerValue_none hvalue, Option.none_or]
    refine iff_of_true rfl ?_
    cases os with
    | none => rfl
    | some text =>
        have htext : text = [] := List.length_eq_zero_iff.mp hempty
        rw [htext]
        rfl
  · rw [if_neg hempty] at hvalue
    cases os with
    | none => exact absurd rfl hempty
    | some text =>
        have hlength : text.length ≠ 0 := hempty
        have hle := length_le_octstrUrlEncode table text
        have hne : octstrUrlEncode table text ≠ [] := by
          intro hnil
          rw [hnil] at hle
          exact hlength (Nat.le_zero.mp hle)
        rw [HttpResponse.octstr, header_of_headerValue hvalue hne, Option.some_or,
          Option.some.injEq]
        exact octstrUrlEncode_eq_self_iff.trans List.all_eq_true.symm

/-! ## The whole message -/

/-- Numbers and the id come back. -/
theorem overwrite_echoed (hlong : LongFields msg) {response : HttpResponse}
    (hresponse : response = echoedResponse table msg routeCost parseDouble) :
    response.overwrite msg = { msg with
      sender := response.octstr "sender" msg.sender
      receiver := response.octstr "receiver" msg.receiver
      udhdata := response.octstr "udhdata" msg.udhdata
      msgdata := response.octstr "msgdata" msg.msgdata
      smscId := response.octstr "smsc_id" msg.smscId
      smscNumber := response.octstr "smsc_number" msg.smscNumber
      foreignId := response.octstr "foreign_id" msg.foreignId
      service := response.octstr "service" msg.service
      account := response.octstr "account" msg.account
      dlrUrl := response.octstr "dlr_url" msg.dlrUrl
      charset := response.octstr "charset" msg.charset
      boxcId := response.octstr "boxc_id" msg.boxcId
      binfo := response.octstr "binfo" msg.binfo
      metaData := response.octstr "meta_data" msg.metaData } := by
  have hinteger : ∀ k (name : String) {n : Int},
      (smsFields msg)[k]? = some (octstrImm name, Field.integer n) → response.integer name n = n :=
    fun _ _ _ h => hresponse ▸ echoed_integer hlong (List.mem_of_getElem? h)
  have huuid : response.uuid "id" msg.id = msg.id :=
    hresponse ▸ echoed_uuid (List.mem_of_getElem? (i := 10) rfl)
  rw [HttpResponse.overwrite, huuid, hinteger 4 "time" rfl,
    hinteger 11 "sms_type" rfl, hinteger 12 "mclass" rfl,
    hinteger 13 "mwi" rfl, hinteger 14 "coding" rfl,
    hinteger 15 "compress" rfl, hinteger 16 "validity" rfl,
    hinteger 17 "deferred" rfl, hinteger 18 "dlr_mask" rfl,
    hinteger 20 "pid" rfl, hinteger 21 "alt_dcs" rfl,
    hinteger 22 "rpi" rfl, hinteger 26 "msg_left" rfl,
    hinteger 27 "priority" rfl, hinteger 28 "resend_try" rfl,
    hinteger 29 "resend_time" rfl]

theorem restore_echoed_iff (hlong : LongFields msg) (direction : Direction)
    {response : HttpResponse}
    (hresponse : response = echoedResponse table msg routeCost parseDouble) :
    restore direction msg (response.overwrite msg) = msg ↔
      ∀ os ∈ overwrittenTexts direction msg, UrlSafe table os := by
  have hoctstr : ∀ k (name : String) {os : Option Octstr},
      (smsFields msg)[k]? = some (octstrImm name, Field.octstr os) →
        (response.octstr name os = os ↔ UrlSafe table os) :=
    fun _ _ _ h => hresponse ▸ echoed_octstr_iff (List.mem_of_getElem? h)
  have hsmscId := hoctstr 5 "smsc_id" rfl
  have hservice := hoctstr 8 "service" rfl
  have hothers := And.intro (hoctstr 0 "sender" rfl) <|
    And.intro (hoctstr 1 "receiver" rfl) <| And.intro (hoctstr 2 "udhdata" rfl) <|
    And.intro (hoctstr 3 "msgdata" rfl) <| And.intro (hoctstr 6 "smsc_number" rfl) <|
    And.intro (hoctstr 7 "foreign_id" rfl) <| And.intro (hoctstr 9 "account" rfl) <|
    And.intro (hoctstr 19 "dlr_url" rfl) <| And.intro (hoctstr 23 "charset" rfl) <|
    And.intro (hoctstr 24 "boxc_id" rfl) <| And.intro (hoctstr 25 "binfo" rfl)
      (hoctstr 30 "meta_data" rfl)
  rw [overwrite_echoed hlong hresponse, Sms.ext_iff]
  -- the direction decides which of the two ids is put back
  cases direction with
  | unknown => simp [restore, overwrittenTexts, hothers, hsmscId, hservice]
  | outbound => simp [restore, overwrittenTexts, hothers, hsmscId]
  | inbound => simp [restore, overwrittenTexts, hothers, hservice]

/-- A router that sends the headers back leaves the message as it is exactly if the encoding leaves
every text that is overwritten as it is. -/
theorem echoed_message_iff (table : UrlTable) (direction : Direction) (msg : Sms)
    (routeStatus : SmppRouteStatus) (routeCost : Octstr) (parseDouble : Octstr → Option Rat)
    (hlong : LongFields msg) (hcost : (parseDouble routeCost).isSome = true) :
    (smppHttpClientReceiveThread (echoedResponse table msg routeCost parseDouble) direction msg
        routeStatus).1 = msg ↔
      ∀ os ∈ overwrittenTexts direction msg, UrlSafe table os := by
  rcases Option.isSome_iff_exists.mp hcost with ⟨cost, hcost⟩
  rw [smppHttpClientReceiveThread, echoed_routeCost hcost]
  exact restore_echoed_iff hlong direction rfl

/-- Letters, digits and the marks of a URL. -/
def sampleTable : UrlTable where
  isSafe := fun c => isDigit c || (65 ≤ c && c ≤ 90) || (97 ≤ c && c ≤ 122) ||
    (octstrImm "-_.!~*'()").contains c
  nul := by decide

def sampleCost (os : Octstr) : Option Rat := if os = octstrImm "1" then some 1 else none

def sampleRouted (text : String) : Sms :=
  { msgCreateSms (Vector.replicate 16 1) with
    sender := some (octstrImm "12345")
    msgdata := some (octstrImm text)
    dlrMask := 31 }

theorem echoed_message_sample :
    (smppHttpClientReceiveThread
        (echoedResponse sampleTable (sampleRouted "hello") (octstrImm "1") sampleCost) .outbound
        (sampleRouted "hello") (smppRouteStatusCreate (fun _ => 1) (sampleRouted "hello"))).1 =
      sampleRouted "hello" :=
  (echoed_message_iff sampleTable .outbound (sampleRouted "hello") _ (octstrImm "1") sampleCost
    (by decide) (by decide)).mpr (by unfold UrlSafe; decide)

/-- A text with a space comes back with a '+'. -/
theorem echoed_message_encoded :
    (smppHttpClientReceiveThread
        (echoedResponse sampleTable (sampleRouted "two words") (octstrImm "1") sampleCost) .outbound
        (sampleRouted "two words") (smppRouteStatusCreate (fun _ => 1) (sampleRouted "two words"))).1
      ≠ sampleRouted "two words" := by
  intro h
  have hmsgdata : (smppHttpClientReceiveThread
      (echoedResponse sampleTable (sampleRouted "two words") (octstrImm "1") sampleCost) .outbound
      (sampleRouted "two words") (smppRouteStatusCreate (fun _ => 1) (sampleRouted "two words"))
      ).1.msgdata = some (octstrImm "two+words") := by
    decide +kernel
  rw [h] at hmsgdata
  exact absurd hmsgdata (by decide)

end Routes
end Ksmppd
