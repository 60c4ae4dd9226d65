import Ksmppd.Database.Drain
import Ksmppd.Sessions.Charges
import Ksmppd.Sessions.Quiet

/-!
# Backends — what the authentication backends answer

The database reads the settings of a client from the columns of its row, the HTTP backend from the
headers of a response.  They read the same settings, with one exception: there is no header for
prepaid billing, so that a client authenticated over HTTP never pays.
-/

namespace Ksmppd
namespace Sessions

open Lib
open Database (atoi overrideOf)

variable {n : Nat}

/-! ## Reading numbers -/

/-- `atof`; what is no number reads as zero. -/
structure Atof where
  value : Octstr → Rat
  value_nil : value [] = 0
  value_null : value (octstrImm "(null)") = 0

/-- `octstr_get_cstr`, which stands in for a missing text. -/
def octstrGetCstr (os : Option Octstr) : Octstr := os.getD (octstrImm "(null)")

/-- The result of `atol` as an `unsigned long`. -/
def atolUnsigned (os : Octstr) : Nat := (atol os % 2 ^ 64).toNat

/-- The answer of a backend: what the bind handler takes over, and the rest. -/
structure BackendAnswer where
  result : SmppEsmeAuthResult
  callbackUrl : Option Octstr
  allowedIps : Option Octstr

/-- A setting that is left out, or empty, is not there. -/
def present (os : Option Octstr) : Option Octstr := os.filter (fun v => v ≠ [])

/-! ## The database -/

/-- `smpp_database_mysql_authenticate` once the row is there; a column that is `NULL` is `none`. -/
def answerOfRow (atof : Atof) (row : Nat → Option Octstr) : BackendAnswer :=
  let simulate := (row 3).any (fun v => atoi v ≠ 0)
  { result := {
      throughput := atof.value (octstrGetCstr (row 0))
      defaultSmsc := row 1
      defaultCost := atof.value (octstrGetCstr (row 9))
      maxBinds := atoi (octstrGetCstr (row 10))
      enablePrepaidBilling := atoi (octstrGetCstr (row 11)) ≠ 0
      databaseStorePrimary :=
        (present (row 13)).elim smppAuthDatabaseStorePrimaryInherit (fun v => overrideOf (atoi v))
      simulate := simulate
      -- the columns of the simulation are read where it is on
      simulateDlrFail := simulate && (row 4).any (fun v => atoi v ≠ 0)
      simulateDeliverEvery := if simulate then (row 5).elim 0 atolUnsigned else 0
      simulatePermanentFailureEvery := if simulate then (row 6).elim 0 atolUnsigned else 0
      simulateTemporaryFailureEvery := if simulate then (row 7).elim 0 atolUnsigned else 0
      simulateMoEvery := if simulate then (row 8).elim 0 atolUnsigned else 0 }
    callbackUrl := row 2
    allowedIps := present (row 12) }

/-- `smpp_database_mysql_authenticate`, from the rows of its query. -/
def smppDatabaseMysqlAuthenticated (atof : Atof) (rows : List (Nat → Option Octstr)) :
    Option BackendAnswer :=
  rows.head?.map (answerOfRow atof)

/-! ## The HTTP backend -/

/-- What `http_receive_result` brings; the headers are read by `http_header_value`. -/
structure HttpAuthReply where
  status : Int
  headers : Option (Octstr → Option Octstr)

/-- A header with something in it. -/
def headerOf (headers : Octstr → Option Octstr) (name : String) : Option Octstr :=
  present (headers (octstrImm name))

def answerOfHeaders (atof : Atof) (headers : Octstr → Option Octstr) : BackendAnswer where
  result := {
    throughput := (headerOf headers "x-ksmppd-throughput").elim 0 atof.value
    maxBinds := (headerOf headers "x-ksmppd-max-binds").elim 0 atoi
    simulate := (headerOf headers "x-ksmppd-simulate").any (fun v => atoi v ≠ 0)
    simulateDlrFail := (headerOf headers "x-ksmppd-simulate-dlr-fail").any (fun v => atoi v ≠ 0)
    simulateDeliverEvery :=
      (headerOf headers "x-ksmppd-simulate-deliver-every").elim 0 atolUnsigned
    simulateMoEvery := (headerOf headers "x-ksmppd-simulate-mo-every").elim 0 atolUnsigned
    simulatePermanentFailureEvery :=
      (headerOf headers "x-ksmppd-permanent-failure-every").elim 0 atolUnsigned
    simulateTemporaryFailureEvery :=
      (headerOf headers "x-ksmppd-temporary-failure-every").elim 0 atolUnsigned
    defaultSmsc := headerOf headers "x-ksmppd-default-smsc"
    defaultCost := (headerOf headers "x-ksmppd-default-smsc-cost").elim 0 atof.value
    databaseStorePrimary := (headerOf headers "x-ksmppd-database-store-primary").elim
      smppAuthDatabaseStorePrimaryInherit (fun v => overrideOf (atoi v)) }
  callbackUrl := headerOf headers "x-ksmppd-callback-url"
  allowedIps := headerOf headers "x-ksmppd-connect-allow-ip"

/-- `smpp_http_client_auth`, from the response to its request. -/
def smppHttpClientAuth (atof : Atof) (reply : HttpAuthReply) : Option BackendAnswer :=
  if reply.status = 200 then
    reply.headers.bind (fun headers =>
      (headerOf headers "x-ksmppd-auth").bind (fun auth =>
        if atoi auth ≠ 0 then some (answerOfHeaders atof headers) else none))
  else none

/-! ## The same settings -/

/-- The columns of the query, and the header each has over HTTP; column 11 is
`enable_prepaid_billing` and has none. -/
def columnHeaders : List (Nat × String) :=
  [(0, "x-ksmppd-throughput"), (1, "x-ksmppd-default-smsc"), (2, "x-ksmppd-callback-url"),
    (3, "x-ksmppd-simulate"), (4, "x-ksmppd-simulate-dlr-fail"),
    (5, "x-ksmppd-simulate-deliver-every"), (6, "x-ksmppd-permanent-failure-every"),
    (7, "x-ksmppd-temporary-failure-every"), (8, "x-ksmppd-simulate-mo-every"),
    (9, "x-ksmppd-default-smsc-cost"), (10, "x-ksmppd-max-binds"),
    (12, "x-ksmppd-connect-allow-ip"), (13, "x-ksmppd-database-store-primary")]

/-- The headers carry the texts of a row. -/
def Carries (headers : Octstr → Option Octstr) (row : Nat → Option Octstr) : Prop :=
  ∀ x ∈ columnHeaders, headerOf headers x.2 = present (row x.1)

/-- The answer with billing turned off. -/
def withoutBilling (r : SmppEsmeAuthResult) : SmppEsmeAuthResult :=
  { r with enablePrepaidBilling := false }

variable {headers : Octstr → Option Octstr} {row : Nat → Option Octstr}

theorem present_of_ne {v : Octstr} (h : v ≠ []) : present (some v) = some v := by
  simp [present, Option.filter, h]

theorem present_elim {β : Type*} {d : β} {f : Octstr → β} (hf : f [] = d) (os : Option Octstr) :
    (present os).elim d f = os.elim d f := by
  cases os with
  | none => rfl
  -- an empty text is left out over HTTP, and is read as a number in the database
  | some v =>
      by_cases hv : v = []
      · subst hv
        exact hf.symm
      · rw [present_of_ne hv]

theorem present_any {p : Octstr → Bool} (hp : p [] = false) (os : Option Octstr) :
    (present os).any p = os.any p := by
  cases os with
  | none => rfl
  | some v =>
      by_cases hv : v = []
      · subst hv
        exact hp.symm
      · rw [present_of_ne hv]

/-- A missing number reads as one that is left out. -/
theorem elim_octstrGetCstr {β : Type*} {d : β} {f : Octstr → β}
    (hnull : f (octstrImm "(null)") = d) (os : Option Octstr) :
    os.elim d f = f (octstrGetCstr os) := by
  cases os with
  | none => exact hnull.symm
  | some v => rfl

theorem octstrLen_present (os : Option Octstr) : octstrLen (present os) = octstrLen os := by
  cases os with
  | none => rfl
  | some v =>
      by_cases hv : v = []
      · subst hv
        rfl
      · rw [present_of_ne hv]

theorem present_of_octstrLen {os : Option Octstr} (h : octstrLen os ≠ 0) : present os = os := by
  cases os with
  | none => rfl
  | some v =>
      have hv : v ≠ [] := by
        rintro rfl
        exact h rfl
      exact present_of_ne hv

/-- What the two backends read from the same texts, one setting after the other. -/
structure SameAnswer (web table : SmppEsmeAuthResult) : Prop where
  throughput : web.throughput = table.throughput
  maxBinds : web.maxBinds = table.maxBinds
  defaultCost : web.defaultCost = table.defaultCost
  defaultSmsc : web.defaultSmsc = present table.defaultSmsc
  databaseStorePrimary : web.databaseStorePrimary = table.databaseStorePrimary
  altCharset : web.altCharset = table.altCharset
  billing : web.enablePrepaidBilling = false
  simulate : web.simulate = table.simulate
  simulateDlrFail : web.simulate = true → web.simulateDlrFail = table.simulateDlrFail
  simulateDeliverEvery :
    web.simulate = true → web.simulateDeliverEvery = table.simulateDeliverEvery
  simulateMoEvery : web.simulate = true → web.simulateMoEvery = table.simulateMoEvery
  simulatePermanentFailureEvery : web.simulate = true →
    web.simulatePermanentFailureEvery = table.simulatePermanentFailureEvery
  simulateTemporaryFailureEvery : web.simulate = true →
    web.simulateTemporaryFailureEvery = table.simulateTemporaryFailureEvery

theorem sameAnswer (atof : Atof) (h : Carries headers row) :
    SameAnswer (answerOfHeaders atof headers).result (answerOfRow atof row).result := by
  -- a number is read alike from a column and from its header
  have hnumber : ∀ {column : Nat} {name : String} {β : Type} {d : β} {f : Octstr → β},
      (column, name) ∈ columnHeaders → f [] = d →
      (headerOf headers name).elim d f = (row column).elim d f := by
    intro column name β d f hmem hf
    rw [h (column, name) hmem]
    exact present_elim hf _
  have hflag : ∀ {column : Nat} {name : String}, (column, name) ∈ columnHeaders →
      (headerOf headers name).any (fun v => atoi v ≠ 0) =
        (row column).any (fun v => atoi v ≠ 0) := by
    intro column name hmem
    rw [h (column, name) hmem]
    exact present_any (by decide) _
  have hsimulate : (answerOfHeaders atof headers).result.simulate =
      (row 3).any (fun v => atoi v ≠ 0) := hflag (by simp [columnHeaders])
  -- the intervals of the simulation count where it is on, from both sources
  have hevery : ∀ {column : Nat} {name : String}, (column, name) ∈ columnHeaders →
      (answerOfHeaders atof headers).result.simulate = true →
      (headerOf headers name).elim 0 atolUnsigned =
        if (row 3).any (fun v => atoi v ≠ 0) then (row column).elim 0 atolUnsigned else 0 := by
    intro column name hmem hon
    rw [if_pos (hsimulate.symm.trans hon)]
    exact hnumber hmem (by decide)
  exact {
    throughput := (hnumber (by simp [columnHeaders]) atof.value_nil).trans
      (elim_octstrGetCstr atof.value_null (row 0))
    maxBinds := (hnumber (by simp [columnHeaders]) (by decide)).trans
      (elim_octstrGetCstr (by decide) (row 10))
    defaultCost := (hnumber (by simp [columnHeaders]) atof.value_nil).trans
      (elim_octstrGetCstr atof.value_null (row 9))
    defaultSmsc := h (1, "x-ksmppd-default-smsc") (by simp [columnHeaders])
    databaseStorePrimary := by
      simp only [answerOfHeaders, answerOfRow]
      rw [h (13, "x-ksmppd-database-store-primary") (by simp [columnHeaders])]
    altCharset := rfl
    billing := rfl
    simulate := hsimulate
    simulateDlrFail := by
      intro hon
      simp only [answerOfHeaders, answerOfRow, hsimulate.symm.trans hon, Bool.true_and]
      exact hflag (by simp [columnHeaders])
    simulateDeliverEvery := hevery (by simp [columnHeaders])
    simulateMoEvery := hevery (by simp [columnHeaders])
    simulatePermanentFailureEvery := hevery (by simp [columnHeaders])
    simulateTemporaryFailureEvery := hevery (by simp [columnHeaders]) }

section SameAnswer

variable {web table : SmppEsmeAuthResult}

/-- Settings of a simulation that is off are not taken over. -/
theorem configureEsme_of_same (h : SameAnswer web table) (e : SmppEsme) :
    configureEsme web e = configureEsme (withoutBilling table) e := by
  have hsmsc : (if octstrLen web.defaultSmsc ≠ 0 then web.defaultSmsc else e.defaultSmsc) =
      if octstrLen table.defaultSmsc ≠ 0 then table.defaultSmsc else e.defaultSmsc := by
    rw [h.defaultSmsc, octstrLen_present]
    split
    · rename_i hlen
      exact present_of_octstrLen hlen
    · rfl
  -- where the simulation is off its other settings differ, and `configureEsme` skips them
  cases hsimulate : web.simulate with
  | false =>
      have htable : table.simulate = false := h.simulate.symm.trans hsimulate
      simp only [configureEsme, withoutBilling, hsmsc, h.altCharset, h.defaultCost, hsimulate,
        htable, Bool.false_eq_true, if_false]
  | true =>
      have htable : table.simulate = true := h.simulate.symm.trans hsimulate
      simp only [configureEsme, withoutBilling, hsmsc, h.altCharset, h.defaultCost, hsimulate,
        htable, if_true, h.simulateDlrFail hsimulate, h.simulateDeliverEvery hsimulate,
        h.simulateMoEvery hsimulate, h.simulatePermanentFailureEvery hsimulate,
        h.simulateTemporaryFailureEvery hsimulate]

theorem configureGlobal_of_same (h : SameAnswer web table) (smppServer : SmppServer)
    (g : SmppEsmeGlobal) :
    configureGlobal smppServer web g = configureGlobal smppServer (withoutBilling table) g := by
  have hprimary : smppEsmeEffectiveDatabaseStorePrimary smppServer web =
      smppEsmeEffectiveDatabaseStorePrimary smppServer (withoutBilling table) := by
    have hflag : (withoutBilling table).databaseStorePrimary = web.databaseStorePrimary :=
      h.databaseStorePrimary.symm
    unfold smppEsmeEffectiveDatabaseStorePrimary
    rw [hflag]
  simp only [configureGlobal, hprimary, h.throughput, h.maxBinds, h.billing]
  rfl

theorem handleBind_of_same (h : SameAnswer web table) (smppServer : SmppServer)
    (data : SmppEsmeData) (e : SmppEsme) (p : Bind) :
    smppQueuesHandleBindPdu smppServer data e p (some web) =
      smppQueuesHandleBindPdu smppServer data e p (some (withoutBilling table)) := by
  cases hkey : p.systemId with
  | none => simp only [smppQueuesHandleBindPdu, hkey]
  | some key =>
      simp only [smppQueuesHandleBindPdu, hkey, configureEsme_of_same h,
        configureGlobal_of_same h]

theorem auth_of_same (h : SameAnswer web table) (data : SmppEsmeData) (systemId : Octstr)
    (denied : Bool) :
    (smppEsmeAuth data systemId denied (some web)).isSome =
      (smppEsmeAuth data systemId denied (some table)).isSome := by
  simp only [smppEsmeAuth, h.maxBinds]
  split
  · rfl
  · split
    · rfl
    · rfl

end SameAnswer

/-- A client whose settings come in headers is let in where its row in the user table would let it
in, from the same addresses, and its bind leaves the same session and the same account behind, but
with prepaid billing turned off. -/
theorem http_binds_as_table (atof : Atof) {headers : Octstr → Option Octstr}
    {row : Nat → Option Octstr} (h : Carries headers row) (smppServer : SmppServer)
    (data : SmppEsmeData) (e : SmppEsme) (p : Bind) :
    (answerOfHeaders atof headers).allowedIps = (answerOfRow atof row).allowedIps ∧
      (∀ systemId denied,
        (smppEsmeAuth data systemId denied (some (answerOfHeaders atof headers).result)).isSome =
          (smppEsmeAuth data systemId denied (some (answerOfRow atof row).result)).isSome) ∧
      smppQueuesHandleBindPdu smppServer data e p (some (answerOfHeaders atof headers).result) =
        smppQueuesHandleBindPdu smppServer data e p
          (some (withoutBilling (answerOfRow atof row).result)) := by
  have hsame := sameAnswer atof h
  exact ⟨h (12, "x-ksmppd-connect-allow-ip") (by simp [columnHeaders]),
    fun systemId denied => auth_of_same hsame data systemId denied,
    handleBind_of_same hsame smppServer data e p⟩

/-- Whole numbers only. -/
def sampleAtof : Atof where
  value := fun os => atol os
  value_nil := rfl
  value_null := rfl

/-- A client that may send five messages a second, bind twice, and has to pay. -/
def sampleRow : Nat → Option Octstr := fun column =>
  ([(0, octstrImm "5"), (10, octstrImm "2"), (11, octstrImm "1")] : List (Nat × Octstr)).lookup
    column

def sampleHeaders : Octstr → Option Octstr := fun key =>
  [(octstrImm "x-ksmppd-auth", octstrImm "1"), (octstrImm "x-ksmppd-throughput", octstrImm "5"),
    (octstrImm "x-ksmppd-max-binds", octstrImm "2")].lookup key

theorem http_binds_as_table_sample :
    Carries sampleHeaders sampleRow ∧
      smppQueuesHandleBindPdu sampleSettings smppEsmeInit (smppEsmeCreate 0)
        (sampleBind (octstrImm "test")) (some (answerOfHeaders sampleAtof sampleHeaders).result) =
        smppQueuesHandleBindPdu sampleSettings smppEsmeInit (smppEsmeCreate 0)
          (sampleBind (octstrImm "test"))
          (some (withoutBilling (answerOfRow sampleAtof sampleRow).result)) := by
  have hcarries : Carries sampleHeaders sampleRow := by
    unfold Carries
    decide +kernel
  exact ⟨hcarries, (http_binds_as_table sampleAtof hcarries _ _ _ _).2.2⟩

/-! ## Nobody pays over HTTP -/

/-- Every answer of the backend meets the condition. -/
def AnswersMeet (P : SmppEsmeAuthResult → Prop) (_ : GrantState n) : Label n → Prop
  | .bindCheck _ _ authResult => ∀ r, authResult = some r → P r
  | _ => True

/-- And so do those that threads still hold, and those that were accepted. -/
structure HeldMeet (P : SmppEsmeAuthResult → Prop) (g : GrantState n) : Prop where
  binding : ∀ b ∈ g.server.binding, ∀ r, b.authResult = some r → P r
  granted : ∀ x ∈ g.granted, P x.2

theorem binding_step {s t : ServerState n} {l : Label n}
    (hcheck : ∀ i denied authResult, l ≠ .bindCheck i denied authResult)
    (hfinish : ∀ i, l ≠ .bindFinish i) (h : step s l = some t) : t.binding = s.binding := by
  -- steps that only move PDUs and counters leave the threads of binds alone
  by_cases hquiet : IsQuietLabel l
  · exact (quiet_step hquiet h).binding
  cases l with
  | accept =>
      cases h
      rfl
  | hangUp esme =>
      rcases Option.map_eq_some_iff.mp h with ⟨e, -, rfl⟩
      unfold ServerState.hangUp
      split <;> rfl
  | bindCheck i denied authResult => exact absurd rfl (hcheck i denied authResult)
  | bindFinish i => exact absurd rfl (hfinish i)
  | outbound i =>
      rcases outbound_cases h with ⟨q, esme, e, -, -, -, rfl⟩
      split
      · unfold ServerState.hangUp
        split <;> rfl
      · rfl
  | sweep key j =>
      rcases sweep_cases h with ⟨g, esme, e, -, -, -, -, -, rfl⟩
      rfl
  | destroy esme =>
      rcases destroy_cases h with ⟨e, -, -, -, -, rfl⟩
      rfl
  | shutdown =>
      simp only [step] at h
      split at h
      · cases h
      · cases h
        rfl
  | _ => exact absurd trivial hquiet

/-- `smpp_esme_auth` passes the answer of the backend on, or refuses it. -/
theorem smppEsmeAuth_eq_some {data : SmppEsmeData} {systemId : Octstr} {denied : Bool}
    {authResult : Option SmppEsmeAuthResult} {r : SmppEsmeAuthResult}
    (h : smppEsmeAuth data systemId denied authResult = some r) : authResult = some r := by
  cases authResult with
  | none => cases h
  | some r' =>
      simp only [smppEsmeAuth] at h
      split at h
      · cases h
      · split at h
        · cases h
        · exact h

theorem heldMeet_step {P : SmppEsmeAuthResult → Prop} {g g' : GrantState n} {l : Label n}
    (h : HeldMeet P g) (hok : AnswersMeet P g l) (hstep : grantStep g l = some g') :
    HeldMeet P g' := by
  rcases Option.map_eq_some_iff.mp hstep with ⟨t, ht, rfl⟩
  have hgranted : ∀ x ∈ acceptedAfter g.server g.granted l, P x.2 := by
    intro x hx
    unfold acceptedAfter at hx
    split at hx
    · cases hx
    rcases List.mem_append.mp hx with hnew | hold
    · -- a bind that is accepted now was held before
      cases l with
      | bindFinish i =>
          rcases Option.bind_eq_some_iff.mp (Option.mem_toList.mp hnew) with ⟨b, hget, hrest⟩
          rcases Option.bind_eq_some_iff.mp hrest with ⟨r, hauth, hname⟩
          rcases Option.map_eq_some_iff.mp hname with ⟨key, -, rfl⟩
          exact h.binding b (List.mem_of_getElem? hget) r hauth
      | _ => cases hnew
    · exact h.granted x hold
  refine ⟨?_, hgranted⟩
  intro b hb r hr
  cases l with
  | bindCheck i denied authResult =>
      rcases bindCheck_cases ht with ⟨esme, p, e, -, -, -, rfl⟩
      -- the answer of a new bind is the one the step was given, or it was refused
      rcases List.mem_append.mp hb with hold | hnew
      · exact h.binding b hold r hr
      · obtain rfl := List.mem_singleton.mp hnew
        exact hok r (smppEsmeAuth_eq_some hr)
  | bindFinish i =>
      rcases bindFinish_cases ht with ⟨b', e, data, q, -, -, -, rfl⟩
      exact h.binding b (List.mem_of_mem_eraseIdx hb) r hr
  | _ =>
      have hbinding := binding_step (by simp) (by simp) ht
      exact h.binding b (hbinding ▸ hb) r hr

theorem heldMeet_run {P : SmppEsmeAuthResult → Prop} {smppServer : SmppServer}
    {ids : Fin n → Option Octstr} {ls : List (Label n)} {g : GrantState n}
    (hrun : Run grantStep (AnswersMeet P) (grantInit smppServer ids) ls g) : HeldMeet P g :=
  hrun.invariant (HeldMeet P) (fun _ _ _ h hok hstep => heldMeet_step h hok hstep)
    ⟨fun _ hb => (List.not_mem_nil hb).elim, fun _ hx => (List.not_mem_nil hx).elim⟩

/-- Every client is authenticated by the HTTP backend, whatever it responds. -/
def AnsweredOverHttp (atof : Atof) (_ : GrantState n) : Label n → Prop
  | .bindCheck _ _ authResult =>
      ∃ reply, authResult = (smppHttpClientAuth atof reply).map BackendAnswer.result
  | _ => True

theorem billing_of_http {atof : Atof} {reply : HttpAuthReply} {r : SmppEsmeAuthResult}
    (h : (smppHttpClientAuth atof reply).map BackendAnswer.result = some r) :
    r.enablePrepaidBilling = false := by
  rcases Option.map_eq_some_iff.mp h with ⟨answer, hanswer, rfl⟩
  unfold smppHttpClientAuth at hanswer
  split at hanswer
  · rcases Option.bind_eq_some_iff.mp hanswer with ⟨headers, -, hrest⟩
    rcases Option.bind_eq_some_iff.mp hrest with ⟨auth, -, hauth⟩
    split at hauth
    · cases hauth
      rfl
    · cases hauth
  · cases hanswer

theorem mem_of_lookup {granted : List (Octstr × SmppEsmeAuthResult)} {key : Octstr}
    {r : SmppEsmeAuthResult} (h : granted.lookup key = some r) : (key, r) ∈ granted := by
  rcases List.lookup_eq_some_iff.mp h with ⟨before, behind, rfl, -⟩
  simp

theorem prepaid_eq_false {granted : List (Octstr × SmppEsmeAuthResult)}
    (h : ∀ x ∈ granted, x.2.enablePrepaidBilling = false) (e : SmppEsme) :
    prepaid granted e = false := by
  unfold prepaid
  cases hkey : e.smppEsmeGlobal with
  | none => rfl
  | some key =>
      cases hlookup : granted.lookup key with
      -- no bind was accepted under this name
      | none => simp [hlookup]
      | some r =>
          have hmem : (key, r) ∈ granted := mem_of_lookup hlookup
          simpa [hlookup] using h _ hmem

/-- Where all clients are authenticated over HTTP, no account is ever prepaid and no step ever
deducts credit, whatever the responses of the backend say. -/
theorem http_never_charged {atof : Atof} {smppServer : SmppServer} {ids : Fin n → Option Octstr}
    {ls : List (Label n)} {g : GrantState n}
    (hrun : Run grantStep (AnsweredOverHttp atof) (grantInit smppServer ids) ls g) :
    (∀ key a, g.server.data.esmes.find? key = some a → a.enablePrepaidBilling = false) ∧
      ∀ l g', grantStep g l = some g' → deductions g.server l = [] := by
  have hmeet : ∀ (g : GrantState n) (l : Label n), AnsweredOverHttp atof g l →
      AnswersMeet (fun r => r.enablePrepaidBilling = false) g l := by
    intro g l hl
    cases l with
    | bindCheck i denied authResult =>
        intro r hr
        rcases hl with ⟨reply, rfl⟩
        exact billing_of_http hr
    | _ => trivial
  have hheld := heldMeet_run (hrun.mono hmeet)
  have hconfigured := configured_run hrun
  refine ⟨?_, ?_⟩
  · intro key a hfind
    rcases granted_of_account hconfigured hfind with ⟨r, hlookup, hflag⟩
    rw [← hflag]
    exact hheld.granted _ (mem_of_lookup hlookup)
  · intro l g' hstep
    rcases Option.map_eq_some_iff.mp hstep with ⟨t, ht, -⟩
    -- what a step deducts is what the accepted binds let it deduct
    rw [deductions_eq_dueBy hconfigured ht]
    cases l with
    | routingDone i routeStatus env inserted =>
        simp only [dueBy, prepaid_eq_false hheld.granted, Bool.false_and, Bool.false_eq_true,
          if_false]
        -- whatever message the router has answered for
        generalize (g.server.routing[i]?).bind _ = o
        cases o <;> rfl
    | _ => rfl

/-- The backend has only this answer. -/
def Replies (authResult : Option SmppEsmeAuthResult) (_ : GrantState n) : Label n → Bool
  | .bindCheck _ _ answered => decide (answered = authResult)
  | _ => true

theorem http_never_charged_sample :
    ∃ g, Run grantStep (AnsweredOverHttp sampleAtof)
      (grantInit sampleSettings (fun _ : Fin 0 => none))
      [.accept, .receive 0 (.bind (sampleBind (octstrImm "test"))),
        .bindCheck 0 false (some (answerOfHeaders sampleAtof sampleHeaders).result),
        .bindFinish 0] g ∧
      (∀ key a, g.server.data.esmes.find? key = some a → a.enablePrepaidBilling = false) ∧
      ∀ l g', grantStep g l = some g' → deductions g.server l = [] := by
  let granted := some (answerOfHeaders sampleAtof sampleHeaders).result
  have hexec : (execute grantStep (fun g l => Replies granted g l = true)
      (grantInit sampleSettings (fun _ : Fin 0 => none))
      [.accept, .receive 0 (.bind (sampleBind (octstrImm "test"))), .bindCheck 0 false granted,
        .bindFinish 0]).any (fun g => g.granted.length == 1) = true := by
    decide +kernel
  rcases exists_run_of_execute hexec with ⟨g, hreplies, -⟩
  have hok : ∀ (g : GrantState 0) (l : Label 0), Replies granted g l = true →
      AnsweredOverHttp sampleAtof g l := by
    intro g l hl
    cases l with
    | bindCheck i denied authResult =>
        exact ⟨{ status := 200, headers := some sampleHeaders }, of_decide_eq_true hl⟩
    | _ => trivial
  exact ⟨g, hreplies.mono hok, http_never_charged (hreplies.mono hok)⟩

end Sessions
end Ksmppd
