import Ksmppd.Lib.Pieces
import Ksmppd.EsmeLookup
import Ksmppd.Submit.Model
import Ksmppd.Text

/-!
# DlrUrl — who a receipt is for

`smpp_queues_msg_set_dlr_url` puts the system id of a session, a time and the id of the message
behind each other, with '|' between them, and nothing is escaped.  When the report comes back, the
owner is what stands before the first '|', and the report is built from what `octstr_split` gives.
-/

namespace Ksmppd
namespace Receipts

open Lib Submit

/-- '|' -/
def bar : UInt8 := 124

/-! ## Taking a dlr_url apart -/

/-- `octstr_split` at a single octet. -/
def octstrSplit (os : Octstr) (sep : UInt8) : List Octstr := pieces sep os

/-- `smpp_pdu_get_system_id_from_dlr_url`. -/
def smppPduGetSystemIdFromDlrUrl (receivedDlrUrl : Octstr) : Option Octstr :=
  if bar ∈ receivedDlrUrl then some (receivedDlrUrl.takeWhile (fun c => c ≠ bar)) else none

/-- The session `smpp_bearerbox_inbound_thread` delivers a report to. -/
def receiptReceiver (data : SmppEsmeData) (dlrUrl : Octstr) : Option SmppEsme :=
  smppEsmeFindBestReceiver data (smppPduGetSystemIdFromDlrUrl dlrUrl)

/-- Three texts with '|' between them. -/
def dlrUrl (service time id : Octstr) : Octstr := service ++ bar :: (time ++ bar :: id)

variable {service service' time time' id id' url : Octstr} {env : Env} {s : Session} {msg msg' : Sms}
  {data : SmppEsmeData} {e : SmppEsme}

theorem bar_not_mem_octstrFormatLong (n : Int) : bar ∉ octstrFormatLong n := by
  intro h
  rcases octet_of_mem_octstrFormatLong h with heq | hdigit
  · exact absurd heq (by decide)
  · exact absurd hdigit (by decide)

theorem bar_not_mem_smppUuidGet (u : Uuid) : bar ∉ smppUuidGet u := by
  intro h
  rcases octet_of_mem_smppUuidGet h with heq | hdigit | hletter
  · exact absurd heq (by decide)
  · exact absurd hdigit (by decide)
  · exact absurd hletter (by decide)

/-- What a session without '|' in its name puts in front is what is found there. -/
theorem systemId_of_dlrUrl (hservice : bar ∉ service) :
    smppPduGetSystemIdFromDlrUrl (dlrUrl service time id) = some service := by
  have hmem : bar ∈ dlrUrl service time id := by simp [dlrUrl]
  have hall : ∀ c ∈ service, decide (c ≠ bar) = true := by
    intro c hc
    have hne : c ≠ bar := fun heq => hservice (heq ▸ hc)
    simpa using hne
  have htake : (dlrUrl service time id).takeWhile (fun c => c ≠ bar) = service := by
    rw [dlrUrl, List.takeWhile_append_of_pos hall]
    simp
  rw [smppPduGetSystemIdFromDlrUrl, if_pos hmem, htake]

theorem bar_not_mem_of_systemId (h : smppPduGetSystemIdFromDlrUrl url = some service) :
    bar ∉ service := by
  unfold smppPduGetSystemIdFromDlrUrl at h
  split at h
  · rw [← Option.some.inj h]
    intro hmem
    exact absurd (List.mem_takeWhile_imp hmem) (by simp)
  · cases h

/-- The cut of a `dlr_url`, whose time and id have no '|' in them. -/
theorem octstrSplit_dlrUrl (htime : bar ∉ time) (hid : bar ∉ id) (hne : id ≠ []) :
    octstrSplit (dlrUrl service time id) bar = service.splitOn bar ++ [time, id] := by
  have hassoc : dlrUrl service time id = (service ++ bar :: time) ++ bar :: id := by
    simp [dlrUrl]
  rw [octstrSplit, hassoc, pieces_append hne hid, List.splitOn_append_cons_self,
    List.splitOn_eq_singleton htime]
  simp

/-- It has three pieces exactly if the name in front has no '|' in it. -/
theorem length_octstrSplit_dlrUrl (htime : bar ∉ time) (hid : bar ∉ id) (hne : id ≠ []) :
    (octstrSplit (dlrUrl service time id) bar).length = 3 ↔ bar ∉ service := by
  rw [octstrSplit_dlrUrl htime hid hne, List.length_append, length_splitOn]
  simp [List.count_eq_zero]

theorem octstrSplit_dlrUrl_of_not_mem (hservice : bar ∉ service) (htime : bar ∉ time)
    (hid : bar ∉ id) (hne : id ≠ []) :
    octstrSplit (dlrUrl service time id) bar = [service, time, id] := by
  rw [octstrSplit_dlrUrl htime hid hne, List.splitOn_eq_singleton hservice]
  rfl

/-! ## The dlr_urls of the server -/

theorem smppQueuesMsgSetDlrUrl_eq (hs : s.esme.systemId = some service) :
    smppQueuesMsgSetDlrUrl env s msg = some { msg with
      dlrUrl := some (dlrUrl service (octstrFormatLong env.time) (smppUuidGet msg.id)) } := by
  have hbar : octstrImm "|" = [bar] := rfl
  simp [smppQueuesMsgSetDlrUrl, hs, hbar, dlrUrl]

/-- Both decoders give back what the `dlr_url` was made of. -/
structure TakenApart (systemId : Octstr) (time : Int) (id : Uuid) (url : Octstr) : Prop where
  owner : smppPduGetSystemIdFromDlrUrl url = some systemId
  pieces : octstrSplit url bar = [systemId, octstrFormatLong time, smppUuidGet id]

/-- The `dlr_url`s the server writes for a session with this system id. -/
def WrittenFor (systemId : Octstr) (time : Int) (id : Uuid) (url : Octstr) : Prop :=
  ∃ (env : Env) (s : Session) (msg msg' : Sms), s.esme.systemId = some systemId ∧
    env.time = time ∧ msg.id = id ∧ smppQueuesMsgSetDlrUrl env s msg = some msg' ∧
    msg'.dlrUrl = some url

def envAt (time : Int) : Env where
  time := time
  deducted := true
  inserted := true
  msgToPdu := fun _ => none
  strftime := fun _ => []

def sessionNamed (systemId : Octstr) : Session where
  esme := { smppEsmeCreate 0 with systemId := some systemId }
  account := none

theorem writtenFor_iff {systemId : Octstr} {time : Int} {id : Uuid} :
    WrittenFor systemId time id url ↔
      url = dlrUrl systemId (octstrFormatLong time) (smppUuidGet id) := by
  constructor
  · rintro ⟨env, s, msg, msg', hs, rfl, rfl, hset, hurl⟩
    rw [smppQueuesMsgSetDlrUrl_eq hs] at hset
    cases hset
    exact (Option.some.inj hurl).symm
  · rintro rfl
    -- any session of that name writes it, at that time and for a message with that id
    exact ⟨envAt time, sessionNamed systemId, msgCreateSms id, _, rfl, rfl, rfl,
      smppQueuesMsgSetDlrUrl_eq rfl, rfl⟩

/-- For all system ids the authentication accepts: each `dlr_url` is taken apart without loss, no two
of them share a decoded owner, and a receipt goes to a session of its own account. -/
structure KeptApart (accepts : Octstr → Prop) : Prop where
  takenApart : ∀ systemId, accepts systemId → ∀ time id url, WrittenFor systemId time id url →
    TakenApart systemId time id url
  unshared : ∀ systemId other, accepts systemId → accepts other → systemId ≠ other →
    ∀ time id url time' id' url', WrittenFor systemId time id url →
      WrittenFor other time' id' url' →
      smppPduGetSystemIdFromDlrUrl url ≠ smppPduGetSystemIdFromDlrUrl url'
  delivered : ∀ systemId, accepts systemId → ∀ time id url, WrittenFor systemId time id url →
    ∀ data e, receiptReceiver data url = some e →
      e.id ∈ bindsOf data (octstrToLower systemId)

theorem takenApart_of_not_mem {systemId : Octstr} {time : Int} {id : Uuid}
    (hbar : bar ∉ systemId) (hurl : WrittenFor systemId time id url) :
    TakenApart systemId time id url := by
  rw [writtenFor_iff] at hurl
  subst hurl
  have hne : smppUuidGet id ≠ [] := List.ne_nil_of_length_pos (by simp [length_smppUuidGet])
  exact ⟨systemId_of_dlrUrl hbar, octstrSplit_dlrUrl_of_not_mem hbar
    (bar_not_mem_octstrFormatLong time) (bar_not_mem_smppUuidGet id) hne⟩

theorem receiver_mem_bindsOf {systemId : Octstr}
    (h : smppEsmeFindBestReceiver data (some systemId) = some e) :
    e.id ∈ bindsOf data (octstrToLower systemId) :=
  (mem_bestReceiverBinds.mp (bestReceiver_spec h).2.1).2

/-- The accounts are kept apart exactly if no accepted system id has a '|' in it. -/
theorem keptApart_iff (accepts : Octstr → Prop) :
    KeptApart accepts ↔ ∀ systemId, accepts systemId → bar ∉ systemId := by
  constructor
  · intro hkept systemId haccepts
    have hurl : WrittenFor systemId 0 (Vector.replicate 16 0) _ := writtenFor_iff.mpr rfl
    exact bar_not_mem_of_systemId (hkept.takenApart systemId haccepts _ _ _ hurl).owner
  · intro hbar
    refine ⟨fun systemId h _ _ _ => takenApart_of_not_mem (hbar systemId h), ?_, ?_⟩
    · intro systemId other h h' hne time id url time' id' url' hurl hurl' hsame
      have howner := (takenApart_of_not_mem (hbar systemId h) hurl).owner
      have howner' := (takenApart_of_not_mem (hbar other h') hurl').owner
      rw [hsame, howner'] at howner
      exact hne (Option.some.inj howner).symm
    · intro systemId h time id url hurl data e hreceiver
      rw [receiptReceiver, (takenApart_of_not_mem (hbar systemId h) hurl).owner] at hreceiver
      exact receiver_mem_bindsOf hreceiver

/-- The receipts of `acme|eu` are decoded as receipts of `acme`. -/
theorem not_keptApart_bar :
    ¬ KeptApart (fun systemId => systemId = octstrImm "acme" ∨ systemId = octstrImm "acme|eu") := by
  intro hkept
  have hurl : WrittenFor (octstrImm "acme|eu") 1700000000 (Vector.replicate 16 0) _ :=
    writtenFor_iff.mpr rfl
  have howner := (hkept.takenApart _ (Or.inr rfl) _ _ _ hurl).owner
  exact bar_not_mem_of_systemId howner (by decide)

end Receipts
end Ksmppd
