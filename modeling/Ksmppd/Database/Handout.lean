import Ksmppd.Database.Claims
import Ksmppd.Delivery.Model

/-!
# Handout — what the relational backend hands out for delivery

Three functions hand out what is queued for an ESME: `get_stored_pdu` and `get_stored`, which leave
out the rows marked in `pending_pdu` and `pending_msg`, and `get_dlrs`, which leaves out the rows
whose column `processed` is set.  A mark is set when a row is handed out; the column only when the
answer of the ESME has come.
-/

namespace Ksmppd
namespace Database

open Lib

/-! ## Data -/

/-- A row of the table `database-dlr-table`. -/
structure DlrRow where
  globalId : Nat
  messageId : Option Octstr
  service : Option Octstr
  status : Option Octstr
  errCode : Option Octstr
  submitDate : Option Octstr
  doneDate : Option Octstr
  destinationAddr : Option Octstr
  sourceAddr : Option Octstr
  smscId : Option Octstr
  text : Option Octstr
  processed : Bool
  deriving DecidableEq, Repr

/-- The tables of the relational backend with its marks; and which rows are handed out and not
settled yet. -/
structure HandoutState where
  store : StoreState
  pdus : Delivery.PduStore
  databaseDlrTable : Option Octstr
  databaseDlrDeleteProcessed : Bool
  dlrs : Keyed DlrRow.globalId
  outMsgs : List StoredMsg
  outPdus : List Octstr
  outDlrs : List Nat

/-! ## The PDU table -/

/-- `smpp_database_mysql_get_stored_pdu`, where the query gives the rows with these ids. -/
def smppDatabaseMysqlGetStoredPdu (s : HandoutState) (service : Octstr) (limit : Nat)
    (globalIds : List Octstr) : Option HandoutState :=
  if globalIds.Nodup ∧ globalIds.length ≤ limit ∧ ∀ globalId ∈ globalIds,
      globalId ∉ s.pdus.pendingPdu ∧ ∃ row ∈ s.pdus.rows.entries, row.globalId = globalId ∧
        s.store.settings.sameService (some row.systemId) (some service) = true then
    some { s with
      pdus := globalIds.foldl (fun pdus globalId => pdus.take .mysql globalId) s.pdus
      outPdus := s.outPdus ++ globalIds }
  else none

/-- The callback of a PDU from the table; `deleted` is whether a `DELETE` succeeds. -/
def settlePdu (s : HandoutState) (globalId : Octstr) (status : Int) (deleted : Bool) :
    Option HandoutState :=
  let q : SmppQueuedPdu := { smppQueuedPduCreate with
    callback := some .mysqlQueuedPdu, bearerboxId := some globalId, smppServer := true }
  (smppDatabaseMysqlQueuedPduHandler q status).map (fun calls =>
    { s with
      pdus := (calls.filter (fun c => deleted || c ≠ .removeStoredPdu (some globalId))).foldl
        Delivery.applyCall s.pdus
      outPdus := s.outPdus.erase globalId })

/-! ## The DLR table -/

/-- The `WHERE` of the `SELECT` in `smpp_database_mysql_get_dlrs`. -/
def HandoutState.selectsDlr (s : HandoutState) (service : Option Octstr) (row : DlrRow) : Bool :=
  s.store.settings.sameService row.service service && !row.processed

/-- `smpp_database_mysql_get_dlrs`, where the query gives these rows. -/
def smppDatabaseMysqlGetDlrs (s : HandoutState) (service : Option Octstr) (limit : Nat)
    (rows : List DlrRow) : Option HandoutState :=
  if octstrLen s.databaseDlrTable = 0 then
    if rows = [] then some s else none
  else if rows.Nodup ∧ rows.length ≤ effectiveLimit limit ∧
      ∀ row ∈ rows, row ∈ s.dlrs.entries ∧ s.selectsDlr service row = true then
    some { s with outDlrs := s.outDlrs ++ rows.map DlrRow.globalId }
  else none

/-- The statement `smpp_database_mysql_remove_dlr` executes. -/
def removeDlrRow (s : HandoutState) (globalId : Nat) : Keyed DlrRow.globalId :=
  if s.databaseDlrDeleteProcessed then s.dlrs.remove globalId
  else
    match s.dlrs.find? globalId with
    | some row => s.dlrs.put { row with processed := true }
    | none => s.dlrs

/-- `smpp_database_mysql_remove_dlr`; `updated` is whether its statement succeeds. -/
def smppDatabaseMysqlRemoveDlr (s : HandoutState) (globalId : Nat) (updated : Bool) :
    HandoutState :=
  if octstrLen s.databaseDlrTable = 0 then s
  else if updated then
    { s with dlrs := removeDlrRow s globalId, outDlrs := s.outDlrs.filter (fun g => g ≠ globalId) }
  else s

/-! ## Steps -/

inductive HandoutLabel
  /-- A row is inserted, under a new primary key. -/
  | addPdu (row : Delivery.StoredPdu)
  | addMsg (kind : StoreKind) (globalId : Nat) (msg : Sms)
  | addDlr (row : DlrRow)
  /-- A poll. -/
  | getStoredPdu (service : Octstr) (limit : Nat) (globalIds : List Octstr)
  | getStored (smsType : Int) (service : Option Octstr) (kind : StoreKind) (rows : List StoredMsg)
  | getDlrs (service : Option Octstr) (limit : Nat) (rows : List DlrRow)
  /-- A settlement. -/
  | pduCallback (globalId : Octstr) (status : Int) (deleted : Bool)
  | remove (globalId : Nat) (temporary deleted : Bool)
  | removeDlr (globalId : Nat) (updated : Bool)

def handoutStep (s : HandoutState) : HandoutLabel → Option HandoutState
  | .addPdu row =>
      if row.globalId ∉ s.pdus.globalIds then some { s with pdus := s.pdus.add row } else none
  | .addMsg kind globalId msg =>
      let m := newMsg s.store kind globalId msg
      if ∃ row ∈ s.store.stores m.storeTable, row.globalId = globalId then none
      else some { s with store := s.store.setStore m.storeTable (s.store.stores m.storeTable ++ [m]) }
  | .addDlr row =>
      if (s.dlrs.find? row.globalId).isNone then some { s with dlrs := s.dlrs.put row } else none
  | .getStoredPdu service limit globalIds => smppDatabaseMysqlGetStoredPdu s service limit globalIds
  | .getStored smsType service kind rows =>
      (smppDatabaseMysqlGetStored s.store smsType service kind rows).map (fun (store, messages) =>
        { s with store := store, outMsgs := s.outMsgs ++ messages })
  | .getDlrs service limit rows => smppDatabaseMysqlGetDlrs s service limit rows
  | .pduCallback globalId status deleted =>
      if globalId ∈ s.outPdus then settlePdu s globalId status deleted else none
  | .remove globalId temporary deleted =>
      some { s with
        store := smppDatabaseMysqlRemove s.store globalId temporary deleted
        outMsgs := s.outMsgs.filter (fun m => m.globalId ≠ globalId) }
  | .removeDlr globalId updated => some (smppDatabaseMysqlRemoveDlr s globalId updated)

/-- Empty tables; every content can be inserted first. -/
def handoutInit (settings : StoreSettings) (databaseDlrTable : Option Octstr)
    (databaseDlrDeleteProcessed : Bool) : HandoutState where
  store := storeInit settings .mysql
  pdus := { rows := Keyed.empty, globalIds := [], pendingPdu := [] }
  databaseDlrTable := databaseDlrTable
  databaseDlrDeleteProcessed := databaseDlrDeleteProcessed
  dlrs := Keyed.empty
  outMsgs := []
  outPdus := []
  outDlrs := []

/-- Nothing is handed out a second time before it is settled. -/
structure HandedOnce (s : HandoutState) : Prop where
  msgs : s.outMsgs.Nodup
  pdus : s.outPdus.Nodup
  dlrs : s.outDlrs.Nodup

/-- An account's DLRs are polled only when none of those handed out before is still unsettled. -/
def PollsSettledDlrs (s : HandoutState) : HandoutLabel → Prop
  | .getDlrs service _ _ =>
      ∀ row ∈ s.dlrs.entries, s.selectsDlr service row = true → row.globalId ∉ s.outDlrs
  | _ => True

instance (s : HandoutState) (l : HandoutLabel) : Decidable (PollsSettledDlrs s l) :=
  match l with
  | .getDlrs service _ _ =>
      inferInstanceAs (Decidable (∀ row ∈ s.dlrs.entries,
        s.selectsDlr service row = true → row.globalId ∉ s.outDlrs))
  | .addPdu _ => isTrue trivial
  | .addMsg _ _ _ => isTrue trivial
  | .addDlr _ => isTrue trivial
  | .getStoredPdu _ _ _ => isTrue trivial
  | .getStored _ _ _ _ => isTrue trivial
  | .pduCallback _ _ _ => isTrue trivial
  | .remove _ _ _ => isTrue trivial
  | .removeDlr _ _ => isTrue trivial

/-! ## What is handed out is marked -/

/-- Messages and PDUs that are out carry a mark; for DLRs there is none. -/
structure HandoutMarks (s : HandoutState) : Prop where
  msgs : MysqlClaims s.store s.outMsgs
  pdus : s.outPdus.Nodup
  marked : ∀ globalId ∈ s.outPdus, globalId ∈ s.pdus.pendingPdu
  dlrs : s.outDlrs.Nodup

variable {s t : HandoutState}

theorem HandoutMarks.handedOnce (h : HandoutMarks s) : HandedOnce s :=
  ⟨h.msgs.ids.of_map, h.pdus, h.dlrs⟩

theorem mem_pendingPdu_foldl_take {pdus : Delivery.PduStore} {globalId : Octstr}
    {globalIds : List Octstr} (h : globalId ∈ pdus.pendingPdu ∨ globalId ∈ globalIds) :
    globalId ∈ (globalIds.foldl (fun p g => p.take .mysql g) pdus).pendingPdu := by
  induction globalIds generalizing pdus with
  | nil => simpa using h
  | cons g gs ih =>
      apply ih
      rcases h with h | h
      · exact Or.inl (List.mem_cons_of_mem g h)
      · rcases List.mem_cons.mp h with rfl | h
        · exact Or.inl List.mem_cons_self
        · exact Or.inr h

theorem handoutMarks_getStoredPdu {service : Octstr} {limit : Nat} {globalIds : List Octstr}
    (h : HandoutMarks s)
    (hget : smppDatabaseMysqlGetStoredPdu s service limit globalIds = some t) :
    HandoutMarks t := by
  unfold smppDatabaseMysqlGetStoredPdu at hget
  split at hget
  · rename_i hrows
    rcases hrows with ⟨hnodup, -, hfree⟩
    cases hget
    refine ⟨h.msgs, ?_, ?_, h.dlrs⟩
    · apply h.pdus.append hnodup
      intro globalId hout hnew
      exact (hfree globalId hnew).1 (h.marked globalId hout)
    · intro globalId hmem
      apply mem_pendingPdu_foldl_take
      rcases List.mem_append.mp hmem with hout | hnew
      · exact Or.inl (h.marked globalId hout)
      · exact Or.inr hnew
  · cases hget

/-- The callback of a PDU takes its mark away, and no other. -/
theorem settlePdu_spec {globalId : Octstr} {status : Int} {deleted : Bool}
    (h : settlePdu s globalId status deleted = some t) :
    t.store = s.store ∧ t.dlrs = s.dlrs ∧ t.outMsgs = s.outMsgs ∧ t.outDlrs = s.outDlrs ∧
      t.outPdus = s.outPdus.erase globalId ∧
      t.pdus.pendingPdu = s.pdus.pendingPdu.filter (fun g => g ≠ globalId) := by
  by_cases hdelete : status ≠ smppQueuedPduDestroyed ∧
      status ≠ smppEsmeCommandStatusWaitAckTimeout
  · simp only [settlePdu, smppDatabaseMysqlQueuedPduHandler, hdelete, if_true, ne_eq,
      not_false_eq_true, and_self, Option.map_some, Option.some.injEq] at h
    subst h
    cases deleted with
    | true => simp [Delivery.applyCall]
    | false => simp [Delivery.applyCall]
  · simp only [settlePdu, smppDatabaseMysqlQueuedPduHandler, hdelete, if_true, if_false,
      Option.map_some, Option.some.injEq] at h
    subst h
    cases deleted with
    | true => simp [Delivery.applyCall]
    | false => simp [Delivery.applyCall]

theorem handoutMarks_settlePdu {globalId : Octstr} {status : Int} {deleted : Bool}
    (h : HandoutMarks s) (hsettle : settlePdu s globalId status deleted = some t) :
    HandoutMarks t := by
  rcases settlePdu_spec hsettle with ⟨hstore, -, hmsgs, hdlrs, hpdus, hpending⟩
  refine ⟨by rw [hstore, hmsgs]; exact h.msgs, by rw [hpdus]; exact h.pdus.erase globalId, ?_,
    by rw [hdlrs]; exact h.dlrs⟩
  intro g hg
  rw [hpdus] at hg
  rcases (h.pdus.mem_erase_iff).mp hg with ⟨hne, hout⟩
  rw [hpending]
  exact List.mem_filter.mpr ⟨h.marked g hout, by simpa using hne⟩

theorem handoutMarks_getDlrs {service : Option Octstr} {limit : Nat} {rows : List DlrRow}
    (h : HandoutMarks s) (hok : PollsSettledDlrs s (.getDlrs service limit rows))
    (hget : smppDatabaseMysqlGetDlrs s service limit rows = some t) : HandoutMarks t := by
  unfold smppDatabaseMysqlGetDlrs at hget
  split at hget
  · split at hget
    · cases hget
      exact h
    · cases hget
  · split at hget
    · rename_i hrows
      rcases hrows with ⟨hnodup, -, hselect⟩
      cases hget
      refine ⟨h.msgs, h.pdus, h.marked, ?_⟩
      have hids : (rows.map DlrRow.globalId).Nodup :=
        nodup_map_of_mem hnodup s.dlrs.nodup (fun x hx => (hselect x hx).1)
      -- nothing but the condition keeps a selected row from being out already
      apply h.dlrs.append hids
      intro globalId hout hnew
      rcases List.mem_map.mp hnew with ⟨row, hrow, rfl⟩
      exact hok row (hselect row hrow).1 (hselect row hrow).2 hout
    · cases hget

theorem handoutMarks_addMsg {kind : StoreKind} {globalId : Nat} {msg : Sms} (h : HandoutMarks s)
    (hstep : handoutStep s (.addMsg kind globalId msg) = some t) : HandoutMarks t := by
  simp only [handoutStep] at hstep
  split at hstep
  · cases hstep
  · rename_i hfresh
    cases hstep
    exact ⟨h.msgs.insert hfresh, h.pdus, h.marked, h.dlrs⟩

theorem handoutMarks_step {l : HandoutLabel} (h : HandoutMarks s) (hok : PollsSettledDlrs s l)
    (hstep : handoutStep s l = some t) : HandoutMarks t := by
  cases l with
  | addPdu row =>
      simp only [handoutStep] at hstep
      split at hstep
      · cases hstep
        exact ⟨h.msgs, h.pdus, h.marked, h.dlrs⟩
      · cases hstep
  | addMsg kind globalId msg => exact handoutMarks_addMsg h hstep
  | addDlr row =>
      simp only [handoutStep] at hstep
      split at hstep
      · cases hstep
        exact ⟨h.msgs, h.pdus, h.marked, h.dlrs⟩
      · cases hstep
  | getStoredPdu service limit globalIds => exact handoutMarks_getStoredPdu h hstep
  | getStored smsType service kind rows =>
      simp only [handoutStep, Option.map_eq_some_iff] at hstep
      rcases hstep with ⟨⟨store, messages⟩, hget, rfl⟩
      exact ⟨(h.msgs.getStored hget).1, h.pdus, h.marked, h.dlrs⟩
  | getDlrs service limit rows => exact handoutMarks_getDlrs h hok hstep
  | pduCallback globalId status deleted =>
      simp only [handoutStep] at hstep
      split at hstep
      · exact handoutMarks_settlePdu h hstep
      · cases hstep
  | remove globalId temporary deleted =>
      cases hstep
      have hrest := h.msgs.sublist (List.filter_sublist (p := fun m => m.globalId ≠ globalId))
      refine ⟨hrest.remove ?_ temporary deleted, h.pdus, h.marked, h.dlrs⟩
      intro m hm
      simpa using (List.mem_filter.mp hm).2
  | removeDlr globalId updated =>
      cases hstep
      unfold smppDatabaseMysqlRemoveDlr
      split
      · exact h
      · split
        · exact ⟨h.msgs, h.pdus, h.marked, h.dlrs.filter _⟩
        · exact h

theorem handoutMarks_init (settings : StoreSettings) (databaseDlrTable : Option Octstr)
    (databaseDlrDeleteProcessed : Bool) :
    HandoutMarks (handoutInit settings databaseDlrTable databaseDlrDeleteProcessed) :=
  ⟨(claims_mysql rfl).mp (claims_init settings .mysql), List.nodup_nil, by simp [handoutInit],
    List.nodup_nil⟩

/-- As long as each account's DLRs are polled only after those handed out before are settled, no
row of the three tables is handed out again before it is settled. -/
theorem rows_handed_out_once {settings : StoreSettings} {databaseDlrTable : Option Octstr}
    {databaseDlrDeleteProcessed : Bool} {ls : List HandoutLabel}
    (hrun : Run handoutStep PollsSettledDlrs
      (handoutInit settings databaseDlrTable databaseDlrDeleteProcessed) ls s) :
    HandedOnce s :=
  (hrun.invariant HandoutMarks (fun _ _ _ h hok hstep => handoutMarks_step h hok hstep)
    (handoutMarks_init settings databaseDlrTable databaseDlrDeleteProcessed)).handedOnce

def sampleDlr : DlrRow where
  globalId := 1
  messageId := some (octstrImm "id")
  service := some (octstrImm "esme")
  status := some (octstrImm "DELIVRD")
  errCode := none
  submitDate := none
  doneDate := none
  destinationAddr := none
  sourceAddr := none
  smscId := none
  text := none
  processed := false

def sampleHandout : HandoutState := handoutInit sampleSettings (some (octstrImm "dlr")) true

/-- The DLR is answered before the next poll. -/
def samplePolls : List HandoutLabel :=
  [.addDlr sampleDlr, .getDlrs sampleDlr.service 1 [sampleDlr], .removeDlr 1 true,
    .getDlrs sampleDlr.service 1 []]

theorem rows_handed_out_once_sample :
    ∃ s, Run handoutStep PollsSettledDlrs sampleHandout samplePolls s ∧ HandedOnce s := by
  have hexec : (execute handoutStep PollsSettledDlrs sampleHandout samplePolls).isSome = true := by
    decide +kernel
  rcases Option.isSome_iff_exists.mp hexec with ⟨s, hs⟩
  exact ⟨s, run_of_execute hs, rows_handed_out_once (run_of_execute hs)⟩

/-- The next poll comes before the answer. -/
def sampleRepoll : List HandoutLabel :=
  [.addDlr sampleDlr, .getDlrs sampleDlr.service 1 [sampleDlr],
    .getDlrs sampleDlr.service 1 [sampleDlr]]

/-- A DLR that is not answered yet is handed out by the next poll too. -/
theorem dlr_handed_out_twice :
    ∃ s, Run handoutStep anyStep sampleHandout sampleRepoll s ∧ ¬ HandedOnce s := by
  have hexec : ((execute handoutStep anyStep sampleHandout sampleRepoll).any
      (fun s => decide (s.outDlrs = [1, 1]))) = true := by
    decide +kernel
  rcases exists_run_of_execute hexec with ⟨s, hs, hout⟩
  refine ⟨s, hs, ?_⟩
  intro honce
  have hnodup := honce.dlrs
  rw [of_decide_eq_true hout] at hnodup
  simp at hnodup

end Database
end Ksmppd
