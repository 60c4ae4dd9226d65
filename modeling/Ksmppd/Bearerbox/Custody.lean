import Mathlib.Tactic.DeriveFintype
import Mathlib.Data.Fintype.Sum
import Mathlib.Data.List.Perm.Basic
import Ksmppd.Lib.Custody
import Ksmppd.Lib.Transition
import Ksmppd.Bearerbox.Model

/-!
# Custody of the messages handed to the bearerbox threads

Every message is in exactly one of the shared queue, the hands of a writer, the `open_acks` of a
connection, or settled, and its callback was called once if it is settled and not before.  The
steps move messages between places; the totals are those of `Ksmppd.Lib.Custody`.
-/

namespace Ksmppd
namespace Bearerbox

open Lib

variable {n : Nat} {κ : Type}

/-! ## Places -/

inductive Place (n : Nat)
  | outboundQueue
  | writer (b : Fin n)
  | openAcks (b : Fin n)
  | settled
  deriving DecidableEq, Fintype

def callbackId? : Event n κ → Option Octstr
  | .callback m _ => some m.id
  | _ => none

def destroyedId? : Event n κ → Option Octstr
  | .destroyed m => some m.id
  | _ => none

/-- How often each place holds the message with a given id. -/
def holding (s : SmppBearerboxState n κ) : Holding (Place n) Octstr
  | .outboundQueue, id => (s.outboundQueue.map (·.id)).count id
  | .writer b, id => ((s.bearerboxes b).writer.held.map (·.id)).count id
  | .openAcks b, id => (s.bearerboxes b).openAcks.held id
  | .settled, id => (s.log.filterMap destroyedId?).count id

/-- How often the callback of the message with a given id was called. -/
def callbacks (s : SmppBearerboxState n κ) (id : Octstr) : Nat :=
  (s.log.filterMap callbackId?).count id

/-- The ids a step hands over. -/
def handed : Label n κ → List Octstr
  | .addMessage msg _ _ => [smppUuidGet msg.id]
  | _ => []

def handedIds (ls : List (Label n κ)) : List Octstr := ls.flatMap handed

@[simp] theorem handedIds_append_singleton (ls : List (Label n κ)) (l : Label n κ) :
    handedIds (ls ++ [l]) = handedIds ls ++ handed l := by
  simp [handedIds]

@[simp] theorem withBoxcId_id (box : SmppBearerbox κ) (m : SmppBearerboxMsg κ) :
    (withBoxcId box m).id = m.id := rfl

@[simp] theorem bearerboxes_record (s : SmppBearerboxState n κ) (es : List (Event n κ)) :
    (s.record es).bearerboxes = s.bearerboxes := rfl

@[simp] theorem bearerboxes_setBox_self (s : SmppBearerboxState n κ) (b : Fin n)
    (box : SmppBearerbox κ) : (s.setBox b box).bearerboxes b = box := by
  simp [SmppBearerboxState.setBox]

theorem bearerboxes_setBox_of_ne (s : SmppBearerboxState n κ) {b c : Fin n} (h : c ≠ b)
    (box : SmppBearerbox κ) : (s.setBox b box).bearerboxes c = s.bearerboxes c := by
  simp [SmppBearerboxState.setBox, h]

/-! ## What an operation does to the places -/

theorem count_singleton_id (k id : Octstr) : [k].count id = if id = k then 1 else 0 := by
  by_cases h : id = k
  · simp [h]
  · simp [h, Ne.symm h]

/-- Only the two places of the connection `b` change when its record does. -/
theorem holding_setBox_elsewhere (s : SmppBearerboxState n κ) (b : Fin n) (box : SmppBearerbox κ)
    {p : Place n} (hw : p ≠ .writer b) (ho : p ≠ .openAcks b) (id : Octstr) :
    holding (s.setBox b box) p id = holding s p id := by
  cases p with
  | outboundQueue => rfl
  | settled => rfl
  | writer c =>
      have hc : c ≠ b := fun h => hw (by rw [h])
      simp [holding, bearerboxes_setBox_of_ne s hc]
  | openAcks c =>
      have hc : c ≠ b := fun h => ho (by rw [h])
      simp [holding, bearerboxes_setBox_of_ne s hc]

theorem holding_record_of_ne_settled (s : SmppBearerboxState n κ) (es : List (Event n κ))
    {p : Place n} (hp : p ≠ .settled) (id : Octstr) :
    holding (s.record es) p id = holding s p id := by
  cases p with
  | settled => exact absurd rfl hp
  | outboundQueue => rfl
  | writer c => rfl
  | openAcks c => rfl

theorem holding_record_settled (s : SmppBearerboxState n κ) (es : List (Event n κ)) (id : Octstr) :
    holding (s.record es) .settled id =
      holding s .settled id + (es.filterMap destroyedId?).count id := by
  simp [holding, SmppBearerboxState.record]

/-- A message given to the shared queue is queued, or settled on the spot. -/
theorem addToQueue_intake (s : SmppBearerboxState n κ) (m : SmppBearerboxMsg κ) (inserted : Bool) :
    ∃ p, Intake (holding s) (holding (smppBearerboxAddToQueue s m inserted)) p m.id := by
  by_cases hon : s.online
  · refine ⟨.outboundQueue, ?_, ?_⟩
    · intro id
      simp [smppBearerboxAddToQueue, hon, holding, count_singleton_id]
    · intro r id hr
      cases r with
      | outboundQueue => exact absurd rfl hr
      | writer c => simp [smppBearerboxAddToQueue, hon, holding]
      | openAcks c => simp [smppBearerboxAddToQueue, hon, holding]
      | settled => simp [smppBearerboxAddToQueue, hon, holding]
  · -- no bearerbox is online: the callback is called at once, with the outcome of the insert if
    -- the database queue is enabled
    have hrec : ∃ es : List (Event n κ), smppBearerboxAddToQueue s m inserted = s.record es ∧
        es.filterMap destroyedId? = [m.id] := by
      cases hq : s.databaseEnableQueue with
      | true =>
          refine ⟨[.addQueueMessage m inserted,
            .callback m (if inserted then 0 else smppEsmeRsyserr), .destroyed m], ?_, ?_⟩
          · simp [smppBearerboxAddToQueue, hon, hq]
          · rfl
      | false =>
          refine ⟨[.callback m smppEsmeRsyserr, .destroyed m], ?_, ?_⟩
          · simp [smppBearerboxAddToQueue, hon, hq]
          · rfl
    rcases hrec with ⟨es, hs, hes⟩
    refine ⟨.settled, ?_, ?_⟩
    · intro id
      simpa [hs, hes, count_singleton_id] using holding_record_settled s es id
    · intro r id hr
      simpa [hs] using holding_record_of_ne_settled s es hr id

/-- The writer of `b` moves messages between its hands and the `open_acks` of `b`. -/
theorem writer_exchange (s : SmppBearerboxState n κ) (b : Fin n) (box : SmppBearerbox κ)
    (hbox : ∀ id, (box.writer.held.map (·.id)).count id + box.openAcks.held id =
      ((s.bearerboxes b).writer.held.map (·.id)).count id + (s.bearerboxes b).openAcks.held id) :
    Exchange (holding s) (holding (s.setBox b box)) (.writer b) (.openAcks b) := by
  refine ⟨by simp, ?_, ?_⟩
  · intro id
    simpa [holding] using hbox id
  · intro r id hw ho
    exact holding_setBox_elsewhere s b box hw ho id

/-- The reader of `b` takes messages out of `open_acks` and settles them. -/
theorem reader_exchange (s : SmppBearerboxState n κ) (b : Fin n) (box : SmppBearerbox κ)
    (es : List (Event n κ)) (hwriter : box.writer.held = (s.bearerboxes b).writer.held)
    (hacks : ∀ id, box.openAcks.held id + (es.filterMap destroyedId?).count id =
      (s.bearerboxes b).openAcks.held id) :
    Exchange (holding s) (holding ((s.setBox b box).record es)) (.openAcks b) .settled := by
  refine ⟨by simp, ?_, ?_⟩
  · intro id
    have hset : holding (s.setBox b box) .settled id = holding s .settled id := rfl
    have hopen : holding (s.setBox b box) (.openAcks b) id = box.openAcks.held id := by
      simp [holding]
    have hold : holding s (.openAcks b) id = (s.bearerboxes b).openAcks.held id := rfl
    have hkey := hacks id
    rw [holding_record_settled, holding_record_of_ne_settled _ _ (by simp), hset, hopen, hold]
    omega
  · intro r id ho hs
    rw [holding_record_of_ne_settled _ _ hs]
    by_cases hw : r = .writer b
    · subst hw
      simp [holding, hwriter]
    · exact holding_setBox_elsewhere s b box hw ho id

/-- A message taken from the queue is in the writer's hands. -/
theorem consume_exchange (s : SmppBearerboxState n κ) (b : Fin n) {i : Nat} {m : SmppBearerboxMsg κ}
    (hidle : (s.bearerboxes b).writer = .idle) (hget : s.outboundQueue[i]? = some m) :
    Exchange (holding s)
      (holding (({ s with outboundQueue := s.outboundQueue.eraseIdx i } :
        SmppBearerboxState n κ).setBox b { s.bearerboxes b with writer := .consumed m }))
      .outboundQueue (.writer b) := by
  rcases List.getElem?_eq_some_iff.mp hget with ⟨hi, hm⟩
  have hperm : (m :: s.outboundQueue.eraseIdx i).Perm s.outboundQueue := by
    simpa [hm] using List.getElem_cons_eraseIdx_perm hi
  refine ⟨by simp, ?_, ?_⟩
  · intro id
    have hcount := (hperm.map (·.id)).count_eq id
    have hqueue : (m.id :: (s.outboundQueue.eraseIdx i).map (·.id)).count id =
        ((s.outboundQueue.eraseIdx i).map (·.id)).count id + [m.id].count id := by
      rw [← List.singleton_append, List.count_append, Nat.add_comm]
    simp only [List.map_cons] at hcount
    simp [holding, SmppBearerboxState.setBox, hidle, Writer.held, ← hcount, hqueue]
  · intro r id hq hw
    by_cases ho : r = .openAcks b
    · subst ho
      simp [holding, SmppBearerboxState.setBox]
    · rw [holding_setBox_elsewhere _ b _ hw ho]
      cases r with
      | outboundQueue => exact absurd rfl hq
      | writer c => rfl
      | openAcks c => rfl
      | settled => rfl

/-- Every message of a cleaned-up table has its callback called once and is destroyed once. -/
theorem ackCleanup_settles (acks : List (SmppBearerboxMsg κ)) :
    (ackCleanup acks : List (Event n κ)).filterMap callbackId? = acks.map SmppBearerboxMsg.id ∧
      (ackCleanup acks : List (Event n κ)).filterMap destroyedId? = acks.map SmppBearerboxMsg.id := by
  induction acks with
  | nil => exact ⟨rfl, rfl⟩
  | cons m acks ih =>
      have hcons : (ackCleanup (m :: acks) : List (Event n κ)) =
          [.callback m smppEsmeRsyserr, .destroyed m] ++ ackCleanup acks := rfl
      rcases ih with ⟨hcalled, hdestroyed⟩
      constructor
      · rw [hcons, List.filterMap_append, hcalled]
        rfl
      · rw [hcons, List.filterMap_append, hdestroyed]
        rfl

/-! ## The invariant -/

/-- Every id handed over is held once, callbacks and settled messages agree, and a message being
written stands in the `open_acks` of its connection. -/
structure Custodial (ids : List Octstr) (s : SmppBearerboxState n κ) : Prop where
  total : ∀ id, total (holding s) id = ids.count id
  called : s.log.filterMap callbackId? = s.log.filterMap destroyedId?
  writing : ∀ b m, (s.bearerboxes b).writer = .writing m →
    m ∈ (s.bearerboxes b).openAcks.entries

theorem custodial_init (databaseEnableQueue : Bool) (boxes : Fin n → Option Octstr) :
    Custodial [] (smppBearerboxInit databaseEnableQueue boxes : SmppBearerboxState n κ) where
  total := by
    intro id
    apply Finset.sum_eq_zero
    intro p _
    cases p with
    | outboundQueue => rfl
    | writer b => rfl
    | openAcks b => rfl
    | settled => rfl
  called := rfl
  writing := by
    intro b m h
    cases h

/-- Steps that leave the handed ids alone keep the totals by an exchange, or by changing none. -/
theorem Custodial.of_exchange {ids : List Octstr} {s t : SmppBearerboxState n κ} {p q : Place n}
    (h : Custodial ids s) (hex : Exchange (holding s) (holding t) p q)
    (hcalled : t.log.filterMap callbackId? = t.log.filterMap destroyedId?)
    (hwriting : ∀ b m, (t.bearerboxes b).writer = .writing m →
      m ∈ (t.bearerboxes b).openAcks.entries) : Custodial ids t where
  total := by
    intro id
    rw [hex.total_eq, h.total]
  called := hcalled
  writing := hwriting

/-- The condition on the writers after the record of one connection has changed. -/
theorem writing_setBox {ids : List Octstr} {s : SmppBearerboxState n κ} (h : Custodial ids s)
    {b : Fin n} {box : SmppBearerbox κ}
    (hbox : ∀ m, box.writer = .writing m → m ∈ box.openAcks.entries) :
    ∀ c m, ((s.setBox b box).bearerboxes c).writer = .writing m →
      m ∈ ((s.setBox b box).bearerboxes c).openAcks.entries := by
  intro c m hm
  by_cases hc : c = b
  · subst hc
    simp only [bearerboxes_setBox_self] at hm ⊢
    exact hbox m hm
  · rw [bearerboxes_setBox_of_ne s hc] at hm ⊢
    exact h.writing c m hm

@[simp] theorem bearerboxes_addToQueue (s : SmppBearerboxState n κ) (m : SmppBearerboxMsg κ)
    (inserted : Bool) : (smppBearerboxAddToQueue s m inserted).bearerboxes = s.bearerboxes := by
  unfold smppBearerboxAddToQueue
  split
  · rfl
  · split <;> rfl

theorem called_addToQueue {s : SmppBearerboxState n κ} (m : SmppBearerboxMsg κ) (inserted : Bool)
    (h : s.log.filterMap callbackId? = s.log.filterMap destroyedId?) :
    (smppBearerboxAddToQueue s m inserted).log.filterMap callbackId? =
      (smppBearerboxAddToQueue s m inserted).log.filterMap destroyedId? := by
  unfold smppBearerboxAddToQueue
  split
  · exact h
  · split
    · simp [SmppBearerboxState.record, h, List.filterMap_cons, callbackId?, destroyedId?]
    · simp [SmppBearerboxState.record, h, List.filterMap_cons, callbackId?, destroyedId?]

theorem custodial_addMessage {ids : List Octstr} {s : SmppBearerboxState n κ}
    (h : Custodial ids s) (msg : Sms) (context : κ) (inserted : Bool) :
    Custodial (ids ++ [smppUuidGet msg.id]) (smppBearerboxAddMessage s msg context inserted) where
  total := by
    intro id
    rcases addToQueue_intake s { msg := msg, context := context } inserted with ⟨p, hp⟩
    have htotal := hp.total_eq id
    rw [h.total] at htotal
    rw [List.count_append, count_singleton_id]
    exact htotal
  called := called_addToQueue _ inserted h.called
  writing := by
    intro b m hm
    simp only [smppBearerboxAddMessage, bearerboxes_addToQueue] at hm ⊢
    exact h.writing b m hm

theorem custodial_consume {ids : List Octstr} {s : SmppBearerboxState n κ} (h : Custodial ids s)
    {b : Fin n} {i : Nat} {m : SmppBearerboxMsg κ} (hidle : (s.bearerboxes b).writer = .idle)
    (hget : s.outboundQueue[i]? = some m) :
    Custodial ids (({ s with outboundQueue := s.outboundQueue.eraseIdx i } :
      SmppBearerboxState n κ).setBox b { s.bearerboxes b with writer := .consumed m }) := by
  apply h.of_exchange (consume_exchange s b hidle hget) h.called
  intro c m' hm'
  by_cases hc : c = b
  · subst hc
    simp at hm'
  · rw [bearerboxes_setBox_of_ne _ hc] at hm' ⊢
    exact h.writing c m' hm'

theorem custodial_beginWrite {ids : List Octstr} {s : SmppBearerboxState n κ}
    (h : Custodial ids s) (hnodup : ids.Nodup) {b : Fin n} {m : SmppBearerboxMsg κ}
    (hm : (s.bearerboxes b).writer = .consumed m) :
    Custodial ids (s.setBox b { s.bearerboxes b with
      openAcks := (s.bearerboxes b).openAcks.put (withBoxcId (s.bearerboxes b) m),
      writer := .writing (withBoxcId (s.bearerboxes b) m) }) := by
  -- the message is in the writer's hands, so no other record stands under its id
  have hfree : (s.bearerboxes b).openAcks.held m.id = 0 := by
    have htwo := add_le_total (holding s) m.id (show Place.writer b ≠ .openAcks b by simp)
    have hone : (holding s) (.writer b) m.id = 1 := by simp [holding, hm, Writer.held]
    have hcount : ids.count m.id ≤ 1 := List.nodup_iff_count_le_one.mp hnodup m.id
    have hopen : (holding s) (.openAcks b) m.id = (s.bearerboxes b).openAcks.held m.id := rfl
    rw [h.total, hone, hopen] at htwo
    omega
  refine h.of_exchange (writer_exchange s b _ ?_) h.called (writing_setBox h ?_)
  · intro id
    by_cases hid : id = m.id
    · subst hid
      simp [Keyed.held_put, Writer.held, hm, hfree]
    · simp [Keyed.held_put, Writer.held, hm, hid, Ne.symm hid]
  · intro m' hm'
    cases hm'
    simp

theorem custodial_skip {ids : List Octstr} {s : SmppBearerboxState n κ} (h : Custodial ids s)
    {b : Fin n} {m : SmppBearerboxMsg κ} (hm : (s.bearerboxes b).writer = .consumed m) :
    Custodial ids (s.setBox b { s.bearerboxes b with writer := .requeue m }) := by
  refine h.of_exchange (writer_exchange s b _ ?_) h.called (writing_setBox h ?_)
  · intro id
    simp [Writer.held, hm]
  · intro m' hm'
    cases hm'

theorem custodial_written {ids : List Octstr} {s : SmppBearerboxState n κ} (h : Custodial ids s)
    {b : Fin n} {m : SmppBearerboxMsg κ} (hm : (s.bearerboxes b).writer = .writing m) :
    Custodial ids ((s.setBox b { s.bearerboxes b with writer := .idle }).record [.written b m]) := by
  refine h.of_exchange (reader_exchange s b _ _ ?_ ?_) ?_ (writing_setBox h ?_)
  · simp [Writer.held, hm]
  · intro id
    simp [List.filterMap_cons, destroyedId?]
  · simp [SmppBearerboxState.record, SmppBearerboxState.setBox, List.filterMap_cons,
      callbackId?, destroyedId?, h.called]
  · intro m' hm'
    cases hm'

theorem custodial_notWritten {ids : List Octstr} {s : SmppBearerboxState n κ}
    (h : Custodial ids s) {b : Fin n} {m : SmppBearerboxMsg κ}
    (hm : (s.bearerboxes b).writer = .writing m) :
    Custodial ids (s.setBox b { s.bearerboxes b with
      openAcks := (s.bearerboxes b).openAcks.remove m.id, alive := false,
      writer := .requeue m }) := by
  have hput : (s.bearerboxes b).openAcks.held m.id = 1 :=
    Keyed.held_of_find?_eq_some (Keyed.find?_eq_some_iff.mpr ⟨h.writing b m hm, rfl⟩)
  -- the open ack is taken back, and the writer holds the message alone
  refine h.of_exchange (writer_exchange s b _ ?_) h.called (writing_setBox h ?_)
  · intro id
    by_cases hid : id = m.id
    · subst hid
      simp [Keyed.held_remove, Writer.held, hm, hput]
    · simp [Keyed.held_remove, Writer.held, hm, hid, Ne.symm hid]
  · intro m' hm'
    cases hm'

theorem custodial_requeue {ids : List Octstr} {s : SmppBearerboxState n κ} (h : Custodial ids s)
    {b : Fin n} {m : SmppBearerboxMsg κ} (hm : (s.bearerboxes b).writer = .requeue m)
    (inserted : Bool) :
    Custodial ids (smppBearerboxAddToQueue (s.setBox b { s.bearerboxes b with writer := .idle })
      m inserted) where
  total := by
    intro id
    -- out of the writer's hands, then in at the queue or at the settled messages
    have hout : Intake (holding (s.setBox b { s.bearerboxes b with writer := .idle }))
        (holding s) (.writer b) m.id := by
      refine ⟨?_, ?_⟩
      · intro k
        simp [holding, hm, Writer.held, count_singleton_id]
      · intro r k hw
        by_cases ho : r = .openAcks b
        · subst ho
          simp [holding]
        · exact (holding_setBox_elsewhere s b _ hw ho k).symm
    rcases addToQueue_intake (s.setBox b { s.bearerboxes b with writer := .idle }) m inserted
      with ⟨p, hin⟩
    calc
      total (holding (smppBearerboxAddToQueue
          (s.setBox b { s.bearerboxes b with writer := .idle }) m inserted)) id
          = total (holding s) id := by rw [hin.total_eq, hout.total_eq]
      _ = ids.count id := h.total id
  called := called_addToQueue m inserted h.called
  writing := by
    intro c m' hm'
    simp only [bearerboxes_addToQueue] at hm' ⊢
    refine writing_setBox h ?_ c m' hm'
    intro m'' hm''
    cases hm''

theorem custodial_ack {ids : List Octstr} {s : SmppBearerboxState n κ} (h : Custodial ids s)
    {b : Fin n} {id : Octstr} (nack : Int) {m : SmppBearerboxMsg κ}
    (hm : (s.bearerboxes b).openAcks.find? id = some m)
    (hwritten : (s.bearerboxes b).writer.writingId? ≠ some id) :
    Custodial ids ((s.setBox b { s.bearerboxes b with
      openAcks := (s.bearerboxes b).openAcks.remove id }).record
        [.ack b id nack, .callback m (ackStatus nack), .destroyed m]) := by
  have hid : m.id = id := Keyed.key_of_find? hm
  refine h.of_exchange (reader_exchange s b _ _ rfl ?_) ?_ (writing_setBox h ?_)
  · intro k
    by_cases hk : k = id
    · subst hk
      simp [Keyed.held_remove, List.filterMap_cons, destroyedId?, hid,
        Keyed.held_of_find?_eq_some hm]
    · simp [Keyed.held_remove, List.filterMap_cons, destroyedId?, hid, hk, Ne.symm hk]
  · simp [SmppBearerboxState.record, SmppBearerboxState.setBox, List.filterMap_cons,
      callbackId?, destroyedId?, h.called]
  · -- a message still being written is not the one that is acked
    intro m' hm'
    have hne : m'.id ≠ id := by
      simp only at hm'
      simpa [hm', Writer.writingId?] using hwritten
    exact Keyed.mem_remove.mpr ⟨h.writing b m' hm', hne⟩

theorem custodial_unknownAck {ids : List Octstr} {s : SmppBearerboxState n κ}
    (h : Custodial ids s) (b : Fin n) (id : Octstr) (nack : Int) :
    Custodial ids (s.record [.ack b id nack]) where
  total := by
    intro k
    have hsame : holding (s.record [.ack b id nack]) = holding s := by
      funext p k'
      by_cases hp : p = .settled
      · subst hp
        simp [holding_record_settled, List.filterMap_cons, destroyedId?]
      · exact holding_record_of_ne_settled s _ hp k'
    rw [hsame, h.total]
  called := by
    simp [SmppBearerboxState.record, List.filterMap_cons, callbackId?, destroyedId?, h.called]
  writing := h.writing

theorem custodial_lose {ids : List Octstr} {s : SmppBearerboxState n κ} (h : Custodial ids s)
    (b : Fin n) : Custodial ids (s.setBox b { s.bearerboxes b with alive := false }) := by
  refine h.of_exchange (writer_exchange s b _ ?_) h.called (writing_setBox h ?_)
  · intro id
    rfl
  · intro m hm
    exact h.writing b m hm

theorem custodial_reconnect {ids : List Octstr} {s : SmppBearerboxState n κ}
    (h : Custodial ids s) {b : Fin n} (hfree : (s.bearerboxes b).writer.locked = false)
    (connected identified : Bool) :
    Custodial ids ((s.setBox b { s.bearerboxes b with
      openAcks := Keyed.empty, connection := connected, alive := connected && identified }).record
        (ackCleanup (s.bearerboxes b).openAcks.entries)) := by
  have hsettles := @ackCleanup_settles n κ (s.bearerboxes b).openAcks.entries
  rcases hsettles with ⟨hcalled, hdestroyed⟩
  refine h.of_exchange (reader_exchange s b _ _ rfl ?_) ?_ (writing_setBox h ?_)
  · intro id
    simp [hdestroyed, Keyed.held]
  · simp [SmppBearerboxState.record, SmppBearerboxState.setBox, hcalled, hdestroyed, h.called]
  · intro m hm
    simp only at hm
    simp [hm, Writer.locked] at hfree

/-! ## Runs -/

theorem custodial_step {ids : List Octstr} {s t : SmppBearerboxState n κ} {l : Label n κ}
    (h : Custodial ids s) (hnodup : ids.Nodup) (hok : AcksWritten s l)
    (hstep : step s l = some t) : Custodial (ids ++ handed l) t := by
  cases l with
  | addMessage msg context inserted =>
      have ht : smppBearerboxAddMessage s msg context inserted = t := by
        simpa [step] using hstep
      subst ht
      exact custodial_addMessage h msg context inserted
  | consume b i =>
      simp only [step] at hstep
      split at hstep
      · rename_i m hidle hget
        cases hstep
        simpa [handed] using custodial_consume h hidle hget
      · cases hstep
  | beginWrite b =>
      simp only [step] at hstep
      split at hstep
      · rename_i m hm
        split at hstep
        · cases hstep
          simpa [handed] using custodial_beginWrite h hnodup hm
        · cases hstep
          simpa [handed] using custodial_skip h hm
      · cases hstep
  | endWrite b written =>
      simp only [step] at hstep
      split at hstep
      · rename_i m hm
        split at hstep
        · cases hstep
          simpa [handed] using custodial_written h hm
        · cases hstep
          simpa [handed] using custodial_notWritten h hm
      · cases hstep
  | requeue b inserted =>
      simp only [step] at hstep
      split at hstep
      · rename_i m hm
        cases hstep
        simpa [handed] using custodial_requeue h hm inserted
      · cases hstep
  | ack b id nack =>
      simp only [step] at hstep
      split at hstep
      · rename_i m hm
        cases hstep
        simpa [handed] using custodial_ack h nack hm hok
      · cases hstep
        simpa [handed] using custodial_unknownAck h b id nack
  | lose b =>
      simp only [step] at hstep
      split at hstep
      · cases hstep
      · cases hstep
        simpa [handed] using custodial_lose h b
  | reconnect b connected identified =>
      simp only [step] at hstep
      split at hstep
      · cases hstep
      · -- no writer holds the lock, so none is in the middle of a write
        rename_i hfree
        have hunlocked : (s.bearerboxes b).writer.locked = false := by
          simpa using (not_or.mp hfree).2
        cases hstep
        simpa [handed] using custodial_reconnect h hunlocked connected identified

theorem custodial_run {databaseEnableQueue : Bool} {boxes : Fin n → Option Octstr}
    {ls : List (Label n κ)} {s : SmppBearerboxState n κ}
    (hrun : Run step AcksWritten (smppBearerboxInit databaseEnableQueue boxes) ls s)
    (hdistinct : (handedIds ls).Nodup) : Custodial (handedIds ls) s := by
  have hpre : (handedIds ls).Nodup → Custodial (handedIds ls) s := by
    refine hrun.invariant_labels (fun ks t => (handedIds ks).Nodup → Custodial (handedIds ks) t)
      ?_ ?_
    · intro _
      exact custodial_init databaseEnableQueue boxes
    · intro ks t l u ih hok hstep hnodup
      rw [handedIds_append_singleton] at hnodup ⊢
      have hks := (List.nodup_append.mp hnodup).1
      exact custodial_step (ih hks) hks hok hstep
  exact hpre hdistinct

/-- In every reachable state a message handed to `smpp_bearerbox_add_message` is at exactly one
place, and its callback has been called once if that place is `settled` and never otherwise. -/
theorem bearerbox_message_held_once {databaseEnableQueue : Bool} {boxes : Fin n → Option Octstr}
    {ls : List (Label n κ)} {s : SmppBearerboxState n κ}
    (hrun : Run step AcksWritten (smppBearerboxInit databaseEnableQueue boxes) ls s)
    (hdistinct : (handedIds ls).Nodup) {id : Octstr} (hid : id ∈ handedIds ls) :
    ∃ p, HeldOnce (holding s) id p ∧ callbacks s id = if p = .settled then 1 else 0 := by
  have hinv := custodial_run hrun hdistinct
  have hone : total (holding s) id = 1 := by
    rw [hinv.total]
    exact List.count_eq_one_of_mem hdistinct hid
  rcases exists_heldOnce_of_total_eq_one hone with ⟨p, hp⟩
  refine ⟨p, hp, ?_⟩
  have hcalls : callbacks s id = holding s .settled id := by
    simp [callbacks, holding, hinv.called]
  by_cases hsettled : p = .settled
  · subst hsettled
    simpa [hcalls] using hp.1
  · have hzero := hp.2 .settled (Ne.symm hsettled)
    simpa [hcalls, hsettled] using hzero

/-- Two messages on two connections: one is acked, the other outlives a failed write and is
settled by the clean-up of the second connection. -/
def sampleLabels : List (Label 2 Nat) :=
  [.reconnect 0 true true, .reconnect 1 true true,
    .addMessage (msgCreateSms (Vector.replicate 16 1)) 1 true,
    .addMessage (msgCreateSms (Vector.replicate 16 2)) 2 true,
    .consume 0 0, .beginWrite 0, .consume 1 0, .endWrite 0 true,
    .ack 0 (smppUuidGet (Vector.replicate 16 1)) ackSuccess,
    .beginWrite 1, .endWrite 1 false, .requeue 1 true, .reconnect 1 true true,
    .consume 1 0, .beginWrite 1, .endWrite 1 true, .lose 1, .reconnect 1 false false]

theorem bearerbox_message_held_once_sample :
    ∃ s, Run step AcksWritten (smppBearerboxInit true (fun _ => none)) sampleLabels s ∧
      ∃ p, HeldOnce (holding s) (smppUuidGet (Vector.replicate 16 2)) p ∧
        callbacks s (smppUuidGet (Vector.replicate 16 2)) = if p = .settled then 1 else 0 := by
  have hexec : (execute step AcksWritten (smppBearerboxInit true (fun _ => none))
      sampleLabels).isSome = true := by decide
  rcases Option.isSome_iff_exists.mp hexec with ⟨s, hs⟩
  have hrun := run_of_execute hs
  exact ⟨s, hrun, bearerbox_message_held_once hrun (by decide) (by decide)⟩

end Bearerbox
end Ksmppd
