import Mathlib.Data.List.Induction
import Ksmppd.Listener.Frames

/-!
# Chunks — a stream of PDUs however it is cut

An event reads up to the first frame that is an error, and what stands behind it in the buffer is
not looked at before new octets arrive.  All PDUs of a stream are queued, and none is left in the
buffer, exactly if enough events follow every error.
-/

namespace Ksmppd
namespace Listener

open Lib

variable {kannel : Kannel} {systemId : Option Octstr} {s t : ListenerState} {os rest : Octstr}
  {frame : Frame} {done fs : List Frame} {esme : EsmeRef} {n : Nat} {chunks : List Octstr}

/-! ## Errors -/

/-- The value of the error counter after these frames. -/
def errorsAfter (fs : List Frame) : Nat :=
  fs.foldl (fun n frame => if frame.isError then n + 1 else 0) 0

/-- Nowhere in the stream are there as many errors in a row as end the session. -/
def FewErrors (fs : List Frame) : Prop :=
  ∀ errors, errors <:+: fs → (∀ frame ∈ errors, frame.isError = true) →
    errors.length < smppEsmeMaxConsecutiveErrors

theorem FewErrors.of_infix (h : FewErrors fs) (hin : done <:+: fs) : FewErrors done :=
  fun errors herrors => h errors (herrors.trans hin)

/-- The counter counts the errors at the end. -/
theorem errorsAfter_spec (fs : List Frame) :
    ∃ errors, errors <:+ fs ∧ (∀ frame ∈ errors, frame.isError = true) ∧
      errors.length = errorsAfter fs := by
  induction fs using List.reverseRecOn with
  | nil => exact ⟨[], List.suffix_refl _, by simp, rfl⟩
  | append_singleton fs frame ih =>
      cases hframe : frame.isError with
      -- the counter starts again
      | false => exact ⟨[], List.nil_suffix, by simp, by simp [errorsAfter, hframe]⟩
      | true =>
          rcases ih with ⟨errors, hsuffix, hall, hlength⟩
          refine ⟨errors ++ [frame], ?_, ?_, ?_⟩
          · rcases hsuffix with ⟨before, rfl⟩
            exact ⟨before, (List.append_assoc before errors [frame]).symm⟩
          · intro f hf
            rcases List.mem_append.mp hf with hf | hf
            · exact hall f hf
            · rw [List.mem_singleton.mp hf]
              exact hframe
          · rw [List.length_append, hlength]
            simp [errorsAfter, hframe]

theorem errorsAfter_lt (h : FewErrors fs) : errorsAfter fs < smppEsmeMaxConsecutiveErrors := by
  rcases errorsAfter_spec fs with ⟨errors, hsuffix, hall, hlength⟩
  rw [← hlength]
  exact h errors hsuffix.isInfix hall

theorem errorsAfter_append (fs : List Frame) (frame : Frame) :
    errorsAfter (fs ++ [frame]) = if frame.isError then errorsAfter fs + 1 else 0 := by
  simp [errorsAfter]

/-! ## Reading -/

/-- The session has read the frames `done`, and not the octets `os`. -/
structure Reads (kannel : Kannel) (esme : EsmeRef) (systemId : Option Octstr) (s : ListenerState)
    (done : List Frame) (os : Octstr) : Prop where
  sameEsme : s.esme = esme
  sameSystemId : s.systemId = systemId
  unread : Unread kannel s.conn s.pendingLen os
  inboundQueue : s.inboundQueue = done.filterMap (Frame.queuedPdu esme)
  errors : s.errors = errorsAfter done
  connected : s.connected = true

/-- A PDU has a header at least. -/
theorem nextFrame_pdu_shorter {p : SmppPdu}
    (h : nextFrame kannel systemId os = some (.pdu p, rest)) : rest.length + 16 ≤ os.length := by
  unfold nextFrame at h
  split at h
  · cases h
  · split at h
    · cases h
    · rename_i n hn
      have hmin := kannel.minLen _ _ hn
      split at h
      · cases h
      · rw [← (Prod.mk.inj (Option.some.inj h)).2, List.length_drop]
        omega

/-- All that is unread stands in the buffer, but for a length that was taken. -/
theorem Unread.buffered_bounds {conn : Option Connection} {len : Int}
    (h : Unread kannel conn len os) (hs : s.conn = conn) :
    s.buffered ≤ os.length ∧ os.length ≤ s.buffered + 4 := by
  rcases h.buffered with ⟨c, header, rfl, -, rfl, ⟨rfl, -⟩ | ⟨hfour, -⟩⟩
  · simp [ListenerState.buffered, hs]
  · simp only [ListenerState.buffered, hs, List.length_append, hfour]
    omega

theorem Reads.read (h : Reads kannel esme systemId s done os) :
    ReadsFrame kannel systemId os (s.read kannel) := by
  rw [← h.sameSystemId]
  exact readPdu_readsFrame h.unread

/-- A round of the loop queues a PDU. -/
theorem readRound_pdu {p : SmppPdu} (h : Reads kannel esme systemId s done os)
    (hnext : nextFrame kannel systemId os = some (.pdu p, rest)) :
    ∃ t, readRound kannel s = some t ∧
      Reads kannel esme systemId t (done ++ [.pdu p]) rest ∧ t.buffered < s.buffered := by
  have hread := h.read
  unfold ReadsFrame at hread
  rw [hnext] at hread
  rcases hread with ⟨hunread, hresult, hpdu⟩
  let t := (s.afterRead (s.read kannel)).addInbound (s.read kannel).pdu
  have hpositive : (s.read kannel).result > 0 := by
    rw [hresult]
    decide
  have hreads : Reads kannel esme systemId t (done ++ [.pdu p]) rest := by
    refine ⟨h.sameEsme, h.sameSystemId, hunread, ?_, (errorsAfter_append done (.pdu p)).symm,
      h.connected⟩
    simp only [t, ListenerState.addInbound, ListenerState.afterRead, hpdu, List.filterMap_append,
      ← h.inboundQueue, h.sameEsme]
    rfl
  refine ⟨t, by simp only [readRound, if_pos hpositive, t], hreads, ?_⟩
  -- a PDU takes more octets off the buffer than a length that is kept
  have hbefore := (h.unread.buffered_bounds (s := s) rfl).2
  have hafter := (hunread.buffered_bounds (s := t) rfl).1
  have hshorter := nextFrame_pdu_shorter hnext
  omega

/-- The read that ends the loop: an error is taken off the stream. -/
theorem readRound_error (h : Reads kannel esme systemId s done os)
    (hnext : nextFrame kannel systemId os = some (frame, rest)) (herror : frame.isError = true) :
    readRound kannel s = none ∧ (s.read kannel).result = -2 ∧
      Unread kannel (s.read kannel).conn (s.read kannel).len rest := by
  have hread := h.read
  unfold ReadsFrame at hread
  rw [hnext] at hread
  have hresult : (s.read kannel).result = -2 := by
    cases frame with
    | pdu p => cases herror
    | notUnpacked os => exact hread.2
    | invalidLength os => exact hread.2
  have hnot : ¬ (s.read kannel).result > 0 := by
    rw [hresult]
    decide
  exact ⟨by simp only [readRound, if_neg hnot], hresult, hread.1⟩

/-- The read that ends the loop: no frame is complete. -/
theorem readRound_noData (h : Reads kannel esme systemId s done os)
    (hnext : nextFrame kannel systemId os = none) :
    readRound kannel s = none ∧ (s.read kannel).result = 0 ∧
      Unread kannel (s.read kannel).conn (s.read kannel).len os := by
  have hread := h.read
  unfold ReadsFrame at hread
  rw [hnext] at hread
  have hnot : ¬ (s.read kannel).result > 0 := by
    rw [hread.1]
    decide
  exact ⟨by simp only [readRound, if_neg hnot], hread.1, hread.2⟩

/-! ## Events -/

/-- What an event that started with `os` unread has to leave: it has read up to the first error. -/
structure PassOver (kannel : Kannel) (esme : EsmeRef) (systemId : Option Octstr)
    (done : List Frame) (os : Octstr) (t : ListenerState) (left : Octstr) : Prop where
  reads : Reads kannel esme systemId t
    (done ++ throughStop Frame.isError ((frames kannel systemId).items os)) left
  items : (frames kannel systemId).items left =
    afterStop Frame.isError ((frames kannel systemId).items os)
  rest : (frames kannel systemId).rest left = (frames kannel systemId).rest os

/-- One error more, but not too many in a row. -/
theorem reads_afterLoop_error (h : Reads kannel esme systemId s done os)
    (hnext : nextFrame kannel systemId os = some (frame, rest)) (herror : frame.isError = true)
    (hfew : FewErrors (done ++ [frame])) :
    Reads kannel esme systemId (afterLoop s (s.read kannel)) (done ++ [frame]) rest := by
  rcases readRound_error h hnext herror with ⟨-, hresult, hunread⟩
  have herrors : s.errors + 1 = errorsAfter (done ++ [frame]) := by
    rw [errorsAfter_append, if_pos herror, h.errors]
  have hlt : ¬ s.errors + 1 ≥ smppEsmeMaxConsecutiveErrors := by
    rw [herrors]
    exact Nat.not_le.mpr (errorsAfter_lt hfew)
  have hafter : afterLoop s (s.read kannel) =
      { s.afterRead (s.read kannel) with errors := s.errors + 1 } := by
    simp [afterLoop, hresult, ListenerState.afterRead, hlt]
  have hqueued : frame.queuedPdu esme = none := by
    cases frame with
    | pdu p => cases herror
    | notUnpacked os => rfl
    | invalidLength os => rfl
  rw [hafter]
  refine ⟨h.sameEsme, h.sameSystemId, hunread, ?_, herrors, h.connected⟩
  simp [ListenerState.afterRead, h.inboundQueue, List.filterMap_append, hqueued]

/-- The loop and what follows it read up to the first error. -/
theorem loop_passOver (h : Reads kannel esme systemId s done os) (hn : s.buffered ≤ n)
    (hfew : FewErrors (done ++ (frames kannel systemId).items os)) :
    ∃ t left, (loop (readRound kannel) n s).map (fun t => afterLoop t (t.read kannel)) = some t ∧
      PassOver kannel esme systemId done os t left := by
  induction os using (frames kannel systemId).item_induction generalizing s done n with
  | hnone os hnext =>
      rcases readRound_noData h hnext with ⟨hround, hresult, hunread⟩
      have hitems := Decoder.items_of_none hnext
      -- nothing complete is there
      refine ⟨s.afterRead (s.read kannel), os, ?_, ?_, ?_, rfl⟩
      · simp [loop_of_none hround, afterLoop, hresult]
      · rw [hitems, throughStop, List.append_nil]
        exact ⟨h.sameEsme, h.sameSystemId, hunread, h.inboundQueue, h.errors, h.connected⟩
      · rw [hitems, afterStop]
  | hsome os frame rest hnext ih =>
      have hitems := Decoder.items_of_some hnext
      have hrest := Decoder.rest_of_some hnext
      rw [hitems] at hfew
      cases hframe : frame.isError with
      | true =>
          -- the first error ends the loop
          have hround := (readRound_error h hnext hframe).1
          refine ⟨afterLoop s (s.read kannel), rest, ?_, ?_, ?_, hrest.symm⟩
          · rw [loop_of_none hround, Option.map_some]
          · rw [hitems, throughStop, if_pos hframe]
            refine reads_afterLoop_error h hnext hframe (hfew.of_infix ?_)
            exact ⟨[], (frames kannel systemId).items rest, by simp⟩
          · rw [hitems, afterStop, if_pos hframe]
      | false =>
          cases frame with
          | pdu p =>
              rcases readRound_pdu h hnext with ⟨t, hround, hreads, hless⟩
              -- the buffer has shrunk, so the rounds that are left are enough
              cases n with
              | zero => omega
              | succ n =>
                  rw [List.append_cons] at hfew
                  have hbound : t.buffered ≤ n := Nat.le_of_lt_succ (Nat.lt_of_lt_of_le hless hn)
                  rcases ih hreads hbound hfew with ⟨u, left, hloop, hpass⟩
                  refine ⟨u, left, ?_, ?_, ?_, ?_⟩
                  · rw [loop_of_some hround]
                    exact hloop
                  · have hdone := hpass.reads
                    rw [← List.append_cons] at hdone
                    rw [hitems, throughStop, hframe]
                    exact hdone
                  · rw [hpass.items, hitems, afterStop, hframe]
                    rfl
                  · rw [hpass.rest, hrest]
          | notUnpacked os => cases hframe
          | invalidLength os => cases hframe

/-- New octets raise an event that passes over what was unread and them. -/
theorem receive_passOver {chunk : Octstr} (h : Reads kannel esme systemId s done os)
    (hfew : FewErrors (done ++ (frames kannel systemId).items (os ++ chunk))) :
    ∃ t left, receive kannel s chunk = some t ∧
      PassOver kannel esme systemId done (os ++ chunk) t left := by
  let s' : ListenerState :=
    { s with conn := s.conn.map (fun c => { c with inbuf := c.inbuf ++ chunk }) }
  have hreads : Reads kannel esme systemId s' done (os ++ chunk) := by
    refine ⟨h.sameEsme, h.sameSystemId, ?_, h.inboundQueue, h.errors, h.connected⟩
    rcases h.unread.buffered with ⟨c, header, hconn, hopen, rfl, hheader⟩
    -- the chunk goes behind what is in the buffer
    exact ⟨{ c with inbuf := c.inbuf ++ chunk }, header, by simp [s', hconn], hopen,
      List.append_assoc _ _ _, hheader⟩
  rcases loop_passOver hreads (Nat.le_refl _) hfew with ⟨t, left, hloop, hpass⟩
  have hreceive : receive kannel s chunk = some t := by
    calc receive kannel s chunk = smppListenerEvent kannel true s' := if_pos h.connected
      _ = some t := hloop
  exact ⟨t, left, hreceive, hpass⟩

/-! ## Streams -/

/-- After any chunks the session has read a first part of the frames, and its backlog is that of
the rounds. -/
theorem receiveAll_spec (chunks : List Octstr) (h : Reads kannel esme systemId s done os)
    (hfew : FewErrors (done ++ (frames kannel systemId).items (os ++ chunks.flatten))) :
    ∃ t fs left, receiveAll kannel s chunks = some t ∧ Reads kannel esme systemId t fs left ∧
      fs ++ (frames kannel systemId).items left =
        done ++ (frames kannel systemId).items (os ++ chunks.flatten) ∧
      (frames kannel systemId).items left =
        backlog Frame.isError ((frames kannel systemId).items os)
          ((frames kannel systemId).arrivals ((frames kannel systemId).rest os) chunks) := by
  let d := frames kannel systemId
  induction chunks generalizing s done os with
  | nil => exact ⟨s, done, os, rfl, h, by simp, rfl⟩
  | cons chunk chunks ih =>
      rw [List.flatten_cons, ← List.append_assoc] at hfew ⊢
      have hall : d.items (os ++ chunk ++ chunks.flatten) =
          d.items (os ++ chunk) ++ d.items (d.rest (os ++ chunk) ++ chunks.flatten) :=
        Decoder.items_append d (os ++ chunk) chunks.flatten
      have hfirst : FewErrors (done ++ d.items (os ++ chunk)) := by
        refine hfew.of_infix ⟨[], d.items (d.rest (os ++ chunk) ++ chunks.flatten), ?_⟩
        rw [hall]
        simp
      rcases receive_passOver h hfirst with ⟨t, left, hreceive, hpass⟩
      -- what the event has read and what it has left are the frames there were
      have hsame : done ++ throughStop Frame.isError (d.items (os ++ chunk)) ++
          d.items (left ++ chunks.flatten) = done ++ d.items (os ++ chunk ++ chunks.flatten) := by
        calc done ++ throughStop Frame.isError (d.items (os ++ chunk)) ++
              d.items (left ++ chunks.flatten)
            = done ++ (throughStop Frame.isError (d.items (os ++ chunk)) ++
                afterStop Frame.isError (d.items (os ++ chunk))) ++
                d.items (d.rest (os ++ chunk) ++ chunks.flatten) := by
              rw [Decoder.items_append d left, hpass.items, hpass.rest]
              simp [d]
          _ = done ++ d.items (os ++ chunk ++ chunks.flatten) := by
              rw [throughStop_append_afterStop, hall, List.append_assoc]
      have hfew' : FewErrors (done ++ throughStop Frame.isError (d.items (os ++ chunk)) ++
          d.items (left ++ chunks.flatten)) := by
        rw [hsame]
        exact hfew
      rcases ih hpass.reads hfew' with ⟨u, fs, left', hreceiveAll, hreads, hframes, hbacklog⟩
      refine ⟨u, fs, left', ?_, hreads, hframes.trans hsame, ?_⟩
      · rw [receiveAll, hreceive]
        exact hreceiveAll
      · rw [hbacklog, hpass.items, hpass.rest, Decoder.items_append d os chunk,
          Decoder.rest_append d os chunk]
        rfl

/-- No complete frame is left unread: another read would find no data. -/
def NothingLeft (kannel : Kannel) (s : ListenerState) : Prop := (s.read kannel).result = 0

instance (kannel : Kannel) (s : ListenerState) : Decidable (NothingLeft kannel s) :=
  inferInstanceAs (Decidable (_ = _))

theorem nothingLeft_iff (h : Reads kannel esme systemId s done os) :
    NothingLeft kannel s ↔ (frames kannel systemId).items os = [] := by
  cases hnext : nextFrame kannel systemId os with
  | none =>
      have hresult := (readRound_noData h hnext).2.1
      simp [NothingLeft, hresult, Decoder.items_of_none (d := frames kannel systemId) hnext]
  | some r =>
      have hread := h.read
      unfold ReadsFrame at hread
      rw [hnext] at hread
      have hresult : (s.read kannel).result ≠ 0 := by
        rcases r with ⟨p | os | os, rest⟩
        · exact hread.2.1 ▸ by decide
        · exact hread.2 ▸ by decide
        · exact hread.2 ▸ by decide
      simp [NothingLeft, hresult, Decoder.items_of_some (d := frames kannel systemId) hnext]

/-- Both ways of cutting give the same queue, and leave nothing unread. -/
structure ReadAlike (kannel : Kannel) (s : ListenerState) (cs cs' : List Octstr) : Prop where
  alike : ∃ t t', receiveAll kannel s cs = some t ∧ receiveAll kannel s cs' = some t' ∧
    t.inboundQueue = t'.inboundQueue ∧ NothingLeft kannel t ∧ NothingLeft kannel t'

/-- After the first error of every chunk, the frames that are left and those of later chunks take no
more events than there are chunks to come, where an event ends at an error. -/
def EnoughEvents (kannel : Kannel) (systemId : Option Octstr) (chunks : List Octstr) : Prop :=
  EnoughRounds Frame.isError ((frames kannel systemId).arrivals [] chunks)

theorem reads_init (kannel : Kannel) (esme : EsmeRef) (systemId : Option Octstr)
    (authenticated : Bool) :
    Reads kannel esme systemId (listenerInit esme systemId authenticated) [] [] :=
  ⟨rfl, rfl, unread_inbuf (c := { inbuf := [], eof := false }) rfl, rfl, rfl, rfl⟩

/-- The chunks of a new session: all its frames are read exactly if there are enough events. -/
theorem receiveAll_init (esme : EsmeRef) (authenticated : Bool) (cs : List Octstr)
    (hfew : FewErrors ((frames kannel systemId).items cs.flatten)) :
    ∃ t, receiveAll kannel (listenerInit esme systemId authenticated) cs = some t ∧
      (NothingLeft kannel t ↔ EnoughEvents kannel systemId cs) ∧
      (NothingLeft kannel t → t.inboundQueue =
        ((frames kannel systemId).items cs.flatten).filterMap (Frame.queuedPdu esme)) := by
  rcases receiveAll_spec cs (reads_init kannel esme systemId authenticated) hfew with
    ⟨t, fs, left, hreceive, hreads, hframes, hbacklog⟩
  have hleft := nothingLeft_iff hreads
  refine ⟨t, hreceive, ?_, ?_⟩
  · rw [hleft, hbacklog]
    exact backlog_nil_eq_nil_iff
  · intro hnothing
    -- what was read is all there is
    rw [hleft.mp hnothing, List.append_nil] at hframes
    rw [hreads.inboundQueue, hframes]
    rfl

/-- Two ways of cutting a stream lead to the same PDUs, with none left in the buffer, exactly if
both have enough events after every error. -/
theorem readAlike_iff {authenticated : Bool} {cs cs' : List Octstr}
    (hsame : cs'.flatten = cs.flatten)
    (hfew : FewErrors ((frames kannel systemId).items cs.flatten)) :
    ReadAlike kannel (listenerInit esme systemId authenticated) cs cs' ↔
      EnoughEvents kannel systemId cs ∧ EnoughEvents kannel systemId cs' := by
  rcases receiveAll_init esme authenticated cs hfew with
    ⟨t, hreceive, hiff, hqueue⟩
  rcases receiveAll_init esme authenticated cs' (hsame ▸ hfew) with
    ⟨t', hreceive', hiff', hqueue'⟩
  constructor
  · rintro ⟨u, u', hu, hu', -, hnothing, hnothing'⟩
    have htu : t = u := Option.some.inj (hreceive.symm.trans hu)
    have htu' : t' = u' := Option.some.inj (hreceive'.symm.trans hu')
    subst htu htu'
    exact ⟨hiff.mp hnothing, hiff'.mp hnothing'⟩
  · rintro ⟨henough, henough'⟩
    have hnothing := hiff.mpr henough
    have hnothing' := hiff'.mpr henough'
    refine ⟨t, t', hreceive, hreceive', ?_, hnothing, hnothing'⟩
    rw [hqueue hnothing, hqueue' hnothing', hsame]

/-! ## An error and a PDU -/

/-- The number in octets, the most significant first. -/
def getLong (os : Octstr) : Nat := os.foldl (fun n o => 256 * n + o.toNat) 0

/-- A client that sends nothing but enquire_link. -/
def sampleKannel : Kannel where
  pduLen os := if 16 ≤ getLong os then some (getLong os) else none
  unpack _ os :=
    if os.length = 12 ∧ getLong (os.take 4) = 0x15 then some (.enquireLink (getLong (os.drop 8)))
    else none
  minLen := by
    intro os n hn
    split at hn
    · rename_i hmin
      cases hn
      exact hmin
    · cases hn

/-- An enquire_link under the number 1, with its length. -/
def enquireOctets : Octstr := [0, 0, 0, 16, 0, 0, 0, 0x15, 0, 0, 0, 0, 0, 0, 0, 1]

/-- A length that is too short for a header. -/
def shortLength : Octstr := [0, 0, 0, 4]

instance (kannel : Kannel) (systemId : Option Octstr) (chunks : List Octstr) :
    Decidable (EnoughEvents kannel systemId chunks) :=
  inferInstanceAs (Decidable (EnoughRounds _ _))

theorem fewErrors_of_length (h : fs.length < smppEsmeMaxConsecutiveErrors) : FewErrors fs :=
  fun _ hin _ => Nat.lt_of_le_of_lt hin.length_le h

theorem fewErrors_sample :
    FewErrors ((frames sampleKannel none).items (shortLength ++ enquireOctets)) := by
  apply fewErrors_of_length
  decide +kernel

/-- The error comes alone, and the PDU in one piece or in two. -/
theorem readAlike_sample :
    ReadAlike sampleKannel (listenerInit 0 none false) [shortLength, enquireOctets]
      [shortLength, enquireOctets.take 7, enquireOctets.drop 7] := by
  have henough : EnoughEvents sampleKannel none [shortLength, enquireOctets] := by
    decide +kernel
  have henough' : EnoughEvents sampleKannel none
      [shortLength, enquireOctets.take 7, enquireOctets.drop 7] := by
    decide +kernel
  have hsame : [shortLength, enquireOctets.take 7, enquireOctets.drop 7].flatten =
      [shortLength, enquireOctets].flatten := rfl
  exact (readAlike_iff hsame fewErrors_sample).mpr ⟨henough, henough'⟩

/-- In one chunk with the error the PDU is left in the buffer, and in a chunk of its own it is
queued. -/
theorem not_readAlike :
    FewErrors ((frames sampleKannel none).items [shortLength ++ enquireOctets].flatten) ∧
      [shortLength, enquireOctets].flatten = [shortLength ++ enquireOctets].flatten ∧
      ¬ ReadAlike sampleKannel (listenerInit 0 none false) [shortLength ++ enquireOctets]
        [shortLength, enquireOctets] := by
  refine ⟨fewErrors_sample, rfl, ?_⟩
  rintro ⟨t, t', ht, -, -, hnothing, -⟩
  have hleft : (receiveAll sampleKannel (listenerInit 0 none false)
      [shortLength ++ enquireOctets]).all
      (fun t => decide (t.inboundQueue = [] ∧ ¬ NothingLeft sampleKannel t)) = true := by
    decide +kernel
  rw [ht] at hleft
  exact (of_decide_eq_true hleft).2 hnothing

end Listener
end Ksmppd
