import Ksmppd.Listener.Chunks

/-!
# ErrorLimit — clients that send nothing but errors

A PDU resets the error counter of a session, a bad frame raises it, and the tenth in a row ends the
session.  This is so however the stream is cut, and whatever comes behind the tenth is never read.
-/

namespace Ksmppd
namespace Listener

open Lib

variable {kannel : Kannel} {systemId : Option Octstr} {s t : ListenerState} {os rest : Octstr}
  {frame : Frame} {done fs : List Frame} {esme : EsmeRef} {n : Nat} {authenticated : Bool}

/-! ## Errors in a row -/

/-- No error at the end is left out by the counter. -/
theorem length_le_errorsAfter {errors : List Frame} (hsuffix : errors <:+ fs)
    (hall : ∀ frame ∈ errors, frame.isError = true) : errors.length ≤ errorsAfter fs := by
  induction fs using List.reverseRecOn generalizing errors with
  | nil =>
      rw [List.suffix_nil.mp hsuffix]
      exact Nat.zero_le _
  | append_singleton fs frame ih =>
      rcases List.suffix_concat_iff.mp hsuffix with rfl | ⟨before, rfl, hbefore⟩
      · exact Nat.zero_le _
      · have hframe : frame.isError = true := hall frame (by simp)
        have hle := ih hbefore (fun f hf => hall f (List.mem_append_left _ hf))
        rw [errorsAfter_append, if_pos hframe, List.length_append]
        exact Nat.succ_le_succ hle

/-- There are too many errors as soon as the counter says so. -/
theorem fewErrors_append_iff : FewErrors (fs ++ [frame]) ↔
    FewErrors fs ∧ errorsAfter (fs ++ [frame]) < smppEsmeMaxConsecutiveErrors := by
  constructor
  · intro h
    exact ⟨h.of_infix (List.prefix_append fs [frame]).isInfix, errorsAfter_lt h⟩
  · rintro ⟨hfew, hlt⟩ errors hinfix hall
    rcases List.infix_concat_iff.mp hinfix with hsuffix | hold
    · exact Nat.lt_of_le_of_lt (length_le_errorsAfter hsuffix hall) hlt
    · exact hfew errors hold hall

theorem FewErrors.append_pdus {pdus : List Frame} (h : FewErrors fs)
    (hpdus : ∀ frame ∈ pdus, frame.isError = false) : FewErrors (fs ++ pdus) := by
  induction pdus using List.reverseRecOn with
  | nil => simpa using h
  | append_singleton pdus frame ih =>
      have hrest := ih (fun f hf => hpdus f (List.mem_append_left _ hf))
      have hframe : frame.isError = false := hpdus frame (by simp)
      rw [← List.append_assoc]
      refine fewErrors_append_iff.mpr ⟨hrest, ?_⟩
      rw [errorsAfter_append, hframe, if_neg Bool.false_ne_true]
      exact Nat.zero_lt_succ 9

/-! ## The loop of an event -/

/-- What a read of the loop leaves alone. -/
structure SameListener (s t : ListenerState) : Prop where
  authenticated : t.authenticated = s.authenticated
  authFailed : t.authFailed = s.authFailed
  cleanup : t.cleanup = s.cleanup

theorem SameListener.refl (s : ListenerState) : SameListener s s := ⟨rfl, rfl, rfl⟩

theorem SameListener.trans {u : ListenerState} (h : SameListener s t) (h' : SameListener t u) :
    SameListener s u :=
  ⟨h'.authenticated.trans h.authenticated, h'.authFailed.trans h.authFailed,
    h'.cleanup.trans h.cleanup⟩

theorem sameListener_readRound (h : readRound kannel s = some t) : SameListener s t := by
  simp only [readRound] at h
  split at h
  · cases h
    exact ⟨rfl, rfl, rfl⟩
  · cases h

/-- The loop reads PDUs, up to a bad frame or to what is not all there. -/
theorem loop_pdus (h : Reads kannel esme systemId s done os) (hn : s.buffered ≤ n) :
    ∃ t pdus left, loop (readRound kannel) n s = some t ∧ SameListener s t ∧
      Reads kannel esme systemId t (done ++ pdus) left ∧
      (∀ frame ∈ pdus, frame.isError = false) ∧
      (frames kannel systemId).items os = pdus ++ (frames kannel systemId).items left ∧
      (frames kannel systemId).rest os = (frames kannel systemId).rest left ∧
      ∀ frame rest, nextFrame kannel systemId left = some (frame, rest) →
        frame.isError = true := by
  induction os using (frames kannel systemId).item_induction generalizing s done n with
  | hnone os hnext =>
      have hround := (readRound_noData h hnext).1
      refine ⟨s, [], os, loop_of_none hround, SameListener.refl s, by simpa using h, by simp,
        rfl, rfl, ?_⟩
      intro frame rest hsome
      have hnone : nextFrame kannel systemId os = none := hnext
      rw [hnone] at hsome
      cases hsome
  | hsome os frame rest hnext ih =>
      have hitems := Decoder.items_of_some hnext
      have hrest := Decoder.rest_of_some hnext
      cases hframe : frame.isError with
      | true =>
          have hround := (readRound_error h hnext hframe).1
          refine ⟨s, [], os, loop_of_none hround, SameListener.refl s, by simpa using h, by simp,
            rfl, rfl, ?_⟩
          intro frame' rest' hsome
          have hnext' : nextFrame kannel systemId os = some (frame, rest) := hnext
          rw [hnext'] at hsome
          cases hsome
          exact hframe
      | false =>
          cases frame with
          | notUnpacked os => cases hframe
          | invalidLength os => cases hframe
          | pdu p =>
              rcases readRound_pdu h hnext with ⟨t, hround, hreads, hless⟩
              cases n with
              | zero => omega
              | succ n =>
                  have hbound : t.buffered ≤ n := Nat.le_of_lt_succ (Nat.lt_of_lt_of_le hless hn)
                  rcases ih hreads hbound with
                    ⟨u, pdus, left, hloop, hsame, hu, hpdus, hleft, hend, hstop⟩
                  refine ⟨u, .pdu p :: pdus, left, ?_,
                    (sameListener_readRound hround).trans hsame, ?_, ?_, ?_, ?_, hstop⟩
                  · rw [loop_of_some hround]
                    exact hloop
                  · rw [List.append_cons]
                    exact hu
                  · intro f hf
                    rcases List.mem_cons.mp hf with rfl | hf
                    · rfl
                    · exact hpdus f hf
                  · rw [hitems, hleft]
                    rfl
                  · rw [hrest, hend]

/-! ## What an event leaves -/

/-- The last ten frames were bad, and never were there ten in a row before. -/
structure AtLimit (fs : List Frame) : Prop where
  before : FewErrors fs.dropLast
  last : ∃ errors, errors <:+ fs ∧ errors.length = smppEsmeMaxConsecutiveErrors ∧
    ∀ frame ∈ errors, frame.isError = true

/-- A session that was given up after these frames. -/
structure GivenUp (esme : EsmeRef) (authenticated : Bool) (s : ListenerState) (fs : List Frame) :
    Prop where
  connected : s.connected = false
  atLimit : AtLimit fs
  inboundQueue : s.inboundQueue = fs.filterMap (Frame.queuedPdu esme)
  authFailed : s.authFailed = if authenticated then 0 else 1
  cleanup : s.cleanup = !authenticated

/-- A session that goes on after these frames. -/
structure GoesOn (kannel : Kannel) (esme : EsmeRef) (systemId : Option Octstr)
    (authenticated : Bool) (s : ListenerState) (fs : List Frame) (os : Octstr) : Prop where
  reads : Reads kannel esme systemId s fs os
  few : FewErrors fs
  same : SameListener (listenerInit esme systemId authenticated) s

theorem isError_queuedPdu (h : frame.isError = true) : frame.queuedPdu esme = none := by
  cases frame with
  | pdu p => cases h
  | notUnpacked os => rfl
  | invalidLength os => rfl

theorem atLimit_append (hfew : FewErrors fs) (hframe : frame.isError = true)
    (hlimit : smppEsmeMaxConsecutiveErrors ≤ errorsAfter (fs ++ [frame])) :
    AtLimit (fs ++ [frame]) := by
  refine ⟨by simpa using hfew, ?_⟩
  rcases errorsAfter_spec (fs ++ [frame]) with ⟨errors, hsuffix, hall, hlength⟩
  refine ⟨errors, hsuffix, ?_, hall⟩
  -- one error was added to fewer than ten
  have hlt := errorsAfter_lt hfew
  have hnext : errorsAfter (fs ++ [frame]) = errorsAfter fs + 1 := by
    rw [errorsAfter_append, if_pos hframe]
  omega

/-- An error is counted; the tenth ends the session. -/
theorem afterLoop_error (h : GoesOn kannel esme systemId authenticated s done os)
    (hnext : nextFrame kannel systemId os = some (frame, rest)) (herror : frame.isError = true) :
    GoesOn kannel esme systemId authenticated (afterLoop s (s.read kannel)) (done ++ [frame]) rest ∨
      GivenUp esme authenticated (afterLoop s (s.read kannel)) (done ++ [frame]) := by
  rcases readRound_error h.reads hnext herror with ⟨-, hresult, -⟩
  have herrors : errorsAfter (done ++ [frame]) = s.errors + 1 := by
    rw [errorsAfter_append, if_pos herror, h.reads.errors]
  by_cases hlimit : smppEsmeMaxConsecutiveErrors ≤ s.errors + 1
  · right
    have hafter : afterLoop s (s.read kannel) =
        { s.afterRead (s.read kannel) with errors := s.errors + 1 }.giveUp := by
      simp [afterLoop, hresult, ListenerState.afterRead, hlimit]
    have hqueue : s.inboundQueue = (done ++ [frame]).filterMap (Frame.queuedPdu esme) := by
      simp [h.reads.inboundQueue, List.filterMap_append, isError_queuedPdu herror]
    have hsame := h.same
    rw [hafter]
    have hauth : s.authenticated = authenticated := hsame.authenticated
    have hfailed : s.authFailed = 0 := hsame.authFailed
    have hcleanup : s.cleanup = false := hsame.cleanup
    cases authenticated with
    | true =>
        simp only [ListenerState.giveUp, ListenerState.afterRead, hauth]
        exact ⟨rfl, atLimit_append h.few herror (herrors ▸ hlimit), hqueue, hfailed, hcleanup⟩
    | false =>
        simp only [ListenerState.giveUp, ListenerState.afterRead, hauth]
        exact ⟨rfl, atLimit_append h.few herror (herrors ▸ hlimit), hqueue,
          congrArg (· + 1) hfailed, rfl⟩
  · left
    have hfew : FewErrors (done ++ [frame]) :=
      fewErrors_append_iff.mpr ⟨h.few, by rw [herrors]; exact Nat.not_le.mp hlimit⟩
    have hafter : afterLoop s (s.read kannel) =
        { s.afterRead (s.read kannel) with errors := s.errors + 1 } := by
      simp [afterLoop, hresult, ListenerState.afterRead, hlimit]
    refine ⟨reads_afterLoop_error h.reads hnext herror hfew, hfew, ?_⟩
    rw [hafter]
    exact h.same.trans ⟨rfl, rfl, rfl⟩

/-- New octets raise an event, which reads some more of the frames. -/
theorem receive_goesOn (h : GoesOn kannel esme systemId authenticated s done os) (chunk : Octstr) :
    ∃ t fs left, receive kannel s chunk = some t ∧
      done ++ (frames kannel systemId).items (os ++ chunk) =
        fs ++ (frames kannel systemId).items left ∧
      (frames kannel systemId).rest (os ++ chunk) = (frames kannel systemId).rest left ∧
      (GoesOn kannel esme systemId authenticated t fs left ∨ GivenUp esme authenticated t fs) := by
  let s' : ListenerState :=
    { s with conn := s.conn.map (fun c => { c with inbuf := c.inbuf ++ chunk }) }
  have hreads : Reads kannel esme systemId s' done (os ++ chunk) := by
    refine ⟨h.reads.sameEsme, h.reads.sameSystemId, ?_, h.reads.inboundQueue, h.reads.errors,
      h.reads.connected⟩
    rcases h.reads.unread.buffered with ⟨c, header, hconn, hopen, rfl, hheader⟩
    exact ⟨{ c with inbuf := c.inbuf ++ chunk }, header, by simp [s', hconn], hopen,
      List.append_assoc _ _ _, hheader⟩
  rcases loop_pdus hreads (Nat.le_refl _) with
    ⟨u, pdus, left, hloop, hsame, hu, hpdus, hleft, hrest, hstop⟩
  have hgoes : GoesOn kannel esme systemId authenticated u (done ++ pdus) left :=
    ⟨hu, h.few.append_pdus hpdus,
      h.same.trans ⟨hsame.authenticated, hsame.authFailed, hsame.cleanup⟩⟩
  have hreceive : receive kannel s chunk = some (afterLoop u (u.read kannel)) := by
    calc receive kannel s chunk
        = smppListenerEvent kannel true s' := if_pos h.reads.connected
      _ = (loop (readRound kannel) s'.buffered s').map
            (fun t => afterLoop t (t.read kannel)) := if_pos rfl
      _ = some (afterLoop u (u.read kannel)) := by rw [hloop, Option.map_some]
  cases hnext : nextFrame kannel systemId left with
  | none =>
      rcases readRound_noData hu hnext with ⟨-, hresult, hunread⟩
      have hafter : afterLoop u (u.read kannel) = u.afterRead (u.read kannel) := by
        simp [afterLoop, hresult]
      refine ⟨_, done ++ pdus, left, hreceive, by rw [hleft, List.append_assoc], hrest, ?_⟩
      rw [hafter]
      exact Or.inl ⟨⟨hu.sameEsme, hu.sameSystemId, hunread, hu.inboundQueue, hu.errors,
        hu.connected⟩, hgoes.few, hgoes.same.trans ⟨rfl, rfl, rfl⟩⟩
  | some r =>
      rcases r with ⟨frame, rest⟩
      have hitems : (frames kannel systemId).items left =
          frame :: (frames kannel systemId).items rest := Decoder.items_of_some hnext
      have hafter : (frames kannel systemId).rest left = (frames kannel systemId).rest rest :=
        Decoder.rest_of_some hnext
      refine ⟨_, done ++ pdus ++ [frame], rest, hreceive, ?_, hrest.trans hafter,
        afterLoop_error hgoes hnext (hstop frame rest hnext)⟩
      rw [hleft, hitems]
      simp

/-! ## Streams -/

theorem receiveAll_of_not_connected (h : s.connected = false) (chunks : List Octstr) :
    receiveAll kannel s chunks = some s := by
  induction chunks with
  | nil => rfl
  | cons chunk chunks ih =>
      have hreceive : receive kannel s chunk = some s := by
        rw [receive, h, if_neg Bool.false_ne_true]
      rw [receiveAll, hreceive]
      exact ih

theorem receiveAll_goesOn (h : GoesOn kannel esme systemId authenticated s done os)
    (chunks : List Octstr) :
    ∃ t fs more, receiveAll kannel s chunks = some t ∧
      done ++ (frames kannel systemId).items (os ++ chunks.flatten) = fs ++ more ∧
      ((∃ left, GoesOn kannel esme systemId authenticated t fs left) ∨
        GivenUp esme authenticated t fs) := by
  let d := frames kannel systemId
  induction chunks generalizing s done os with
  | nil => exact ⟨s, done, d.items (os ++ [].flatten), rfl, rfl, Or.inl ⟨os, h⟩⟩
  | cons chunk chunks ih =>
      rcases receive_goesOn h chunk with ⟨t, fs, left, hreceive, hframes, hrest, hstatus⟩
      have hall : done ++ d.items (os ++ (chunk :: chunks).flatten) =
          fs ++ d.items (left ++ chunks.flatten) := by
        calc
          done ++ d.items (os ++ (chunk :: chunks).flatten)
              = done ++ d.items (os ++ chunk ++ chunks.flatten) := by
                rw [List.flatten_cons, List.append_assoc]
          _ = done ++ d.items (os ++ chunk) ++ d.items (d.rest (os ++ chunk) ++ chunks.flatten) := by
                rw [Decoder.items_append d (os ++ chunk) chunks.flatten, List.append_assoc]
          _ = fs ++ (d.items left ++ d.items (d.rest left ++ chunks.flatten)) := by
                rw [hframes, hrest, List.append_assoc]
          _ = fs ++ d.items (left ++ chunks.flatten) := by
                rw [← Decoder.items_append d left chunks.flatten]
      rw [hall, receiveAll, hreceive, Option.bind_some]
      rcases hstatus with hgoes | hgiven
      · exact ih hgoes
      · exact ⟨t, fs, _, receiveAll_of_not_connected hgiven.connected chunks, rfl, Or.inr hgiven⟩

/-- However a stream is cut, a session queues the PDUs of a first part of it in order.  It goes on as
long as no ten bad frames in a row were read; after the tenth it is given up, which counts as a
failed authentication exactly if it was not bound. -/
theorem session_ends_at_tenth_error (kannel : Kannel) (esme : EsmeRef) (systemId : Option Octstr)
    (authenticated : Bool) (chunks : List Octstr) :
    ∃ s fs more, receiveAll kannel (listenerInit esme systemId authenticated) chunks = some s ∧
      (frames kannel systemId).items chunks.flatten = fs ++ more ∧
      s.inboundQueue = fs.filterMap (Frame.queuedPdu esme) ∧
      (s.connected = true ∧ FewErrors fs ∧ s.authFailed = 0 ∧ s.cleanup = false ∨
        s.connected = false ∧ AtLimit fs ∧ s.authFailed = (if authenticated then 0 else 1) ∧
          s.cleanup = !authenticated) := by
  have hfew : FewErrors [] := by
    intro errors hinfix _
    rw [List.infix_nil.mp hinfix]
    exact Nat.zero_lt_succ 9
  have hinit : GoesOn kannel esme systemId authenticated (listenerInit esme systemId authenticated)
      [] [] :=
    ⟨reads_init kannel esme systemId authenticated, hfew, SameListener.refl _⟩
  rcases receiveAll_goesOn hinit chunks with ⟨s, fs, more, hreceive, hframes, hstatus⟩
  refine ⟨s, fs, more, hreceive, by simpa using hframes, ?_⟩
  rcases hstatus with ⟨left, hgoes⟩ | hgiven
  · exact ⟨hgoes.reads.inboundQueue, Or.inl ⟨hgoes.reads.connected, hgoes.few,
      hgoes.same.authFailed, hgoes.same.cleanup⟩⟩
  · exact ⟨hgiven.inboundQueue, Or.inr ⟨hgiven.connected, hgiven.atLimit, hgiven.authFailed,
      hgiven.cleanup⟩⟩

end Listener
end Ksmppd
