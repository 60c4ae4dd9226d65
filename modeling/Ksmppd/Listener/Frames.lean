import Ksmppd.Lib.Framing
import Ksmppd.Listener.Model

/-!
# Frames — what the octets of a session are made of

The octets a client sends are PDUs behind their lengths, frames that do not unpack and lengths that
Kannel does not take.  A read of the listener takes the first of them off what is unread, even if
its length was read in an earlier event.
-/

namespace Ksmppd
namespace Listener

open Lib

variable {kannel : Kannel} {systemId : Option Octstr} {s t : ListenerState} {c : Connection}
  {os rest : Octstr} {frame : Frame} {len : Int} {n : Nat}

inductive Frame
  | pdu (p : SmppPdu)
  | notUnpacked (os : Octstr)
  | invalidLength (os : Octstr)
  deriving DecidableEq, Repr

/-- A frame that ends the loop of a read event. -/
def Frame.isError : Frame → Bool
  | .pdu _ => false
  | _ => true

/-- The PDU that is queued for a frame. -/
def Frame.queuedPdu (esme : EsmeRef) : Frame → Option SmppQueuedPdu
  | .pdu p => some { smppQueuedPduCreate with pdu := some p, smppEsme := some esme }
  | _ => none

def frameOf (kannel : Kannel) (systemId : Option Octstr) (os : Octstr) : Frame :=
  match kannel.unpack systemId os with
  | some p => .pdu p
  | none => .notUnpacked os

/-- The first frame of a stream, if all its octets are there. -/
def nextFrame (kannel : Kannel) (systemId : Option Octstr) (os : Octstr) : Option (Frame × Octstr) :=
  if os.length < 4 then none
  else
    match kannel.pduLen (os.take 4) with
    | none => some (.invalidLength (os.take 4), os.drop 4)
    | some n =>
        if os.length < n then none
        else some (frameOf kannel systemId ((os.take n).drop 4), os.drop n)

theorem nextFrame_shorter (h : nextFrame kannel systemId os = some (frame, rest)) :
    rest.length < os.length := by
  unfold nextFrame at h
  split at h
  · cases h
  · rename_i hfour
    split at h
    · cases h
      rw [List.length_drop]
      omega
    · rename_i n hn
      -- a length is never shorter than its own four octets
      have hmin := kannel.minLen _ _ hn
      split at h
      · cases h
      · cases h
        rw [List.length_drop]
        omega

/-- More octets after a frame do not change it. -/
theorem nextFrame_append (more : Octstr) (h : nextFrame kannel systemId os = some (frame, rest)) :
    nextFrame kannel systemId (os ++ more) = some (frame, rest ++ more) := by
  unfold nextFrame at h
  split at h
  · cases h
  · rename_i hfour
    have htake : (os ++ more).take 4 = os.take 4 := List.take_append_of_le_length (by omega)
    have hlonger : ¬ (os ++ more).length < 4 := by
      rw [List.length_append]
      omega
    unfold nextFrame
    rw [if_neg hlonger, htake]
    split at h
    · cases h
      rw [List.drop_append_of_le_length (by omega)]
    · rename_i n hn
      split at h
      · cases h
      · cases h
        -- the whole PDU was there before
        have hlen : ¬ (os ++ more).length < n := by
          rw [List.length_append]
          omega
        simp only [if_neg hlen]
        rw [List.take_append_of_le_length (by omega), List.drop_append_of_le_length (by omega)]

/-- The frames of the octets a client sends. -/
def frames (kannel : Kannel) (systemId : Option Octstr) : Decoder UInt8 Frame where
  next := nextFrame kannel systemId
  shorter := nextFrame_shorter
  stable := nextFrame_append

/-! ## Reading a frame -/

/-- The octets that are unread: those in the buffer, after the length that was already taken. -/
structure Unread (kannel : Kannel) (conn : Option Connection) (len : Int) (os : Octstr) : Prop where
  buffered : ∃ c header, conn = some c ∧ c.eof = false ∧ os = header ++ c.inbuf ∧
    ((header = [] ∧ len = 0) ∨
      (header.length = 4 ∧ ∃ n : Nat, kannel.pduLen header = some n ∧ len = n))

/-- What a read has to do with the unread octets. -/
def ReadsFrame (kannel : Kannel) (systemId : Option Octstr) (os : Octstr) (r : ReadPdu) : Prop :=
  match nextFrame kannel systemId os with
  | none => r.result = 0 ∧ Unread kannel r.conn r.len os
  | some (frame, rest) => Unread kannel r.conn r.len rest ∧
      match frame with
      | .pdu p => r.result = 1 ∧ r.pdu = some p
      | _ => r.result = -2

theorem unread_inbuf (hopen : c.eof = false) : Unread kannel (some c) 0 c.inbuf :=
  ⟨c, [], rfl, hopen, rfl, Or.inl ⟨rfl, rfl⟩⟩

/-- The rest of a frame is read after its length. -/
theorem readData_readsFrame {header : Octstr} (hopen : c.eof = false) (hfour : header.length = 4)
    (hlen : kannel.pduLen header = some n) :
    ReadsFrame kannel systemId (header ++ c.inbuf) (readData kannel systemId c n) := by
  have hmin := kannel.minLen _ _ hlen
  have hlong : ¬ (header ++ c.inbuf).length < 4 := by
    rw [List.length_append]
    omega
  have htake : (header ++ c.inbuf).take 4 = header := by
    rw [← hfour]
    exact List.take_left
  have hnext : nextFrame kannel systemId (header ++ c.inbuf) =
      if (header ++ c.inbuf).length < n then none
      else some (frameOf kannel systemId (((header ++ c.inbuf).take n).drop 4),
        (header ++ c.inbuf).drop n) := by
    simp only [nextFrame, if_neg hlong, htake, hlen]
  have hbody : ((header ++ c.inbuf).take n).drop 4 = c.inbuf.take (n - 4) := by
    rw [List.take_append, List.take_of_length_le (by omega), hfour, ← hfour, List.drop_left, hfour]
  have hrest : (header ++ c.inbuf).drop n = c.inbuf.drop (n - 4) := by
    rw [List.drop_append, List.drop_of_length_le (by omega), hfour, List.nil_append]
  have hcount : ((n : Int) - 4).toNat = n - 4 := by omega
  unfold ReadsFrame
  rw [hnext, hbody, hrest]
  by_cases hshort : (header ++ c.inbuf).length < n
  · -- the length stays in `pending_len`
    have hless : (c.inbuf.length : Int) < n - 4 := by
      rw [List.length_append] at hshort
      omega
    simp only [if_pos hshort, readData, smppPduReadData, if_pos hless, noData, hopen]
    exact ⟨rfl, c, header, rfl, hopen, rfl, Or.inr ⟨hfour, n, hlen, rfl⟩⟩
  · -- all octets of the PDU are in the buffer
    have hmore : ¬ (c.inbuf.length : Int) < n - 4 := by
      rw [List.length_append] at hshort
      omega
    simp only [if_neg hshort, readData, smppPduReadData, if_neg hmore, hcount, frameOf]
    cases hunpack : kannel.unpack systemId (c.inbuf.take (n - 4)) with
    | none => exact ⟨unread_inbuf (c := { c with inbuf := c.inbuf.drop (n - 4) }) hopen, rfl⟩
    | some p => exact ⟨unread_inbuf (c := { c with inbuf := c.inbuf.drop (n - 4) }) hopen, rfl, rfl⟩

/-- A read takes the first frame off the unread octets. -/
theorem readPdu_readsFrame {conn : Option Connection} (h : Unread kannel conn len os) :
    ReadsFrame kannel systemId os (smppListenerReadPdu kannel systemId conn len) := by
  rcases h.buffered with ⟨c, header, rfl, hopen, rfl, ⟨rfl, rfl⟩ | ⟨hfour, n, hlen, rfl⟩⟩
  · rw [List.nil_append]
    -- no length was taken yet
    by_cases hshort : c.inbuf.length < 4
    · have hnext : nextFrame kannel systemId c.inbuf = none := by simp [nextFrame, hshort]
      simp only [ReadsFrame, hnext, smppListenerReadPdu, smppPduReadLen, if_pos hshort, noData, hopen]
      exact ⟨rfl, unread_inbuf hopen⟩
    · cases hlen : kannel.pduLen (c.inbuf.take 4) with
      | none =>
          have hnext : nextFrame kannel systemId c.inbuf =
              some (.invalidLength (c.inbuf.take 4), c.inbuf.drop 4) := by
            simp [nextFrame, hshort, hlen]
          simp only [ReadsFrame, hnext, smppListenerReadPdu, smppPduReadLen, if_neg hshort, hlen]
          exact ⟨unread_inbuf (c := { c with inbuf := c.inbuf.drop 4 }) hopen, rfl⟩
      | some n =>
          have hmin := kannel.minLen _ _ hlen
          have hread : smppListenerReadPdu kannel systemId (some c) 0 =
              readData kannel systemId { c with inbuf := c.inbuf.drop 4 } n := by
            have hvalid : ¬ (n : Int) = -1 ∧ ¬ (n : Int) = 0 := by omega
            simp only [smppListenerReadPdu, smppPduReadLen, if_neg hshort, hlen, if_neg hvalid.1,
              if_neg hvalid.2, if_true]
          have hcut : c.inbuf.take 4 ++ c.inbuf.drop 4 = c.inbuf := List.take_append_drop 4 _
          have hdata : ReadsFrame kannel systemId (c.inbuf.take 4 ++ c.inbuf.drop 4)
              (readData kannel systemId { c with inbuf := c.inbuf.drop 4 } n) :=
            readData_readsFrame (c := { c with inbuf := c.inbuf.drop 4 }) hopen
              (List.length_take_of_le (by omega)) hlen
          rw [hread]
          rwa [hcut] at hdata
  · have hmin := kannel.minLen _ _ hlen
    -- the length is in `pending_len`
    have hread : smppListenerReadPdu kannel systemId (some c) n = readData kannel systemId c n := by
      have hpending : ¬ (n : Int) = 0 := by omega
      simp only [smppListenerReadPdu, if_neg hpending]
    rw [hread]
    exact readData_readsFrame hopen hfour hlen

end Listener
end Ksmppd
