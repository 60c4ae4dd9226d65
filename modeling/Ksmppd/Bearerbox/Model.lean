import Mathlib.Logic.Function.Basic
import Mathlib.Data.Fintype.Basic
import Ksmppd.Lib.Keyed
import Ksmppd.Types

/-!
# Bearerbox — the writer and reader threads of the bearerbox connections

The outbound half of `smpp_bearerbox.c`: messages handed to `smpp_bearerbox_add_message` go
through one shared queue to the writer threads, wait in the `open_acks` of a connection for their
ack, and are settled by the reader thread, by the clean-up of a lost connection, or by the
database when no connection is up.  Each label is what one thread does between two points where
another thread can come in.  The callback and context of a message are a type parameter: every
call of a callback is an event of the log.
-/

namespace Ksmppd
namespace Bearerbox

open Lib

/-! ## Data -/

/-- `SMPPBearerboxMsg`; the context stands for the callback together with its context. -/
structure SmppBearerboxMsg (κ : Type) where
  msg : Sms
  context : κ
  deriving DecidableEq, Repr

/-- `smpp_bearerbox_msg->id`, the text of the message's id taken when the record is created. -/
def SmppBearerboxMsg.id {κ : Type} (m : SmppBearerboxMsg κ) : Octstr := smppUuidGet m.msg.id

/-- What a writer thread has in its hands. -/
inductive Writer (κ : Type)
  /-- Nothing: it waits for the queue or for the connection. -/
  | idle
  /-- A message taken from the queue, the bearerbox lock not taken yet. -/
  | consumed (m : SmppBearerboxMsg κ)
  /-- It holds the bearerbox lock, has put the message in `open_acks` and is writing it. -/
  | writing (m : SmppBearerboxMsg κ)
  /-- The message was not written and goes back to `smpp_bearerbox_add_to_queue`. -/
  | requeue (m : SmppBearerboxMsg κ)
  deriving DecidableEq, Repr

/-- The message in the writer's own hands; one being written stands in `open_acks`. -/
def Writer.held {κ : Type} : Writer κ → List (SmppBearerboxMsg κ)
  | .consumed m => [m]
  | .requeue m => [m]
  | .idle => []
  | .writing _ => []

/-- The writer holds the bearerbox lock, so that no step that needs the write lock can run. -/
def Writer.locked {κ : Type} : Writer κ → Bool
  | .writing _ => true
  | _ => false

/-- The id of the message being written. -/
def Writer.writingId? {κ : Type} : Writer κ → Option Octstr
  | .writing m => some m.id
  | _ => none

structure SmppBearerbox (κ : Type) where
  id : Option Octstr
  /-- `connection != NULL`. -/
  connection : Bool
  alive : Bool
  openAcks : Keyed (@SmppBearerboxMsg.id κ)
  writer : Writer κ

/-- What the outside can see of the bearerbox threads. -/
inductive Event (n : Nat) (κ : Type)
  /-- `smpp_database_add_queue_message` was called and returned `inserted`. -/
  | addQueueMessage (m : SmppBearerboxMsg κ) (inserted : Bool)
  /-- `deliver_to_bearerbox_real` wrote the message to the connection. -/
  | written (b : Fin n) (m : SmppBearerboxMsg κ)
  /-- An ack was read from the connection. -/
  | ack (b : Fin n) (id : Octstr) (nack : Int)
  /-- The callback of the message was called. -/
  | callback (m : SmppBearerboxMsg κ) (status : Int)
  /-- `smpp_bearerbox_msg_destroy`. -/
  | destroyed (m : SmppBearerboxMsg κ)
  deriving DecidableEq, Repr

structure SmppBearerboxState (n : Nat) (κ : Type) where
  /-- `smpp_server->database_enable_queue`. -/
  databaseEnableQueue : Bool
  bearerboxes : Fin n → SmppBearerbox κ
  outboundQueue : List (SmppBearerboxMsg κ)
  log : List (Event n κ)

variable {n : Nat} {κ : Type}

def SmppBearerboxState.setBox (s : SmppBearerboxState n κ) (b : Fin n) (box : SmppBearerbox κ) :
    SmppBearerboxState n κ :=
  { s with bearerboxes := Function.update s.bearerboxes b box }

def SmppBearerboxState.record (s : SmppBearerboxState n κ) (es : List (Event n κ)) :
    SmppBearerboxState n κ :=
  { s with log := s.log ++ es }

/-- `gwlist_search(bearerboxes, NULL, smpp_bearerbox_online)` finds one. -/
def SmppBearerboxState.online (s : SmppBearerboxState n κ) : Bool :=
  decide (∃ b, (s.bearerboxes b).alive = true)

/-! ## Operations -/

/-- `smpp_bearerbox_add_to_queue`; `inserted` is what the database answers if it is asked. -/
def smppBearerboxAddToQueue (s : SmppBearerboxState n κ) (m : SmppBearerboxMsg κ)
    (inserted : Bool) : SmppBearerboxState n κ :=
  if s.online then
    { s with outboundQueue := s.outboundQueue ++ [m] }
  else if s.databaseEnableQueue then
    s.record [.addQueueMessage m inserted,
      .callback m (if inserted then 0 else smppEsmeRsyserr), .destroyed m]
  else
    s.record [.callback m smppEsmeRsyserr, .destroyed m]

/-- `smpp_bearerbox_add_message`. -/
def smppBearerboxAddMessage (s : SmppBearerboxState n κ) (msg : Sms) (context : κ)
    (inserted : Bool) : SmppBearerboxState n κ :=
  smppBearerboxAddToQueue s { msg := msg, context := context } inserted

/-- The status the reader thread passes to the callback for an ack. -/
def ackStatus (nack : Int) : Int :=
  if nack = ackBuffered ∨ nack = ackSuccess then 0
  else if nack = ackFailed then smppEsmeRsubmitfail
  else smppEsmeRsyserr

/-- The message with the `boxc_id` of the connection it is written to. -/
def withBoxcId (box : SmppBearerbox κ) (m : SmppBearerboxMsg κ) : SmppBearerboxMsg κ :=
  { m with msg := { m.msg with boxcId := box.id } }

/-- The clean-up of `open_acks` before a connection is opened again. -/
def ackCleanup (acks : List (SmppBearerboxMsg κ)) : List (Event n κ) :=
  acks.flatMap (fun m => [.callback m smppEsmeRsyserr, .destroyed m])

/-! ## Steps -/

inductive Label (n : Nat) (κ : Type)
  /-- Some thread calls `smpp_bearerbox_add_message`. -/
  | addMessage (msg : Sms) (context : κ) (inserted : Bool)
  /-- The writer takes the message at position `i` of the shared queue. -/
  | consume (b : Fin n) (i : Nat)
  /-- The writer takes the lock: it starts to write, or skips as the connection is down. -/
  | beginWrite (b : Fin n)
  /-- `deliver_to_bearerbox_real` returns, and the writer releases the lock. -/
  | endWrite (b : Fin n) (written : Bool)
  /-- The writer gives the message back. -/
  | requeue (b : Fin n) (inserted : Bool)
  /-- The reader processes an ack. -/
  | ack (b : Fin n) (id : Octstr) (nack : Int)
  /-- The connection is lost, or the bearerbox asks for a disconnect. -/
  | lose (b : Fin n)
  /-- The reader cleans up and tries to open the connection again. -/
  | reconnect (b : Fin n) (connected identified : Bool)
  deriving DecidableEq, Repr

/-- One step of the bearerbox threads. -/
def step (s : SmppBearerboxState n κ) : Label n κ → Option (SmppBearerboxState n κ)
  | .addMessage msg context inserted =>
      some (smppBearerboxAddMessage s msg context inserted)
  | .consume b i =>
      match (s.bearerboxes b).writer, s.outboundQueue[i]? with
      | .idle, some m =>
          some ({ s with outboundQueue := s.outboundQueue.eraseIdx i }.setBox b
            { s.bearerboxes b with writer := .consumed m })
      | _, _ => none
  | .beginWrite b =>
      let box := s.bearerboxes b
      match box.writer with
      | .consumed m =>
          if box.alive ∧ box.connection then
            let m' := withBoxcId box m
            some (s.setBox b { box with openAcks := box.openAcks.put m', writer := .writing m' })
          else
            some (s.setBox b { box with writer := .requeue m })
      | _ => none
  | .endWrite b written =>
      let box := s.bearerboxes b
      match box.writer with
      | .writing m =>
          if written then
            some ((s.setBox b { box with writer := .idle }).record [.written b m])
          else
            some (s.setBox b { box with
              openAcks := box.openAcks.remove m.id, alive := false, writer := .requeue m })
      | _ => none
  | .requeue b inserted =>
      let box := s.bearerboxes b
      match box.writer with
      | .requeue m =>
          some (smppBearerboxAddToQueue (s.setBox b { box with writer := .idle }) m inserted)
      | _ => none
  | .ack b id nack =>
      let box := s.bearerboxes b
      match box.openAcks.find? id with
      | some m =>
          some ((s.setBox b { box with openAcks := box.openAcks.remove id }).record
            [.ack b id nack, .callback m (ackStatus nack), .destroyed m])
      | none =>
          -- an ack without a message is logged as unknown and dropped
          some (s.record [.ack b id nack])
  | .lose b =>
      let box := s.bearerboxes b
      if box.writer.locked then none
      else some (s.setBox b { box with alive := false })
  | .reconnect b connected identified =>
      let box := s.bearerboxes b
      if box.alive ∨ box.writer.locked then none
      else
        some ((s.setBox b { box with
          openAcks := Keyed.empty, connection := connected,
          alive := connected && identified }).record (ackCleanup box.openAcks.entries))

/-- `smpp_bearerbox_init`: no connection is open yet. -/
def smppBearerboxInit (databaseEnableQueue : Bool) (ids : Fin n → Option Octstr) :
    SmppBearerboxState n κ where
  databaseEnableQueue := databaseEnableQueue
  bearerboxes := fun b =>
    { id := ids b, connection := false, alive := false, openAcks := Keyed.empty, writer := .idle }
  outboundQueue := []
  log := []

/-- A bearerbox acks no message that is still being written to it. -/
def AcksWritten (s : SmppBearerboxState n κ) : Label n κ → Prop
  | .ack b id _ => (s.bearerboxes b).writer.writingId? ≠ some id
  | _ => True

instance (s : SmppBearerboxState n κ) (l : Label n κ) : Decidable (AcksWritten s l) :=
  match l with
  | .ack b id _ => inferInstanceAs (Decidable ((s.bearerboxes b).writer.writingId? ≠ some id))
  | .addMessage _ _ _ => isTrue trivial
  | .consume _ _ => isTrue trivial
  | .beginWrite _ => isTrue trivial
  | .endWrite _ _ => isTrue trivial
  | .requeue _ _ => isTrue trivial
  | .lose _ => isTrue trivial
  | .reconnect _ _ _ => isTrue trivial

end Bearerbox
end Ksmppd
