import Mathlib.Data.List.FinRange
import Mathlib.Data.Vector.Basic

/-!
# Types — octet strings, statuses, message ids and the SMS record

The data that every part of the server passes on.  A C pointer that may be `NULL` is an
`Option`, a `long` is an `Int`.
-/

namespace Ksmppd

/-! ## Octet strings -/

abbrev Octstr := List UInt8

/-- The keys of the collections: a system id, and the number of a PDU. -/
instance instLawfulBEqOctstr : LawfulBEq Octstr := inferInstance

instance instLawfulBEqPduId : LawfulBEq (Option Int) := inferInstance

/-- The octets of a C string literal. -/
def octstrImm (s : String) : Octstr := s.toList.map (fun c => UInt8.ofNat c.toNat)

/-- `octstr_len`, which is zero for `NULL`. -/
def octstrLen : Option Octstr → Nat
  | none => 0
  | some os => os.length

/-- `octstr_format("%ld", n)`. -/
def octstrFormatLong (n : Int) : Octstr := octstrImm (toString n)

def isSpace (c : UInt8) : Bool := c == 32 || (decide (9 ≤ c) && decide (c ≤ 13))

def isDigit (c : UInt8) : Bool := decide (48 ≤ c) && decide (c ≤ 57)

/-- The value of the digits an octet string starts with. -/
def leadingDigits (os : Octstr) : Int :=
  (os.takeWhile isDigit).foldl (fun n c => 10 * n + ((c.toNat : Int) - 48)) 0

/-- `atol`, which stops at the ends of the range of `long`. -/
def atol (os : Octstr) : Int :=
  match os.dropWhile isSpace with
  | 45 :: digits => max (-(2 ^ 63)) (-(leadingDigits digits))
  | 43 :: digits => min (2 ^ 63 - 1) (leadingDigits digits)
  | digits => min (2 ^ 63 - 1) (leadingDigits digits)

/-! ## Statuses -/

def smppEsmeRok : Int := 0x00
def smppEsmeRinvbndsts : Int := 0x04
def smppEsmeRsyserr : Int := 0x08
def smppEsmeRinvsrcadr : Int := 0x0A
def smppEsmeRinvdstadr : Int := 0x0B
def smppEsmeRbindfail : Int := 0x0D
def smppEsmeRmsgqful : Int := 0x14
def smppEsmeRinvesmclass : Int := 0x43
def smppEsmeRsubmitfail : Int := 0x45
def smppEsmeRthrottled : Int := 0x58
def smppEsmeRinvtlvval : Int := 0xC4
def smppEsmeRdeliveryfailure : Int := 0xFE

/-- Statuses the server passes to its own callbacks. -/
def smppEsmeCommandStatusWaitAckTimeout : Int := 0x400
def smppEsmeCommandStatusQueued : Int := 0x401
def smppEsmeCommandStatusQueueError : Int := 0x402
def smppQueuedPduDestroyed : Int := 0x4FE

/-- `ack_status_t` of Kannel's messages. -/
def ackSuccess : Int := 0
def ackFailed : Int := 1
def ackFailedTmp : Int := 2
def ackBuffered : Int := 3

/-- Settings of `wait_ack_action`; the setting itself is any `long`. -/
def smppWaitackDisconnect : Int := 0
def smppWaitackDrop : Int := 1

/-! ## Message ids -/

/-- `uuid_t`. -/
abbrev Uuid := Vector UInt8 16

def hexDigit (n : UInt8) : UInt8 := if n < 10 then 48 + n else 87 + n

/-- The two hexadecimal digits of one byte of an id, after the dash that stands before it. -/
def uuidPiece (u : Uuid) (i : Fin 16) : Octstr :=
  (if i.val = 4 ∨ i.val = 6 ∨ i.val = 8 ∨ i.val = 10 then [45] else []) ++
    [hexDigit (u.get i / 16), hexDigit (u.get i % 16)]

/-- `uuid_unparse` into a fresh octet string. -/
def smppUuidGet (u : Uuid) : Octstr := (List.finRange 16).flatMap (uuidPiece u)

theorem hexDigit_injective {m n : UInt8} (hm : m < 16) (hn : n < 16)
    (h : hexDigit m = hexDigit n) : m = n := by
  unfold hexDigit at h
  grind

theorem uuidPiece_injective {u v : Uuid} {i : Fin 16} (h : uuidPiece u i = uuidPiece v i) :
    u.get i = v.get i := by
  have hdigits : hexDigit (u.get i / 16) = hexDigit (v.get i / 16) ∧
      hexDigit (u.get i % 16) = hexDigit (v.get i % 16) := by
    simpa [uuidPiece] using h
  have hhigh := hexDigit_injective (by grind) (by grind) hdigits.1
  have hlow := hexDigit_injective (by grind) (by grind) hdigits.2
  -- a byte is determined by its two digits
  have hsplit : ∀ b : UInt8, 16 * (b / 16) + b % 16 = b := by
    intro b
    grind
  calc
    u.get i = 16 * (u.get i / 16) + u.get i % 16 := (hsplit _).symm
    _ = 16 * (v.get i / 16) + v.get i % 16 := by rw [hhigh, hlow]
    _ = v.get i := hsplit _

/-- Concatenations of pieces of equal lengths agree only piece by piece. -/
theorem flatMap_piecewise {ι α : Type*} {f g : ι → List α} (hlen : ∀ i, (f i).length = (g i).length)
    {l : List ι} (h : l.flatMap f = l.flatMap g) : ∀ i ∈ l, f i = g i := by
  induction l with
  | nil =>
      simp
  | cons j l ih =>
      have happ : f j ++ l.flatMap f = g j ++ l.flatMap g := by simpa using h
      rcases List.append_inj happ (hlen j) with ⟨hj, hrest⟩
      intro i hi
      rcases List.mem_cons.mp hi with rfl | hi
      · exact hj
      · exact ih hrest i hi

/-- Distinct ids have distinct texts, so a dictionary may be keyed by the text. -/
theorem smppUuidGet_injective : Function.Injective smppUuidGet := by
  intro u v h
  have hlen : ∀ i, (uuidPiece u i).length = (uuidPiece v i).length := by
    intro i
    simp [uuidPiece]
  have hpieces := flatMap_piecewise hlen h
  apply Vector.ext
  intro i hi
  exact uuidPiece_injective (hpieces ⟨i, hi⟩ (List.mem_finRange _))

/-! ## SMS messages -/

/-- Bits of `dlr_mask`. -/
def dlrSuccess : Int := 0x01
def dlrFail : Int := 0x02
def dlrSmscFail : Int := 0x10

/-- `sms_type` of a message. -/
def smsTypeMo : Int := 0
def smsTypeMtReply : Int := 1
def smsTypeMtPush : Int := 2
def smsTypeReportMo : Int := 3
def smsTypeReportMt : Int := 4

/-- The `sms` arm of Kannel's `Msg`, its fields in the order in which Kannel lists them. -/
structure Sms where
  sender : Option Octstr
  receiver : Option Octstr
  udhdata : Option Octstr
  msgdata : Option Octstr
  time : Int
  smscId : Option Octstr
  smscNumber : Option Octstr
  foreignId : Option Octstr
  service : Option Octstr
  account : Option Octstr
  id : Uuid
  smsType : Int
  mclass : Int
  mwi : Int
  coding : Int
  compress : Int
  validity : Int
  deferred : Int
  dlrMask : Int
  dlrUrl : Option Octstr
  pid : Int
  altDcs : Int
  rpi : Int
  charset : Option Octstr
  boxcId : Option Octstr
  binfo : Option Octstr
  msgLeft : Int
  priority : Int
  resendTry : Int
  resendTime : Int
  metaData : Option Octstr
  deriving DecidableEq, Repr

/-- `MSG_PARAM_UNDEFINED`, the value of a number nobody has set. -/
def msgParamUndefined : Int := -1

/-- `msg_create(sms)` with the id that is generated for it. -/
def msgCreateSms (id : Uuid) : Sms where
  sender := none
  receiver := none
  udhdata := none
  msgdata := none
  time := msgParamUndefined
  smscId := none
  smscNumber := none
  foreignId := none
  service := none
  account := none
  id := id
  smsType := msgParamUndefined
  mclass := msgParamUndefined
  mwi := msgParamUndefined
  coding := msgParamUndefined
  compress := msgParamUndefined
  validity := msgParamUndefined
  deferred := msgParamUndefined
  dlrMask := msgParamUndefined
  dlrUrl := none
  pid := msgParamUndefined
  altDcs := msgParamUndefined
  rpi := msgParamUndefined
  charset := none
  boxcId := none
  binfo := none
  msgLeft := msgParamUndefined
  priority := msgParamUndefined
  resendTry := msgParamUndefined
  resendTime := msgParamUndefined
  metaData := none

end Ksmppd
