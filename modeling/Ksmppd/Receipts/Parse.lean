import Ksmppd.Esme
import Ksmppd.Redis.Message
import Ksmppd.Text

/-!
# Parse — receipt texts and their dates

`parse_dlr_short_message` reads a receipt text with one `sscanf`.  Where that does not give all seven
fields, it looks for each label with `octstr_search` and copies what stands behind it over what
`sscanf` has left.  The result is an error only if neither an id nor a status has been found.
-/

namespace Ksmppd
namespace Receipts

open Redis (octstrGetCstr)

/-! ## sscanf -/

/-- A directive of a format. -/
inductive ScanDirective
  /-- Octets that stand for themselves. -/
  | text (os : Octstr)
  /-- A blank, which stands for any white space. -/
  | space
  /-- `%N[...]`. -/
  | set (width : Nat) (accepts : UInt8 → Bool)
  /-- `%Ns`. -/
  | word (width : Nat)

/-- The texts `sscanf` has assigned when it stops. -/
def sscanf : List ScanDirective → Octstr → List Octstr
  | [], _ => []
  | .text t :: ds, os => if t.isPrefixOf os then sscanf ds (os.drop t.length) else []
  | .space :: ds, os => sscanf ds (os.dropWhile isSpace)
  | .set width accepts :: ds, os =>
      let field := (os.takeWhile accepts).take width
      -- a conversion without an octet ends the scan
      if field = [] then [] else field :: sscanf ds (os.drop field.length)
  | .word width :: ds, os =>
      let rest := os.dropWhile isSpace
      let field := (rest.takeWhile (fun c => !isSpace c)).take width
      if field = [] then [] else field :: sscanf ds (rest.drop field.length)

/-- The text assigned to the conversion with this number; the buffers are empty before. -/
def assigned (fields : List Octstr) (i : Nat) : Octstr := (fields[i]?).getD []

/-! ## Dates -/

/-- `struct tm`, as far as `mktime` reads it. -/
structure Tm where
  tmYear : Int
  tmMon : Int
  tmMday : Int
  tmHour : Int
  tmMin : Int
  tmSec : Int
  tmIsdst : Int
  deriving DecidableEq, Repr

/-- The clock and the time zone. -/
structure Clock where
  /-- `time(NULL)`. -/
  time : Int
  /-- `gw_localtime` and `localtime_r`. -/
  localtime : Int → Tm
  /-- `gw_mktime`. -/
  mktime : Tm → Int

/-- Two decimal digits. -/
def twoDigits (n : Int) : Octstr :=
  [48 + UInt8.ofNat (n.toNat / 10 % 10), 48 + UInt8.ofNat (n.toNat % 10)]

/-- `gw_strftime` with `"%y%m%d%H%M%S"`. -/
def gwStrftime (tm : Tm) : Octstr :=
  twoDigits (tm.tmYear % 100) ++ twoDigits (tm.tmMon + 1) ++ twoDigits tm.tmMday ++
    twoDigits tm.tmHour ++ twoDigits tm.tmMin ++ twoDigits tm.tmSec

/-- `%2s%2s%2s%2s%2s%2s`. -/
def timeFormat : List ScanDirective := List.replicate 6 (.word 2)

/-- `smpp_time_to_c_time`: a part that is missing or zero is that of the current time. -/
def smppTimeToCTime (c : Clock) (smppTime : Octstr) : Int :=
  let parts := sscanf timeFormat (octstrGetCstr smppTime)
  let part := fun i => atol (assigned parts i)
  -- whatever is not given is that of now
  let timeinfo := c.localtime c.time
  c.mktime
    { timeinfo with
      tmYear := if part 0 > 0 then part 0 + 2000 - 1900 else timeinfo.tmYear
      tmMon := if part 1 > 0 then part 1 - 1 else timeinfo.tmMon
      tmMday := if part 2 > 0 then part 2 else timeinfo.tmMday
      tmHour := if part 3 > 0 then part 3 else timeinfo.tmHour
      tmMin := if part 4 > 0 then part 4 else timeinfo.tmMin
      tmSec := if part 5 > 0 then part 5 else timeinfo.tmSec }

/-- `smpp_database_format_dlr_date`. -/
def smppDatabaseFormatDlrDate (c : Clock) (date : Option Octstr) : Octstr :=
  match date with
  | none => octstrImm "000000000000"
  | some os =>
      if os = [] then octstrImm "000000000000"
      else
        let t := smppTimeToCTime c os
        if t > 0 then gwStrftime (c.localtime t) else os

/-! ## Receipt texts -/

/-- ' ' -/
def blank : UInt8 := 32

/-- `"id:%64[^ ] sub:%3[^ ] dlvrd:%3[^ ] submit date:%14[0-9] done date:%14[0-9] stat:%15[^ ]
err:%3[^ ]"` -/
def dlrFormat : List ScanDirective :=
  let field := fun (label : String) (width : Nat) =>
    [ScanDirective.text (octstrImm label), .set width (fun c => c ≠ blank), .space]
  let date := fun (first second : String) =>
    [ScanDirective.text (octstrImm first), .space, .text (octstrImm second), .set 14 isDigit, .space]
  field "id:" 64 ++ field "sub:" 3 ++ field "dlvrd:" 3 ++ date "submit" "date:" ++
    date "done" "date:" ++ field "stat:" 15 ++
    [.text (octstrImm "err:"), .set 3 (fun c => c ≠ blank)]

/-- What `octstr_search` finds: the text from the first place on where `needle` stands. -/
def octstrSearch (needle : Octstr) : Octstr → Option Octstr
  | [] => if needle = [] then some [] else none
  | c :: os => if needle.isPrefixOf (c :: os) then some (c :: os) else octstrSearch needle os

/-- `octstr_case_search`. -/
def octstrCaseSearch (needle : Octstr) : Octstr → Option Octstr
  | [] => if needle = [] then some [] else none
  | c :: os =>
      if (octstrToLower needle).isPrefixOf (octstrToLower (c :: os)) then some (c :: os)
      else octstrCaseSearch needle os

/-- The octets the fallback copies for a label: from behind the label up to the next blank that
comes after the *start* of the label, as many as the buffer takes besides its `NUL`.  A label with a
blank in it gives none. -/
def fallbackField (shortMessage : Octstr) (label : Octstr) (size : Nat) : Octstr :=
  match octstrSearch label shortMessage with
  | none => []
  | some found =>
      let copyLen := (found.takeWhile (fun c => c ≠ blank)).length - label.length
      (found.drop label.length).take (min copyLen (size - 1))

/-- `octstr_get_many_chars` into a buffer that ends in zeros. -/
def overlay (buffer src : Octstr) : Octstr := src ++ buffer.drop src.length

/-- The text behind `text:`, at most 64 octets of it. -/
def textField (shortMessage : Octstr) : Octstr :=
  match octstrCaseSearch (octstrImm "text:") shortMessage with
  | none => []
  | some found =>
      let copyLen := (found.takeWhile (fun c => c ≠ 0)).length - 5
      (found.drop 5).take (min copyLen 64)

/-- The value of a hexadecimal digit, for `strtol`. -/
def strtolDigits (os : Octstr) : Nat :=
  (os.takeWhile (fun c => (hexValue c).isSome)).foldl
    (fun n c => 16 * n + ((hexValue c).getD 0).toNat) 0

/-- `strtol(s, NULL, 16)` as an `unsigned int`; the buffers hold three octets. -/
def strtolHex (os : Octstr) : Nat :=
  let unprefixed := fun (t : Octstr) =>
    match t with
    | 48 :: x :: d :: rest =>
        if (x = 120 ∨ x = 88) ∧ (hexValue d).isSome then d :: rest else t
    | _ => t
  match os.dropWhile isSpace with
  | 45 :: rest => (2 ^ 32 - strtolDigits (unprefixed rest) % 2 ^ 32) % 2 ^ 32
  | 43 :: rest => strtolDigits (unprefixed rest) % 2 ^ 32
  | rest => strtolDigits (unprefixed rest) % 2 ^ 32

/-- What `parse_dlr_short_message` gives its caller. -/
structure DlrFields where
  id : Octstr
  sub : Nat
  dlvrd : Nat
  submitDate : Int
  doneDate : Int
  stat : Octstr
  err : Nat
  text : Octstr
  deriving DecidableEq, Repr

/-- The buffers `id_cstr`, `sub_cstr`, `dlvrd_cstr`, `sub_d_cstr`, `done_d_cstr`, `stat_cstr` and
`err_cstr`. -/
structure DlrBuffers where
  id : Octstr
  sub : Octstr
  dlvrd : Octstr
  submitDate : Octstr
  doneDate : Octstr
  stat : Octstr
  err : Octstr
  deriving DecidableEq, Repr

/-- What `sscanf` leaves in the buffers. -/
def scannedBuffers (fields : List Octstr) : DlrBuffers where
  id := assigned fields 0
  sub := assigned fields 1
  dlvrd := assigned fields 2
  submitDate := assigned fields 3
  doneDate := assigned fields 4
  stat := assigned fields 5
  err := assigned fields 6

/-- The fallback, which writes over them. -/
def fallbackBuffers (shortMessage : Octstr) (b : DlrBuffers) : DlrBuffers where
  id := overlay b.id (fallbackField shortMessage (octstrImm "id:") 65)
  sub := overlay b.sub (fallbackField shortMessage (octstrImm "sub:") 4)
  dlvrd := overlay b.dlvrd (fallbackField shortMessage (octstrImm "dlvrd:") 4)
  submitDate := overlay b.submitDate (fallbackField shortMessage (octstrImm "submit date:") 15)
  doneDate := overlay b.doneDate (fallbackField shortMessage (octstrImm "done date:") 15)
  stat := overlay b.stat (fallbackField shortMessage (octstrImm "stat:") 16)
  err := overlay b.err (fallbackField shortMessage (octstrImm "err:") 4)

def dlrBuffers (shortMessage : Octstr) : DlrBuffers :=
  let fields := sscanf dlrFormat (octstrGetCstr shortMessage)
  if fields.length = 7 then scannedBuffers fields
  else fallbackBuffers shortMessage (scannedBuffers fields)

/-- `parse_dlr_short_message`; `none` is its -1. -/
def parseDlrShortMessage (c : Clock) (shortMessage : Octstr) : Option DlrFields :=
  if shortMessage = [] then none
  else
    let b := dlrBuffers shortMessage
    -- one of both is enough
    if octstrGetCstr b.id = [] ∧ octstrGetCstr b.stat = [] then none
    else
      some
        { id := octstrGetCstr b.id
          sub := strtolHex (octstrGetCstr b.sub)
          dlvrd := strtolHex (octstrGetCstr b.dlvrd)
          submitDate := smppTimeToCTime c b.submitDate
          doneDate := smppTimeToCTime c b.doneDate
          stat := octstrGetCstr b.stat
          err := strtolHex (octstrGetCstr b.err)
          text := octstrGetCstr (textField shortMessage) }

example : octstrGetCstr (dlrBuffers (octstrImm
    "id:7 sub:001 dlvrd:001 submit date:240101 done date:240102 stat:DELIVRD err:000 text:")).stat =
      octstrImm "DELIVRD" := by
  decide +kernel

/-! ## What is found -/

variable {os rest label : Octstr} {ds : List ScanDirective} {width : Nat} {accepts : UInt8 → Bool}

theorem sscanf_text (t : Octstr) : sscanf (.text t :: ds) (t ++ rest) = sscanf ds rest := by
  rw [sscanf, if_pos (by simp)]
  simp

theorem octstrSearch_prefix (hne : label ≠ []) :
    octstrSearch label (label ++ rest) = some (label ++ rest) := by
  cases label with
  | nil => exact absurd rfl hne
  | cons c label =>
      rw [List.cons_append, octstrSearch, if_pos]
      simp

/-- The first field of a receipt text, which no blank ends before `m` does. -/
theorem fallbackField_prefix {m : Octstr} {size : Nat} (hlabel : label ≠ [])
    (hblank : ∀ c ∈ label ++ m, c ≠ blank) :
    fallbackField (label ++ (m ++ blank :: rest)) label size = m.take (size - 1) := by
  -- the first blank behind the label is the one after `m`
  have hpiece : (label ++ (m ++ blank :: rest)).takeWhile (fun c => decide (c ≠ blank)) =
      label ++ m := by
    rw [← List.append_assoc, List.takeWhile_append_of_pos (by simpa using hblank)]
    simp
  have hlength : (label ++ m).length - label.length = m.length := by simp
  rw [fallbackField, octstrSearch_prefix hlabel]
  simp only [hpiece, hlength, List.drop_left]
  rw [List.take_append_of_le_length (Nat.min_le_left _ _), Nat.min_comm, ← List.take_take,
    List.take_length]

end Receipts
end Ksmppd
