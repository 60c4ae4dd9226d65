import Ksmppd.Redis.Store
import Ksmppd.Text

/-!
# Rows — messages as rows of a store table

`smpp_database_mysql_add_message` and `smpp_database_mysql_get_stored` are both made from the field
list of `msg-decl.h`, by two sets of macros.  The writer names the columns it fills and leaves out
texts that are absent; the reader selects all columns and goes by their positions.
-/

namespace Ksmppd
namespace Database

open Redis (Field smsFields encodeMsg encodeData smppDbUrlEncodeOctstr smppDbUrlDecodeOctstr
  decodeTriples smppDbHexNibble hexDigitUpper percent)

/-! ## Writing -/

/-- The value that is bound for a field, if the field gets a column at all. -/
def fieldValue : Field → Option Octstr
  | .integer n => some (octstrFormatLong n)
  | .octstr os => os
  | .uuid u => some (smppUuidGet u)

/-- The columns and the values of the `INSERT` in `smpp_database_mysql_add_message`. -/
def insertBinds (m : Sms) : List (Octstr × Octstr) :=
  (smsFields (encodeMsg m)).filterMap (fun p => (fieldValue p.2).map (fun v => (p.1, v)))

/-- A row: the value of each column, `none` for `NULL`. -/
abbrev Row := Octstr → Option Octstr

/-- The row the table has after the `INSERT`, under the number it gives. -/
def insertedRow (globalId : Nat) (m : Sms) : Row := fun column =>
  if column = octstrImm "global_id" then some (octstrFormatLong globalId)
  else (insertBinds m).lookup column

/-! ## Reading -/

/-- The columns of the `SELECT` in `smpp_database_mysql_get_stored`, read off a fresh message. -/
def smsColumns : List Octstr := (smsFields (msgCreateSms (Vector.replicate 16 0))).map Prod.fst

/-- What the `SELECT` gives for a row. -/
def selectRow (row : Row) : List (Option Octstr) :=
  row (octstrImm "global_id") :: smsColumns.map row

/-- The memory at the address of an `Octstr`: it starts with a pointer to the octets.  No address of
user memory uses all eight bytes. -/
structure OctstrObject where
  pointer : Vector UInt8 8
  canonical : 0 ∈ pointer.toList

/-- What a C function reads that takes the object for a C string. -/
def OctstrObject.cstr (o : OctstrObject) : Octstr := o.pointer.toList.takeWhile (fun c => c ≠ 0)

/-- `gwlist_get(row, position)`. -/
def gwlistGet (row : List (Option Octstr)) (position : Nat) : Option Octstr :=
  (row[position]?).getD none

/-- `OCTSTR(name)`: an empty text leaves the field as it is. -/
def readOctstr (row : List (Option Octstr)) (position : Nat) : Option Octstr :=
  if octstrLen (gwlistGet row position) > 0 then gwlistGet row position else none

/-- `INTEGER(name)`. -/
def readInteger (row : List (Option Octstr)) (position : Nat) : Int :=
  atol ((gwlistGet row position).getD [])

/-- `UUID(name)`: `uuid_parse` gets the object itself, not its text. -/
def readUuid (o : OctstrObject) (generated : Uuid) : Uuid := (uuidParse o.cstr).getD generated

/-- The message `smpp_database_mysql_get_stored` makes of a row; `o` is the object with the text of
the id. -/
def rowToMsg (o : OctstrObject) (generated : Uuid) (row : List (Option Octstr)) : Sms where
  sender := readOctstr row 1
  receiver := readOctstr row 2
  udhdata := (readOctstr row 3).map smppDbUrlDecodeOctstr
  msgdata := some (((readOctstr row 4).map smppDbUrlDecodeOctstr).getD [])
  time := readInteger row 5
  smscId := readOctstr row 6
  smscNumber := readOctstr row 7
  foreignId := readOctstr row 8
  service := readOctstr row 9
  account := readOctstr row 10
  id := readUuid o generated
  smsType := readInteger row 12
  mclass := readInteger row 13
  mwi := readInteger row 14
  coding := readInteger row 15
  compress := readInteger row 16
  validity := readInteger row 17
  deferred := readInteger row 18
  dlrMask := readInteger row 19
  dlrUrl := readOctstr row 20
  pid := readInteger row 21
  altDcs := readInteger row 22
  rpi := readInteger row 23
  charset := readOctstr row 24
  boxcId := readOctstr row 25
  binfo := readOctstr row 26
  msgLeft := readInteger row 27
  priority := readInteger row 28
  resendTry := readInteger row 29
  resendTime := readInteger row 30
  metaData := readOctstr row 31

/-- A message that was stored and is read back. -/
def storedAndRead (o : OctstrObject) (generated : Uuid) (globalId : Nat) (m : Sms) : Sms :=
  rowToMsg o generated (selectRow (insertedRow globalId m))

/-! ## Equal messages -/

/-- An absent text counts as an empty one. -/
def SameField : Field → Field → Prop
  | .integer n, .integer n' => n = n'
  | .octstr os, .octstr os' => os.getD [] = os'.getD []
  | .uuid u, .uuid u' => u = u'
  | _, _ => False

/-- Equal in every field of Kannel's declaration. -/
def SameSms (m m' : Sms) : Prop :=
  List.Forall₂ (fun p p' => p.1 = p'.1 ∧ SameField p.2 p'.2) (smsFields m) (smsFields m')

instance : (f f' : Field) → Decidable (SameField f f')
  | .integer n, .integer n' => inferInstanceAs (Decidable (n = n'))
  | .octstr os, .octstr os' => inferInstanceAs (Decidable (os.getD [] = os'.getD []))
  | .uuid u, .uuid u' => inferInstanceAs (Decidable (u = u'))
  | .integer _, .octstr _ => isFalse id
  | .integer _, .uuid _ => isFalse id
  | .octstr _, .integer _ => isFalse id
  | .octstr _, .uuid _ => isFalse id
  | .uuid _, .integer _ => isFalse id
  | .uuid _, .octstr _ => isFalse id

def Field.IsLong : Field → Prop
  | .integer n => Ksmppd.IsLong n
  | _ => True

/-- The numbers of a message are values of a C `long`. -/
def LongFields (m : Sms) : Prop := ∀ p ∈ smsFields m, Field.IsLong p.2

variable {m : Sms} {o : OctstrObject} {generated : Uuid} {globalId : Nat} {position : Nat}
  {os : Option Octstr} {row : List (Option Octstr)}

/-! ## A column holds what was written into it -/

theorem map_fst_smsFields (m : Sms) : (smsFields m).map Prod.fst = smsColumns := rfl

theorem smsColumns_nodup : smsColumns.Nodup := by decide

theorem globalId_not_mem_smsColumns : octstrImm "global_id" ∉ smsColumns := by decide

/-- The value under a name, where each name has at most one. -/
theorem lookup_filterMap {l : List (Octstr × Field)} (hnodup : (l.map Prod.fst).Nodup)
    {p : Octstr × Field} (hp : p ∈ l) :
    (l.filterMap (fun q => (fieldValue q.2).map (fun v => (q.1, v)))).lookup p.1 =
      fieldValue p.2 := by
  rw [List.lookup_eq_findSome?, ← List.head?_filterMap, List.filterMap_filterMap,
    List.head?_filterMap]
  refine Eq.trans ?_ (Lib.findSome?_key_eq (fun q => fieldValue q.2) hnodup hp)
  congr
  funext q
  -- a field with a value has it under its own name
  cases hvalue : fieldValue q.2 with
  | none => simp
  | some v =>
      by_cases hname : q.1 = p.1
      · simp [hname]
      · simp [hname, Ne.symm hname]

/-- The selected columns are the values of the fields, in the order of the field list. -/
theorem selectRow_insertedRow (globalId : Nat) (m : Sms) :
    selectRow (insertedRow globalId m) = some (octstrFormatLong globalId) ::
      (smsFields (encodeMsg m)).map (fun p => fieldValue p.2) := by
  have hcolumn : ∀ p ∈ smsFields (encodeMsg m), insertedRow globalId m p.1 = fieldValue p.2 := by
    intro p hp
    have hname : p.1 ∈ smsColumns := map_fst_smsFields (encodeMsg m) ▸ List.mem_map_of_mem hp
    have hne : p.1 ≠ octstrImm "global_id" :=
      fun heq => globalId_not_mem_smsColumns (heq ▸ hname)
    -- no field is called `global_id`
    rw [insertedRow, if_neg hne, insertBinds]
    exact lookup_filterMap (map_fst_smsFields (encodeMsg m) ▸ smsColumns_nodup) hp
  rw [selectRow, ← map_fst_smsFields (encodeMsg m), List.map_map]
  exact congrArg₂ List.cons (if_pos rfl) (List.map_congr_left hcolumn)

/-! ## Each kind of field comes back -/

theorem readOctstr_of_eq (h : gwlistGet row position = os) :
    (readOctstr row position).getD [] = os.getD [] := by
  rw [readOctstr, h]
  cases os with
  | none => rfl
  | some text =>
      cases text with
      -- an empty text is not read, which leaves the field absent
      | nil => rfl
      | cons c cs => simp [octstrLen]

theorem readInteger_of_eq {n : Int} (hn : IsLong n)
    (h : gwlistGet row position = some (octstrFormatLong n)) : readInteger row position = n := by
  rw [readInteger, h]
  exact atol_octstrFormatLong hn

/-- `smpp_db_url_decode_octstr` undoes `smpp_db_url_encode_octstr`. -/
theorem decodeTriples_encode (text : Octstr) :
    decodeTriples (smppDbUrlEncodeOctstr text) = some text := by
  have hnibble : ∀ n : UInt8, n < 16 → smppDbHexNibble (hexDigitUpper n) = some n := by
    intro n hn
    unfold smppDbHexNibble hexDigitUpper
    grind
  induction text with
  | nil => rfl
  | cons b text ih =>
      have hhigh := hnibble (b / 16) (by grind)
      have hlow := hnibble (b % 16) (by grind)
      -- the two digits are the two halves of the octet
      have hbyte : 16 * (b / 16) + b % 16 = b := by grind
      have hcons : smppDbUrlEncodeOctstr (b :: text) =
          percent :: hexDigitUpper (b / 16) :: hexDigitUpper (b % 16) ::
            smppDbUrlEncodeOctstr text := rfl
      rw [hcons, decodeTriples, if_pos rfl, hhigh, hlow]
      simp [ih, hbyte]

theorem readData_of_eq (h : gwlistGet row position = encodeData os) :
    ((readOctstr row position).map smppDbUrlDecodeOctstr).getD [] = os.getD [] := by
  rw [readOctstr, h]
  cases os with
  | none => rfl
  | some text =>
      cases text with
      | nil => rfl
      | cons b text =>
          have hdecode := decodeTriples_encode (b :: text)
          have hne : 0 < (smppDbUrlEncodeOctstr (b :: text)).length := by
            simp [smppDbUrlEncodeOctstr]
          have hsome : encodeData (some (b :: text)) = some (smppDbUrlEncodeOctstr (b :: text)) :=
            rfl
          simp [hsome, octstrLen, hne, smppDbUrlDecodeOctstr, hdecode]

/-- What `uuid_parse` finds at the address of the object is too short to be an id. -/
theorem readUuid_eq_generated (o : OctstrObject) (generated : Uuid) :
    readUuid o generated = generated := by
  have hshort : o.cstr.length < 8 := by
    have hle : o.cstr.length ≤ o.pointer.toList.length :=
      (List.takeWhile_prefix (fun c => decide (c ≠ 0))).length_le
    -- a zero octet in the pointer ends it
    have hne : o.cstr.length ≠ o.pointer.toList.length := by
      intro heq
      have hall := (List.takeWhile_prefix (fun c => decide (c ≠ 0))).eq_of_length heq
      have hzero := List.takeWhile_eq_self_iff.mp hall 0 o.canonical
      exact absurd hzero (by decide)
    have hlength : o.pointer.toList.length = 8 := by simp
    omega
  have hparse : uuidParse o.cstr = none := by
    cases hparse : uuidParse o.cstr with
    | none => rfl
    | some u =>
        have hlength := length_of_uuidParse hparse
        omega
  rw [readUuid, hparse]
  rfl

/-! ## Stored messages -/

/-- All fields come back but the id. -/
theorem storedAndRead_same (o : OctstrObject) (generated : Uuid) (globalId : Nat)
    (hlong : LongFields m) :
    SameSms (storedAndRead o generated globalId m) { m with id := generated } := by
  unfold LongFields smsFields at hlong
  simp only [List.forall_mem_cons] at hlong
  obtain ⟨-, -, -, -, htime, -, -, -, -, -, -, hsmsType, hmclass, hmwi, hcoding, hcompress,
    hvalidity, hdeferred, hdlrMask, -, hpid, haltDcs, hrpi, -, -, -, hmsgLeft, hpriority,
    hresendTry, hresendTime, -⟩ := hlong
  unfold SameSms storedAndRead
  rw [selectRow_insertedRow]
  -- one entry for each field, in the order of the list
  exact
    .cons ⟨rfl, readOctstr_of_eq rfl⟩ <|
    .cons ⟨rfl, readOctstr_of_eq rfl⟩ <|
    .cons ⟨rfl, readData_of_eq rfl⟩ <|
    .cons ⟨rfl, readData_of_eq rfl⟩ <|
    .cons ⟨rfl, readInteger_of_eq htime rfl⟩ <|
    .cons ⟨rfl, readOctstr_of_eq rfl⟩ <|
    .cons ⟨rfl, readOctstr_of_eq rfl⟩ <|
    .cons ⟨rfl, readOctstr_of_eq rfl⟩ <|
    .cons ⟨rfl, readOctstr_of_eq rfl⟩ <|
    .cons ⟨rfl, readOctstr_of_eq rfl⟩ <|
    .cons ⟨rfl, readUuid_eq_generated o generated⟩ <|
    .cons ⟨rfl, readInteger_of_eq hsmsType rfl⟩ <|
    .cons ⟨rfl, readInteger_of_eq hmclass rfl⟩ <|
    .cons ⟨rfl, readInteger_of_eq hmwi rfl⟩ <|
    .cons ⟨rfl, readInteger_of_eq hcoding rfl⟩ <|
    .cons ⟨rfl, readInteger_of_eq hcompress rfl⟩ <|
    .cons ⟨rfl, readInteger_of_eq hvalidity rfl⟩ <|
    .cons ⟨rfl, readInteger_of_eq hdeferred rfl⟩ <|
    .cons ⟨rfl, readInteger_of_eq hdlrMask rfl⟩ <|
    .cons ⟨rfl, readOctstr_of_eq rfl⟩ <|
    .cons ⟨rfl, readInteger_of_eq hpid rfl⟩ <|
    .cons ⟨rfl, readInteger_of_eq haltDcs rfl⟩ <|
    .cons ⟨rfl, readInteger_of_eq hrpi rfl⟩ <|
    .cons ⟨rfl, readOctstr_of_eq rfl⟩ <|
    .cons ⟨rfl, readOctstr_of_eq rfl⟩ <|
    .cons ⟨rfl, readOctstr_of_eq rfl⟩ <|
    .cons ⟨rfl, readInteger_of_eq hmsgLeft rfl⟩ <|
    .cons ⟨rfl, readInteger_of_eq hpriority rfl⟩ <|
    .cons ⟨rfl, readInteger_of_eq hresendTry rfl⟩ <|
    .cons ⟨rfl, readInteger_of_eq hresendTime rfl⟩ <|
    .cons ⟨rfl, readOctstr_of_eq rfl⟩ .nil

theorem id_eq_of_sameSms {m m' : Sms} (h : SameSms m m') : m.id = m'.id := by
  unfold SameSms smsFields at h
  simp only [List.forall₂_cons] at h
  obtain ⟨-, -, -, -, -, -, -, -, -, -, ⟨-, hid⟩, -⟩ := h
  exact hid

/-- A stored message comes back equal in every field exactly if the id that is generated for it
while it is read happens to be the one it was stored with. -/
theorem stored_message_same_iff (o : OctstrObject) (generated : Uuid) (globalId : Nat)
    (hlong : LongFields m) :
    SameSms (storedAndRead o generated globalId m) m ↔ generated = m.id := by
  constructor
  · intro hsame
    exact (readUuid_eq_generated o generated).symm.trans (id_eq_of_sameSms hsame)
  · rintro rfl
    exact storedAndRead_same o m.id globalId hlong

/-! ## Samples -/

instance : (f : Field) → Decidable (Field.IsLong f)
  | .integer n => inferInstanceAs (Decidable (Ksmppd.IsLong n))
  | .octstr _ => isTrue trivial
  | .uuid _ => isTrue trivial

instance (m : Sms) : Decidable (LongFields m) :=
  inferInstanceAs (Decidable (∀ p ∈ smsFields m, Field.IsLong p.2))

/-- An object whose text is at the address 0x7f00deadbeef. -/
def sampleObject : OctstrObject where
  pointer := #v[0xef, 0xbe, 0xad, 0xde, 0x00, 0x7f, 0x00, 0x00]
  canonical := by decide

/-- A message with user data and an id of ones. -/
def sampleStored : Sms :=
  { msgCreateSms (Vector.replicate 16 1) with
    service := some (octstrImm "esme")
    msgdata := some (octstrImm "100% sure")
    smsType := smsTypeMo }

theorem stored_message_same_sample :
    SameSms (storedAndRead sampleObject (Vector.replicate 16 1) 7 sampleStored) sampleStored :=
  (stored_message_same_iff sampleObject (Vector.replicate 16 1) 7 (by decide)).mpr rfl

/-- With any other id generated, the message comes back under that id. -/
theorem stored_message_other_id :
    ¬ SameSms (storedAndRead sampleObject (Vector.replicate 16 2) 7 sampleStored) sampleStored := by
  intro hsame
  have hid := id_eq_of_sameSms hsame
  have hread : (storedAndRead sampleObject (Vector.replicate 16 2) 7 sampleStored).id =
      Vector.replicate 16 2 := readUuid_eq_generated sampleObject _
  rw [hread] at hid
  exact absurd hid (by decide)

end Database
end Ksmppd
