import Mathlib.Data.List.TakeWhile
import Ksmppd.Types

/-!
# Text — numbers and ids as texts

`octstr_format("%ld", n)` and `uuid_unparse` write texts that `atol` and `uuid_parse` read back.
-/

namespace Ksmppd

/-! ## Numbers -/

/-- The values of a C `long`. -/
def IsLong (n : Int) : Prop := -(2 ^ 63) ≤ n ∧ n < 2 ^ 63

instance (n : Int) : Decidable (IsLong n) :=
  inferInstanceAs (Decidable (-(2 ^ 63) ≤ n ∧ n < 2 ^ 63))

theorem octstrFormatLong_natCast (k : Nat) :
    octstrFormatLong k = (Nat.toDigits 10 k).map (fun c => UInt8.ofNat c.toNat) := by
  change octstrImm k.repr = _
  rw [octstrImm, Nat.toList_repr]

theorem octstrFormatLong_negSucc (k : Nat) :
    octstrFormatLong (Int.negSucc k) = 45 :: octstrFormatLong (k + 1 : Nat) := by
  change octstrImm ("-" ++ (k + 1).repr) = 45 :: octstrImm (k + 1).repr
  simp [octstrImm]

/-- A decimal digit as an octet. -/
theorem toNat_of_isDigit {c : Char} (h : c.isDigit = true) :
    (UInt8.ofNat c.toNat).toNat = c.toNat ∧ 48 ≤ c.toNat ∧ c.toNat ≤ 57 := by
  have hrange : 48 ≤ c.toNat ∧ c.toNat ≤ 57 := by
    simpa [Char.isDigit, UInt32.le_iff_toNat_le] using h
  refine ⟨?_, hrange⟩
  rw [UInt8.toNat_ofNat']
  omega

theorem isDigit_of_mem_octstrFormatLong {k : Nat} {c : UInt8} (h : c ∈ octstrFormatLong k) :
    isDigit c = true := by
  rw [octstrFormatLong_natCast] at h
  rcases List.mem_map.mp h with ⟨d, hd, rfl⟩
  rcases toNat_of_isDigit (Nat.isDigit_of_mem_toDigits (by decide) (by decide) hd) with
    ⟨hoctet, hlow, hhigh⟩
  simp only [isDigit, UInt8.le_iff_toNat_le, hoctet, Bool.and_eq_true, decide_eq_true_eq]
  exact ⟨hlow, hhigh⟩

/-- The text of a number has a sign and digits only. -/
theorem octet_of_mem_octstrFormatLong {n : Int} {c : UInt8} (h : c ∈ octstrFormatLong n) :
    c = 45 ∨ isDigit c = true := by
  cases n with
  | ofNat k => exact Or.inr (isDigit_of_mem_octstrFormatLong h)
  | negSucc k =>
      rw [octstrFormatLong_negSucc] at h
      rcases List.mem_cons.mp h with rfl | h
      · exact Or.inl rfl
      · exact Or.inr (isDigit_of_mem_octstrFormatLong h)

/-- Reading octet by octet is reading character by character. -/
theorem foldl_digits {cs : List Char} (h : ∀ c ∈ cs, c.isDigit = true) (n : Nat) :
    (cs.map (fun c => UInt8.ofNat c.toNat)).foldl
        (fun (m : Int) (c : UInt8) => 10 * m + ((c.toNat : Int) - 48)) (n : Int) =
      (cs.foldl (fun m c => 10 * m + (c.toNat - 48)) n : Nat) := by
  induction cs generalizing n with
  | nil => rfl
  | cons c cs ih =>
      rcases toNat_of_isDigit (h c (by simp)) with ⟨hoctet, hlow, hhigh⟩
      have hdigit : 10 * (n : Int) + (((UInt8.ofNat c.toNat).toNat : Int) - 48) =
          ((10 * n + (c.toNat - 48) : Nat) : Int) := by
        rw [hoctet]
        omega
      rw [List.map_cons, List.foldl_cons, hdigit, ih (fun d hd => h d (by simp [hd])),
        List.foldl_cons]

theorem leadingDigits_natCast (k : Nat) : leadingDigits (octstrFormatLong k) = k := by
  have hdigits : ∀ c ∈ Nat.toDigits 10 k, c.isDigit = true :=
    fun c hc => Nat.isDigit_of_mem_toDigits (by decide) (by decide) hc
  have hall : (octstrFormatLong k).takeWhile isDigit = octstrFormatLong k :=
    List.takeWhile_eq_self_iff.mpr (fun c hc => isDigit_of_mem_octstrFormatLong hc)
  calc
    leadingDigits (octstrFormatLong k)
        = ((Nat.toDigits 10 k).map (fun c => UInt8.ofNat c.toNat)).foldl
            (fun (m : Int) (c : UInt8) => 10 * m + ((c.toNat : Int) - 48)) ((0 : Nat) : Int) := by
          rw [leadingDigits, hall, octstrFormatLong_natCast]
          rfl
    _ = ((Nat.toDigits 10 k).foldl (fun m c => 10 * m + (c.toNat - 48)) 0 : Nat) :=
          foldl_digits hdigits 0
    _ = k := by
          have hvalue := Nat.ofDigitChars_ten_toDigits (n := k)
          rw [Nat.ofDigitChars_eq_foldl] at hvalue
          exact congrArg Nat.cast hvalue

theorem octstrFormatLong_natCast_ne_nil (k : Nat) : octstrFormatLong k ≠ [] := by
  rw [octstrFormatLong_natCast]
  simp

theorem octstrFormatLong_ne_nil (n : Int) : octstrFormatLong n ≠ [] := by
  cases n with
  | ofNat k => exact octstrFormatLong_natCast_ne_nil k
  | negSucc k =>
      rw [octstrFormatLong_negSucc]
      exact List.cons_ne_nil _ _

/-- `atol` reads what `%ld` has written. -/
theorem atol_octstrFormatLong {n : Int} (h : IsLong n) : atol (octstrFormatLong n) = n := by
  cases n with
  | ofNat k =>
      -- no space and no sign is in front of the digits
      cases htext : octstrFormatLong (Int.ofNat k) with
      | nil => exact absurd htext (octstrFormatLong_natCast_ne_nil k)
      | cons c cs =>
          have hdigit : isDigit c = true :=
            isDigit_of_mem_octstrFormatLong (k := k) (htext ▸ List.mem_cons_self)
          have hvalue : leadingDigits (c :: cs) = k := htext ▸ leadingDigits_natCast k
          have hspace : isSpace c = false := by
            simp only [isDigit, isSpace] at hdigit ⊢
            grind
          have hminus : c ≠ 45 := by
            rintro rfl
            exact absurd hdigit (by decide)
          have hplus : c ≠ 43 := by
            rintro rfl
            exact absurd hdigit (by decide)
          have hdrop : (c :: cs).dropWhile isSpace = c :: cs := by simp [hspace]
          have hmin : min (2 ^ 63 - 1) (k : Int) = k := min_eq_right (Int.le_sub_one_of_lt h.2)
          unfold atol
          rw [hdrop]
          split
          · rename_i heq
            exact absurd (List.cons.inj heq).1 hminus
          · rename_i heq
            exact absurd (List.cons.inj heq).1 hplus
          · rw [hvalue, hmin]
            rfl
  | negSucc k =>
      have hvalue := leadingDigits_natCast (k + 1)
      have hmax : max (-(2 ^ 63)) (-((k + 1 : Nat) : Int)) = -((k + 1 : Nat) : Int) := max_eq_right h.1
      have hdrop : (45 :: octstrFormatLong (k + 1 : Nat)).dropWhile isSpace =
          45 :: octstrFormatLong (k + 1 : Nat) := rfl
      rw [octstrFormatLong_negSucc]
      unfold atol
      rw [hdrop]
      simp only [hvalue, hmax]
      rfl

/-! ## Ids -/

/-- The value of a hexadecimal digit. -/
def hexValue (c : UInt8) : Option UInt8 :=
  if isDigit c then some (c - 48)
  else if 65 ≤ c ∧ c ≤ 70 then some (c - 55)
  else if 97 ≤ c ∧ c ≤ 102 then some (c - 87)
  else none

/-- The bytes behind pairs of hexadecimal digits. -/
def hexBytes : Octstr → Option (List UInt8)
  | [] => some []
  | [_] => none
  | hi :: lo :: rest =>
      match hexValue hi, hexValue lo with
      | some h, some l => (hexBytes rest).map (fun bs => (16 * h + l) :: bs)
      | _, _ => none

/-- `uuid_parse`: 36 octets, four of them dashes, the others hexadecimal digits. -/
def uuidParse (text : Octstr) : Option Uuid :=
  if text.length = 36 ∧ text[8]? = some 45 ∧ text[13]? = some 45 ∧ text[18]? = some 45 ∧
      text[23]? = some 45 then
    match hexBytes (text.filter (fun c => c ≠ 45)) with
    | some bs => if h : bs.length = 16 then some ⟨bs.toArray, by simpa using h⟩ else none
    | none => none
  else none

theorem length_of_uuidParse {text : Octstr} {u : Uuid} (h : uuidParse text = some u) :
    text.length = 36 := by
  unfold uuidParse at h
  split at h
  · rename_i hshape
    exact hshape.1
  · cases h

theorem hexValue_hexDigit {n : UInt8} (hn : n < 16) : hexValue (hexDigit n) = some n := by
  unfold hexValue hexDigit isDigit
  grind

theorem hexDigit_octet {n : UInt8} (hn : n < 16) :
    isDigit (hexDigit n) = true ∨ (97 ≤ hexDigit n ∧ hexDigit n ≤ 102) := by
  by_cases hten : n < 10
  · left
    have hbound : n.toNat < 10 := UInt8.lt_iff_toNat_lt.mp hten
    simp only [hexDigit, hten, if_true, isDigit, UInt8.le_iff_toNat_le, UInt8.toNat_add,
      UInt8.reduceToNat, Bool.and_eq_true, decide_eq_true_eq]
    omega
  · right
    have hlow : 10 ≤ n.toNat := UInt8.le_iff_toNat_le.mp (UInt8.not_lt.mp hten)
    have hhigh : n.toNat < 16 := UInt8.lt_iff_toNat_lt.mp hn
    simp only [hexDigit, hten, if_false, UInt8.le_iff_toNat_le, UInt8.toNat_add,
      UInt8.reduceToNat]
    omega

/-- The text of an id has dashes and hexadecimal digits only. -/
theorem octet_of_mem_smppUuidGet {u : Uuid} {c : UInt8} (h : c ∈ smppUuidGet u) :
    c = 45 ∨ isDigit c = true ∨ (97 ≤ c ∧ c ≤ 102) := by
  rcases List.mem_flatMap.mp h with ⟨i, _, hc⟩
  rcases List.mem_append.mp hc with hdash | hdigit
  · left
    split at hdash
    · simpa using hdash
    · simp at hdash
  · right
    simp only [List.mem_cons, List.not_mem_nil, or_false] at hdigit
    rcases hdigit with rfl | rfl
    · exact hexDigit_octet (by grind)
    · exact hexDigit_octet (by grind)

theorem length_smppUuidGet (u : Uuid) : (smppUuidGet u).length = 36 := rfl

theorem hexBytes_pairs (bs : List UInt8) :
    hexBytes (bs.flatMap (fun b => [hexDigit (b / 16), hexDigit (b % 16)])) = some bs := by
  induction bs with
  | nil => rfl
  | cons b bs ih =>
      have hhigh := hexValue_hexDigit (n := b / 16) (by grind)
      have hlow := hexValue_hexDigit (n := b % 16) (by grind)
      have hbyte : 16 * (b / 16) + b % 16 = b := by grind
      simp [hexBytes, hhigh, hlow, ih, hbyte]

/-- Without its dashes the text of an id is the digits of its bytes. -/
theorem filter_uuidPiece (u : Uuid) (i : Fin 16) :
    (uuidPiece u i).filter (fun c => c ≠ 45) =
      [hexDigit (u.get i / 16), hexDigit (u.get i % 16)] := by
  have hdigit : ∀ n : UInt8, n < 16 → hexDigit n ≠ 45 := by
    intro n hn
    unfold hexDigit
    grind
  have hhigh := hdigit (u.get i / 16) (by grind)
  have hlow := hdigit (u.get i % 16) (by grind)
  unfold uuidPiece
  split
  · simp [hhigh, hlow]
  · simp [hhigh, hlow]

/-- `uuid_parse` reads what `uuid_unparse` has written. -/
theorem uuidParse_smppUuidGet (u : Uuid) : uuidParse (smppUuidGet u) = some u := by
  have hshape : (smppUuidGet u).length = 36 ∧ (smppUuidGet u)[8]? = some 45 ∧
      (smppUuidGet u)[13]? = some 45 ∧ (smppUuidGet u)[18]? = some 45 ∧
      (smppUuidGet u)[23]? = some 45 := ⟨rfl, rfl, rfl, rfl, rfl⟩
  have hbytes : (List.finRange 16).map u.get = u.toList := by
    apply List.ext_get (by simp)
    intro i hi hi'
    simp [Vector.get]
  have hpairs : (smppUuidGet u).filter (fun c => c ≠ 45) =
      u.toList.flatMap (fun b => [hexDigit (b / 16), hexDigit (b % 16)]) := by
    rw [← hbytes, smppUuidGet, List.filter_flatMap, List.flatMap_map]
    exact List.flatMap_congr (fun i _ => filter_uuidPiece u i)
  rw [uuidParse, if_pos hshape, hpairs, hexBytes_pairs]
  simp [Vector.toList]

end Ksmppd
