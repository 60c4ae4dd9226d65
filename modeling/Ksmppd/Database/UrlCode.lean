import Ksmppd.Database.Rows

/-!
# UrlCode — stored texts and the triples they are written in

`smpp_db_url_decode_octstr` goes through a text from triple to triple.  At the first place where
there is none it drops what it has and gives the text back as it is, so that rows written before
texts were encoded can still be read.
-/

namespace Ksmppd
namespace UrlCode

open Redis (percent hexDigitUpper smppDbUrlEncodeOctstr smppDbHexNibble decodeTriples)
open Database (decodeTriples_encode)

/-! ## The loop -/

/-- `octstr_get_char` at a position of the text. -/
def octstrGetChar (s : Octstr) (i : Nat) : UInt8 := s.getD i 0

/-- The rounds from position `i` on, with what has been decoded before. -/
def decodeFrom (s : Octstr) (i : Nat) (out : Octstr) : Octstr :=
  if i < s.length then
    if i + 2 < s.length ∧ octstrGetChar s i = percent then
      match smppDbHexNibble (octstrGetChar s (i + 1)), smppDbHexNibble (octstrGetChar s (i + 2)) with
      | some hi, some lo => decodeFrom s (i + 3) (out ++ [hi <<< 4 ||| lo])
      -- what is in `out` by now is dropped
      | _, _ => s
    else s
  else out
termination_by s.length - i

/-- `smpp_db_url_decode_octstr`. -/
def smppDbUrlDecodeOctstr (s : Octstr) : Octstr :=
  if s = [] then []
  else if percent ∉ s then s
  else decodeFrom s 0 []

/-! ## Triples -/

/-- A digit of this value, as `%x` or as `%X` prints it. -/
def IsDigitOf (n c : UInt8) : Prop := n < 16 ∧ (c = hexDigit n ∨ c = hexDigitUpper n)

/-- Complete triples and nothing else, and the octets they stand for. -/
inductive Triples : Octstr → Octstr → Prop
  | nil : Triples [] []
  | cons {hi lo h l : UInt8} {rest os : Octstr} (hhi : IsDigitOf h hi) (hlo : IsDigitOf l lo)
      (hrest : Triples rest os) : Triples (percent :: hi :: lo :: rest) ((16 * h + l) :: os)

/-- An encoded text stands for what it encodes; any other text stands for itself. -/
def StandsFor (s os : Octstr) : Prop :=
  (s ≠ [] ∧ Triples s os) ∨ ((s = [] ∨ ∀ os', ¬ Triples s os') ∧ os = s)

/-- Encoded with the digits `%X` prints. -/
structure UpperCase (s : Octstr) : Prop where
  triples : ∃ os, Triples s os
  upper : ∀ c ∈ s, ¬ (97 ≤ c ∧ c ≤ 102)

variable {s os rest : Octstr} {n c hi lo h l : UInt8}

theorem smppDbHexNibble_eq_some : smppDbHexNibble c = some n ↔ IsDigitOf n c := by
  unfold smppDbHexNibble IsDigitOf hexDigit hexDigitUpper
  constructor
  · intro h
    grind
  · intro h
    grind

/-- Two digits side by side. -/
theorem shiftLeft_or (hh : h < 16) (hl : l < 16) : h <<< 4 ||| l = 16 * h + l := by
  have hall : ∀ m < 16, ∀ n < 16,
      UInt8.ofNat m <<< 4 ||| UInt8.ofNat n = 16 * UInt8.ofNat m + UInt8.ofNat n := by decide
  have hpair := hall h.toNat (UInt8.lt_iff_toNat_lt.mp hh) l.toNat (UInt8.lt_iff_toNat_lt.mp hl)
  rwa [UInt8.ofNat_toNat, UInt8.ofNat_toNat] at hpair

theorem decodeTriples_cons (hhi : smppDbHexNibble hi = some h) (hlo : smppDbHexNibble lo = some l) :
    decodeTriples (percent :: hi :: lo :: rest) =
      (decodeTriples rest).map (fun os => (16 * h + l) :: os) := by
  rw [decodeTriples, if_pos rfl, hhi, hlo]

theorem decodeTriples_cons_eq_none
    (hbad : ∀ h l, smppDbHexNibble hi = some h → smppDbHexNibble lo = some l → False) :
    decodeTriples (percent :: hi :: lo :: rest) = none := by
  rw [decodeTriples, if_pos rfl]
  split
  · rename_i h l hhi hlo
    exact absurd hlo (fun hlo => hbad h l hhi hlo)
  · rfl

theorem decodeTriples_eq_some : decodeTriples s = some os ↔ Triples s os := by
  constructor
  · intro hs
    fun_induction decodeTriples s generalizing os with
    | case1 =>
        cases hs
        exact .nil
    | case2 hi lo rest h l hlo hhi ih =>
        rcases Option.map_eq_some_iff.mp hs with ⟨os', hrest, rfl⟩
        exact .cons (smppDbHexNibble_eq_some.mp hhi) (smppDbHexNibble_eq_some.mp hlo) (ih hrest)
    | _ => cases hs
  · intro hs
    induction hs with
    | nil => rfl
    | cons hhi hlo _ ih =>
        rw [decodeTriples_cons (smppDbHexNibble_eq_some.mpr hhi) (smppDbHexNibble_eq_some.mpr hlo),
          ih]
        rfl

/-! ## The loop reads triples -/

theorem drop_eq_cons {i : Nat} (h : i + 2 < s.length) :
    s.drop i = octstrGetChar s i :: octstrGetChar s (i + 1) :: octstrGetChar s (i + 2) ::
      s.drop (i + 3) := by
  have hone : i + 1 < s.length := by omega
  have hzero : i < s.length := by omega
  rw [List.drop_eq_getElem_cons hzero, List.drop_eq_getElem_cons hone, List.drop_eq_getElem_cons h]
  simp [octstrGetChar, h, hone, hzero]

/-- Where there is no triple, nothing can be decoded. -/
theorem decodeTriples_drop_eq_none {i : Nat} (hi : i < s.length)
    (h : ¬ (i + 2 < s.length ∧ octstrGetChar s i = percent)) : decodeTriples (s.drop i) = none := by
  by_cases hlength : i + 2 < s.length
  · have hne : octstrGetChar s i ≠ percent := fun heq => h ⟨hlength, heq⟩
    rw [drop_eq_cons hlength, decodeTriples, if_neg hne]
  · -- one or two octets are left
    have hshort : (s.drop i).length = s.length - i := List.length_drop
    rcases hrest : s.drop i with _ | ⟨c, _ | ⟨hi, _ | ⟨lo, rest⟩⟩⟩
    · rw [hrest, List.length_nil] at hshort
      omega
    · rfl
    · rfl
    · rw [hrest] at hshort
      simp only [List.length_cons] at hshort
      omega

/-- From any position on, the loop gives what the triples there stand for, or the whole text. -/
theorem decodeFrom_eq (s : Octstr) (i : Nat) (out : Octstr) :
    decodeFrom s i out = ((decodeTriples (s.drop i)).map (out ++ ·)).getD s := by
  fun_induction decodeFrom s i out with
  | case1 i out h hnext hi lo hlo hhi ih =>
      have hbyte := shiftLeft_or (smppDbHexNibble_eq_some.mp hhi).1
        (smppDbHexNibble_eq_some.mp hlo).1
      rw [ih, drop_eq_cons hnext.1, hnext.2, decodeTriples_cons hhi hlo, hbyte]
      simp [Function.comp_def]
  | case2 i out h hnext hbad =>
      rw [drop_eq_cons hnext.1, hnext.2, decodeTriples_cons_eq_none hbad]
      rfl
  | case3 i out h hnext => simp [decodeTriples_drop_eq_none h hnext]
  | case4 i out h =>
      have hdrop : s.drop i = [] := List.drop_eq_nil_of_le (Nat.le_of_not_lt h)
      simp [hdrop, decodeTriples]

/-- Without a percent sign there is no triple. -/
theorem decodeTriples_of_not_mem (hne : s ≠ []) (hs : percent ∉ s) : decodeTriples s = none := by
  cases htriples : decodeTriples s with
  | none => rfl
  | some os =>
      cases decodeTriples_eq_some.mp htriples with
      | nil => exact absurd rfl hne
      | cons _ _ _ => exact absurd List.mem_cons_self hs

/-- Both shortcuts agree with the loop. -/
theorem smppDbUrlDecodeOctstr_eq (s : Octstr) :
    smppDbUrlDecodeOctstr s = Redis.smppDbUrlDecodeOctstr s := by
  unfold smppDbUrlDecodeOctstr Redis.smppDbUrlDecodeOctstr
  split
  · rename_i hnil
    rw [hnil]
    rfl
  · rename_i hne
    split
    · rename_i hpercent
      rw [decodeTriples_of_not_mem hne hpercent]
      rfl
    · simp [decodeFrom_eq]

/-! ## Round trips -/

theorem standsFor_decode (s : Octstr) : StandsFor s (smppDbUrlDecodeOctstr s) := by
  rw [smppDbUrlDecodeOctstr_eq, Redis.smppDbUrlDecodeOctstr]
  cases htriples : decodeTriples s with
  | none =>
      refine Or.inr ⟨Or.inr ?_, rfl⟩
      intro os hos
      rw [decodeTriples_eq_some.mpr hos] at htriples
      cases htriples
  | some os =>
      have hos := decodeTriples_eq_some.mp htriples
      by_cases hne : s = []
      · subst hne
        cases hos
        exact Or.inr ⟨Or.inl rfl, rfl⟩
      · exact Or.inl ⟨hne, hos⟩

/-- Upper-case digits are those that are written again. -/
theorem encode_of_upper (h : Triples s os) (hupper : ∀ c ∈ s, ¬ (97 ≤ c ∧ c ≤ 102)) :
    smppDbUrlEncodeOctstr os = s := by
  have hdigit : ∀ {n c : UInt8}, IsDigitOf n c → ¬ (97 ≤ c ∧ c ≤ 102) → hexDigitUpper n = c := by
    intro n c hc hupper
    unfold IsDigitOf hexDigit hexDigitUpper at *
    grind
  have hhalves : ∀ {h l : UInt8}, h < 16 → l < 16 →
      (16 * h + l) / 16 = h ∧ (16 * h + l) % 16 = l := by
    intro h l hh hl
    grind
  induction h with
  | nil => rfl
  | @cons hi lo h l rest os hhi hlo _ ih =>
      have hrest := ih (fun c hc => hupper c (by simp [hc]))
      have hfirst := hdigit hhi (hupper hi (by simp))
      have hsecond := hdigit hlo (hupper lo (by simp))
      rcases hhalves hhi.1 hlo.1 with ⟨hhigh, hlow⟩
      have hcons : smppDbUrlEncodeOctstr ((16 * h + l) :: os) =
          percent :: hexDigitUpper ((16 * h + l) / 16) :: hexDigitUpper ((16 * h + l) % 16) ::
            smppDbUrlEncodeOctstr os := rfl
      rw [hcons, hhigh, hlow, hfirst, hsecond, hrest]

/-- What is stored is read back; triples are decoded, every other text is left alone, and upper-case
triples are written again as they were. -/
theorem url_code_round_trips (s : Octstr) :
    smppDbUrlDecodeOctstr (smppDbUrlEncodeOctstr s) = s ∧
      StandsFor s (smppDbUrlDecodeOctstr s) ∧
        (UpperCase s → smppDbUrlEncodeOctstr (smppDbUrlDecodeOctstr s) = s) := by
  refine ⟨?_, standsFor_decode s, ?_⟩
  · rw [smppDbUrlDecodeOctstr_eq, Redis.smppDbUrlDecodeOctstr, decodeTriples_encode]
    rfl
  · rintro ⟨⟨os, hos⟩, hupper⟩
    rw [smppDbUrlDecodeOctstr_eq, Redis.smppDbUrlDecodeOctstr, decodeTriples_eq_some.mpr hos]
    exact encode_of_upper hos hupper

end UrlCode
end Ksmppd
