import Ksmppd.Receipts.External
import Ksmppd.Receipts.Fallback

/-!
# RoundTrip — receipt texts written by get_dlrs and read again

`get_dlrs` prints the status and the error code of a record as wide as they are, the parser reads 15
and 3 octets of them.  The text is looked for apart from the other fields, and in any case, so that
it may be found in the id or in the status.
-/

namespace Ksmppd
namespace Receipts

open Redis (octstrGetCstr)

variable {os rest field id stat text submitDate doneDate : Octstr} {ds : List ScanDirective}
  {width err : Nat} {accepts : UInt8 → Bool} {c : DlrContext} {r : DlrRecord}

theorem forall_mem_of_all {p : UInt8 → Prop} [DecidablePred p]
    (h : os.all (fun b => decide (p b)) = true) : ∀ b ∈ os, p b := by
  intro b hb
  exact of_decide_eq_true (List.all_eq_true.mp h b hb)

/-! ## Scanning field by field -/

theorem take_takeWhile {b : UInt8} (haccepts : ∀ b ∈ field, accepts b = true)
    (hb : accepts b = false) :
    ((field ++ b :: rest).takeWhile accepts).take width = field.take width := by
  rw [List.takeWhile_append_of_pos haccepts]
  simp [hb]

/-- A field that fits its conversion, and ends where an octet is not accepted. -/
theorem sscanf_set (hne : field ≠ []) (haccepts : ∀ b ∈ field, accepts b = true)
    (hwidth : field.length ≤ width) {b : UInt8} (hb : accepts b = false) :
    sscanf (.set width accepts :: ds) (field ++ b :: rest) =
      field :: sscanf ds (b :: rest) := by
  have htake : ((field ++ b :: rest).takeWhile accepts).take width = field :=
    (take_takeWhile haccepts hb).trans (List.take_of_length_le hwidth)
  simp [sscanf, htake, hne]

/-- The last conversion takes what it can of a field. -/
theorem sscanf_last (hne : field ≠ []) (haccepts : ∀ b ∈ field, accepts b = true)
    (hwidth : width ≠ 0) {b : UInt8} (hb : accepts b = false) :
    sscanf [.set width accepts] (field ++ b :: rest) = [field.take width] := by
  have htake : field.take width ≠ [] := by simp [hne, hwidth]
  simp [sscanf, take_takeWhile haccepts hb, htake]

/-- A blank and the label behind it. -/
theorem sscanf_label {label : Octstr} (hlabel : label.head?.any (fun b => !isSpace b) = true) :
    sscanf (.space :: .text label :: ds) (blank :: (label ++ rest)) = sscanf ds rest := by
  have hblank : isSpace blank = true := by decide
  have hdrop : (blank :: (label ++ rest)).dropWhile isSpace = label ++ rest := by
    cases label with
    | nil => cases hlabel
    | cons b label =>
        have hb : isSpace b = false := by simpa using hlabel
        simp [hblank, hb]
  rw [sscanf, hdrop, sscanf_text]

/-! ## Hexadecimal numbers -/

/-- The digit of a value below 16. -/
theorem hexValue_digitChar : ∀ d < 16,
    hexValue (UInt8.ofNat (Nat.digitChar d).toNat) = some (UInt8.ofNat d) := by
  decide

/-- The value of hexadecimal digits. -/
def hexNumber (os : Octstr) : Nat :=
  os.foldl (fun n c => 16 * n + ((hexValue c).getD 0).toNat) 0

theorem hexNumber_append_singleton (c : UInt8) :
    hexNumber (os ++ [c]) = 16 * hexNumber os + ((hexValue c).getD 0).toNat := by
  simp [hexNumber]

/-- The octets of `%x`. -/
def formatHex (n : Nat) : Octstr := (Nat.toDigits 16 n).map (fun c => UInt8.ofNat c.toNat)

theorem formatHex_of_lt {n : Nat} (hn : n < 16) :
    formatHex n = [UInt8.ofNat (Nat.digitChar n).toNat] := by
  simp [formatHex, Nat.toDigits_of_lt_base hn]

theorem formatHex_of_le {n : Nat} (hn : 16 ≤ n) :
    formatHex n = formatHex (n / 16) ++ [UInt8.ofNat (Nat.digitChar (n % 16)).toNat] := by
  simp [formatHex, Nat.toDigits_of_base_le (by decide) hn]

/-- Every octet is a digit, and together they are the number. -/
theorem formatHex_spec (n : Nat) :
    (∀ c ∈ formatHex n, ∃ d < 16, c = UInt8.ofNat (Nat.digitChar d).toNat) ∧
      hexNumber (formatHex n) = n := by
  induction n using Nat.strong_induction_on with
  | _ n ih =>
      by_cases hn : n < 16
      · rw [formatHex_of_lt hn]
        refine ⟨?_, ?_⟩
        · intro c hc
          exact ⟨n, hn, List.mem_singleton.mp hc⟩
        · rw [← List.nil_append [_], hexNumber_append_singleton, hexValue_digitChar n hn]
          have hsmall : n % 256 = n := Nat.mod_eq_of_lt (by omega)
          simpa [hexNumber] using hsmall
      · have hle : 16 ≤ n := Nat.le_of_not_lt hn
        have hlast : n % 16 < 16 := Nat.mod_lt n (by decide)
        rcases ih (n / 16) (Nat.div_lt_self (by omega) (by decide)) with ⟨hdigits, hvalue⟩
        rw [formatHex_of_le hle]
        refine ⟨?_, ?_⟩
        · intro c hc
          rcases List.mem_append.mp hc with hc | hc
          · exact hdigits c hc
          · exact ⟨n % 16, hlast, List.mem_singleton.mp hc⟩
        · rw [hexNumber_append_singleton, hvalue, hexValue_digitChar _ hlast]
          have hsmall : n % 16 % 256 = n % 16 := Nat.mod_eq_of_lt (by omega)
          simp only [Option.getD_some, UInt8.toNat_ofNat', Nat.reducePow, hsmall]
          omega

theorem hexNumber_append (front back : Octstr) :
    hexNumber (front ++ back) = 16 ^ back.length * hexNumber front + hexNumber back := by
  induction back using List.reverseRecOn with
  | nil => simp [hexNumber]
  | append_singleton back c ih =>
      rw [← List.append_assoc, hexNumber_append_singleton, hexNumber_append_singleton, ih]
      simp only [List.length_append, List.length_singleton, pow_succ]
      rw [Nat.mul_add, ← Nat.mul_assoc, Nat.mul_comm 16, Nat.add_assoc]

theorem formatHex3_eq (n : Nat) :
    formatHex3 n = List.replicate (3 - (formatHex n).length) 48 ++ formatHex n := rfl

theorem hexNumber_formatHex3 (n : Nat) : hexNumber (formatHex3 n) = n := by
  have hzeros : ∀ k, hexNumber (List.replicate k 48) = 0 := by
    intro k
    induction k with
    | zero => rfl
    | succ k ih =>
        rw [List.replicate_succ', hexNumber_append_singleton, ih]
        rfl
  rw [formatHex3_eq, hexNumber_append, hzeros, (formatHex_spec n).2]
  simp

theorem length_formatHex3 (n : Nat) : (formatHex3 n).length = max 3 (formatHex n).length := by
  rw [formatHex3_eq, List.length_append, List.length_replicate]
  omega

theorem length_formatHex3_le_iff (n : Nat) : (formatHex3 n).length ≤ 3 ↔ n < 16 ^ 3 := by
  have hdigits : (formatHex n).length ≤ 3 ↔ n < 16 ^ 3 := by
    simpa [formatHex] using Nat.length_toDigits_le_iff (b := 16) (n := n) (k := 3) (by decide)
      (by decide)
  rw [length_formatHex3, ← hdigits]
  omega

/-- A hexadecimal digit is no white space, no sign and no `x`. -/
structure IsHexOctet (c : UInt8) : Prop where
  digit : (hexValue c).isSome = true
  space : isSpace c = false
  minus : c ≠ 45
  plus : c ≠ 43
  lower : octetToLower c ≠ 120
  nul : c ≠ 0

theorem isHexOctet_digitChar : ∀ d < 16, IsHexOctet (UInt8.ofNat (Nat.digitChar d).toNat) := by
  have hall : ∀ d < 16, (hexValue (UInt8.ofNat (Nat.digitChar d).toNat)).isSome = true ∧
      isSpace (UInt8.ofNat (Nat.digitChar d).toNat) = false ∧
      UInt8.ofNat (Nat.digitChar d).toNat ≠ 45 ∧ UInt8.ofNat (Nat.digitChar d).toNat ≠ 43 ∧
      octetToLower (UInt8.ofNat (Nat.digitChar d).toNat) ≠ 120 ∧
      UInt8.ofNat (Nat.digitChar d).toNat ≠ 0 := by decide
  intro d hd
  rcases hall d hd with ⟨hdigit, hspace, hminus, hplus, hlower, hnul⟩
  exact ⟨hdigit, hspace, hminus, hplus, hlower, hnul⟩

theorem isHexOctet_formatHex3 {n : Nat} {b : UInt8} (hb : b ∈ formatHex3 n) : IsHexOctet b := by
  rw [formatHex3_eq] at hb
  rcases List.mem_append.mp hb with hb | hb
  · rw [List.eq_of_mem_replicate hb]
    exact isHexOctet_digitChar 0 (by decide)
  · rcases (formatHex_spec n).1 b hb with ⟨d, hd, rfl⟩
    exact isHexOctet_digitChar d hd

theorem formatHex3_ne_nil (n : Nat) : formatHex3 n ≠ [] := by
  intro hnil
  have hlength := length_formatHex3 n
  rw [hnil, List.length_nil] at hlength
  omega

theorem strtolDigits_eq (hhex : ∀ b ∈ os, IsHexOctet b) : strtolDigits os = hexNumber os := by
  have hall : os.takeWhile (fun c => (hexValue c).isSome) = os :=
    List.takeWhile_eq_self_iff.mpr (fun b hb => (hhex b hb).digit)
  rw [strtolDigits, hall, hexNumber]

/-- `strtol` reads digits as their number. -/
theorem strtolHex_eq (hhex : ∀ b ∈ os, IsHexOctet b) : strtolHex os = hexNumber os % 2 ^ 32 := by
  cases os with
  | nil => rfl
  | cons b os =>
      have hfirst := hhex b List.mem_cons_self
      have hdrop : (b :: os).dropWhile isSpace = b :: os := by simp [hfirst.space]
      unfold strtolHex
      rw [hdrop]
      simp only
      split
      · rename_i heq
        exact absurd (List.cons.inj heq).1 hfirst.minus
      · rename_i heq
        exact absurd (List.cons.inj heq).1 hfirst.plus
      · split
        · -- `0x` is not in front of it
          rename_i x d rest heq
          have hx : IsHexOctet x := hhex x (by rw [heq]; simp)
          have hlower : ¬ (x = 120 ∨ x = 88) := by
            rintro (rfl | rfl)
            · exact hx.lower rfl
            · exact hx.lower rfl
          rw [if_neg (fun h => hlower h.1), strtolDigits_eq hhex]
        · rw [strtolDigits_eq hhex]

/-- The error code comes back unless its digits do not fit. -/
theorem strtolHex_take_formatHex3 {n : Nat} (hn : n < 2 ^ 31) :
    strtolHex ((formatHex3 n).take 3) = n ↔ n < 16 ^ 3 := by
  have hhex : ∀ b ∈ (formatHex3 n).take 3, IsHexOctet b :=
    fun b hb => isHexOctet_formatHex3 (List.mem_of_mem_take hb)
  rw [strtolHex_eq hhex]
  constructor
  · intro hvalue
    by_contra hlarge
    -- a digit is cut off, and each counts sixteen times less than what stands before it
    have hcut : (formatHex3 n).drop 3 ≠ [] := by
      intro hnil
      have hlength := List.drop_eq_nil_iff.mp hnil
      exact hlarge ((length_formatHex3_le_iff n).mp hlength)
    have hwhole := hexNumber_append ((formatHex3 n).take 3) ((formatHex3 n).drop 3)
    rw [List.take_append_drop, hexNumber_formatHex3] at hwhole
    have hpow : 16 ≤ 16 ^ ((formatHex3 n).drop 3).length := by
      calc
        16 = 16 ^ 1 := rfl
        _ ≤ 16 ^ ((formatHex3 n).drop 3).length :=
          Nat.pow_le_pow_right (by decide) (List.length_pos_iff.mpr hcut)
    have hstarts : n ≤ hexNumber ((formatHex3 n).take 3) := by
      calc
        n = hexNumber ((formatHex3 n).take 3) % 2 ^ 32 := hvalue.symm
        _ ≤ hexNumber ((formatHex3 n).take 3) := Nat.mod_le _ _
    have hmul := Nat.mul_le_mul hpow hstarts
    omega
  · intro hsmall
    have hlength := (length_formatHex3_le_iff n).mpr hsmall
    rw [List.take_of_length_le hlength, hexNumber_formatHex3]
    exact Nat.mod_eq_of_lt (by omega)

/-! ## Looking for the text -/

/-- `text:` -/
def textLabel : Octstr := [116, 101, 120, 116, 58]

theorem textLabel_eq : octstrImm "text:" = textLabel := rfl

theorem isPrefixOf_append {needle : Octstr} {b : UInt8} (hb : b ∉ needle) (front : Octstr) :
    needle.isPrefixOf (front ++ b :: rest) = needle.isPrefixOf front := by
  induction needle generalizing front with
  | nil => simp
  | cons n needle ih =>
      have hne : b ≠ n := fun heq => hb (heq ▸ List.mem_cons_self)
      have hmem : b ∉ needle := fun hmem => hb (List.mem_cons_of_mem n hmem)
      cases front with
      | nil => simp [List.isPrefixOf, hne.symm]
      | cons f front => simp [List.isPrefixOf, ih hmem front]

theorem octstrCaseSearch_cons {b : UInt8} (hb : octetToLower b ≠ 116) :
    octstrCaseSearch textLabel (b :: os) = octstrCaseSearch textLabel os := by
  have hno : ¬ (octstrToLower textLabel).isPrefixOf (octstrToLower (b :: os)) = true := by
    intro hstarts
    rcases List.isPrefixOf_iff_prefix.mp hstarts with ⟨rest, hrest⟩
    exact hb (List.cons.inj hrest).1.symm
  rw [octstrCaseSearch, if_neg hno]

/-- No match goes across a blank. -/
theorem octstrCaseSearch_append_blank (front : Octstr) :
    octstrCaseSearch textLabel (front ++ blank :: rest) =
      match octstrCaseSearch textLabel front with
      | some found => some (found ++ blank :: rest)
      | none => octstrCaseSearch textLabel rest := by
  have hblank : blank ∉ octstrToLower textLabel := by decide
  have hlower : octetToLower blank = blank := by decide
  induction front with
  | nil =>
      exact octstrCaseSearch_cons (by decide)
  | cons c front ih =>
      have hsame : (octstrToLower textLabel).isPrefixOf
            (octstrToLower (c :: (front ++ blank :: rest))) =
          (octstrToLower textLabel).isPrefixOf (octstrToLower (c :: front)) := by
        have happend : octstrToLower (c :: (front ++ blank :: rest)) =
            octstrToLower (c :: front) ++ blank :: octstrToLower rest := by
          simp [octstrToLower, hlower]
        rw [happend, isPrefixOf_append hblank]
      rw [List.cons_append, octstrCaseSearch, hsame, octstrCaseSearch, ih]
      by_cases hstarts : (octstrToLower textLabel).isPrefixOf (octstrToLower (c :: front)) = true
      · simp [hstarts]
      · simp [hstarts]

/-- What does not have an `x` does not have the label. -/
theorem octstrCaseSearch_eq_none (h : ∀ c ∈ os, octetToLower c ≠ 120) :
    octstrCaseSearch textLabel os = none := by
  induction os with
  | nil => rfl
  | cons c os ih =>
      have hno : ¬ (octstrToLower textLabel).isPrefixOf (octstrToLower (c :: os)) = true := by
        intro hstarts
        have hx : (120 : UInt8) ∈ octstrToLower (c :: os) :=
          (List.isPrefixOf_iff_prefix.mp hstarts).subset (by decide)
        rcases List.mem_map.mp hx with ⟨b, hb, hlower⟩
        exact h b hb hlower
      rw [octstrCaseSearch, if_neg hno]
      exact ih (fun b hb => h b (List.mem_cons_of_mem c hb))

theorem octstrCaseSearch_suffix {needle found : Octstr}
    (h : octstrCaseSearch needle os = some found) : found <:+ os := by
  induction os with
  | nil =>
      simp only [octstrCaseSearch] at h
      split at h
      · cases h
        exact List.suffix_refl []
      · cases h
  | cons c os ih =>
      simp only [octstrCaseSearch] at h
      split at h
      · cases h
        exact List.suffix_refl (c :: os)
      · exact (ih h).trans (List.suffix_cons c os)

/-- The label `stat:` does not begin the label of the text. -/
theorem octstrCaseSearch_stat (os : Octstr) :
    octstrCaseSearch textLabel (octstrImm "stat:" ++ os) = octstrCaseSearch textLabel os := by
  have hno : ∀ b os, octetToLower b ≠ 101 →
      octstrCaseSearch textLabel (116 :: b :: os) = octstrCaseSearch textLabel (b :: os) := by
    intro b os hb
    have hstarts : ¬ (octstrToLower textLabel).isPrefixOf (octstrToLower (116 :: b :: os)) =
        true := by
      intro hstarts
      rcases List.isPrefixOf_iff_prefix.mp hstarts with ⟨rest, hrest⟩
      exact hb (List.cons.inj (List.cons.inj hrest).2).1.symm
    rw [octstrCaseSearch, if_neg hstarts]
  have hstat : octstrImm "stat:" ++ os = 115 :: 116 :: 97 :: 116 :: 58 :: os := rfl
  rw [hstat, octstrCaseSearch_cons (by decide), hno 97 _ (by decide),
    octstrCaseSearch_cons (by decide), hno 58 _ (by decide), octstrCaseSearch_cons (by decide)]

theorem octstrCaseSearch_id (os : Octstr) :
    octstrCaseSearch textLabel (octstrImm "id:" ++ os) = octstrCaseSearch textLabel os := by
  have hid : octstrImm "id:" ++ os = 105 :: 100 :: 58 :: os := rfl
  rw [hid, octstrCaseSearch_cons (by decide), octstrCaseSearch_cons (by decide),
    octstrCaseSearch_cons (by decide)]

theorem octstrCaseSearch_self (os : Octstr) :
    octstrCaseSearch textLabel (textLabel ++ os) = some (textLabel ++ os) := by
  have hstarts : (octstrToLower textLabel).isPrefixOf (octstrToLower (textLabel ++ os)) = true := by
    rw [octstrToLower, octstrToLower, List.map_append]
    simp
  have hcons : textLabel ++ os = 116 :: ([101, 120, 116, 58] ++ os) := rfl
  rw [hcons] at hstarts ⊢
  rw [octstrCaseSearch, if_pos hstarts]

/-! ## The receipt text, from each label on -/

/-- `err:` and what follows. -/
def fromErr (err : Nat) (text : Octstr) : Octstr :=
  octstrImm "err:" ++ (formatHex3 err ++ blank :: (textLabel ++ text))

/-- `stat:` and what follows. -/
def fromStat (stat : Octstr) (err : Nat) (text : Octstr) : Octstr :=
  octstrImm "stat:" ++ (stat ++ blank :: fromErr err text)

/-- `date:` of the done date and what follows. -/
def fromDoneDate (doneDate stat : Octstr) (err : Nat) (text : Octstr) : Octstr :=
  octstrImm "date:" ++ (doneDate ++ blank :: fromStat stat err text)

/-- `date:` of the submit date and what follows. -/
def fromSubmitDate (submitDate doneDate stat : Octstr) (err : Nat) (text : Octstr) : Octstr :=
  octstrImm "date:" ++ (submitDate ++ blank :: (octstrImm "done" ++ blank ::
    fromDoneDate doneDate stat err text))

/-- `sub:` and what follows. -/
def fromSub (dlvrd submitDate doneDate stat : Octstr) (err : Nat) (text : Octstr) : Octstr :=
  octstrImm "sub:" ++ (octstrImm "001" ++ blank :: (octstrImm "dlvrd:" ++ (dlvrd ++ blank ::
    (octstrImm "submit" ++ blank :: fromSubmitDate submitDate doneDate stat err text))))

theorem receiptText_eq (id dlvrd submitDate doneDate stat : Octstr) (err : Nat) (text : Octstr) :
    receiptText id dlvrd submitDate doneDate stat err text =
      octstrImm "id:" ++ (id ++ blank :: fromSub dlvrd submitDate doneDate stat err text) := by
  have hsub : octstrImm "sub:001 dlvrd:" =
      octstrImm "sub:" ++ (octstrImm "001" ++ blank :: octstrImm "dlvrd:") := rfl
  have hsubmit : octstrImm " submit date:" =
      blank :: (octstrImm "submit" ++ blank :: octstrImm "date:") := rfl
  have hdone : octstrImm " done date:" =
      blank :: (octstrImm "done" ++ blank :: octstrImm "date:") := rfl
  have hstat : octstrImm " stat:" = blank :: octstrImm "stat:" := rfl
  have herr : octstrImm " err:" = blank :: octstrImm "err:" := rfl
  have htext : octstrImm " text:" = blank :: textLabel := rfl
  simp only [receiptText, fromSub, fromSubmitDate, fromDoneDate, fromStat, fromErr, hsub, hsubmit,
    hdone, hstat, herr, htext, List.append_assoc, List.cons_append]

/-- A field one conversion takes whole. -/
structure ScansAs (width : Nat) (accepts : UInt8 → Bool) (field : Octstr) : Prop where
  ne_nil : field ≠ []
  accepted : ∀ b ∈ field, accepts b = true
  length_le : field.length ≤ width

/-- `[^ ]` -/
def notBlank (b : UInt8) : Bool := decide (b ≠ blank)

theorem notBlank_blank : notBlank blank = false := by decide

theorem ScansAs.scan (h : ScansAs width accepts field) (hblank : accepts blank = false) :
    sscanf (.set width accepts :: ds) (field ++ blank :: rest) =
      field :: sscanf ds (blank :: rest) :=
  sscanf_set h.ne_nil h.accepted h.length_le hblank

/-- The format, directive by directive. -/
theorem dlrFormat_eq : dlrFormat =
    [.text (octstrImm "id:"), .set 64 notBlank, .space,
      .text (octstrImm "sub:"), .set 3 notBlank, .space,
      .text (octstrImm "dlvrd:"), .set 3 notBlank, .space,
      .text (octstrImm "submit"), .space, .text (octstrImm "date:"), .set 14 isDigit, .space,
      .text (octstrImm "done"), .space, .text (octstrImm "date:"), .set 14 isDigit, .space,
      .text (octstrImm "stat:"), .set 15 notBlank, .space,
      .text (octstrImm "err:"), .set 3 notBlank] := rfl

/-- All seven fields are recognised, the last one cut after three digits. -/
theorem sscanf_receiptText {dlvrd : Octstr} (hid : ScansAs 64 notBlank id)
    (hdlvrd : ScansAs 3 notBlank dlvrd) (hsubmit : ScansAs 14 isDigit submitDate)
    (hdone : ScansAs 14 isDigit doneDate) (hstat : ScansAs 15 notBlank stat) :
    sscanf dlrFormat (receiptText id dlvrd submitDate doneDate stat err text) =
      [id, octstrImm "001", dlvrd, submitDate, doneDate, stat, (formatHex3 err).take 3] := by
  have hsub : ScansAs 3 notBlank (octstrImm "001") :=
    ⟨by decide, forall_mem_of_all (by decide), by decide⟩
  have hdigit : isDigit blank = false := by decide
  have herr : ∀ b ∈ formatHex3 err, notBlank b = true := by
    intro b hb
    have hspace := (isHexOctet_formatHex3 hb).space
    apply decide_eq_true
    rintro rfl
    exact absurd hspace (by decide)
  rw [receiptText_eq, dlrFormat_eq, sscanf_text, hid.scan notBlank_blank]
  rw [fromSub, sscanf_label (by decide), hsub.scan notBlank_blank]
  rw [sscanf_label (by decide), hdlvrd.scan notBlank_blank]
  -- the labels of the dates have a blank themselves
  rw [sscanf_label (by decide), fromSubmitDate, sscanf_label (by decide), hsubmit.scan hdigit]
  rw [sscanf_label (by decide), fromDoneDate, sscanf_label (by decide), hdone.scan hdigit]
  rw [fromStat, sscanf_label (by decide), hstat.scan notBlank_blank]
  rw [fromErr, sscanf_label (by decide),
    sscanf_last (formatHex3_ne_nil err) herr (by decide) notBlank_blank]

/-! ## Where the text is found -/

/-- From the first `text:` on, in whatever case: one in the id, one in the status, or the label. -/
def foundText (id dlvrd submitDate doneDate stat : Octstr) (err : Nat) (text : Octstr) : Octstr :=
  match octstrCaseSearch textLabel id with
  | some found => found ++ blank :: fromSub dlvrd submitDate doneDate stat err text
  | none =>
      match octstrCaseSearch textLabel stat with
      | some found => found ++ blank :: fromErr err text
      | none => textLabel ++ text

theorem octstrCaseSearch_skip (h : ∀ b ∈ field, octetToLower b ≠ 120) :
    octstrCaseSearch textLabel (field ++ blank :: rest) = octstrCaseSearch textLabel rest := by
  rw [octstrCaseSearch_append_blank, octstrCaseSearch_eq_none h]

theorem octetToLower_of_isDigit {b : UInt8} (hb : isDigit b = true) : octetToLower b ≠ 120 := by
  simp only [isDigit, octetToLower] at hb ⊢
  grind

/-- A label without an `x`, digits, and a blank. -/
theorem octstrCaseSearch_skip_digits {label : Octstr}
    (hlabel : ∀ b ∈ label, octetToLower b ≠ 120) (hdigits : ∀ b ∈ field, isDigit b = true) :
    octstrCaseSearch textLabel (label ++ (field ++ blank :: rest)) =
      octstrCaseSearch textLabel rest := by
  rw [← List.append_assoc]
  apply octstrCaseSearch_skip
  intro b hb
  rcases List.mem_append.mp hb with hb | hb
  · exact hlabel b hb
  · exact octetToLower_of_isDigit (hdigits b hb)

theorem octstrCaseSearch_fromErr :
    octstrCaseSearch textLabel (fromErr err text) = some (textLabel ++ text) := by
  rw [fromErr, ← List.append_assoc]
  have hlabel : ∀ b ∈ octstrImm "err:", octetToLower b ≠ 120 :=
    forall_mem_of_all (by decide)
  have hx : ∀ b ∈ octstrImm "err:" ++ formatHex3 err, octetToLower b ≠ 120 := by
    intro b hb
    rcases List.mem_append.mp hb with hb | hb
    · exact hlabel b hb
    · exact (isHexOctet_formatHex3 hb).lower
  rw [octstrCaseSearch_skip hx, octstrCaseSearch_self]

theorem octstrCaseSearch_receiptText {dlvrd : Octstr} (hdlvrd : ∀ b ∈ dlvrd, isDigit b = true)
    (hsubmit : ∀ b ∈ submitDate, isDigit b = true) (hdone : ∀ b ∈ doneDate, isDigit b = true) :
    octstrCaseSearch textLabel (receiptText id dlvrd submitDate doneDate stat err text) =
      some (foundText id dlvrd submitDate doneDate stat err text) := by
  rw [receiptText_eq, ← List.append_assoc, octstrCaseSearch_append_blank, octstrCaseSearch_id,
    foundText]
  cases octstrCaseSearch textLabel id with
  | some found => rfl
  | none =>
      have hstat : octstrCaseSearch textLabel
          (fromSub dlvrd submitDate doneDate stat err text) =
            octstrCaseSearch textLabel (fromStat stat err text) := by
        rw [fromSub, octstrCaseSearch_skip_digits (forall_mem_of_all (by decide))
            (forall_mem_of_all (by decide)),
          octstrCaseSearch_skip_digits (forall_mem_of_all (by decide)) hdlvrd,
          octstrCaseSearch_skip (forall_mem_of_all (by decide)), fromSubmitDate,
          octstrCaseSearch_skip_digits (forall_mem_of_all (by decide)) hsubmit,
          octstrCaseSearch_skip (forall_mem_of_all (by decide)), fromDoneDate,
          octstrCaseSearch_skip_digits (forall_mem_of_all (by decide)) hdone]
      simp only
      rw [hstat, fromStat, ← List.append_assoc, octstrCaseSearch_append_blank,
        octstrCaseSearch_stat]
      cases octstrCaseSearch textLabel stat with
      | some found => rfl
      | none => exact octstrCaseSearch_fromErr

/-- In a text without `NUL`, the field is what follows the label, up to 64 octets. -/
theorem textField_eq {shortMessage found : Octstr}
    (hfound : octstrCaseSearch textLabel shortMessage = some found)
    (hnul : ∀ b ∈ shortMessage, b ≠ 0) :
    octstrGetCstr (textField shortMessage) = (found.drop 5).take 64 := by
  have hsubset : ∀ b ∈ found, b ≠ 0 :=
    fun b hb => hnul b ((octstrCaseSearch_suffix hfound).subset hb)
  have hall : found.takeWhile (fun b => decide (b ≠ 0)) = found :=
    List.takeWhile_eq_self_iff.mpr (fun b hb => decide_eq_true (hsubset b hb))
  have hcopied : textField shortMessage = (found.drop 5).take 64 := by
    rw [textField, textLabel_eq, hfound]
    simp only [hall]
    rw [← List.length_drop, Nat.min_comm, ← List.take_take, List.take_length]
  rw [hcopied]
  apply List.takeWhile_eq_self_iff.mpr
  intro b hb
  exact decide_eq_true (hsubset b (List.mem_of_mem_drop (List.mem_of_mem_take hb)))

/-! ## The status buffer -/

theorem length_fallbackField_le {shortMessage label : Octstr} {size : Nat} :
    (fallbackField shortMessage label size).length ≤ size - 1 := by
  unfold fallbackField
  split
  · exact Nat.zero_le _
  · exact (List.length_take_le _ _).trans (Nat.min_le_right _ _)

/-- Whatever the text is, 15 octets of a status are kept. -/
theorem length_stat_le {clock : Clock} {shortMessage : Octstr} {f : DlrFields}
    (hparse : parseDlrShortMessage clock shortMessage = some f) : f.stat.length ≤ 15 := by
  have hscanned : (assigned (sscanf dlrFormat (octstrGetCstr shortMessage)) 5).length ≤ 15 :=
    length_assigned_sscanf
  have hbuffer : (dlrBuffers shortMessage).stat.length ≤ 15 := by
    unfold dlrBuffers
    simp only
    split
    · exact hscanned
    · have hfallback :
          (fallbackField shortMessage (octstrImm "stat:") 16).length ≤ 15 :=
        length_fallbackField_le
      simp only [fallbackBuffers, overlay, scannedBuffers, List.length_append, List.length_drop]
      omega
  unfold parseDlrShortMessage at hparse
  split at hparse
  · cases hparse
  · simp only at hparse
    split at hparse
    · cases hparse
    · cases hparse
      exact (List.takeWhile_sublist _).length_le.trans hbuffer

/-! ## Records of the table -/

/-- Twelve decimal digits. -/
structure IsDlrDate (date : Octstr) : Prop where
  length : date.length = 12
  digits : ∀ b ∈ date, isDigit b = true

/-- A field without blanks, `NUL` and the label of the text. -/
structure IsDlrWord (width : Nat) (field : Octstr) : Prop where
  length_pos : 1 ≤ field.length
  length_le : field.length ≤ width
  plain : ∀ b ∈ field, b ≠ blank ∧ b ≠ 0
  label : octstrSearch (octstrImm "text:") field = none

/-- A record with these values, as the columns of `smpp_dlr` admit it. -/
structure Admitted (r : DlrRecord) (id stat : Octstr) (err : Nat) (text : Octstr) : Prop where
  messageId : r.messageId = some id
  status : r.status = some stat
  errCode : r.errCode = some (octstrFormatLong err)
  submitDate : ∃ date, r.submitDate = some date ∧ IsDlrDate date
  doneDate : ∃ date, r.doneDate = some date ∧ IsDlrDate date
  text_eq : r.text = some text
  id_word : IsDlrWord 64 id
  stat_word : IsDlrWord 16 stat
  err_lt : err < 2 ^ 31
  text_length : text.length ≤ 64
  text_plain : ∀ b ∈ text, b ≠ 0

/-- The receipt text of the record is read as the values it was written from. -/
def ReadsBack (clock : Clock) (c : DlrContext) (r : DlrRecord) (id stat : Octstr) (err : Nat)
    (text : Octstr) : Prop :=
  ∃ f, parseDlrShortMessage clock (r.receipt c) = some f ∧ f.id = id ∧ f.stat = stat ∧
    f.err = err ∧ f.text = text

/-- The buffers take the status and the error code, and `text:` is found where it stands, or where
it is found the same octets happen to follow. -/
structure FieldsFit (c : DlrContext) (r : DlrRecord) (id stat : Octstr) (err : Nat)
    (text : Octstr) : Prop where
  stat_le : stat.length ≤ 15
  err_lt : err < 16 ^ 3
  found : (octstrCaseSearch textLabel id = none ∧ octstrCaseSearch textLabel stat = none) ∨
    ((foundText id (dlvrd r.dlrMask) (smppDatabaseFormatDlrDate c.clock r.submitDate)
      (smppDatabaseFormatDlrDate c.clock r.doneDate) stat err text).drop 5).take 64 = text

theorem foundText_of_none {dlvrd : Octstr} (hid : octstrCaseSearch textLabel id = none)
    (hstat : octstrCaseSearch textLabel stat = none) :
    foundText id dlvrd submitDate doneDate stat err text = textLabel ++ text := by
  simp only [foundText, hid, hstat]

theorem isDigit_of_mem_twoDigits {n : Int} {b : UInt8} (hb : b ∈ twoDigits n) :
    isDigit b = true := by
  have hdigit : ∀ d < 10, isDigit (48 + UInt8.ofNat d) = true := by decide
  rcases List.mem_cons.mp hb with rfl | hb
  · exact hdigit _ (Nat.mod_lt _ (by decide))
  · rw [List.mem_singleton.mp hb]
    exact hdigit _ (Nat.mod_lt _ (by decide))

theorem isDlrDate_gwStrftime (tm : Tm) : IsDlrDate (gwStrftime tm) := by
  refine ⟨rfl, ?_⟩
  intro b hb
  simp only [gwStrftime, List.mem_append] at hb
  rcases hb with ((((hb | hb) | hb) | hb) | hb) | hb
  all_goals exact isDigit_of_mem_twoDigits hb

/-- A date of the table is printed as a date. -/
theorem isDlrDate_format {clock : Clock} {date : Octstr} (hdate : IsDlrDate date) :
    IsDlrDate (smppDatabaseFormatDlrDate clock (some date)) := by
  have hne : date ≠ [] := by
    rintro rfl
    cases hdate.length
  simp only [smppDatabaseFormatDlrDate, if_neg hne]
  split
  · exact isDlrDate_gwStrftime _
  · exact hdate

theorem IsDlrDate.scansAs {date : Octstr} (hdate : IsDlrDate date) : ScansAs 14 isDigit date := by
  refine ⟨?_, hdate.digits, ?_⟩
  · rintro rfl
    cases hdate.length
  · rw [hdate.length]
    decide

theorem IsDlrWord.scansAs {n : Nat} (hword : IsDlrWord n field) (hlength : field.length ≤ width) :
    ScansAs width notBlank field := by
  refine ⟨?_, ?_, hlength⟩
  · exact List.ne_nil_of_length_pos hword.length_pos
  · intro b hb
    exact decide_eq_true (hword.plain b hb).1

theorem dlvrd_digits (dlrtype : Int) :
    ScansAs 3 notBlank (dlvrd dlrtype) ∧ ∀ b ∈ dlvrd dlrtype, isDigit b = true := by
  have hone : ScansAs 3 notBlank (octstrImm "001") ∧ ∀ b ∈ octstrImm "001", isDigit b = true :=
    ⟨⟨by decide, forall_mem_of_all (by decide), by decide⟩, forall_mem_of_all (by decide)⟩
  have hzero : ScansAs 3 notBlank (octstrImm "000") ∧ ∀ b ∈ octstrImm "000", isDigit b = true :=
    ⟨⟨by decide, forall_mem_of_all (by decide), by decide⟩, forall_mem_of_all (by decide)⟩
  unfold dlvrd
  split
  · exact hone
  · exact hzero

theorem ne_zero_of_isDigit {b : UInt8} (hb : isDigit b = true) : b ≠ 0 := by
  rintro rfl
  exact absurd hb (by decide)

/-- No part of a receipt text has a `NUL`. -/
theorem receiptText_ne_zero {dlvrd : Octstr} (hid : ∀ b ∈ id, b ≠ 0)
    (hdlvrd : ∀ b ∈ dlvrd, b ≠ 0) (hsubmit : ∀ b ∈ submitDate, b ≠ 0)
    (hdone : ∀ b ∈ doneDate, b ≠ 0) (hstat : ∀ b ∈ stat, b ≠ 0) (htext : ∀ b ∈ text, b ≠ 0) :
    ∀ b ∈ receiptText id dlvrd submitDate doneDate stat err text, b ≠ 0 := by
  have hlabels : ∀ label ∈ ["id:", "sub:001 dlvrd:", " submit date:", " done date:", " stat:",
      " err:", " text:"], (octstrImm label).all (fun b => decide (b ≠ 0)) = true := by
    decide +kernel
  have hplain : ∀ label ∈ ["id:", "sub:001 dlvrd:", " submit date:", " done date:", " stat:",
      " err:", " text:"], ∀ b ∈ octstrImm label, b ≠ 0 :=
    fun label hlabel => forall_mem_of_all (hlabels label hlabel)
  simp only [receiptText, List.forall_mem_append, List.forall_mem_cons, and_assoc]
  exact ⟨hplain "id:" (by simp), hid, by decide, hplain "sub:001 dlvrd:" (by simp), hdlvrd,
    hplain " submit date:" (by simp), hsubmit, hplain " done date:" (by simp), hdone,
    hplain " stat:" (by simp), hstat, hplain " err:" (by simp),
    fun b hb => (isHexOctet_formatHex3 hb).nul, hplain " text:" (by simp), htext⟩

/-! ## Reading a record back -/

theorem octstrParseLong_octstrFormatLong {n : Nat} (hn : n < 2 ^ 31) :
    octstrParseLong (octstrFormatLong n) = some (n : Int) := by
  have hdigits : ∀ b ∈ octstrFormatLong n, isDigit b = true :=
    fun b hb => isDigit_of_mem_octstrFormatLong hb
  have hcstr : octstrGetCstr (octstrFormatLong n) = octstrFormatLong n :=
    List.takeWhile_eq_self_iff.mpr
      (fun b hb => decide_eq_true (ne_zero_of_isDigit (hdigits b hb)))
  have hall : (octstrFormatLong n).takeWhile isDigit = octstrFormatLong n :=
    List.takeWhile_eq_self_iff.mpr hdigits
  have hne := octstrFormatLong_natCast_ne_nil n
  have hspace : (octstrFormatLong n).dropWhile isSpace = octstrFormatLong n := by
    cases htext : octstrFormatLong n with
    | nil => exact absurd htext hne
    | cons b os =>
        have hb : isDigit b = true := hdigits b (htext ▸ List.mem_cons_self)
        have hnot : isSpace b = false := by
          simp only [isDigit, isSpace] at hb ⊢
          grind
        simp [hnot]
  have hsign : ∀ b, isDigit b = false → (octstrFormatLong n).head? ≠ some b := by
    intro b hb hhead
    have hdigit := hdigits b (List.mem_of_head? hhead)
    exact absurd hdigit (by simp [hb])
  have hlong : IsLong (n : Int) := by
    unfold IsLong
    omega
  have hminus := hsign 45 (by decide)
  have hplus := hsign 43 (by decide)
  simp only [octstrParseLong, hcstr, hspace, hminus, hplus, or_self, if_false, hall, hne,
    leadingDigits_natCast, if_pos hlong]

theorem Admitted.errVal (h : Admitted r id stat err text) : r.errVal c = err := by
  have hmod : (err : Int) % 2 ^ 32 = err := by
    have hlt := h.err_lt
    omega
  simp only [DlrRecord.errVal, h.errCode, if_neg (octstrFormatLong_natCast_ne_nil err),
    octstrParseLong_octstrFormatLong h.err_lt, Option.getD_some, hmod, Int.toNat_natCast]

/-- The receipt text of an admitted record. -/
theorem Admitted.receipt (h : Admitted r id stat err text) :
    r.receipt c = receiptText id (dlvrd r.dlrMask) (smppDatabaseFormatDlrDate c.clock r.submitDate)
      (smppDatabaseFormatDlrDate c.clock r.doneDate) stat err text := by
  have hstat : octstrLen (some stat) ≠ 0 := Nat.ne_of_gt h.stat_word.length_pos
  simp only [DlrRecord.receipt, h.errVal, h.messageId, h.status, h.text_eq, Option.getD_some,
    if_pos hstat]

theorem octstrGetCstr_eq_self (h : ∀ b ∈ os, b ≠ 0) : octstrGetCstr os = os :=
  List.takeWhile_eq_self_iff.mpr (fun b hb => decide_eq_true (h b hb))

/-- What the parser gives where `sscanf` recognises all fields of a text without `NUL`. -/
theorem parseDlrShortMessage_scanned (clock : Clock) {shortMessage sub dlvrd errText : Octstr}
    (hnul : ∀ b ∈ shortMessage, b ≠ 0)
    (hscanned : sscanf dlrFormat shortMessage =
      [id, sub, dlvrd, submitDate, doneDate, stat, errText])
    (hne : id ≠ []) :
    ∃ f, parseDlrShortMessage clock shortMessage = some f ∧ f.id = id ∧ f.stat = stat ∧
      f.err = strtolHex errText ∧ f.text = octstrGetCstr (textField shortMessage) := by
  have hcstr := octstrGetCstr_eq_self hnul
  have hnil : shortMessage ≠ [] := by
    rintro rfl
    cases hscanned
  have hbuffers : dlrBuffers shortMessage =
      scannedBuffers [id, sub, dlvrd, submitDate, doneDate, stat, errText] := by
    simp only [dlrBuffers, hcstr, hscanned]
    rfl
  have hfields : ∀ field ∈ [id, stat, errText], octstrGetCstr field = field := by
    intro field hfield
    apply octstrGetCstr_eq_self
    intro b hb
    have hmem : field ∈ sscanf dlrFormat shortMessage := by
      rw [hscanned]
      simp only [List.mem_cons, List.not_mem_nil, or_false] at hfield ⊢
      tauto
    exact hnul b ((mem_sscanf hmem).2 b hb)
  have hid := hfields id (by simp)
  have hstat := hfields stat (by simp)
  have herr := hfields errText (by simp)
  have hsome : ¬ (octstrGetCstr id = [] ∧ octstrGetCstr stat = []) := by
    rintro ⟨hempty, -⟩
    exact hne (hid.symm.trans hempty)
  have hparse : ∃ f, parseDlrShortMessage clock shortMessage = some f ∧ f.id = octstrGetCstr id ∧
      f.stat = octstrGetCstr stat ∧ f.err = strtolHex (octstrGetCstr errText) ∧
      f.text = octstrGetCstr (textField shortMessage) := by
    rw [parseDlrShortMessage, if_neg hnil, hbuffers]
    exact ⟨_, if_neg hsome, rfl, rfl, rfl, rfl⟩
  rwa [hid, hstat, herr] at hparse

/-- What the parser gives for a status that fits. -/
theorem Admitted.parse (h : Admitted r id stat err text) (clock : Clock)
    (hstat : stat.length ≤ 15) :
    ∃ f, parseDlrShortMessage clock (r.receipt c) = some f ∧ f.id = id ∧ f.stat = stat ∧
      f.err = strtolHex ((formatHex3 err).take 3) ∧
      f.text = ((foundText id (dlvrd r.dlrMask) (smppDatabaseFormatDlrDate c.clock r.submitDate)
        (smppDatabaseFormatDlrDate c.clock r.doneDate) stat err text).drop 5).take 64 := by
  rcases h.submitDate with ⟨submitted, hsubmitted, hsubmit⟩
  rcases h.doneDate with ⟨done, hdone', hdone⟩
  have hsubmit := @isDlrDate_format c.clock _ hsubmit
  have hdone := @isDlrDate_format c.clock _ hdone
  rw [h.receipt, hsubmitted, hdone']
  have hid := h.id_word.scansAs h.id_word.length_le
  have hscanned := @sscanf_receiptText _ _ text _ _ err _ hid (dlvrd_digits r.dlrMask).1
    hsubmit.scansAs hdone.scansAs (h.stat_word.scansAs hstat)
  have hnul := @receiptText_ne_zero _ _ _ _ _ err _ (fun b hb => (h.id_word.plain b hb).2)
    (fun b hb => ne_zero_of_isDigit ((dlvrd_digits r.dlrMask).2 b hb))
    (fun b hb => ne_zero_of_isDigit (hsubmit.digits b hb))
    (fun b hb => ne_zero_of_isDigit (hdone.digits b hb))
    (fun b hb => (h.stat_word.plain b hb).2) h.text_plain
  have hfound := @octstrCaseSearch_receiptText id stat text _ _ err _
    (dlvrd_digits r.dlrMask).2 hsubmit.digits hdone.digits
  rw [← textField_eq hfound hnul]
  exact parseDlrShortMessage_scanned clock hnul hscanned hid.ne_nil

/-- A record of message 7 with this status. -/
def statusRecord (stat : Octstr) : DlrRecord where
  messageId := some [55]
  status := some stat
  errCode := some (octstrFormatLong (10 : Nat))
  submitDate := some (List.replicate 12 49)
  doneDate := some (List.replicate 12 49)
  destinationAddr := some [49]
  sourceAddr := some [50]
  smscId := none
  text := some [104, 105]

theorem octstrSearch_eq_none (h : ∀ b ∈ os, b ≠ 116) :
    octstrSearch (octstrImm "text:") os = none := by
  induction os with
  | nil => rfl
  | cons b os ih =>
      have hno : ¬ (octstrImm "text:").isPrefixOf (b :: os) = true := by
        intro hstarts
        rcases List.isPrefixOf_iff_prefix.mp hstarts with ⟨rest, hrest⟩
        exact h b List.mem_cons_self (List.cons.inj hrest).1.symm
      rw [octstrSearch, if_neg hno]
      exact ih (fun b' hb => h b' (List.mem_cons_of_mem b hb))

theorem admitted_statusRecord {n : Nat} (hpos : 1 ≤ n) (hle : n ≤ 16) :
    Admitted (statusRecord (List.replicate n 65)) [55] (List.replicate n 65) 10 [104, 105] where
  messageId := rfl
  status := rfl
  errCode := rfl
  submitDate := ⟨_, rfl, rfl, forall_mem_of_all (by decide)⟩
  doneDate := ⟨_, rfl, rfl, forall_mem_of_all (by decide)⟩
  text_eq := rfl
  id_word := ⟨by decide, by decide, forall_mem_of_all (by decide), rfl⟩
  stat_word := by
    have hsame : ∀ b ∈ List.replicate n (65 : UInt8), b = 65 := fun _ => List.eq_of_mem_replicate
    refine ⟨by simpa using hpos, by simpa using hle, ?_, ?_⟩
    · intro b hb
      rw [hsame b hb]
      decide
    · apply octstrSearch_eq_none
      intro b hb
      rw [hsame b hb]
      decide
  err_lt := by decide
  text_length := by decide
  text_plain := forall_mem_of_all (by decide)

end Receipts
end Ksmppd
