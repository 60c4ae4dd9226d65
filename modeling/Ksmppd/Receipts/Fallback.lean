import Ksmppd.Receipts.Parse

/-!
# Fallback — the second parser of receipt texts

Where `sscanf` does not recognise a text, `parse_dlr_short_message` looks for each label and copies
from behind it up to the next blank; but it looks for that blank from the start of the label.  Two
labels have a blank of their own, so the fallback never copies a date.
-/

namespace Ksmppd
namespace Receipts

open Redis (octstrGetCstr)

variable {os rest field text : Octstr} {ds : List ScanDirective} {width : Nat}
  {accepts : UInt8 → Bool} {fields : List Octstr} {i : Nat}

/-! ## What sscanf assigns -/

/-- The width of every conversion of a format. -/
def scanWidths (ds : List ScanDirective) : List Nat :=
  ds.filterMap (fun d =>
    match d with
    | .set width _ => some width
    | .word width => some width
    | .text _ | .space => none)

theorem subset_of_take_takeWhile {p : UInt8 → Bool} :
    ∀ c ∈ (os.takeWhile p).take width, c ∈ os :=
  fun _ hc => (List.takeWhile_sublist p).subset ((List.take_sublist _ _).subset hc)

/-- A text that is assigned is not empty, and has octets of the input only. -/
theorem mem_sscanf {ds : List ScanDirective} {os field : Octstr} (h : field ∈ sscanf ds os) :
    field ≠ [] ∧ ∀ c ∈ field, c ∈ os := by
  induction ds generalizing os with
  | nil => cases h
  | cons d ds ih =>
      cases d with
      | text t =>
          simp only [sscanf] at h
          split at h
          · rcases ih h with ⟨hne, hmem⟩
            exact ⟨hne, fun c hc => List.mem_of_mem_drop (hmem c hc)⟩
          · cases h
      | space =>
          rcases @ih (os.dropWhile isSpace) h with ⟨hne, hmem⟩
          exact ⟨hne, fun c hc => (List.dropWhile_sublist isSpace).subset (hmem c hc)⟩
      | set width accepts =>
          simp only [sscanf] at h
          split at h
          · cases h
          · rename_i hne
            rcases List.mem_cons.mp h with rfl | h
            · exact ⟨hne, subset_of_take_takeWhile⟩
            · rcases ih h with ⟨hne', hmem⟩
              exact ⟨hne', fun c hc => List.mem_of_mem_drop (hmem c hc)⟩
      | word width =>
          simp only [sscanf] at h
          split at h
          · cases h
          · rename_i hne
            have hsub : ∀ c ∈ os.dropWhile isSpace, c ∈ os :=
              fun c hc => (List.dropWhile_sublist isSpace).subset hc
            rcases List.mem_cons.mp h with rfl | h
            · exact ⟨hne, fun c hc => hsub c (subset_of_take_takeWhile c hc)⟩
            · rcases ih h with ⟨hne', hmem⟩
              exact ⟨hne', fun c hc => hsub c (List.mem_of_mem_drop (hmem c hc))⟩

/-- No text is longer than its conversion is wide. -/
theorem length_assigned_sscanf {ds : List ScanDirective} {os : Octstr} {i : Nat} :
    (assigned (sscanf ds os) i).length ≤ (scanWidths ds).getD i 0 := by
  have hnone : ∀ n, (assigned [] i).length ≤ n := fun n => Nat.zero_le n
  induction ds generalizing os i with
  | nil => exact hnone _
  | cons d ds ih =>
      cases d with
      | text t =>
          simp only [sscanf]
          split
          · exact ih hnone
          · exact hnone _
      | space => exact ih hnone
      | set width accepts =>
          simp only [sscanf]
          split
          · exact hnone _
          · cases i with
            | zero => exact List.length_take_le width _
            | succ i => exact ih (fun n => Nat.zero_le n)
      | word width =>
          simp only [sscanf]
          split
          · exact hnone _
          · cases i with
            | zero => exact List.length_take_le width _
            | succ i => exact ih (fun n => Nat.zero_le n)

/-! ## Both paths -/

/-- The strings in the buffers. -/
def DlrBuffers.strings (b : DlrBuffers) : List Octstr :=
  [b.id, b.sub, b.dlvrd, b.submitDate, b.doneDate, b.stat, b.err].map octstrGetCstr

/-- All seven fields are recognised. -/
def Recognised (shortMessage : Octstr) : Prop :=
  (sscanf dlrFormat (octstrGetCstr shortMessage)).length = 7

/-- How often a label stands in a text. -/
def occurrences (label text : Octstr) : Nat := text.tails.countP (fun t => label.isPrefixOf t)

/-- Each of the seven labels occurs once. -/
def LabelsOnce (shortMessage : Octstr) : Prop :=
  ∀ label ∈ ["id:", "sub:", "dlvrd:", "submit date:", "done date:", "stat:", "err:"],
    occurrences (octstrImm label) shortMessage = 1

/-- The fallback, from empty buffers, gives the strings `sscanf` gives. -/
def FallbackAgrees (shortMessage : Octstr) : Prop :=
  (fallbackBuffers shortMessage (scannedBuffers [])).strings =
    (scannedBuffers (sscanf dlrFormat (octstrGetCstr shortMessage))).strings

theorem octstrSearch_isPrefix {needle os found : Octstr} (h : octstrSearch needle os = some found) :
    needle <+: found := by
  induction os with
  | nil =>
      simp only [octstrSearch] at h
      split at h
      · rename_i hnil
        rw [hnil]
        exact List.nil_prefix
      · cases h
  | cons c os ih =>
      simp only [octstrSearch] at h
      split at h
      · rename_i hprefix
        cases h
        exact List.isPrefixOf_iff_prefix.mp hprefix
      · exact ih h

theorem length_takeWhile_le {p : UInt8 → Bool} {c : UInt8} (hc : p c = false) (os rest : Octstr) :
    ((os ++ c :: rest).takeWhile p).length ≤ os.length := by
  induction os with
  | nil => simp [hc]
  | cons b os ih =>
      by_cases hb : p b = true
      · simpa [hb] using ih
      · simp [hb]

/-- A label with a blank in it gives no octets. -/
theorem fallbackField_of_blank {label shortMessage : Octstr} {size : Nat} (h : blank ∈ label) :
    fallbackField shortMessage label size = [] := by
  unfold fallbackField
  cases hfound : octstrSearch label shortMessage with
  | none => rfl
  | some found =>
      rcases octstrSearch_isPrefix hfound with ⟨rest, rfl⟩
      -- the blank of the label comes first
      have hshort : ((label ++ rest).takeWhile (fun c => decide (c ≠ blank))).length ≤
          label.length := by
        rcases List.append_of_mem h with ⟨before, after, rfl⟩
        have hle := length_takeWhile_le (p := fun c => decide (c ≠ blank)) (c := blank) (by simp)
          before (after ++ rest)
        simp only [List.append_assoc, List.cons_append, List.length_append, List.length_cons]
          at hle ⊢
        omega
      simp only [Nat.sub_eq_zero_of_le hshort, Nat.zero_min, List.take_zero]

theorem octstrGetCstr_of_subset (h : ∀ c ∈ field, c ∈ octstrGetCstr text) :
    octstrGetCstr field = field := by
  apply List.takeWhile_eq_self_iff.mpr
  intro c hc
  exact List.mem_takeWhile_imp (l := text) (h c hc)

/-- No text that `sscanf` recognises is read alike by the fallback: it has a submit date. -/
theorem fallback_disagrees (hrecognised : Recognised text) : ¬ FallbackAgrees text := by
  intro hagrees
  have hnone : fallbackField text (octstrImm "submit date:") 15 = [] :=
    fallbackField_of_blank (by decide)
  have hempty : (fallbackBuffers text (scannedBuffers [])).submitDate = [] :=
    congrArg (overlay []) hnone
  have hdate : octstrGetCstr (assigned (sscanf dlrFormat (octstrGetCstr text)) 3) = [] := by
    have hfourth : octstrGetCstr (fallbackBuffers text (scannedBuffers [])).submitDate =
        octstrGetCstr (assigned (sscanf dlrFormat (octstrGetCstr text)) 3) :=
      Option.some.inj (congrArg (fun strings => strings[3]?) hagrees)
    rw [← hfourth, hempty]
    rfl
  have hlt : 3 < (sscanf dlrFormat (octstrGetCstr text)).length := by
    rw [hrecognised]
    decide
  have hassigned : assigned (sscanf dlrFormat (octstrGetCstr text)) 3 =
      (sscanf dlrFormat (octstrGetCstr text))[3] := by
    simp [assigned, hlt]
  rcases mem_sscanf (List.getElem_mem hlt) with ⟨hne, hmem⟩
  rw [hassigned, octstrGetCstr_of_subset hmem] at hdate
  exact hne hdate

/-! ## A receipt -/

/-- `id:7 sub:001 dlvrd:001 submit date:2401010000 done date:2401010001 stat:DELIVRD err:000` -/
def sampleReceipt : Octstr :=
  octstrImm "id:7 sub:001 dlvrd:001 submit date:2401010000 done date:2401010001 stat:DELIVRD err:000"

theorem recognised_sampleReceipt : Recognised sampleReceipt := by
  unfold Recognised
  decide +kernel

theorem fallback_disagrees_sample : ¬ FallbackAgrees sampleReceipt :=
  fallback_disagrees recognised_sampleReceipt

/-- The labels occur once each, and the fallback finds no submit date. -/
theorem fallback_reads_no_dates :
    Recognised sampleReceipt ∧ LabelsOnce sampleReceipt ∧ ¬ FallbackAgrees sampleReceipt := by
  refine ⟨recognised_sampleReceipt, ?_, ?_⟩
  · unfold LabelsOnce
    decide +kernel
  · unfold FallbackAgrees
    decide +kernel

end Receipts
end Ksmppd
