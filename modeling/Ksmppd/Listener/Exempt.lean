import Ksmppd.Listener.Blocklist
import Ksmppd.Text

/-!
# Exempt — addresses that are never blocked

The list of exempt addresses is one text.  It is searched for the address, and its entries with a
'*' are matched octet by octet.  All by itself '*' exempts every address; as an entry among others it
exempts none.
-/

namespace Ksmppd
namespace Listener

open Lib
open Receipts (octstrSearch octstrSplit)

/-! ## Lists and addresses -/

/-- `smpp_listener_ip_blocklist_exempt` with this list. -/
def exemptedBy (options : BlocklistOptions) (ex ip : Octstr) : Bool :=
  smppListenerIpBlocklistExempt { options with ipBlocklistExemptIps := some ex } ip

/-- Two lists with a space between them. -/
def joinLists (a b : Octstr) : Octstr := a ++ 32 :: b

/-- `host_ip`. -/
def hostIp (p q r s : UInt8) : Octstr :=
  octstrFormatLong p.toNat ++ dot :: (octstrFormatLong q.toNat ++ dot ::
    (octstrFormatLong r.toNat ++ dot :: octstrFormatLong s.toNat))

/-- An entry with a '*' matches the address. -/
def MatchesPattern (ex ip : Octstr) : Prop :=
  ∃ tok ∈ ex.splitOn 32, star ∈ tok ∧ smppListenerIpv4WildcardMatch tok ip = true

/-- The address stands in the list, or an entry with a '*' matches it. -/
def Names (ex ip : Octstr) : Prop := ip <:+: ex ∨ MatchesPattern ex ip

variable {options : BlocklistOptions} {a b ex ip tok : Octstr} {p q r s : UInt8}

/-! ## Addresses -/

theorem octet_of_mem_hostIp {c : UInt8} (h : c ∈ hostIp p q r s) :
    c = dot ∨ isDigit c = true := by
  simp only [hostIp, List.mem_append, List.mem_cons] at h
  rcases h with h | rfl | h | rfl | h | rfl | h
  · exact Or.inr (isDigit_of_mem_octstrFormatLong h)
  · exact Or.inl rfl
  · exact Or.inr (isDigit_of_mem_octstrFormatLong h)
  · exact Or.inl rfl
  · exact Or.inr (isDigit_of_mem_octstrFormatLong h)
  · exact Or.inl rfl
  · exact Or.inr (isDigit_of_mem_octstrFormatLong h)

theorem not_mem_hostIp {c : UInt8} (hdot : c ≠ dot) (hdigit : isDigit c = false) :
    c ∉ hostIp p q r s := by
  intro hmem
  rcases octet_of_mem_hostIp hmem with heq | htrue
  · exact hdot heq
  · rw [hdigit] at htrue
    cases htrue

theorem hostIp_ne_nil : hostIp p q r s ≠ [] := by
  simp [hostIp]

/-- The four numbers come back. -/
theorem octstrSplit_hostIp : octstrSplit (hostIp p q r s) dot =
    [octstrFormatLong p.toNat, octstrFormatLong q.toNat, octstrFormatLong r.toNat,
      octstrFormatLong s.toNat] := by
  have hnumber : ∀ n : UInt8, dot ∉ octstrFormatLong n.toNat := by
    intro n hmem
    exact absurd (isDigit_of_mem_octstrFormatLong hmem) (by decide)
  have hlast := octstrFormatLong_natCast_ne_nil s.toNat
  have hassoc : hostIp p q r s =
      (octstrFormatLong p.toNat ++ dot :: (octstrFormatLong q.toNat ++ dot ::
        octstrFormatLong r.toNat)) ++ dot :: octstrFormatLong s.toNat := by
    simp [hostIp]
  rw [octstrSplit, hassoc, pieces_append hlast (hnumber s), List.splitOn_append_cons_self,
    List.splitOn_append_cons_self, List.splitOn_eq_singleton (hnumber p),
    List.splitOn_eq_singleton (hnumber q), List.splitOn_eq_singleton (hnumber r)]
  rfl

/-! ## Lists -/

theorem octstrSearch_isSome_iff {needle os : Octstr} :
    (octstrSearch needle os).isSome = true ↔ needle <:+: os := by
  induction os with
  | nil =>
      rw [octstrSearch, List.infix_nil]
      split
      · simpa
      · simpa
  | cons c os ih =>
      rw [octstrSearch, List.infix_cons_iff]
      split
      · rename_i hprefix
        exact iff_of_true rfl (Or.inl (List.isPrefixOf_iff_prefix.mp hprefix))
      · rename_i hprefix
        have hnot : ¬ needle <+: c :: os := fun h => hprefix (List.isPrefixOf_iff_prefix.mpr h)
        rw [ih]
        simp [hnot]

/-- Nothing is a '*' or a '.' after `tolower` that was not one before. -/
theorem octetToLower_eq_iff {c d : UInt8} (hd : d = star ∨ d = dot) :
    octetToLower c = d ↔ c = d := by
  unfold octetToLower star dot at *
  grind

theorem octstrToLower_eq_iff {os pattern : Octstr}
    (h : pattern.all (fun d => d == star || d == dot) = true) :
    octstrToLower os = pattern ↔ os = pattern := by
  induction pattern generalizing os with
  | nil => simp [octstrToLower]
  | cons d pattern ih =>
      cases os with
      | nil => simp [octstrToLower]
      | cons c os =>
          rw [List.all_cons, Bool.and_eq_true] at h
          have hrest : octstrToLower os = pattern ↔ os = pattern := ih h.2
          have hfirst := octetToLower_eq_iff (c := c) (by simpa using h.1)
          change octetToLower c :: octstrToLower os = d :: pattern ↔ c :: os = d :: pattern
          rw [List.cons.injEq, List.cons.injEq, hfirst, hrest]

theorem matchesPattern_iff : MatchesPattern ex ip ↔
    (octstrSplit ex 32).any (fun tok =>
      decide (tok ≠ []) && (octstrSearch [star] tok).isSome &&
        smppListenerIpv4WildcardMatch tok ip) = true := by
  simp only [List.any_eq_true, Bool.and_eq_true, decide_eq_true_eq, octstrSearch_isSome_iff,
    List.singleton_infix_iff]
  constructor
  · rintro ⟨tok, htok, hstar, hmatch⟩
    have hne : tok ≠ [] := List.ne_nil_of_mem hstar
    exact ⟨tok, (mem_pieces_iff hne).mpr htok, ⟨hne, hstar⟩, hmatch⟩
  · rintro ⟨tok, htok, ⟨hne, hstar⟩, hmatch⟩
    exact ⟨tok, (mem_pieces_iff hne).mp htok, hstar, hmatch⟩

/-- Four stars match every address. -/
theorem names_four_stars : Names (octstrImm "*.*.*.*") (hostIp p q r s) := by
  refine Or.inr ⟨octstrImm "*.*.*.*", by decide, by decide, ?_⟩
  have hpattern : octstrSplit (octstrImm "*.*.*.*") dot = [[star], [star], [star], [star]] := by
    decide
  simp [smppListenerIpv4WildcardMatch, hpattern, octstrSplit_hostIp]

/-- A '*' in the text of the list is one in an entry. -/
theorem star_mem_of_matchesPattern (h : MatchesPattern ex ip) : star ∈ ex := by
  rcases h with ⟨tok, htok, hstar, -⟩
  exact subset_of_mem_splitOn htok hstar

/-- A list without a '*' has no pattern, and its entries are not gone through. -/
theorem scan_iff :
    (if (octstrSearch [star] ex).isNone = true then false
      else (octstrSplit ex 32).any (fun tok =>
        decide (tok ≠ []) && (octstrSearch [star] tok).isSome &&
          smppListenerIpv4WildcardMatch tok ip)) = true ↔ MatchesPattern ex ip := by
  by_cases hstar : star ∈ ex
  · have hsome : (octstrSearch [star] ex).isSome = true :=
      octstrSearch_isSome_iff.mpr ((List.singleton_infix_iff _ _).mpr hstar)
    have hnotNone : ¬ (octstrSearch [star] ex).isNone = true := by
      rw [← Option.not_isSome, hsome]
      decide
    rw [if_neg hnotNone, matchesPattern_iff]
  · have hnone : (octstrSearch [star] ex).isNone = true := by
      have hsome := mt ((List.singleton_infix_iff _ _).mp ∘ octstrSearch_isSome_iff.mp) hstar
      simpa using hsome
    rw [if_pos hnone]
    exact iff_of_false (by decide) (mt star_mem_of_matchesPattern hstar)

/-- An address is exempt by its own list exactly if the list is '*' or names it. -/
theorem exemptedBy_iff :
    exemptedBy options ex (hostIp p q r s) = true ↔
      ex = [star] ∨ Names ex (hostIp p q r s) := by
  have hone : octstrToLower ex = octstrImm "*" ↔ ex = [star] :=
    octstrToLower_eq_iff (by decide)
  have hfour : octstrToLower ex = octstrImm "*.*.*.*" ↔ ex = octstrImm "*.*.*.*" :=
    octstrToLower_eq_iff (by decide)
  simp only [exemptedBy, smppListenerIpBlocklistExempt]
  -- the cases are the comparisons of the source, in its order
  by_cases hempty : ex = [] ∨ hostIp p q r s = []
  · have hex : ex = [] := hempty.resolve_right hostIp_ne_nil
    subst hex
    rw [if_pos hempty]
    refine iff_of_false (by decide) ?_
    rintro (h | h | h)
    · cases h
    · exact hostIp_ne_nil (List.infix_nil.mp h)
    · cases star_mem_of_matchesPattern h
  rw [if_neg hempty]
  by_cases hexOne : ex = [star]
  · rw [if_pos (hone.mpr hexOne)]
    exact iff_of_true rfl (Or.inl hexOne)
  rw [if_neg (mt hone.mp hexOne)]
  by_cases hexFour : ex = octstrImm "*.*.*.*"
  · rw [if_pos (hfour.mpr hexFour), hexFour]
    exact iff_of_true rfl (Or.inr names_four_stars)
  rw [if_neg (mt hfour.mp hexFour)]
  by_cases hinfix : hostIp p q r s <:+: ex
  · rw [if_pos (octstrSearch_isSome_iff.mpr hinfix)]
    exact iff_of_true rfl (Or.inr (Or.inl hinfix))
  rw [if_neg (mt octstrSearch_isSome_iff.mp hinfix)]
  -- what is left is the loop over the entries
  rw [scan_iff]
  simp [Names, hexOne, hinfix]

/-! ## Joined lists -/

/-- The entries of two lists do not influence each other. -/
theorem names_joinLists (hspace : 32 ∉ ip) :
    Names (joinLists a b) ip ↔ Names a ip ∨ Names b ip := by
  have hpattern : MatchesPattern (joinLists a b) ip ↔
      MatchesPattern a ip ∨ MatchesPattern b ip := by
    simp only [MatchesPattern, joinLists, List.splitOn_append_cons_self, List.mem_append,
      or_and_right, exists_or]
  rw [Names, hpattern, joinLists, infix_append_sep_iff hspace, Names, Names]
  tauto

/-- Two lists exempt together what each of them exempts exactly if neither is the single '*', or if
one of them names the address. -/
theorem exempt_joinLists_iff (options : BlocklistOptions) (a b : Octstr) (p q r s : UInt8) :
    (exemptedBy options (joinLists a b) (hostIp p q r s) = true ↔
        exemptedBy options a (hostIp p q r s) = true ∨
          exemptedBy options b (hostIp p q r s) = true) ↔
      (a ≠ [star] ∧ b ≠ [star]) ∨ Names a (hostIp p q r s) ∨ Names b (hostIp p q r s) := by
  have hspace : 32 ∉ hostIp p q r s := not_mem_hostIp (by decide) (by decide)
  -- a joined list is never the whole text that exempts every address
  have hjoined : joinLists a b ≠ [star] := by
    intro heq
    have hmem : (32 : UInt8) ∈ joinLists a b := List.mem_append_right a List.mem_cons_self
    rw [heq] at hmem
    exact absurd hmem (by decide)
  rw [exemptedBy_iff, exemptedBy_iff, exemptedBy_iff, names_joinLists hspace]
  simp only [hjoined, false_or]
  tauto

/-- With an entry behind it, the '*' exempts nothing any more. -/
theorem star_withdrawn :
    exemptedBy sampleOptions (octstrImm "*") (hostIp 192 168 1 7) = true ∧
      exemptedBy sampleOptions (joinLists (octstrImm "*") (octstrImm "10.0.0.1"))
        (hostIp 192 168 1 7) = false := by
  decide

end Listener
end Ksmppd
