import Ksmppd.Receipts.DlrUrl
import Ksmppd.Receipts.Parse

/-!
# Blocklist — addresses that may not connect

A failed authentication counts against its address and renews its time; a connection is refused
while the time is not over and enough failures have been counted.  The count goes back to zero only
when the address comes again after its time.  So what has been counted lies between the failures of
the time that has just passed, and those since any return after a longer absence.
-/

namespace Ksmppd
namespace Listener

open Lib
open Receipts (octstrSearch octstrSplit)

/-! ## The block list -/

/-- `SMPPBlockedIp`, under the address that is its key. -/
structure SmppBlockedIp where
  ip : Octstr
  timeBlocked : Int
  attempts : Int
  deriving DecidableEq, Repr

/-- `smpp_blocked_ip_create`. -/
def smppBlockedIpCreate (ip : Octstr) : SmppBlockedIp where
  ip := ip
  timeBlocked := 0
  attempts := 0

/-- The options of the block list. -/
structure BlocklistOptions where
  ipBlocklistTime : Int
  ipBlocklistAttempts : Int
  ipBlocklistExemptIps : Option Octstr

/-- `ip_blocklist`. -/
abbrev IpBlocklist := Keyed SmppBlockedIp.ip

/-- '*' -/
def star : UInt8 := 42

/-- '.' -/
def dot : UInt8 := 46

/-- `smpp_listener_ipv4_wildcard_match` -/
def smppListenerIpv4WildcardMatch (pattern ip : Octstr) : Bool :=
  let pp := octstrSplit pattern dot
  let ipp := octstrSplit ip dot
  decide (pp.length = 4 ∧ ipp.length = 4) &&
    (pp.zip ipp).all (fun x => decide (x.1 = [star] ∨ x.1 = x.2))

/-- `smpp_listener_ip_blocklist_exempt` -/
def smppListenerIpBlocklistExempt (options : BlocklistOptions) (ip : Octstr) : Bool :=
  match options.ipBlocklistExemptIps with
  | none => false
  | some ex =>
      if ex = [] ∨ ip = [] then false
      else if octstrToLower ex = octstrImm "*" then true
      else if octstrToLower ex = octstrImm "*.*.*.*" then true
      -- an address is exempt wherever it stands in the list, inside another one too
      else if (octstrSearch ip ex).isSome then true
      else if (octstrSearch [star] ex).isNone then false
      else
        (octstrSplit ex 32).any (fun tok =>
          decide (tok ≠ []) && (octstrSearch [star] tok).isSome &&
            smppListenerIpv4WildcardMatch tok ip)

/-- `smpp_listener_auth_failed` at the time `now`. -/
def smppListenerAuthFailed (options : BlocklistOptions) (ipBlocklist : IpBlocklist) (ip : Octstr)
    (now : Int) : IpBlocklist :=
  if smppListenerIpBlocklistExempt options ip then ipBlocklist
  else
    let smppBlockedIp := (ipBlocklist.find? ip).getD (smppBlockedIpCreate ip)
    ipBlocklist.put
      { smppBlockedIp with attempts := smppBlockedIp.attempts + 1, timeBlocked := now }

/-- `smpp_listener_ip_is_blocked` at the time `now`. -/
def smppListenerIpIsBlocked (options : BlocklistOptions) (ipBlocklist : IpBlocklist) (ip : Octstr)
    (now : Int) : Bool × IpBlocklist :=
  if smppListenerIpBlocklistExempt options ip then (false, ipBlocklist)
  else
    match ipBlocklist.find? ip with
    | none => (false, ipBlocklist)
    | some smppBlockedIp =>
        let diff := now - smppBlockedIp.timeBlocked
        if diff > options.ipBlocklistTime then
          -- the time has elapsed: reset
          (false, ipBlocklist.put { smppBlockedIp with timeBlocked := 0, attempts := 0 })
        else (decide (smppBlockedIp.attempts ≥ options.ipBlocklistAttempts), ipBlocklist)

/-! ## Histories -/

/-- What happens to the block list: a failed authentication, or the check of a new connection. -/
inductive BlocklistEvent
  | failed (ip : Octstr) (time : Int)
  | checked (ip : Octstr) (time : Int)
  deriving DecidableEq, Repr

def BlocklistEvent.ip : BlocklistEvent → Octstr
  | .failed ip _ => ip
  | .checked ip _ => ip

def BlocklistEvent.time : BlocklistEvent → Int
  | .failed _ time => time
  | .checked _ time => time

def blocklistStep (options : BlocklistOptions) (ipBlocklist : IpBlocklist) :
    BlocklistEvent → IpBlocklist
  | .failed ip time => smppListenerAuthFailed options ipBlocklist ip time
  | .checked ip time => (smppListenerIpIsBlocked options ipBlocklist ip time).2

/-- The list after a history. -/
def blocklistAfter (options : BlocklistOptions) (history : List BlocklistEvent) : IpBlocklist :=
  history.foldl (blocklistStep options) Keyed.empty

/-- A check after a history refuses the address. -/
def refuses (options : BlocklistOptions) (history : List BlocklistEvent) (ip : Octstr)
    (now : Int) : Bool :=
  (smppListenerIpIsBlocked options (blocklistAfter options history) ip now).1

/-- The times of the failures of an address, in their order. -/
def failureTimes (ip : Octstr) (history : List BlocklistEvent) : List Int :=
  history.filterMap (fun e =>
    match e with
    | .failed ip' time => if ip' = ip then some time else none
    | .checked _ _ => none)

/-- The history ends in a check of the address more than `T` after its then latest failure. -/
def EndsInLapse (T : Int) (ip : Octstr) (history : List BlocklistEvent) : Prop :=
  ∃ before now last, history = before ++ [.checked ip now] ∧
    (failureTimes ip before).getLast? = some last ∧ now - last > T

/-- Nothing happens before what happened already. -/
def Chronological (history : List BlocklistEvent) : Prop :=
  (history.map BlocklistEvent.time).Pairwise (· ≤ ·)

variable {options : BlocklistOptions} {ipBlocklist : IpBlocklist} {ip : Octstr}
  {history before after : List BlocklistEvent} {e : BlocklistEvent} {now : Int}
  {entry : Option SmppBlockedIp} {b : SmppBlockedIp}

/-! ## One address -/

/-- What an event of an address does to its entry. -/
def entryStep (options : BlocklistOptions) (ip : Octstr) (entry : Option SmppBlockedIp) :
    BlocklistEvent → Option SmppBlockedIp
  | .failed _ time =>
      let b := entry.getD (smppBlockedIpCreate ip)
      some { b with attempts := b.attempts + 1, timeBlocked := time }
  | .checked _ now =>
      entry.map (fun b =>
        if now - b.timeBlocked > options.ipBlocklistTime then
          { b with timeBlocked := 0, attempts := 0 }
        else b)

theorem find?_authFailed_of_ne {ip' : Octstr} (hne : ip' ≠ ip) :
    (smppListenerAuthFailed options ipBlocklist ip' now).find? ip = ipBlocklist.find? ip := by
  unfold smppListenerAuthFailed
  split
  · rfl
  · apply Keyed.find?_put_of_ne
    cases hfind : ipBlocklist.find? ip' with
    | none => simpa [smppBlockedIpCreate] using hne.symm
    | some b =>
        have hkey : b.ip = ip' := Keyed.key_of_find? hfind
        simpa [hkey] using hne.symm

theorem find?_isBlocked_of_ne {ip' : Octstr} (hne : ip' ≠ ip) :
    (smppListenerIpIsBlocked options ipBlocklist ip' now).2.find? ip = ipBlocklist.find? ip := by
  unfold smppListenerIpIsBlocked
  split
  · rfl
  · cases hfind : ipBlocklist.find? ip' with
    | none => rfl
    | some b =>
        have hkey : b.ip = ip' := Keyed.key_of_find? hfind
        simp only
        split
        · apply Keyed.find?_put_of_ne
          simpa [hkey] using hne.symm
        · rfl

theorem find?_authFailed (hexempt : smppListenerIpBlocklistExempt options ip = false) :
    (smppListenerAuthFailed options ipBlocklist ip now).find? ip =
      entryStep options ip (ipBlocklist.find? ip) (.failed ip now) := by
  simp only [smppListenerAuthFailed, hexempt, entryStep]
  apply Keyed.find?_put_self
  cases hfind : ipBlocklist.find? ip with
  | none => rfl
  | some b =>
      have hkey : b.ip = ip := Keyed.key_of_find? hfind
      exact hkey

theorem find?_isBlocked (hexempt : smppListenerIpBlocklistExempt options ip = false) :
    (smppListenerIpIsBlocked options ipBlocklist ip now).2.find? ip =
      entryStep options ip (ipBlocklist.find? ip) (.checked ip now) := by
  simp only [smppListenerIpIsBlocked, hexempt, entryStep]
  cases hfind : ipBlocklist.find? ip with
  | none => simpa using hfind
  | some b =>
      by_cases hover : now - b.timeBlocked > options.ipBlocklistTime
      · simp only [hover, Option.map_some, if_true]
        have hkey : b.ip = ip := Keyed.key_of_find? hfind
        exact Keyed.find?_put_self hkey
      · simpa [hover] using hfind

/-- An event changes the entry of its own address only. -/
theorem find?_blocklistStep (hexempt : smppListenerIpBlocklistExempt options ip = false) :
    (blocklistStep options ipBlocklist e).find? ip =
      if e.ip = ip then entryStep options ip (ipBlocklist.find? ip) e else ipBlocklist.find? ip := by
  cases e with
  | failed ip' time =>
      by_cases heq : ip' = ip
      · subst heq
        simpa [blocklistStep, BlocklistEvent.ip] using find?_authFailed hexempt
      · simpa [blocklistStep, BlocklistEvent.ip, heq] using find?_authFailed_of_ne heq
  | checked ip' time =>
      by_cases heq : ip' = ip
      · subst heq
        simpa [blocklistStep, BlocklistEvent.ip] using find?_isBlocked hexempt
      · simpa [blocklistStep, BlocklistEvent.ip, heq] using find?_isBlocked_of_ne heq

theorem blocklistAfter_append_singleton :
    blocklistAfter options (history ++ [e]) =
      blocklistStep options (blocklistAfter options history) e := by
  simp [blocklistAfter]

/-- The entry of an address is made by its own events. -/
theorem find?_blocklistAfter (hexempt : smppListenerIpBlocklistExempt options ip = false) :
    (blocklistAfter options history).find? ip =
      (history.filter (fun e => e.ip = ip)).foldl (entryStep options ip) none := by
  induction history using List.reverseRecOn with
  | nil => rfl
  | append_singleton history e ih =>
      rw [blocklistAfter_append_singleton, find?_blocklistStep hexempt, ih]
      by_cases heq : e.ip = ip
      · simp [heq]
      · simp [heq]

/-- The answer of a check, from the entry alone. -/
theorem refuses_iff (hexempt : smppListenerIpBlocklistExempt options ip = false) :
    refuses options history ip now = true ↔
      ∃ b, (blocklistAfter options history).find? ip = some b ∧
        now - b.timeBlocked ≤ options.ipBlocklistTime ∧
          options.ipBlocklistAttempts ≤ b.attempts := by
  simp only [refuses, smppListenerIpIsBlocked, hexempt]
  cases hfind : (blocklistAfter options history).find? ip with
  | none => simp
  | some b =>
      by_cases hover : now - b.timeBlocked > options.ipBlocklistTime
      · simp only [hover, if_true]
        constructor
        · intro h
          cases h
        · rintro ⟨b', hb', hrecent, -⟩
          cases hb'
          exact absurd hrecent (not_le.mpr hover)
      · simp only [hover, Bool.false_eq_true, if_false, ge_iff_le, decide_eq_true_eq]
        constructor
        · intro hattempts
          exact ⟨b, rfl, not_lt.mp hover, hattempts⟩
        · rintro ⟨b', hb', -, hattempts⟩
          cases hb'
          exact hattempts

/-! ## What the count lies between -/

theorem failureTimes_append :
    failureTimes ip (before ++ after) = failureTimes ip before ++ failureTimes ip after := by
  simp [failureTimes]

theorem failureTimes_failed : failureTimes ip [.failed ip now] = [now] := by
  simp [failureTimes]

theorem failureTimes_checked : failureTimes ip [.checked ip now] = [] := by
  simp [failureTimes]

theorem failureTimes_of_ne (hne : e.ip ≠ ip) : failureTimes ip [e] = [] := by
  cases e with
  | failed ip' time =>
      have hne' : ip' ≠ ip := hne
      simp [failureTimes, hne']
  | checked ip' time => rfl

theorem failureTimes_sublist :
    (failureTimes ip history).Sublist (history.map BlocklistEvent.time) := by
  induction history with
  | nil => exact List.Sublist.slnil
  | cons e history ih =>
      cases e with
      | failed ip' time =>
          by_cases hip : ip' = ip
          · simpa [failureTimes, hip, BlocklistEvent.time] using ih.cons_cons time
          · simpa [failureTimes, hip, BlocklistEvent.time] using ih.cons time
      | checked ip' time => simpa [failureTimes, BlocklistEvent.time] using ih.cons time

/-- No failure is later than the latest one. -/
theorem le_of_getLast_failureTimes (hchrono : Chronological history) {f last : Int}
    (hlast : (failureTimes ip history).getLast? = some last) (hf : f ∈ failureTimes ip history) :
    f ≤ last := by
  have hsorted : (failureTimes ip history).Pairwise (· ≤ ·) := hchrono.sublist failureTimes_sublist
  rcases List.getLast?_eq_some_iff.mp hlast with ⟨earlier, hearlier⟩
  rw [hearlier] at hsorted hf
  rcases List.mem_append.mp hf with hf | hf
  · exact (List.pairwise_append.mp hsorted).2.2 f hf last (List.mem_singleton_self last)
  · exact le_of_eq (List.mem_singleton.mp hf)

/-- The failures of the address from a time on. -/
def failuresSince (ip : Octstr) (start : Int) (history : List BlocklistEvent) : Nat :=
  (failureTimes ip history).countP (fun f => start ≤ f)

/-- What the entry of an address says about the history; no entry is one without attempts. -/
structure Counted (T : Int) (ip : Octstr) (history : List BlocklistEvent)
    (b : SmppBlockedIp) : Prop where
  latest : 0 < b.attempts → (failureTimes ip history).getLast? = some b.timeBlocked
  window : ∀ now, (∀ e ∈ history, e.time ≤ now) →
    (failuresSince ip (now - T) history : Int) ≤ b.attempts
  total : b.attempts ≤ (failureTimes ip history).length
  lapse : ∀ before after, history = before ++ after → EndsInLapse T ip before →
    b.attempts ≤ (failureTimes ip after).length

theorem counted_create {T : Int} : Counted T ip [] (smppBlockedIpCreate ip) where
  latest := by
    intro hpos
    cases hpos
  window := by
    intro now _
    exact le_refl 0
  total := le_refl 0
  lapse := by
    intro before after _ _
    exact Int.natCast_nonneg _

/-- A history with one more event is cut where the shorter one is, or at its end. -/
theorem append_singleton_eq_append (h : history ++ [e] = before ++ after) :
    (after = [] ∧ before = history ++ [e]) ∨
      ∃ after', after = after' ++ [e] ∧ history = before ++ after' := by
  cases after using List.reverseRecOn with
  | nil => exact Or.inl ⟨rfl, by simpa using h.symm⟩
  | append_singleton after' e' =>
      rw [← List.append_assoc] at h
      rcases List.append_inj' h rfl with ⟨hhistory, he⟩
      exact Or.inr ⟨after', by simpa using he.symm, hhistory⟩

variable {T : Int}

/-- An event that is no failure of the address leaves what its entry says, unless it is a check after
a lapse. -/
theorem Counted.keep (hcounted : Counted T ip history b) (he : failureTimes ip [e] = [])
    (hlapse : EndsInLapse T ip (history ++ [e]) → b.attempts ≤ 0) :
    Counted T ip (history ++ [e]) b where
  latest := by
    intro hpos
    rw [failureTimes_append, he, List.append_nil]
    exact hcounted.latest hpos
  window := by
    intro now hnow
    simp only [failuresSince, failureTimes_append, he, List.append_nil]
    exact hcounted.window now (fun e' he' => hnow e' (List.mem_append_left _ he'))
  total := by
    rw [failureTimes_append, he, List.append_nil]
    exact hcounted.total
  lapse := by
    intro before after hsplit hends
    rcases append_singleton_eq_append hsplit with ⟨rfl, rfl⟩ | ⟨after', rfl, rfl⟩
    · exact hlapse hends
    · rw [failureTimes_append, he, List.append_nil]
      exact hcounted.lapse before after' rfl hends

/-- A failure counts one more, and is the latest now. -/
theorem Counted.failed (hcounted : Counted T ip history b) :
    Counted T ip (history ++ [.failed ip now])
      { b with attempts := b.attempts + 1, timeBlocked := now } where
  latest := by
    intro _
    simp [failureTimes_append, failureTimes_failed]
  window := by
    intro now' hnow
    have hbefore := hcounted.window now' (fun e he => hnow e (List.mem_append_left _ he))
    have hone : [now].countP (fun f => now' - T ≤ f) ≤ 1 := List.countP_le_length
    simp only [failuresSince, failureTimes_append, failureTimes_failed, List.countP_append]
      at hbefore ⊢
    omega
  total := by
    have hbefore := hcounted.total
    simp only [failureTimes_append, failureTimes_failed, List.length_append, List.length_singleton]
    omega
  lapse := by
    intro before after hsplit hends
    rcases append_singleton_eq_append hsplit with ⟨-, rfl⟩ | ⟨after', rfl, rfl⟩
    · -- a lapse ends in a check
      rcases hends with ⟨before', now', last, heq, -, -⟩
      have he := (List.append_inj' heq rfl).2
      cases he
    · have hbefore := hcounted.lapse before after' rfl hends
      simp only [failureTimes_append, failureTimes_failed, List.length_append,
        List.length_singleton]
      omega

/-- After a lapse nothing counts any more, and nothing is left in any window to come. -/
theorem Counted.reset (hcounted : Counted T ip history b)
    (hchrono : Chronological (history ++ [.checked ip now])) (hover : now - b.timeBlocked > T) :
    Counted T ip (history ++ [.checked ip now]) { b with timeBlocked := 0, attempts := 0 } where
  latest := by
    intro hpos
    cases hpos
  window := by
    intro now' hnow
    have hlater : now ≤ now' := hnow (.checked ip now) (by simp)
    have hchrono' : Chronological history := hchrono.sublist (by simp)
    simp only [failuresSince, failureTimes_append, failureTimes_checked, List.append_nil]
    by_cases hpos : 0 < b.attempts
    · have hnone : (failureTimes ip history).countP (fun f => now' - T ≤ f) = 0 := by
        apply List.countP_eq_zero.mpr
        intro f hf
        have hle := le_of_getLast_failureTimes hchrono' (hcounted.latest hpos) hf
        simp only [decide_eq_true_eq]
        omega
      exact le_of_eq (congrArg Nat.cast hnone)
    · have hwindow := hcounted.window now' (fun e he => hnow e (List.mem_append_left _ he))
      simp only [failuresSince] at hwindow
      omega
  total := Int.natCast_nonneg _
  lapse := by
    intro before after _ _
    exact Int.natCast_nonneg _

/-- A check of the address sets the count back after a lapse, and only then. -/
theorem Counted.checked (hcounted : Counted options.ipBlocklistTime ip history b)
    (hchrono : Chronological (history ++ [.checked ip now])) :
    Counted options.ipBlocklistTime ip (history ++ [.checked ip now])
      (if now - b.timeBlocked > options.ipBlocklistTime then
        { b with timeBlocked := 0, attempts := 0 } else b) := by
  by_cases hover : now - b.timeBlocked > options.ipBlocklistTime
  · rw [if_pos hover]
    exact hcounted.reset hchrono hover
  · rw [if_neg hover]
    apply hcounted.keep failureTimes_checked
    rintro ⟨before, now', last, heq, hlast, hlapse⟩
    rcases List.append_inj' heq rfl with ⟨rfl, he⟩
    cases he
    by_contra hpos
    have hlatest := hcounted.latest (not_le.mp hpos)
    rw [hlast] at hlatest
    cases hlatest
    exact hover hlapse

/-- The invariant of a whole history. -/
theorem counted_blocklistAfter (hexempt : smppListenerIpBlocklistExempt options ip = false)
    (hchrono : Chronological history) :
    Counted options.ipBlocklistTime ip history
      (((blocklistAfter options history).find? ip).getD (smppBlockedIpCreate ip)) := by
  induction history using List.reverseRecOn with
  | nil => exact counted_create
  | append_singleton history e ih =>
      have hcounted := ih (hchrono.sublist (by simp))
      rw [blocklistAfter_append_singleton, find?_blocklistStep hexempt]
      by_cases heq : e.ip = ip
      · rw [if_pos heq]
        cases e with
        | failed ip' time =>
            have hip : ip' = ip := heq
            subst hip
            exact hcounted.failed
        | checked ip' time =>
            have hip : ip' = ip := heq
            subst hip
            cases hentry : (blocklistAfter options history).find? ip' with
            | none =>
                -- no entry, no lapse
                rw [hentry] at hcounted
                exact hcounted.keep failureTimes_checked (fun _ => le_refl 0)
            | some b =>
                rw [hentry] at hcounted
                exact hcounted.checked hchrono
      · rw [if_neg heq]
        apply hcounted.keep (failureTimes_of_ne heq)
        rintro ⟨before, now, last, hsplit, -, -⟩
        rcases List.append_inj' hsplit rfl with ⟨-, he⟩
        cases he
        exact absurd rfl heq

/-! ## The ban -/

/-- What a check after a history is to answer. -/
structure Bans (options : BlocklistOptions) (history : List BlocklistEvent) (ip : Octstr)
    (now : Int) : Prop where
  /-- Enough failures in the time that has passed: the address is refused. -/
  complete : options.ipBlocklistAttempts ≤
    failuresSince ip (now - options.ipBlocklistTime) history →
      refuses options history ip now = true
  /-- An address that is refused has failed in that time. -/
  recent : refuses options history ip now = true →
    ∃ last, (failureTimes ip history).getLast? = some last ∧ now - last ≤ options.ipBlocklistTime
  /-- It has failed often enough at all, and since every lapse; the last one leaves the fewest. -/
  earned : refuses options history ip now = true → ∀ before after, history = before ++ after →
    before = [] ∨ EndsInLapse options.ipBlocklistTime ip before →
      options.ipBlocklistAttempts ≤ (failureTimes ip after).length
  /-- The events of other addresses play no part. -/
  own : refuses options history ip now =
    refuses options (history.filter (fun e => e.ip = ip)) ip now

theorem refuses_filter (hexempt : smppListenerIpBlocklistExempt options ip = false) :
    refuses options history ip now =
      refuses options (history.filter (fun e => e.ip = ip)) ip now := by
  have hentry : (blocklistAfter options history).find? ip =
      (blocklistAfter options (history.filter (fun e => e.ip = ip))).find? ip := by
    rw [find?_blocklistAfter hexempt, find?_blocklistAfter hexempt, List.filter_filter]
    simp
  rw [Bool.eq_iff_iff, refuses_iff hexempt, refuses_iff hexempt, hentry]

/-- For every history in the order of time, every later check bans as it should. -/
theorem ip_is_blocked_bans (hN : 1 ≤ options.ipBlocklistAttempts)
    (hexempt : smppListenerIpBlocklistExempt options ip = false)
    (hchrono : Chronological history) (hnow : ∀ e ∈ history, e.time ≤ now) :
    Bans options history ip now := by
  have hcounted := counted_blocklistAfter hexempt hchrono
  refine ⟨?_, ?_, ?_, refuses_filter hexempt⟩
  · intro henough
    have hattempts := henough.trans (hcounted.window now hnow)
    -- the latest failure is no earlier than one that counts
    have hpos : 0 < failuresSince ip (now - options.ipBlocklistTime) history := by omega
    rcases List.countP_pos_iff.mp hpos with ⟨f, hf, hstart⟩
    have hlast := hcounted.latest (by omega)
    have hle := le_of_getLast_failureTimes hchrono hlast hf
    have hsince : now - options.ipBlocklistTime ≤ f := of_decide_eq_true hstart
    apply (refuses_iff hexempt).mpr
    cases hentry : (blocklistAfter options history).find? ip with
    | none =>
        simp only [hentry, Option.getD_none, smppBlockedIpCreate] at hattempts
        omega
    | some b =>
        simp only [hentry, Option.getD_some] at hattempts hle
        exact ⟨b, rfl, by omega, hattempts⟩
  · intro hrefused
    rcases (refuses_iff hexempt).mp hrefused with ⟨b, hentry, hrecent, hattempts⟩
    rw [hentry] at hcounted
    have hpos : 0 < b.attempts := Int.lt_of_lt_of_le Int.zero_lt_one (hN.trans hattempts)
    exact ⟨b.timeBlocked, hcounted.latest hpos, hrecent⟩
  · intro hrefused before after hsplit hstart
    rcases (refuses_iff hexempt).mp hrefused with ⟨b, hentry, -, hattempts⟩
    rw [hentry] at hcounted
    rcases hstart with rfl | hlapse
    · rw [List.nil_append] at hsplit
      exact hsplit ▸ hattempts.trans hcounted.total
    · exact hattempts.trans (hcounted.lapse before after hsplit hlapse)

/-- Two failures in ten seconds are one too many. -/
def sampleOptions : BlocklistOptions where
  ipBlocklistTime := 10
  ipBlocklistAttempts := 2
  ipBlocklistExemptIps := none

theorem ip_is_blocked_sample :
    Bans sampleOptions [.failed [49] 0, .checked [49] 2, .failed [50] 3, .failed [49] 4] [49] 9 ∧
      refuses sampleOptions
        [.failed [49] 0, .checked [49] 2, .failed [50] 3, .failed [49] 4] [49] 9 = true := by
  have hbans : Bans sampleOptions
      [.failed [49] 0, .checked [49] 2, .failed [50] 3, .failed [49] 4] [49] 9 :=
    ip_is_blocked_bans (by decide) (by decide) (by simp [Chronological, BlocklistEvent.time])
      (by simp [BlocklistEvent.time])
  exact ⟨hbans, hbans.complete (by decide)⟩

end Listener
end Ksmppd
