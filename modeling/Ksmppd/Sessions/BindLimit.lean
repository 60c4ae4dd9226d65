import Ksmppd.Lib.Transition
import Ksmppd.Sessions.Quiet

/-!
# BindLimit — how many sessions an account may have

`smpp_esme_auth` counts the binds under the system id in lower case; `smpp_esme_global_add` enters
a session under the system id as it was typed, and later.  The sessions of an account are those
under all spellings of its system id, and those that have passed the check already.
-/

namespace Ksmppd
namespace Sessions

open Lib
open Submit (accountBinds)

variable {n : Nat} {s t : ServerState n} {data : SmppEsmeData} {e : SmppEsme} {a : Octstr}
  {m : Nat}

/-! ## Sessions of an account -/

/-- The binds of one spelling that count for the account `a`. -/
def bindsFor (a : Octstr) (x : Octstr × List EsmeRef) : Nat :=
  if octstrToLower x.1 = octstrToLower a then x.2.length else 0

/-- The sessions registered for an account, under any spelling of its system id. -/
def registered (a : Octstr) (data : SmppEsmeData) : Nat := measure (bindsFor a) data

/-- A bind for the account. -/
def IsBindFor (a : Octstr) (p : Bind) : Prop :=
  p.systemId.map octstrToLower = some (octstrToLower a)

instance (a : Octstr) (p : Bind) : Decidable (IsBindFor a p) :=
  inferInstanceAs (Decidable (_ = _))

/-- A bind for the account that has passed the check. -/
def checkedFor (a : Octstr) (b : Binding) : Bool :=
  b.authResult.isSome && decide (IsBindFor a b.pdu)

/-- The binds of the account between the check and their registration. -/
def checked (a : Octstr) (s : ServerState n) : Nat := s.binding.countP (checkedFor a)

/-- The bind at position `i` of the inbound queue. -/
def bindAt (s : ServerState n) (i : Nat) : Option Bind :=
  s.inboundQueue[i]?.bind (fun x =>
    match x.2 with
    | .bind p => some p
    | _ => none)

/-- Every successful authentication of the account returns this `max_binds`. -/
def LimitIs (a : Octstr) (m : Nat) (s : ServerState n) : Label n → Prop
  | .bindCheck i _ authResult =>
      ∀ p ∈ bindAt s i, IsBindFor a p → ∀ r ∈ authResult, r.maxBinds = m
  | _ => True

/-- Where the list the check looks at has room, so has the account. -/
def ChecksAll (a : Octstr) (m : Nat) (s : ServerState n) : Label n → Prop
  | .bindCheck i denied authResult =>
      ∀ p ∈ bindAt s i, IsBindFor a p → denied = false → authResult ≠ none →
        (authBinds s.data a).length < m → registered a s.data + checked a s < m
  | _ => True

instance (a : Octstr) (m : Nat) (s : ServerState n) : (l : Label n) → Decidable (LimitIs a m s l)
  | .bindCheck i _ authResult =>
      inferInstanceAs (Decidable
        (∀ p ∈ bindAt s i, IsBindFor a p → ∀ r ∈ authResult, r.maxBinds = m))
  | .accept | .receive _ _ | .hangUp _ | .inbound _ _ _ _ _ | .bindFinish _
  | .routingDone _ _ _ _ | .bearerbox _ | .addOutbound _ _ | .outbound _ | .disconnect _
  | .passBegin | .passEnd | .sweep _ _ | .destroy _ | .tick _ | .shutdown => isTrue trivial

instance (a : Octstr) (m : Nat) (s : ServerState n) : (l : Label n) → Decidable (ChecksAll a m s l)
  | .bindCheck i denied authResult =>
      inferInstanceAs (Decidable
        (∀ p ∈ bindAt s i, IsBindFor a p → denied = false → authResult ≠ none →
          (authBinds s.data a).length < m → registered a s.data + checked a s < m))
  | .accept | .receive _ _ | .hangUp _ | .inbound _ _ _ _ _ | .bindFinish _
  | .routingDone _ _ _ _ | .bearerbox _ | .addOutbound _ _ | .outbound _ | .disconnect _
  | .passBegin | .passEnd | .sweep _ _ | .destroy _ | .tick _ | .shutdown => isTrue trivial

/-! ## What the steps do to them -/

theorem bindsFor_nil (key : Octstr) : bindsFor a (key, []) = 0 := by
  simp [bindsFor]

theorem registered_of_accounts {data' : SmppEsmeData} (h : accountsOf data' = accountsOf data) :
    registered a data' = registered a data := measure_of_accounts h

theorem accounts_hangUp (s : ServerState n) (e : SmppEsme) :
    accountsOf (s.hangUp e).data = accountsOf s.data := by
  unfold ServerState.hangUp
  split <;> rfl

theorem binding_hangUp (s : ServerState n) (e : SmppEsme) : (s.hangUp e).binding = s.binding := by
  unfold ServerState.hangUp
  split <;> rfl

theorem checked_erase {i : Nat} {b : Binding} (h : s.binding[i]? = some b) :
    checked a s = (s.binding.eraseIdx i).countP (checkedFor a) +
      if checkedFor a b then 1 else 0 := by
  unfold checked
  rw [(perm_eraseIdx h).countP_eq, List.countP_cons]

theorem registered_withoutBind {key : Octstr} {g : SmppEsmeGlobal} {j : Nat}
    (hg : data.esmes.find? key = some g) :
    registered a { data with esmes := data.esmes.put (withoutBind g j) } ≤ registered a data := by
  have hentry : g.systemId = key := Keyed.key_of_find? hg
  have hkey : (withoutBind g j).systemId = key := hentry
  have hput : registered a { data with esmes := data.esmes.put (withoutBind g j) } +
      bindsFor a (accountBinds g) = registered a data + bindsFor a (accountBinds (withoutBind g j)) :=
    Keyed.weight_put_of_find (fun g => bindsFor a (accountBinds g)) (hkey ▸ hg)
  have hlength : (withoutBind g j).binds.length ≤ g.binds.length :=
    (List.eraseIdx_sublist g.binds j).length_le
  have hsystemId : (withoutBind g j).systemId = g.systemId := rfl
  have hle : bindsFor a (accountBinds (withoutBind g j)) ≤ bindsFor a (accountBinds g) := by
    by_cases hlower : octstrToLower g.systemId = octstrToLower a
    · simpa [bindsFor, accountBinds, hsystemId, hlower] using hlength
    · simp [bindsFor, accountBinds, hsystemId, hlower]
  omega

/-- The session that passed the check is registered for the account it was checked for. -/
theorem registered_handleBind {smppServer : SmppServer} {p : Bind} {r : SmppEsmeAuthResult}
    {data' : SmppEsmeData} {q : SmppQueuedPdu}
    (h : smppQueuesHandleBindPdu smppServer data e p (some r) = some (data', q)) :
    registered a data' = registered a data + if IsBindFor a p then 1 else 0 := by
  rcases handleBind_measure bindsFor_nil h with ⟨key, hkey, hmeasure⟩
  have hfor : IsBindFor a p ↔ octstrToLower key = octstrToLower a := by
    simp [IsBindFor, hkey]
  have hbinds : bindsFor a (key, bindsOf data key ++ [e.id]) =
      bindsFor a (key, bindsOf data key) + if IsBindFor a p then 1 else 0 := by
    by_cases hlower : octstrToLower key = octstrToLower a
    · simp [bindsFor, hfor, hlower]
    · simp [bindsFor, hfor, hlower]
  rw [hbinds] at hmeasure
  unfold registered
  omega

/-! ## The limit -/

def WithinLimit (a : Octstr) (m : Nat) (s : ServerState n) : Prop :=
  registered a s.data + checked a s ≤ m

theorem WithinLimit.of_eq (h : WithinLimit a m s) (haccounts : accountsOf t.data = accountsOf s.data)
    (hbinding : t.binding = s.binding) : WithinLimit a m t := by
  unfold WithinLimit checked
  rw [registered_of_accounts haccounts, hbinding]
  exact h

theorem WithinLimit.of_le (h : WithinLimit a m s) (hle : registered a t.data ≤ registered a s.data)
    (hbinding : t.binding = s.binding) : WithinLimit a m t := by
  unfold WithinLimit checked at h ⊢
  rw [hbinding]
  omega

/-- A bind passes the check only where the lower-case list has room. -/
theorem smppEsmeAuth_some {key : Octstr} {denied : Bool} {authResult : Option SmppEsmeAuthResult}
    (hpass : (smppEsmeAuth data key denied authResult).isSome)
    (hlimit : ∀ r ∈ authResult, r.maxBinds = m) (hm : 0 < m) :
    denied = false ∧ authResult ≠ none ∧ (authBinds data key).length < m := by
  cases authResult with
  | none => simp [smppEsmeAuth] at hpass
  | some r =>
      have hmax : r.maxBinds = m := hlimit r rfl
      cases denied with
      | true => simp [smppEsmeAuth] at hpass
      | false =>
          refine ⟨rfl, by simp, ?_⟩
          by_contra hfull
          have hrefused : r.maxBinds > 0 ∧ ((authBinds data key).length : Int) ≥ r.maxBinds := by
            omega
          simp [smppEsmeAuth, hrefused] at hpass

theorem withinLimit_bindCheck {i : Nat} {denied : Bool} {authResult : Option SmppEsmeAuthResult}
    (hm : 0 < m) (h : WithinLimit a m s)
    (hlimit : LimitIs a m s (.bindCheck i denied authResult))
    (hchecks : ChecksAll a m s (.bindCheck i denied authResult))
    (ht : step s (.bindCheck i denied authResult) = some t) : WithinLimit a m t := by
  rcases bindCheck_cases ht with ⟨esme, p, e, -, hget, hfind, rfl⟩
  have hbind : p ∈ bindAt s i := by
    simp [bindAt, hget]
  let b : Binding := {
    esme := esme
    pdu := p
    authResult := smppEsmeAuth s.data (p.systemId.getD []) denied authResult }
  have hadded : (s.binding ++ [b]).countP (checkedFor a) =
      checked a s + if checkedFor a b then 1 else 0 := by
    simp [checked, List.countP_append, List.countP_cons]
  unfold WithinLimit at h ⊢
  change registered a s.data + (s.binding ++ [b]).countP (checkedFor a) ≤ m
  rw [hadded]
  split
  · -- a bind for the account has passed: the lower-case list had room
    rename_i hpassed
    have hpassed' : (smppEsmeAuth s.data (p.systemId.getD []) denied authResult).isSome ∧
        IsBindFor a p := by
      simpa [checkedFor, b] using hpassed
    rcases smppEsmeAuth_some hpassed'.1 (hlimit p hbind hpassed'.2) hm with ⟨hdenied, hsome, hroom⟩
    have hsame : authBinds s.data (p.systemId.getD []) = authBinds s.data a := by
      rcases Option.map_eq_some_iff.mp hpassed'.2 with ⟨key, hkey, hlower⟩
      simp [authBinds, hkey, hlower]
    have hlt := hchecks p hbind hpassed'.2 hdenied hsome (hsame ▸ hroom)
    omega
  · exact h

theorem withinLimit_bindFinish {i : Nat} (h : WithinLimit a m s)
    (ht : step s (.bindFinish i) = some t) : WithinLimit a m t := by
  rcases bindFinish_cases ht with ⟨b, e, data', q, hget, hfind, hhandle, rfl⟩
  have herase := checked_erase (a := a) hget
  unfold WithinLimit at h ⊢
  change registered a data' + (s.binding.eraseIdx i).countP (checkedFor a) ≤ m
  cases hresult : b.authResult with
  | none =>
      -- a bind that was refused was not counted
      rw [hresult] at hhandle
      cases hhandle
      change registered a s.data + (s.binding.eraseIdx i).countP (checkedFor a) ≤ m
      omega
  | some r =>
      -- from the binds that were checked to those that are registered
      rw [hresult] at hhandle
      have hregistered := registered_handleBind (a := a) hhandle
      have hcounted : checkedFor a b = decide (IsBindFor a b.pdu) := by
        simp [checkedFor, hresult]
      simp only [hcounted, decide_eq_true_eq] at herase
      omega

theorem withinLimit_step {l : Label n} (hm : 0 < m) (h : WithinLimit a m s)
    (hok : LimitIs a m s l ∧ ChecksAll a m s l) (ht : step s l = some t) : WithinLimit a m t := by
  cases l with
  | accept =>
      cases ht
      exact h.of_eq rfl rfl
  | hangUp esme =>
      rcases Option.map_eq_some_iff.mp ht with ⟨e, hfind, rfl⟩
      exact h.of_eq (accounts_hangUp s e) (binding_hangUp s e)
  | bindCheck i denied authResult => exact withinLimit_bindCheck hm h hok.1 hok.2 ht
  | bindFinish i => exact withinLimit_bindFinish h ht
  | outbound i =>
      rcases outbound_cases ht with ⟨q, esme, e, -, -, -, rfl⟩
      split
      · exact h.of_eq (accounts_hangUp _ _) (binding_hangUp _ _)
      · exact h.of_eq rfl rfl
  | sweep key j =>
      rcases sweep_cases ht with ⟨g, esme, e, -, hg, -, -, -, rfl⟩
      exact h.of_le (registered_withoutBind hg) rfl
  | destroy esme =>
      rcases destroy_cases ht with ⟨e, -, -, -, -, rfl⟩
      exact h.of_eq rfl rfl
  | shutdown =>
      simp only [step] at ht
      split at ht
      · cases ht
      · cases ht
        refine h.of_le ?_ rfl
        simp [registered, measure]
  | _ =>
      have hquiet := quiet_step (by trivial) ht
      exact h.of_eq hquiet.accounts hquiet.binding

/-- Where every check that finds room has counted all sessions of the account, the account keeps
to its limit. -/
theorem bind_limit_kept {smppServer : SmppServer} {ids : Fin n → Option Octstr}
    {ls : List (Label n)} (hm : 0 < m)
    (h : Run step (fun s l => LimitIs a m s l ∧ ChecksAll a m s l) (serverInit smppServer ids) ls s) :
    registered a s.data ≤ m := by
  have hwithin : WithinLimit a m s := by
    apply h.invariant (WithinLimit a m) (fun _ _ _ => withinLimit_step hm)
    simp [WithinLimit, registered, measure, checked, serverInit, smppEsmeInit]
  exact Nat.le_trans (Nat.le_add_right _ _) hwithin

/-- One session may bind as `test`, and does. -/
def sampleBound : List (Label 0) :=
  [.accept, .receive 0 (.bind (sampleBind (octstrImm "test"))),
    .bindCheck 0 false (some { maxBinds := 1 }), .bindFinish 0]

theorem bind_limit_kept_sample :
    ∃ s, Run step (fun s l => LimitIs (octstrImm "test") 1 s l ∧ ChecksAll (octstrImm "test") 1 s l)
        sampleServer sampleBound s ∧
      allBinds s.data = [0] ∧ registered (octstrImm "test") s.data ≤ 1 := by
  have hexec : (execute step
      (fun s l => LimitIs (octstrImm "test") 1 s l ∧ ChecksAll (octstrImm "test") 1 s l)
      sampleServer sampleBound).any (fun s => allBinds s.data == [0]) = true := by decide +kernel
  rcases exists_run_of_execute hexec with ⟨s, hrun, hs⟩
  exact ⟨s, hrun, by simpa using hs, bind_limit_kept (by decide) hrun⟩

/-- Two connections bind as `Test`; the check looks under `test`. -/
def sampleSpelled : List (Label 0) :=
  [.accept, .accept, .receive 0 (.bind (sampleBind (octstrImm "Test"))),
    .bindCheck 0 false (some { maxBinds := 1 }), .bindFinish 0,
    .receive 1 (.bind (sampleBind (octstrImm "Test"))),
    .bindCheck 0 false (some { maxBinds := 1 }), .bindFinish 0]

/-- Two threads check the binds of two connections before either is registered. -/
def sampleRaced : List (Label 0) :=
  [.accept, .accept, .receive 0 (.bind (sampleBind (octstrImm "test"))),
    .receive 1 (.bind (sampleBind (octstrImm "test"))),
    .bindCheck 0 false (some { maxBinds := 1 }), .bindCheck 0 false (some { maxBinds := 1 }),
    .bindFinish 0, .bindFinish 0]

/-- Both runs leave the account with two sessions. -/
theorem bind_limit_exceeded :
    (∃ s, Run step (LimitIs (octstrImm "test") 1) sampleServer sampleSpelled s ∧
      allBinds s.data = [0, 1] ∧ 1 < registered (octstrImm "test") s.data) ∧
      ∃ s, Run step (LimitIs (octstrImm "test") 1) sampleServer sampleRaced s ∧
        allBinds s.data = [0, 1] ∧ 1 < registered (octstrImm "test") s.data := by
  have hspelled : (execute step (LimitIs (octstrImm "test") 1) sampleServer sampleSpelled).any
      (fun s => decide (allBinds s.data = [0, 1] ∧ 1 < registered (octstrImm "test") s.data)) =
        true := by decide +kernel
  have hraced : (execute step (LimitIs (octstrImm "test") 1) sampleServer sampleRaced).any
      (fun s => decide (allBinds s.data = [0, 1] ∧ 1 < registered (octstrImm "test") s.data)) =
        true := by decide +kernel
  rcases exists_run_of_execute hspelled with ⟨s, hrun, hs⟩
  rcases exists_run_of_execute hraced with ⟨t, hrun', ht⟩
  exact ⟨⟨s, hrun, of_decide_eq_true hs⟩, t, hrun', of_decide_eq_true ht⟩

end Sessions
end Ksmppd
