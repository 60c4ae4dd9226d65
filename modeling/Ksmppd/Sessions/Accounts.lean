import Ksmppd.Sessions.Model
import Ksmppd.Submit.Counts

/-!
# Accounts — what is registered where

An account is known by its system id and its list of binds.  A handler writes back the account it
has found; only an accepted bind enters a session, under the system id as it was typed.
-/

namespace Ksmppd
namespace Sessions

open Lib
open Submit (Session accountBinds)

variable {data data' : SmppEsmeData} {e : SmppEsme} {session : Session}

/-! ## Accounts and their binds -/

/-- The accounts, each with its binds. -/
def accountsOf (data : SmppEsmeData) : Multiset (Octstr × List EsmeRef) :=
  data.esmes.weight (fun g => {accountBinds g})

theorem accountsOf_put {g a : SmppEsmeGlobal} (hg : data.esmes.find? a.systemId = some g)
    (h : accountBinds a = accountBinds g) :
    accountsOf { data with esmes := data.esmes.put a } = accountsOf data :=
  Keyed.weight_put_of_eq (fun g => ({accountBinds g} : Multiset (Octstr × List EsmeRef))) hg
    (by rw [h])

/-- A handler writes back the account it has found, under the key it was found under. -/
theorem accountsOf_putSession
    (h : session.account.map accountBinds = (sessionOf data e).account.map accountBinds) :
    accountsOf (putSession data session) = accountsOf data := by
  cases haccount : session.account with
  | none => simp [putSession, haccount, accountsOf]
  | some a =>
      rw [haccount] at h
      rcases Option.map_eq_some_iff.mp h.symm with ⟨g, hg, hbinds⟩
      rcases Option.bind_eq_some_iff.mp hg with ⟨key, -, hfind⟩
      have hentry : g.systemId = key := Keyed.key_of_find? hfind
      have hkey : a.systemId = key := (congrArg Prod.fst hbinds.symm).trans hentry
      simpa [putSession, haccount, accountsOf] using
        accountsOf_put (hkey ▸ hfind) hbinds.symm

/-! ## Measures of the accounts -/

variable {M : Type*} [AddCommMonoid M] {f : Octstr × List EsmeRef → M}

/-- The sum of a measure over the accounts. -/
def measure (f : Octstr × List EsmeRef → M) (data : SmppEsmeData) : M :=
  data.esmes.weight (fun g => f (accountBinds g))

theorem measure_eq (f : Octstr × List EsmeRef → M) (data : SmppEsmeData) :
    measure f data = ((accountsOf data).map f).sum :=
  Keyed.weight_comp accountBinds f data.esmes

theorem measure_of_accounts (h : accountsOf data' = accountsOf data) :
    measure f data' = measure f data := by
  rw [measure_eq, measure_eq, h]

/-- An account put in place of the one under its key, which may not be there yet. -/
theorem measure_put (hf : ∀ key, f (key, []) = 0) (data : SmppEsmeData) (a : SmppEsmeGlobal) :
    measure f { data with esmes := data.esmes.put a } + f (a.systemId, bindsOf data a.systemId) =
      measure f data + f (accountBinds a) := by
  unfold measure bindsOf
  cases hfind : data.esmes.find? a.systemId with
  | none =>
      -- a new account, whose key had no binds
      have hput := Keyed.weight_put (fun g => f (accountBinds g)) data.esmes a
      rw [Keyed.weight_remove_of_none _ hfind] at hput
      simpa [hf, add_comm] using hput
  | some g =>
      have hkey : g.systemId = a.systemId := Keyed.key_of_find? hfind
      have hput := Keyed.weight_put_of_find (fun g => f (accountBinds g)) hfind
      simpa [accountBinds, hkey] using hput

/-! ## Registration -/

variable {smppServer : SmppServer} {p : Bind} {r : SmppEsmeAuthResult} {q : SmppQueuedPdu}

theorem smppEsmeGlobalOf_systemId (smppServer : SmppServer) (data : SmppEsmeData) (key : Octstr) :
    (smppEsmeGlobalOf smppServer data key).systemId = key := by
  unfold smppEsmeGlobalOf
  split
  · rename_i g hfind
    exact Keyed.key_of_find? hfind
  · rfl

theorem smppEsmeGlobalOf_binds (smppServer : SmppServer) (data : SmppEsmeData) (key : Octstr) :
    (smppEsmeGlobalOf smppServer data key).binds = bindsOf data key := by
  unfold smppEsmeGlobalOf bindsOf
  split <;> rfl

/-- What the bind handler has done when it accepts a bind. -/
theorem handleBind_some
    (h : smppQueuesHandleBindPdu smppServer data e p (some r) = some (data', q)) :
    ∃ key data₁, p.systemId = some key ∧
      smppEsmeGlobalAdd smppServer data (authenticate e p) = some data₁ ∧
      data' =
        { esmes := data₁.esmes.put
            (configureGlobal smppServer r (smppEsmeGlobalOf smppServer data₁ key))
          sessions := data₁.sessions.put
            (queued (configureEsme r ((authenticate e p).setGlobal key))) } ∧
      q.smppEsme = some e.id := by
  cases hkey : p.systemId with
  | none => simp [smppQueuesHandleBindPdu, hkey] at h
  | some key =>
      simp only [smppQueuesHandleBindPdu, hkey] at h
      rcases Option.map_eq_some_iff.mp h with ⟨data₁, hadd, heq⟩
      cases heq
      exact ⟨key, data₁, rfl, hadd, rfl, rfl⟩

/-- `smpp_esme_global_add` enters the session once, under its system id as it was typed. -/
theorem globalAdd_measure (hf : ∀ key, f (key, []) = 0) {key : Octstr}
    (hkey : e.systemId = some key) (h : smppEsmeGlobalAdd smppServer data e = some data') :
    measure f data' + f (key, bindsOf data key) =
      measure f data + f (key, bindsOf data key ++ [e.id]) := by
  simp only [smppEsmeGlobalAdd, hkey, Option.some.injEq] at h
  subst h
  have hput := measure_put hf data ((smppEsmeGlobalOf smppServer data key).produceBind e.id)
  have hsystemId : ((smppEsmeGlobalOf smppServer data key).produceBind e.id).systemId = key :=
    smppEsmeGlobalOf_systemId smppServer data key
  have hbinds : accountBinds ((smppEsmeGlobalOf smppServer data key).produceBind e.id) =
      (key, bindsOf data key ++ [e.id]) := by
    simp [accountBinds, SmppEsmeGlobal.produceBind, smppEsmeGlobalOf_systemId,
      smppEsmeGlobalOf_binds]
  rw [hbinds, hsystemId] at hput
  exact hput

theorem globalAdd_find {key : Octstr} (hkey : e.systemId = some key)
    (h : smppEsmeGlobalAdd smppServer data e = some data') :
    ∃ g, data'.esmes.find? key = some g := by
  simp only [smppEsmeGlobalAdd, hkey, Option.some.injEq] at h
  subst h
  exact ⟨_, Keyed.find?_put_self (smppEsmeGlobalOf_systemId smppServer data key)⟩

/-- The settings of an account are not its binds. -/
theorem configure_accounts {key : Octstr} {g : SmppEsmeGlobal}
    (hfind : data.esmes.find? key = some g) :
    accountsOf {
      esmes := data.esmes.put
        (configureGlobal smppServer r (smppEsmeGlobalOf smppServer data key))
      sessions := data.sessions } = accountsOf data := by
  have hglobal : smppEsmeGlobalOf smppServer data key = g := by
    simp [smppEsmeGlobalOf, hfind]
  have hentry : g.systemId = key := Keyed.key_of_find? hfind
  have hkey : (configureGlobal smppServer r g).systemId = key := hentry
  rw [hglobal]
  exact accountsOf_put (g := g) (hkey ▸ hfind) rfl

/-- A bind that is accepted enters the session once. -/
theorem handleBind_measure (hf : ∀ key, f (key, []) = 0)
    (h : smppQueuesHandleBindPdu smppServer data e p (some r) = some (data', q)) :
    ∃ key, p.systemId = some key ∧
      measure f data' + f (key, bindsOf data key) =
        measure f data + f (key, bindsOf data key ++ [e.id]) := by
  rcases handleBind_some h with ⟨key, data₁, hkey, hadd, rfl, -⟩
  have hsystemId : (authenticate e p).systemId = some key := hkey
  rcases globalAdd_find hsystemId hadd with ⟨g, hfind⟩
  refine ⟨key, hkey, ?_⟩
  -- the account is stored twice: with the new bind, and then with its settings
  calc
    _ = measure f data₁ + f (key, bindsOf data key) :=
      congrArg (· + f (key, bindsOf data key)) (measure_of_accounts (configure_accounts hfind))
    _ = _ := globalAdd_measure hf hsystemId hadd

/-- It changes the record of the session, and no other. -/
theorem handleBind_sessions
    (h : smppQueuesHandleBindPdu smppServer data e p (some r) = some (data', q)) :
    q.smppEsme = some e.id ∧
      ∃ key, ∀ id, data'.sessions.find? id =
        (data.sessions.put (queued (configureEsme r ((authenticate e p).setGlobal key)))).find? id := by
  rcases handleBind_some h with ⟨key, data₁, hkey, hadd, rfl, hq⟩
  have hsystemId : (authenticate e p).systemId = some key := hkey
  simp only [smppEsmeGlobalAdd, hsystemId, Option.some.injEq] at hadd
  subst hadd
  refine ⟨hq, key, ?_⟩
  exact Keyed.find?_put_put (v := (authenticate e p).setGlobal key)
    (w := queued (configureEsme r ((authenticate e p).setGlobal key))) rfl

end Sessions
end Ksmppd
