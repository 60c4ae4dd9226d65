import Ksmppd.Submit.Counts

/-!
# Settings — what the handlers leave alone in an account

A handler or a callback counts a message or an error in the account it is given.  Whatever else is
in the account, its limits and its billing above all, stays as the bind has set it.
-/

namespace Ksmppd
namespace Submit

variable {kind : SmKind} {env : Env} {s s' s'' : Session} {calls : List SubmitCall}
  {q : SmppQueuedPdu} {r : Result} {sequenceNumber : Int}

/-- An account apart from what has been counted. -/
def uncounted (a : SmppEsmeGlobal) : SmppEsmeGlobal := { a with mtCounter := 0, errorCounter := 0 }

/-- The account differs in its counters at most. -/
def SameAccount (s s' : Session) : Prop :=
  s'.account.map uncounted = s.account.map uncounted

/-- The same, where there is a result. -/
def ResultSame (s : Session) (r : Result) : Prop :=
  ∀ s' calls, r = some (s', calls) → SameAccount s s'

theorem SameAccount.trans (h : SameAccount s s') (h' : SameAccount s' s'') : SameAccount s s'' :=
  Eq.trans h' h

theorem sameAccount_of_eq (h : s'.account = s.account) : SameAccount s s' := by
  simp [SameAccount, h]

theorem sameAccount_countError (h : s.countError = some s') : SameAccount s s' := by
  rcases Option.map_eq_some_iff.mp h with ⟨a, ha, rfl⟩
  simp [SameAccount, ha, uncounted]

theorem sameAccount_countMt (h : s.countMt = some s') : SameAccount s s' := by
  rcases Option.map_eq_some_iff.mp h with ⟨a, ha, rfl⟩
  simp [SameAccount, ha, uncounted]

theorem resultSame_respond (q : SmppQueuedPdu) : ResultSame s (some (respond s q)) := by
  intro s' calls h
  cases h
  exact sameAccount_of_eq rfl

/-- A response that is counted first. -/
theorem resultSame_counted {o : Option Session} (ho : ∀ s', o = some s' → SameAccount s s')
    (q : SmppQueuedPdu) : ResultSame s (o.map (fun s' => respond s' q)) := by
  intro s'' calls h
  rcases Option.map_eq_some_iff.mp h with ⟨s', hs', heq⟩
  cases heq
  exact (ho s' hs').trans (sameAccount_of_eq rfl)

theorem resultSame_after (h : ResultSame s r) (before : List SubmitCall) :
    ResultSame s (after before r) := by
  intro s' calls hr
  rcases Option.map_eq_some_iff.mp hr with ⟨⟨s₁, cs⟩, hcs, heq⟩
  cases heq
  exact h _ _ hcs

/-! ## Callbacks -/

theorem resultSame_smCallback (q : SmppQueuedPdu) (status : Int) :
    ResultSame s (smCallback s q status) := by
  unfold smCallback
  split
  · exact resultSame_counted (fun _ h => sameAccount_countError h) _
  · exact resultSame_counted (fun _ h => sameAccount_countMt h) _

theorem resultSame_callbackOf (q : SmppQueuedPdu) (status : Int) :
    ResultSame s (callbackOf kind s q status) := by
  rw [callbackOf_eq]
  exact resultSame_smCallback q status

theorem resultSame_rejectSm (q : SmppQueuedPdu) (status : Int) :
    ResultSame s (rejectSm s q status) :=
  resultSame_counted (fun _ h => sameAccount_countError h) _

theorem resultSame_acceptSm (a : SmppEsmeGlobal) (q : SmppQueuedPdu) (msg : Sms) :
    ResultSame s (acceptSm kind env s a q msg) := by
  intro s' calls h
  rcases Option.bind_eq_some_iff.mp h with ⟨⟨q', msg'⟩, -, hrest⟩
  dsimp only at hrest
  split at hrest
  · exact resultSame_after (resultSame_smCallback _ _) _ s' calls hrest
  · -- the message is handed over, and the session stays as it is
    cases hrest
    exact sameAccount_of_eq rfl

theorem resultSame_billSm (q : SmppQueuedPdu) (msg : Sms) (cost : Rat) :
    ResultSame s (billSm kind env s q msg cost) := by
  intro s' calls h
  rcases Option.bind_eq_some_iff.mp h with ⟨a, -, hrest⟩
  split at hrest
  · split at hrest
    · exact resultSame_after (resultSame_acceptSm a q msg) _ s' calls hrest
    · exact resultSame_after (resultSame_rejectSm q _) _ s' calls hrest
  · exact resultSame_acceptSm a q msg s' calls hrest

theorem resultSame_routingDoneOf (q : SmppQueuedPdu) (routeStatus : SmppRouteStatus) :
    ResultSame s (routingDoneOf kind env s q routeStatus) := by
  rw [routingDoneOf_eq]
  intro s' calls h
  have hstart : SameAccount s s.routingDone := sameAccount_of_eq rfl
  rcases Option.bind_eq_some_iff.mp h with ⟨msg, -, hrest⟩
  split at hrest
  · exact hstart.trans (resultSame_billSm q _ _ s' calls hrest)
  · split at hrest
    · exact hstart.trans (resultSame_billSm q _ _ s' calls hrest)
    · exact hstart.trans (resultSame_rejectSm q _ s' calls hrest)

/-! ## Handlers -/

theorem resultSame_forwardSm (converted : Conversion) :
    ResultSame s (forwardSm kind env s sequenceNumber converted) := by
  intro s' calls h
  unfold forwardSm at h
  split at h
  · cases h
  · exact resultSame_respond _ s' calls h
  · rcases Option.map_eq_some_iff.mp h with ⟨msg', -, heq⟩
    cases heq
    exact sameAccount_of_eq rfl

theorem resultSame_simulateSubmitSm (converted : Conversion) :
    ResultSame s (simulateSubmitSm env s sequenceNumber converted) := by
  intro s'' calls h
  unfold simulateSubmitSm at h
  dsimp only at h
  split at h
  · exact resultSame_counted (fun _ h => sameAccount_countError h) _ s'' calls h
  · split at h
    · exact resultSame_counted (fun _ h => sameAccount_countError h) _ s'' calls h
    · split at h
      · cases h
      · exact resultSame_respond _ s'' calls h
      · rcases Option.bind_eq_some_iff.mp h with ⟨s', hcount, hreport⟩
        rcases Option.bind_eq_some_iff.mp hreport with ⟨⟨msg', report⟩, -, hmo⟩
        rcases Option.map_eq_some_iff.mp hmo with ⟨mo, -, heq⟩
        have hcounted := sameAccount_countMt hcount
        -- the order of the calls does not matter here
        dsimp only at heq
        split at heq <;> cases heq <;> exact hcounted.trans (sameAccount_of_eq rfl)

theorem resultSame_admitSm {proceed : SmppEsmeGlobal → Result}
    (h : ∀ a, ResultSame s (proceed a)) : ResultSame s (admitSm kind s sequenceNumber proceed) := by
  intro s' calls hr
  unfold admitSm at hr
  split at hr
  · exact resultSame_respond _ s' calls hr
  · rcases Option.bind_eq_some_iff.mp hr with ⟨a, -, hadmit⟩
    split at hadmit
    · exact resultSame_respond _ s' calls hadmit
    · exact h a s' calls hadmit

theorem resultSame_handleSm (converted : Conversion) :
    ResultSame s (handleSm kind env s sequenceNumber converted) := by
  cases kind with
  | submitSm =>
      apply resultSame_admitSm
      intro a
      split
      · exact resultSame_simulateSubmitSm converted
      · exact resultSame_forwardSm converted
  | dataSm => exact resultSame_admitSm (fun a => resultSame_forwardSm converted)

end Submit
end Ksmppd
