import Ksmppd.EsmeLookup
import Ksmppd.Lib.Champion

/-!
# BestReceiver — the receiver a message is given to

Among the receivers with room `smpp_esme_find_best_receiver` lets the best one so far be replaced by
a session with fewer open acks, or else with a shorter outbound queue.  A session with more open acks
can so replace one with fewer, and be replaced in turn by one that has more of both than the first.
-/

namespace Ksmppd

open Lib

variable {data : SmppEsmeData} {systemId : Option Octstr} {e : SmppEsme} {es : List SmppEsme}

/-! ## Loads -/

/-- The open acks and the outbound queue. -/
def SmppEsme.load (e : SmppEsme) : Nat × Nat := (e.openAcks.entries.length, e.outboundQueued)

/-- At most as loaded in both; such a session stays the best one against the other. -/
def AtMostAsLoaded (e e' : SmppEsme) : Prop := e.load.1 ≤ e'.load.1 ∧ e.load.2 ≤ e'.load.2

/-- Strictly fewer open acks and a strictly shorter outbound queue. -/
def LessLoaded (e e' : SmppEsme) : Prop := e.load.1 < e'.load.1 ∧ e.load.2 < e'.load.2

instance instDecidableAtMostAsLoaded : DecidableRel AtMostAsLoaded :=
  fun e e' => inferInstanceAs (Decidable (e.load.1 ≤ e'.load.1 ∧ e.load.2 ≤ e'.load.2))

instance instDecidableLessLoaded : DecidableRel LessLoaded :=
  fun e e' => inferInstanceAs (Decidable (e.load.1 < e'.load.1 ∧ e.load.2 < e'.load.2))

/-- Connected, bound for receiving, and below `max_open_acks` in both. -/
structure Eligible (e : SmppEsme) : Prop where
  connected : e.connected = true
  receiver : e.bindType &&& smppEsmeReceive ≠ 0
  queued : (e.outboundQueued : Int) < e.maxOpenAcks
  acks : (e.openAcks.entries.length : Int) < e.maxOpenAcks

theorem hasRoom_iff : e.hasRoom = true ↔ Eligible e := by
  simp only [SmppEsme.hasRoom, SmppEsme.receives, Bool.and_eq_true, decide_eq_true_eq]
  constructor
  · rintro ⟨⟨⟨hconnected, hreceiver⟩, hqueued⟩, hacks⟩
    exact ⟨hconnected, hreceiver, Int.lt_of_sub_pos hqueued, Int.lt_of_sub_pos hacks⟩
  · rintro ⟨hconnected, hreceiver, hqueued, hacks⟩
    exact ⟨⟨⟨hconnected, hreceiver⟩, Int.sub_pos_of_lt hqueued⟩, Int.sub_pos_of_lt hacks⟩

/-- The options of a search. -/
def receiverOptions (data : SmppEsmeData) (systemId : Option Octstr) : List SmppEsme :=
  (sessionsOf data (bestReceiverBinds data systemId)).filter SmppEsme.hasRoom

theorem mem_receiverOptions :
    e ∈ receiverOptions data systemId ↔
      e ∈ sessionsOf data (bestReceiverBinds data systemId) ∧ Eligible e := by
  simp [receiverOptions, hasRoom_iff]

/-! ## The fold -/

/-- The best session so far stays while it is at most as loaded in both. -/
theorem betterReceiver_eq : betterReceiver = challenge AtMostAsLoaded := by
  funext best e
  cases best with
  | none => rfl
  | some b =>
      by_cases hacks : e.openAcks.entries.length < b.openAcks.entries.length
      · have hnot : ¬ AtMostAsLoaded b e :=
          fun h => absurd h.1 (by simpa [SmppEsme.load] using hacks)
        simp [betterReceiver, challenge, hacks, hnot]
      · by_cases hqueued : e.outboundQueued < b.outboundQueued
        · have hnot : ¬ AtMostAsLoaded b e :=
            fun h => absurd h.2 (by simpa [SmppEsme.load] using hqueued)
          simp [betterReceiver, challenge, hacks, hqueued, hnot]
        · have hholds : AtMostAsLoaded b e := ⟨Nat.le_of_not_lt hacks, Nat.le_of_not_lt hqueued⟩
          simp [betterReceiver, challenge, hacks, hqueued, hholds]

/-- The search gives the last one standing of its options. -/
theorem findBestReceiver_eq_champion :
    smppEsmeFindBestReceiver data systemId =
      champion AtMostAsLoaded (receiverOptions data systemId) := by
  simp only [smppEsmeFindBestReceiver, betterReceiver_eq, champion, receiverOptions]

theorem findBestReceiver_eq_none_iff :
    smppEsmeFindBestReceiver data systemId = none ↔
      ∀ e ∈ sessionsOf data (bestReceiverBinds data systemId), ¬ Eligible e := by
  rw [findBestReceiver_eq_champion, champion_eq_none_iff, receiverOptions,
    List.filter_eq_nil_iff]
  constructor
  · intro h e he heligible
    exact h e he (hasRoom_iff.mpr heligible)
  · intro h e he hroom
    exact h e he (hasRoom_iff.mp hroom)

/-! ## The best receiver -/

/-- What a search for the best receiver among these sessions is to give. -/
structure BestOf (sessions : List SmppEsme) (result : Option SmppEsme) : Prop where
  none_iff : result = none ↔ ∀ e ∈ sessions, ¬ Eligible e
  mem : ∀ e, result = some e → e ∈ sessions ∧ Eligible e
  undominated : ∀ e, result = some e → ∀ e' ∈ sessions, Eligible e' → ¬ LessLoaded e' e

/-- Whenever a session has a less loaded one before it and none after it that is ahead of it in
either, there is another before it that has none after itself ahead of it in either. -/
def NoLateFavourite (options : List SmppEsme) : Prop :=
  ∀ before e after, options = before ++ e :: after → (∀ z ∈ after, AtMostAsLoaded e z) →
    (∃ e' ∈ before, LessLoaded e' e) →
      ∃ before' w after', before = before' ++ w :: after' ∧
        ∀ z ∈ after' ++ e :: after, AtMostAsLoaded w z

theorem AtMostAsLoaded.trans (a b c : SmppEsme) (hab : AtMostAsLoaded a b)
    (hbc : AtMostAsLoaded b c) : AtMostAsLoaded a c :=
  ⟨hab.1.trans hbc.1, hab.2.trans hbc.2⟩

theorem AtMostAsLoaded.not_lessLoaded (a b : SmppEsme) (hab : AtMostAsLoaded a b) :
    ¬ LessLoaded b a :=
  fun hba => absurd hab.1 (Nat.not_le_of_lt hba.1)

/-- The search keeps its word on the sessions of an account exactly when they have no late
favourite. -/
theorem best_receiver_iff (data : SmppEsmeData) (systemId : Option Octstr) :
    BestOf (sessionsOf data (bestReceiverBinds data systemId))
        (smppEsmeFindBestReceiver data systemId) ↔
      NoLateFavourite (receiverOptions data systemId) := by
  have hiff := @champion_unbeaten_iff _ _ _ _ (receiverOptions data systemId)
    (fun e => ⟨le_refl _, le_refl _⟩) AtMostAsLoaded.trans AtMostAsLoaded.not_lessLoaded
  rw [← findBestReceiver_eq_champion] at hiff
  constructor
  · intro hbest
    apply hiff.mp
    intro e he e' he'
    rcases mem_receiverOptions.mp he' with ⟨hmem, heligible⟩
    exact hbest.undominated e he e' hmem heligible
  · intro hlate
    refine ⟨findBestReceiver_eq_none_iff, ?_, ?_⟩
    · intro e he
      have hspec := bestReceiver_spec he
      exact ⟨mem_sessionsOf.mpr hspec.2, hasRoom_iff.mp hspec.1⟩
    · intro e he e' hmem heligible
      exact hiff.mpr hlate e he e' (mem_receiverOptions.mpr ⟨hmem, heligible⟩)

/-! ## Three sessions -/

/-- A receiver with as many open acks, and as many messages in its outbound queue. -/
def loadedReceiver (id : EsmeRef) (acks : List Int) (outboundQueued : Nat) : SmppEsme :=
  { sampleReceiver [97] with
    id := id
    openAcks := acks.foldl
      (fun d ack => d.put { smppQueuedPduCreate with id := some ack }) Keyed.empty
    outboundQueued := outboundQueued }

/-- An account with these sessions. -/
def sampleAccount (sessions : List SmppEsme) : SmppEsmeData where
  esmes := Keyed.empty.put
    { smppEsmeGlobalOf sampleServer smppEsmeInit [97] with binds := sessions.map SmppEsme.id }
  sessions := sessions.foldl Keyed.put Keyed.empty

/-- The second session has the shorter queue and takes the place of the first, the third has fewer
open acks and takes the place of the second; but the first has fewer of both than the third. -/
def sampleOvertaken : SmppEsmeData :=
  sampleAccount [loadedReceiver 1 [] 1, loadedReceiver 2 [7, 8] 0, loadedReceiver 3 [7] 2]

theorem best_receiver_dominated :
    ¬ BestOf (sessionsOf sampleOvertaken (bestReceiverBinds sampleOvertaken (some [97])))
      (smppEsmeFindBestReceiver sampleOvertaken (some [97])) := by
  intro hbest
  have hfound : (smppEsmeFindBestReceiver sampleOvertaken (some [97])).any
      (fun e => (sessionsOf sampleOvertaken (bestReceiverBinds sampleOvertaken (some [97]))).any
        (fun e' => e'.hasRoom && decide (LessLoaded e' e))) = true := by decide +kernel
  rcases (Option.any_eq_true _ _).mp hfound with ⟨e, he, hany⟩
  rcases List.any_eq_true.mp hany with ⟨e', hmem, hahead⟩
  rcases (Bool.and_eq_true _ _).mp hahead with ⟨hroom, hless⟩
  exact hbest.undominated e he e' hmem (hasRoom_iff.mp hroom) (of_decide_eq_true hless)

end Ksmppd
