import Mathlib.Data.List.Basic

/-!
# Framing — items of a stream that arrives in chunks

A decoder takes the first item off a stream; that more of the stream may follow does not change what
it takes.  A reader that gets the stream in chunks makes one round for each chunk, and a round may
end early, at an item that stops it.  What is left then waits for the next chunk: all items are read
exactly if enough rounds follow each stop.
-/

namespace Ksmppd
namespace Lib

universe u v

/-- Takes the first item off a stream, if it is complete. -/
structure Decoder (α : Type u) (β : Type v) where
  next : List α → Option (β × List α)
  shorter : ∀ {xs ys b}, next xs = some (b, ys) → ys.length < xs.length
  stable : ∀ {xs ys b} (zs), next xs = some (b, ys) → next (xs ++ zs) = some (b, ys ++ zs)

variable {α : Type u} {β : Type v} {d : Decoder α β} {xs ys zs left : List α} {b : β}
  {bs cs : List β} {n : Nat}

/-! ## Items -/

namespace Decoder

/-- Take up to `n` items. -/
def decodeUpTo (d : Decoder α β) : Nat → List α → List β × List α
  | 0, xs => ([], xs)
  | n + 1, xs =>
      match d.next xs with
      | none => ([], xs)
      | some (b, ys) => (b :: (d.decodeUpTo n ys).1, (d.decodeUpTo n ys).2)

/-- All complete items of a stream; each takes at least one element. -/
def items (d : Decoder α β) (xs : List α) : List β := (d.decodeUpTo xs.length xs).1

/-- What is left of the stream after its complete items. -/
def rest (d : Decoder α β) (xs : List α) : List α := (d.decodeUpTo xs.length xs).2

theorem decodeUpTo_of_none (h : d.next xs = none) : d.decodeUpTo n xs = ([], xs) := by
  cases n with
  | zero => rfl
  | succ n => simp [decodeUpTo, h]

/-- More rounds than elements make no difference. -/
theorem decodeUpTo_of_le {m : Nat} (hn : xs.length ≤ n) (hm : xs.length ≤ m) :
    d.decodeUpTo n xs = d.decodeUpTo m xs := by
  induction n generalizing m xs with
  | zero =>
      have hnil : xs = [] := List.length_eq_zero_iff.mp (Nat.le_zero.mp hn)
      have hnone : d.next xs = none := by
        cases hnext : d.next xs with
        | none => rfl
        | some r =>
            rcases r with ⟨b, ys⟩
            have hlt := d.shorter hnext
            simp [hnil] at hlt
      rw [decodeUpTo_of_none hnone, decodeUpTo_of_none hnone]
  | succ n ih =>
      cases hnext : d.next xs with
      | none => rw [decodeUpTo_of_none hnext, decodeUpTo_of_none hnext]
      | some r =>
          rcases r with ⟨b, ys⟩
          have hlt := d.shorter hnext
          cases m with
          | zero => omega
          | succ m =>
              have hrest : d.decodeUpTo n ys = d.decodeUpTo m ys := ih (by omega) (by omega)
              simp [decodeUpTo, hnext, hrest]

theorem items_of_none (h : d.next xs = none) : d.items xs = [] := by
  simp [items, decodeUpTo_of_none h]

theorem rest_of_none (h : d.next xs = none) : d.rest xs = xs := by
  simp [rest, decodeUpTo_of_none h]

theorem decode_of_some (h : d.next xs = some (b, ys)) :
    d.decodeUpTo xs.length xs = (b :: d.items ys, d.rest ys) := by
  have hlt := d.shorter h
  rcases Nat.exists_eq_add_of_lt hlt with ⟨k, hk⟩
  have hrest : d.decodeUpTo (ys.length + k) ys = d.decodeUpTo ys.length ys :=
    decodeUpTo_of_le (Nat.le_add_right _ _) (Nat.le_refl _)
  rw [hk]
  simp [decodeUpTo, h, hrest, items, rest]

theorem items_of_some (h : d.next xs = some (b, ys)) : d.items xs = b :: d.items ys := by
  unfold items
  rw [decode_of_some h]
  rfl

theorem rest_of_some (h : d.next xs = some (b, ys)) : d.rest xs = d.rest ys := by
  unfold rest
  rw [decode_of_some h]
  rfl

/-- Induction over the items of a stream. -/
theorem item_induction (d : Decoder α β) {P : List α → Prop}
    (hnone : ∀ xs, d.next xs = none → P xs)
    (hsome : ∀ xs b ys, d.next xs = some (b, ys) → P ys → P xs) (xs : List α) : P xs := by
  induction hlength : xs.length using Nat.strongRecOn generalizing xs with
  | ind n ih =>
      cases hnext : d.next xs with
      | none => exact hnone xs hnext
      | some r =>
          rcases r with ⟨b, ys⟩
          have hlt := d.shorter hnext
          exact hsome xs b ys hnext (ih ys.length (by omega) ys rfl)

/-- The items of a longer stream are those of its first part, and those that what is left of it
makes with the second. -/
theorem items_append (d : Decoder α β) (xs zs : List α) :
    d.items (xs ++ zs) = d.items xs ++ d.items (d.rest xs ++ zs) := by
  induction xs using d.item_induction with
  | hnone xs h => simp [items_of_none h, rest_of_none h]
  | hsome xs b ys h ih =>
      rw [items_of_some (d.stable zs h), ih, items_of_some h, rest_of_some h, List.cons_append]

theorem rest_append (d : Decoder α β) (xs zs : List α) :
    d.rest (xs ++ zs) = d.rest (d.rest xs ++ zs) := by
  induction xs using d.item_induction with
  | hnone xs h => rw [rest_of_none h]
  | hsome xs b ys h ih =>
      rw [rest_of_some (d.stable zs h), ih, rest_of_some h]

/-- The items that each chunk completes. -/
def arrivals (d : Decoder α β) (left : List α) : List (List α) → List (List β)
  | [] => []
  | chunk :: chunks =>
      d.items (left ++ chunk) :: d.arrivals (d.rest (left ++ chunk)) chunks

end Decoder

/-! ## Rounds that end at a stop -/

variable {stop : β → Bool}

/-- The items a round reads: up to and with the first that stops it. -/
def throughStop (stop : β → Bool) : List β → List β
  | [] => []
  | b :: bs => if stop b then [b] else b :: throughStop stop bs

/-- The items it leaves. -/
def afterStop (stop : β → Bool) : List β → List β
  | [] => []
  | b :: bs => if stop b then bs else afterStop stop bs

theorem throughStop_append_afterStop (stop : β → Bool) (bs : List β) :
    throughStop stop bs ++ afterStop stop bs = bs := by
  induction bs with
  | nil => rfl
  | cons b bs ih =>
      by_cases hb : stop b
      · simp [throughStop, afterStop, hb]
      · simp [throughStop, afterStop, hb, ih]

theorem afterStop_of_forall (h : ∀ b ∈ bs, stop b = false) : afterStop stop bs = [] := by
  induction bs with
  | nil => rfl
  | cons b bs ih =>
      have hb := h b List.mem_cons_self
      simp [afterStop, hb, ih (fun c hc => h c (List.mem_cons_of_mem b hc))]

/-- Where the first part has a stop, the second is left as it is; else only the second counts. -/
theorem afterStop_append (stop : β → Bool) (bs cs : List β) :
    afterStop stop (bs ++ cs) =
      if bs.any stop then afterStop stop bs ++ cs else afterStop stop cs := by
  induction bs with
  | nil => rfl
  | cons b bs ih =>
      by_cases hb : stop b
      · simp [afterStop, hb]
      · simp [afterStop, hb, ih]

/-- The rounds it takes to read items that are all there. -/
def rounds (stop : β → Bool) : List β → Nat
  | [] => 0
  | b :: bs => if stop b then rounds stop bs + 1 else max 1 (rounds stop bs)

theorem rounds_eq_zero_iff : rounds stop bs = 0 ↔ bs = [] := by
  cases bs with
  | nil => simp [rounds]
  | cons b bs =>
      by_cases hb : stop b
      · simp [rounds, hb]
      · simp [rounds, hb]

theorem rounds_le_append (stop : β → Bool) (bs cs : List β) :
    rounds stop cs ≤ rounds stop (bs ++ cs) := by
  induction bs with
  | nil => exact Nat.le_refl _
  | cons b bs ih =>
      rw [List.cons_append, rounds]
      split
      · omega
      · omega

/-- One round at most is saved by leaving out what the first round reads. -/
theorem rounds_append_le (stop : β → Bool) (bs cs : List β) :
    rounds stop (bs ++ cs) ≤ rounds stop (afterStop stop bs ++ cs) + 1 := by
  induction bs with
  | nil => exact Nat.le_succ _
  | cons b bs ih =>
      rw [List.cons_append, rounds, afterStop]
      split
      · exact Nat.le_refl _
      · omega

theorem rounds_append_of_any (h : bs.any stop = true) (cs : List β) :
    rounds stop (bs ++ cs) = rounds stop (afterStop stop bs ++ cs) + 1 := by
  induction bs with
  | nil => simp at h
  | cons b bs ih =>
      rw [List.cons_append, rounds, afterStop]
      by_cases hb : stop b
      · simp [hb]
      · have hrest : bs.any stop = true := by simpa [hb] using h
        have hone := ih hrest
        simp only [hb, if_false, Bool.false_eq_true]
        omega

/-- What is left to read after one round for each list of items. -/
def backlog (stop : β → Bool) : List β → List (List β) → List β
  | bs, [] => bs
  | bs, as :: rest => backlog stop (afterStop stop (bs ++ as)) rest

/-- After the first stop of every round, what is left and what comes later takes no more rounds than
follow. -/
def EnoughRounds (stop : β → Bool) : List (List β) → Prop
  | [] => True
  | as :: rest =>
      rounds stop (afterStop stop as ++ rest.flatten) ≤ rest.length ∧ EnoughRounds stop rest

instance (stop : β → Bool) (as : List (List β)) : Decidable (EnoughRounds stop as) := by
  induction as with
  | nil => exact isTrue trivial
  | cons as rest ih => exact inferInstanceAs (Decidable (_ ∧ _))

theorem rounds_flatten_le {as : List (List β)} (h : EnoughRounds stop as) :
    rounds stop as.flatten ≤ as.length := by
  cases as with
  | nil => exact Nat.le_refl _
  | cons as rest =>
      have hone := rounds_append_le stop as rest.flatten
      have hrest := h.1
      rw [List.flatten_cons, List.length_cons]
      omega

/-- A reader that starts with a backlog ends without one exactly if there are enough rounds for all
of it, and enough after each stop. -/
theorem backlog_eq_nil_iff {as : List (List β)} :
    backlog stop bs as = [] ↔
      rounds stop (bs ++ as.flatten) ≤ as.length ∧ EnoughRounds stop as := by
  induction as generalizing bs with
  | nil =>
      have hzero : rounds stop bs = 0 ↔ bs = [] := rounds_eq_zero_iff
      simp [backlog, EnoughRounds, hzero]
  | cons as rest ih =>
      rw [backlog, ih, EnoughRounds, List.flatten_cons, List.length_cons, ← List.append_assoc]
      have hle := rounds_append_le stop (bs ++ as) rest.flatten
      by_cases hany : (bs ++ as).any stop
      · -- what the new items leave is the end of what all of them leave
        have heq := rounds_append_of_any hany rest.flatten
        have hsuffix : rounds stop (afterStop stop as ++ rest.flatten) ≤
            rounds stop (afterStop stop (bs ++ as) ++ rest.flatten) := by
          rw [afterStop_append]
          split
          · have hcut := throughStop_append_afterStop stop as
            calc rounds stop (afterStop stop as ++ rest.flatten)
                ≤ rounds stop ((afterStop stop bs ++ throughStop stop as) ++
                    (afterStop stop as ++ rest.flatten)) := rounds_le_append _ _ _
              _ = rounds stop (afterStop stop bs ++ as ++ rest.flatten) := by
                  rw [← List.append_assoc, List.append_assoc (afterStop stop bs), hcut]
          · exact Nat.le_refl _
        constructor
        · rintro ⟨hrounds, henough⟩
          exact ⟨by omega, by omega, henough⟩
        · rintro ⟨hrounds, -, henough⟩
          exact ⟨by omega, henough⟩
      · have hnone : ∀ b ∈ bs ++ as, stop b = false := by
          intro b hb
          cases hstop : stop b with
          | false => rfl
          | true => exact absurd (List.any_eq_true.mpr ⟨b, hb, hstop⟩) hany
        have hall : afterStop stop (bs ++ as) = [] := afterStop_of_forall hnone
        have hnew : afterStop stop as = [] :=
          afterStop_of_forall (fun b hb => hnone b (List.mem_append_right bs hb))
        rw [hall, hnew]
        rw [hall] at hle
        constructor
        · rintro ⟨hrounds, henough⟩
          exact ⟨Nat.le_trans hle (Nat.succ_le_succ hrounds), hrounds, henough⟩
        · rintro ⟨-, hrounds, henough⟩
          exact ⟨hrounds, henough⟩

/-- A reader that starts with nothing. -/
theorem backlog_nil_eq_nil_iff {as : List (List β)} :
    backlog stop [] as = [] ↔ EnoughRounds stop as := by
  rw [backlog_eq_nil_iff, List.nil_append]
  exact ⟨fun h => h.2, fun h => ⟨rounds_flatten_le h, h⟩⟩

end Lib
end Ksmppd
