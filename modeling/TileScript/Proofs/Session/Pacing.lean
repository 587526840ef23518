import TileScript.Object.Clock
import TileScript.Session.Pacing

namespace TileScript

namespace StepPlan

structure Tally where
  time : Nat
  ticks : Nat

variable {limit step maxTicks time ticks : Nat} {tally next last : Tally}

/-- One round: a tick is counted and its time taken out, while there is time for it and the frame
may run it. The counter stays at `limit` once it has come there. -/
def Tally.round? (limit step maxTicks : Nat) (tally : Tally) : Option Tally :=
  if step ≤ tally.time ∧ tally.ticks < maxTicks then
    some ⟨tally.time - step, min (tally.ticks + 1) limit⟩
  else none

inductive Tally.EndsAt (limit step maxTicks : Nat) : Tally → Tally → Prop
  | done {tally : Tally} (stopped : tally.round? limit step maxTicks = none) :
    EndsAt limit step maxTicks tally tally
  | round {tally next last : Tally} (taken : tally.round? limit step maxTicks = some next)
    (onward : EndsAt limit step maxTicks next last) : EndsAt limit step maxTicks tally last

structure Tally.Accounts (step maxTicks time : Nat) (tally : Tally) : Prop where
  whole : time = tally.ticks * step + tally.time
  within : tally.ticks ≤ maxTicks

namespace Tally

theorem round?_eq_some (taken : tally.round? limit step maxTicks = some next) :
    step ≤ tally.time ∧ tally.ticks < maxTicks ∧
      next = ⟨tally.time - step, min (tally.ticks + 1) limit⟩ := by
  unfold round? at taken
  split at taken
  · rename_i more
    exact ⟨more.1, more.2, (Option.some.inj taken).symm⟩
  · cases taken

theorem round?_eq_none (stopped : tally.round? limit step maxTicks = none) :
    tally.time < step ∨ maxTicks ≤ tally.ticks := by
  unfold round? at stopped
  split at stopped
  · cases stopped
  · omega

theorem Accounts.round (accounts : tally.Accounts step maxTicks time) (fits : maxTicks ≤ limit)
    (taken : tally.round? limit step maxTicks = some next) : next.Accounts step maxTicks time := by
  obtain ⟨enough, fewer, rfl⟩ := round?_eq_some taken
  have counted : min (tally.ticks + 1) limit = tally.ticks + 1 := by omega
  constructor
  · dsimp only
    rw [counted, Nat.succ_mul, accounts.whole]
    omega
  · rw [counted]
    exact fewer

theorem Accounts.atEnd (accounts : tally.Accounts step maxTicks time) (fits : maxTicks ≤ limit)
    (ends : EndsAt limit step maxTicks tally last) :
    last.Accounts step maxTicks time ∧ (last.time < step ∨ maxTicks ≤ last.ticks) := by
  induction ends with
  | done stopped => exact ⟨accounts, round?_eq_none stopped⟩
  | round taken _ ih => exact ih (accounts.round fits taken)

/-- Where no further round is due, the ticks are those that the time divides into, as far as the
frame may run them. -/
theorem Accounts.ticks_eq (accounts : tally.Accounts step maxTicks time) (positive : 0 < step)
    (stopped : tally.time < step ∨ maxTicks ≤ tally.ticks) :
    tally.ticks = min maxTicks (time / step) := by
  have quotient : time / step = tally.ticks + tally.time / step := by
    rw [accounts.whole, Nat.mul_comm, Nat.mul_add_div positive]
  have within := accounts.within
  have reached : tally.ticks ≤ time / step := by
    rw [quotient]
    exact Nat.le_add_right _ _
  rcases stopped with short | full
  · rw [Nat.div_eq_of_lt short] at quotient
    omega
  · omega

end Tally

/-- What is taken out at once is what the rounds take out one by one. -/
theorem take_endsAt (step left time ticks : Nat) (fits : ticks + left ≤ limit) :
    Tally.EndsAt limit step (ticks + left) ⟨time, ticks⟩
      ⟨(take step left time).2, ticks + (take step left time).1⟩ := by
  -- What is counted and what may still be counted add up to the same cap in every round.
  induction left generalizing time ticks with
  | zero =>
    apply Tally.EndsAt.done
    simp [Tally.round?]
  | succ left ih =>
    unfold take
    split
    · rename_i enough
      have counted : min (ticks + 1) limit = ticks + 1 := by omega
      have taken : Tally.round? limit step (ticks + (left + 1)) ⟨time, ticks⟩ =
          some ⟨time - step, ticks + 1⟩ := by
        simp [Tally.round?, enough, counted]
      have onward := ih (time - step) (ticks + 1) (by omega)
      rw [Nat.add_assoc, Nat.add_assoc, Nat.add_comm 1, Nat.add_comm 1] at onward
      exact .round taken onward
    · rename_i short
      apply Tally.EndsAt.done
      simp [Tally.round?, short]

theorem plan_cases (time step maxTicks : Nat) :
    ∃ ticks rest, take step maxTicks time = (ticks, rest) ∧
      (rest < step ∧ plan time step maxTicks = ⟨ticks, rest, 0⟩ ∨
        step ≤ rest ∧ plan time step maxTicks = ⟨ticks, 0, rest⟩) := by
  refine ⟨_, _, rfl, ?_⟩
  unfold plan
  by_cases long : step ≤ (take step maxTicks time).2
  · exact .inr ⟨long, if_pos long⟩
  · exact .inl ⟨Nat.lt_of_not_le long, if_neg long⟩

/--
Planning a frame comes to an end, whatever the limit of the counter, if the frame may not run more
ticks than it counts. The ticks are those the time divides into, or as many as the frame may run;
with what is kept and what is dropped they make up the time; less than a tick is kept; and time is
dropped only by a frame that runs all it may, which then keeps none.
-/
theorem plan_conserves_time (time maxTicks : Nat) (positive : 0 < step) :
    let planned := plan time step maxTicks
    (∀ limit, maxTicks ≤ limit →
      Tally.EndsAt limit step maxTicks ⟨time, 0⟩
        ⟨planned.remaining + planned.dropped, planned.ticks⟩) ∧
    planned.ticks = min maxTicks (time / step) ∧
    time = planned.ticks * step + planned.remaining + planned.dropped ∧
    planned.remaining < step ∧
    (planned.dropped ≠ 0 → planned.ticks = maxTicks ∧ planned.remaining = 0) := by
  intro planned
  obtain ⟨ticks, rest, taken, shared⟩ := plan_cases time step maxTicks
  have ends (limit : Nat) (fits : maxTicks ≤ limit) :
      Tally.EndsAt limit step maxTicks ⟨time, 0⟩ ⟨rest, ticks⟩ := by
    have rounds := take_endsAt step maxTicks time 0 (Nat.zero_add maxTicks ▸ fits)
    rwa [taken, Nat.zero_add, Nat.zero_add] at rounds
  have start : Tally.Accounts step maxTicks time ⟨time, 0⟩ :=
    ⟨by rw [Nat.zero_mul, Nat.zero_add], Nat.zero_le _⟩
  -- Any limit that lets the counter reach the cap will do; the least of them is the cap.
  obtain ⟨accounts, stopped⟩ := start.atEnd (Nat.le_refl _) (ends maxTicks (Nat.le_refl _))
  have count := accounts.ticks_eq positive stopped
  have whole := accounts.whole
  have within := accounts.within
  rcases shared with ⟨short, drawn⟩ | ⟨long, drawn⟩
  · have same : planned = ⟨ticks, rest, 0⟩ := drawn
    rw [same]
    exact ⟨ends, count, whole, short, fun dropped => absurd rfl dropped⟩
  · have same : planned = ⟨ticks, 0, rest⟩ := drawn
    have full : ticks = maxTicks := by
      dsimp only at stopped within
      omega
    rw [same, Nat.zero_add]
    exact ⟨ends, count, whole, positive, fun _ => ⟨full, rfl⟩⟩

/-- A frame of 120 ms that may run three ticks of 16 ms gives up the time of the others. -/
theorem slow_frame_gives_up_time :
    0 < 16000000 ∧ plan 120000000 16000000 3 = ⟨3, 0, 72000000⟩ ∧
      Tally.EndsAt counterLimit 16000000 3 ⟨120000000, 0⟩ ⟨72000000, 3⟩ ∧
      120000000 = 3 * 16000000 + 0 + 72000000 := by
  have positive : 0 < 16000000 := by decide
  have drawn : plan 120000000 16000000 3 = ⟨3, 0, 72000000⟩ := by decide
  obtain ⟨ends, _, whole, _⟩ := plan_conserves_time 120000000 3 positive
  rw [drawn] at ends whole
  exact ⟨positive, drawn, ends counterLimit (by decide), whole⟩

end StepPlan

end TileScript
