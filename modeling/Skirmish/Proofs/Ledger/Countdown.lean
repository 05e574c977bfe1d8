import Mathlib.Tactic.Lemma
import Skirmish.Proofs.Ledger.Remaining

/-!
# Cooldowns count down

Whatever happens to cooldowns, each skill waits for the ticks that it was last started with, as many
as an entry can hold, less the ticks that have passed since. This is all that they keep: histories
after which every skill has the same ticks to wait leave the same cooldowns.
-/

namespace Skirmish.Cooldowns

/-- What happens to cooldowns: a skill is started, or a tick passes. -/
inductive Change where
  | start (skill : SkillId) (ticks : Int64)
  | tick
  deriving DecidableEq

/-- The cooldowns after a change. -/
def change (c : Cooldowns) : Change → Cooldowns
  | .start skill ticks => c.start skill ticks
  | .tick => c.tick

/-- The cooldowns that a history leaves, which has its latest change in front. -/
def replay : List Change → Cooldowns
  | [] => empty
  | latest :: earlier => (replay earlier).change latest

/-- The ticks that the skill was last started with, and how many have passed since. -/
def lastStart? (skill : SkillId) : List Change → Option (Int64 × Nat)
  | [] => none
  | .start other ticks :: earlier =>
    if other = skill then some (ticks, 0) else lastStart? skill earlier
  | .tick :: earlier => (lastStart? skill earlier).map fun s => (s.1, s.2 + 1)

/-- What is left of some ticks, as many as an entry can hold, after `n` of them: nothing once all
have passed, or if the ticks were not positive. -/
def left? (ticks : Int64) (n : Nat) : Option Nat :=
  let wait := min ticks.toInt.toNat 0xffffffff
  if n < wait then some (wait - n) else none

/-! ### One change -/

lemma left?_of_nonpos {ticks : Int64} (h : ticks.toInt ≤ 0) : left? ticks 0 = none := by
  simp only [left?, Int.toNat_of_nonpos h]
  rfl

lemma left?_zero {ticks : Int64} (h : 0 < ticks.toInt) :
    left? ticks 0 = some (Clamp.toUInt32 ticks.toInt).toNat := by
  have clamped := Clamp.toNat_toUInt32 ticks.toInt
  simp only [Clamp.between] at clamped
  rw [left?, if_pos (by omega)]
  congr 1
  omega

lemma left?_succ (ticks : Int64) (n : Nat) :
    left? ticks (n + 1) = (left? ticks n).bind oneLess? := by
  simp only [left?]
  generalize min ticks.toInt.toNat 0xffffffff = wait
  split
  · rw [if_pos (by omega), Option.bind_some, oneLess?, if_neg (by omega), Nat.sub_sub]
  · split
    · rw [Option.bind_some, oneLess?, if_pos (by omega)]
    · rfl

lemma Sound.change {c : Cooldowns} (h : c.Sound) (x : Change) : (c.change x).Sound := by
  cases x with
  | start skill ticks => exact h.start skill ticks
  | tick => exact h.tick

/-! ### Whole histories -/

lemma sound_replay (history : List Change) : (replay history).Sound := by
  induction history with
  | nil => exact sound_empty
  | cons latest earlier ih => exact ih.change latest

lemma remaining?_replay (history : List Change) (skill : SkillId) :
    ((replay history).remaining? skill).map (·.toNat) =
      (lastStart? skill history).bind fun s => left? s.1 s.2 := by
  induction history with
  | nil => rfl
  | cons latest earlier ih =>
    have sound := sound_replay earlier
    cases latest with
    | start other ticks =>
      simp only [replay, change, lastStart?]
      by_cases positive : 0 < ticks.toInt
      · rw [remaining?_start _ positive]
        split
        · rw [Option.map_some, Option.bind_some, left?_zero positive]
        · exact ih
      · have none := Int.not_lt.1 positive
        rw [remaining?_start_of_nonpos sound none]
        split
        · rw [Option.map_none, Option.bind_some, left?_of_nonpos none]
        · exact ih
    | tick =>
      rw [replay, change, remaining?_tick sound, ih, lastStart?]
      cases lastStart? skill earlier with
      | none => rfl
      | some s => exact (left?_succ s.1 s.2).symm

/-- Cooldowns are a countdown for each skill. After any history they pass their check, a skill waits
for what is left of its last start, and is ready exactly when it waits for nothing. Histories that
agree on what each skill waits for leave the same cooldowns. -/
theorem replay_counts_down (history : List Change) :
    let c := replay history
    Keyed.Ascending c.entries ∧ (∀ e ∈ c.entries, 0 < e.remaining.toNat) ∧ c.violation? = none ∧
    (∀ skill, (c.remaining? skill).map (·.toNat) =
      (lastStart? skill history).bind fun s => left? s.1 s.2) ∧
    (∀ skill, c.isReady skill = true ↔ c.remaining? skill = none) ∧
    ∀ history', (∀ skill, (replay history').remaining? skill = c.remaining? skill) →
      replay history' = c := by
  intro c
  have sound : c.Sound := sound_replay history
  refine ⟨sound.ascending, ?_, sound_iff.2 sound, remaining?_replay history,
    fun skill => isReady_iff sound, ?_⟩
  · intro e he
    exact Nat.pos_of_ne_zero (sound.running e he)
  · intro history' same
    exact ext_remaining? (sound_replay history') sound same

/-- A skill that was started twice, one that was cleared, and one that has run out leave what a
single start leaves. -/
theorem replay_counts_down_restart :
    let history : List Change :=
      [.tick, .start ⟨4⟩ (-1), .tick, .start ⟨2⟩ Int64.maxValue, .start ⟨4⟩ 9, .tick,
        .start ⟨7⟩ 3, .start ⟨2⟩ 1]
    let c := replay history
    (c.remaining? ⟨2⟩).map (·.toNat) = some 0xfffffffd ∧ c.isReady ⟨4⟩ = true ∧
      c = replay [.start ⟨2⟩ 0xfffffffd] := by
  intro history c
  obtain ⟨-, -, -, left, ready, same⟩ := replay_counts_down history
  refine ⟨left ⟨2⟩, (ready ⟨4⟩).2 rfl, (same _ ?_).symm⟩
  intro skill
  rfl

end Skirmish.Cooldowns
