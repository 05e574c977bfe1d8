/-!
# Refusals

The reasons for which a command does not become an intent, in the order in which they are looked
for, and a count for each of them.
-/

namespace Skirmish

/-- Why a command is refused. -/
inductive Refusal where
  | notACast
  | incoherentTarget
  | unknownSkill
  | casterMissing
  | casterDead
  | targetMissing
  | outOfRange
  | noLineOfSight
  | onCooldown
  deriving DecidableEq, Inhabited

namespace Refusal

/-- All reasons, the one looked for first in front. -/
def all : List Refusal :=
  [notACast, incoherentTarget, unknownSkill, casterMissing, casterDead, targetMissing, outOfRange,
    noLineOfSight, onCooldown]

/-- The place of a reason among all of them. -/
def rank : Refusal → Fin 9
  | notACast => 0
  | incoherentTarget => 1
  | unknownSkill => 2
  | casterMissing => 3
  | casterDead => 4
  | targetMissing => 5
  | outOfRange => 6
  | noLineOfSight => 7
  | onCooldown => 8

def name : Refusal → String
  | notACast => "NotACast"
  | incoherentTarget => "IncoherentTarget"
  | unknownSkill => "UnknownSkill"
  | casterMissing => "CasterMissing"
  | casterDead => "CasterDead"
  | targetMissing => "TargetMissing"
  | outOfRange => "OutOfRange"
  | noLineOfSight => "NoLineOfSight"
  | onCooldown => "OnCooldown"

theorem rank_inj {a b : Refusal} : a.rank = b.rank ↔ a = b := by
  cases a <;> cases b <;> decide

end Refusal

/-- How often each reason was given. -/
structure RefusalCounts where
  counts : Vector Nat 9
  deriving DecidableEq

namespace RefusalCounts

def zero : RefusalCounts := ⟨Vector.replicate 9 0⟩

instance : Inhabited RefusalCounts := ⟨zero⟩

/-- How often a reason was given. -/
def count (c : RefusalCounts) (r : Refusal) : Nat := c.counts[r.rank]

/-- Counts a reason once more. -/
def add (c : RefusalCounts) (r : Refusal) : RefusalCounts :=
  ⟨c.counts.set r.rank (c.count r + 1) r.rank.isLt⟩

/-- Counts every reason of a list. -/
def ofList (rs : List Refusal) : RefusalCounts := rs.foldl add zero

def total (c : RefusalCounts) : Nat := Refusal.all.foldr (fun r n => c.count r + n) 0

/-- The reasons that were given at all, with their counts. -/
def nonzero (c : RefusalCounts) : List (Refusal × Nat) :=
  (Refusal.all.map fun r => (r, c.count r)).filter fun p => p.2 ≠ 0

@[simp] theorem count_zero (r : Refusal) : zero.count r = 0 := by
  cases r <;> rfl

theorem count_add (c : RefusalCounts) (r s : Refusal) :
    (c.add r).count s = c.count s + if r = s then 1 else 0 := by
  by_cases h : r = s
  · subst h
    simp [count, add]
  · have ranks : r.rank.val ≠ s.rank.val := fun hr => h (Refusal.rank_inj.1 (Fin.ext hr))
    simp [count, add, h, ranks]

/-- A list of reasons gives each of them as often as it holds it. -/
theorem count_ofList (rs : List Refusal) (r : Refusal) : (ofList rs).count r = rs.count r := by
  suffices h : ∀ c : RefusalCounts, (rs.foldl add c).count r = c.count r + rs.count r by
    simpa [ofList] using h zero
  induction rs with
  | nil => simp
  | cons s rs ih =>
    intro c
    rw [List.foldl_cons, ih, count_add, List.count_cons]
    by_cases h : s = r
    · simp only [h, if_true, beq_self_eq_true]
      omega
    · simp [h]

end RefusalCounts

end Skirmish
