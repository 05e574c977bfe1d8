import Skirmish.Ident
import Skirmish.Clamp
import Skirmish.Order.Keyed
import Skirmish.Violation

/-!
# Cooldowns

The skills an entity has to wait for, each with the ticks that remain. A skill without an entry is
ready, so an entry that has run out is dropped and never kept at zero.
-/

namespace Skirmish

/-- A skill that has to wait. -/
structure Cooldown where
  skill : SkillId
  remaining : UInt32
  deriving DecidableEq, Inhabited

instance : Keyed Cooldown := ⟨fun c => c.skill.index⟩

/-- The cooldowns of one entity, in the order of skills. -/
structure Cooldowns where
  entries : List Cooldown
  deriving DecidableEq, Inhabited

namespace Cooldown

/-- The entry one tick later, unless it runs out. -/
def tick? (c : Cooldown) : Option Cooldown :=
  if c.remaining.toNat ≤ 1 then none
  else some { c with remaining := UInt32.ofNat (c.remaining.toNat - 1) }

/-- An entry that has run out should have been dropped. -/
def violation? (c : Cooldown) : Option Violation :=
  if c.remaining.toNat = 0 then some (.cooldownExpired c.skill c.remaining.toNat) else none

end Cooldown

namespace Cooldowns

def empty : Cooldowns := ⟨[]⟩

def isEmpty (c : Cooldowns) : Bool := c.entries.isEmpty

/-- The ticks that remain for a skill; none if it is ready. -/
def remaining? (c : Cooldowns) (skill : SkillId) : Option UInt32 :=
  (Keyed.find? skill.index c.entries).map (·.remaining)

/-- Can the skill be used? -/
def isReady (c : Cooldowns) (skill : SkillId) : Bool :=
  match c.remaining? skill with
  | some remaining => remaining.toNat = 0
  | none => true

/-- Makes a skill wait for some ticks, as many as an entry can hold; none makes it ready. -/
def start (c : Cooldowns) (skill : SkillId) (ticks : Int64) : Cooldowns :=
  if ticks.toInt ≤ 0 then ⟨Keyed.drop skill.index c.entries⟩
  else ⟨Keyed.put ⟨skill, Clamp.toUInt32 ticks.toInt⟩ c.entries⟩

/-- One tick later. -/
def tick (c : Cooldowns) : Cooldowns := ⟨c.entries.filterMap Cooldown.tick?⟩

/-- The first broken invariant: a skill not above the one before it, or else an entry that has run
out. -/
def violation? (c : Cooldowns) : Option Violation :=
  Keyed.check (fun index e => .cooldownOrder index e.skill) Cooldown.violation? c.entries

theorem violation?_eq_none_iff {c : Cooldowns} :
    c.violation? = none ↔ Keyed.Ascending c.entries ∧ ∀ e ∈ c.entries, e.remaining.toNat ≠ 0 := by
  rw [violation?, Keyed.check_eq_none_iff]
  simp [Cooldown.violation?]

end Cooldowns

end Skirmish
