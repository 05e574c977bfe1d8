import Skirmish.Ident
import Skirmish.Fixed
import Skirmish.Order.Keyed
import Skirmish.Violation

/-!
# Skills

A skill does a fixed amount of damage within a range. A book keeps skills by identifier; it may
hold one identifier twice, or a negative range, until it is checked.
-/

namespace Skirmish

/-- What a skill does. -/
structure Skill where
  id : SkillId
  baseDamage : Int32
  range : Fixed
  /-- Ticks before the same caster may use the skill again; none if not positive. -/
  cooldown : Int64
  /-- Threat for each point of damage, in percent. -/
  threatPercent : UInt32
  needsSight : Bool
  deriving DecidableEq, Inhabited

instance : Keyed Skill := ⟨fun s => s.id.index⟩

namespace Skill

def defaultThreatPercent : UInt32 := 100

/-- A skill without a cooldown that needs no sight. -/
def basic (id : SkillId) (baseDamage : Int32) (range : Fixed) : Skill :=
  ⟨id, baseDamage, range, 0, defaultThreatPercent, false⟩

def withCooldown (s : Skill) (ticks : Int64) : Skill := { s with cooldown := ticks }

def withThreatPercent (s : Skill) (percent : UInt32) : Skill := { s with threatPercent := percent }

def withSight (s : Skill) (needed : Bool) : Skill := { s with needsSight := needed }

/-- The damage of one cast; a negative base does none. -/
def damage (s : Skill) : Int32 := Clamp.toInt32 (max 0 s.baseDamage.toInt)

/-- Does the skill have to wait after a cast? -/
def hasCooldown (s : Skill) : Bool := 0 < s.cooldown.toInt

theorem toInt_damage (s : Skill) : s.damage.toInt = max 0 s.baseDamage.toInt := by
  have := Int32.toInt_lt s.baseDamage
  rw [damage, Clamp.toInt_toInt32]
  apply Clamp.between_of_mem <;> omega

end Skill

/-- Skills in the order of their identifiers. -/
structure Skillbook where
  skills : List Skill
  deriving DecidableEq, Inhabited

namespace Skillbook

/-- The book of the given skills. -/
def ofList (skills : List Skill) : Skillbook := ⟨Keyed.sort skills⟩

def empty : Skillbook := ⟨[]⟩

/-- The skill of an identifier. -/
def skill? (b : Skillbook) (id : SkillId) : Option Skill := Keyed.find? id.index b.skills

def size (b : Skillbook) : Nat := b.skills.length

def isEmpty (b : Skillbook) : Bool := b.skills.isEmpty

/-- Why the book cannot be used: the first identifier that follows itself, or else the first skill
with a negative range. -/
def fault? (b : Skillbook) : Option RulesFault :=
  match Order.firstBreak? (fun s t : Skill => s.id ≠ t.id) b.skills with
  | some (_, s) => some (.duplicateSkill s.id)
  | none => (b.skills.find? fun s => s.range.units < 0).map fun s => .negativeRange s.id

theorem id_of_skill? {b : Skillbook} {id : SkillId} {s : Skill} (h : b.skill? id = some s) :
    s.id = id :=
  SkillId.index_inj.1 (Keyed.key_of_find? h)

@[simp] theorem ofList_skills (b : Skillbook) (h : Keyed.Sorted b.skills) :
    ofList b.skills = b := by
  cases b
  simp [ofList, Keyed.sort_of_sorted h]

end Skillbook

end Skirmish
