import Skirmish.Cast
import Skirmish.Refusal
import Skirmish.Rules
import Skirmish.Terrain.Sight
import Skirmish.Zone

/-!
# Intake

Which commands become intents. The conditions are looked at in a fixed order and the first that
fails gives the reason of the refusal: a cast with a coherent target, a known skill, a living
caster, a target in range and, where the skill needs it, in sight.

A condition may fail to have an answer: a distance may overflow, and the terrain may lack a tile on
the line of sight. `Command.intake` answers all the same, and `Command.breakdown?` tells which of the
two came up first, if any did.
-/

namespace Skirmish

/-- Why there is no answer: an operation overflows, or a tile is missing. -/
inductive Breakdown where
  | overflow (operation : Overflow)
  | tile (missing : MissingTile)
  deriving DecidableEq

def Breakdown.message : Breakdown → String
  | overflow operation => operation.message
  | tile missing => missing.message

namespace Cast

/-- The point that the cast is aimed at; a cast on the caster has none. -/
def aimPoint? (z : Zone) (c : Cast) : Except Refusal (Option Position) :=
  match c.aim with
  | .onSelf => .ok none
  | .entity =>
    match z.entity? c.target with
    | some target => .ok (some target.position)
    | none => .error .targetMissing
  | .point => .ok (some c.point)
  | .unrecognized _ => .error .incoherentTarget

/-- Everything but sight: the skill of a cast that may go ahead, and the line that has to be clear
for it, if any. -/
def reach (rules : Rules) (z : Zone) (c : Cast) : Except Refusal (Skill × Option Line) :=
  match rules.skill? c.skill with
  | none => .error .unknownSkill
  | some skill =>
    match z.entity? c.caster with
    | none => .error .casterMissing
    | some caster =>
      if caster.alive = false then .error .casterDead
      else match c.aimPoint? z with
        | .error refusal => .error refusal
        | .ok none => .ok (skill, none)
        | .ok (some aim) =>
          if caster.position.within aim skill.range = false then .error .outOfRange
          else if skill.needsSight then .ok (skill, some (caster.position.lineTo aim))
          else .ok (skill, none)

/-- The skill of a cast that may go ahead. -/
def check (rules : Rules) (z : Zone) (c : Cast) : Except Refusal Skill :=
  match c.reach rules z with
  | .error refusal => .error refusal
  | .ok (skill, none) => .ok skill
  | .ok (skill, some line) =>
    if line.isClear z.terrain.blocks then .ok skill else .error .noLineOfSight

/-- The operation that overflows when the distance from the caster to the aim is compared with the
range of the skill. -/
def overflow? (rules : Rules) (z : Zone) (c : Cast) : Option Overflow :=
  match rules.skill? c.skill, z.entity? c.caster, c.aimPoint? z with
  | some skill, some caster, .ok (some aim) =>
    if caster.alive then
      match caster.position.withinChecked aim skill.range with
      | .error operation => some operation
      | .ok _ => none
    else none
  | _, _, _ => none

/-- What is missing from the terrain when the cast is checked. -/
def missingTile? (rules : Rules) (z : Zone) (c : Cast) : Option MissingTile :=
  match c.reach rules z with
  | .ok (_, some line) => z.terrain.missingAlong? line
  | _ => none

/-- What breaks down first when the cast is checked: the distance is looked at before the sight. -/
def breakdown? (rules : Rules) (z : Zone) (c : Cast) : Option Breakdown :=
  match c.overflow? rules z with
  | some operation => some (.overflow operation)
  | none => (c.missingTile? rules z).map .tile

theorem breakdown?_eq_overflow_iff {rules : Rules} {z : Zone} {c : Cast} {operation : Overflow} :
    c.breakdown? rules z = some (.overflow operation) ↔ c.overflow? rules z = some operation := by
  rw [breakdown?]
  cases c.overflow? rules z <;> simp

end Cast

namespace Command

/-- The intent that a command becomes. -/
def intake (rules : Rules) (z : Zone) (tick : Tick) (c : Command) : Except Refusal Intent :=
  match Cast.ofCommand? c with
  | none => .error .notACast
  | some cast =>
    if cast.isCoherent = false then .error .incoherentTarget
    else match cast.check rules z with
      | .error refusal => .error refusal
      | .ok _ => .ok (cast.stamp tick)

/-- What is missing from the terrain when the command is taken in. -/
def missingTile? (rules : Rules) (z : Zone) (c : Command) : Option MissingTile :=
  match Cast.ofCommand? c with
  | none => none
  | some cast => if cast.isCoherent then cast.missingTile? rules z else none

/-- What breaks down when the command is taken in. -/
def breakdown? (rules : Rules) (z : Zone) (c : Command) : Option Breakdown :=
  match Cast.ofCommand? c with
  | none => none
  | some cast => if cast.isCoherent then cast.breakdown? rules z else none

/-- The intents of the commands that are taken in. -/
def accepted (rules : Rules) (z : Zone) (tick : Tick) (cs : List Command) : List Intent :=
  cs.filterMap fun c => match c.intake rules z tick with
    | .ok intent => some intent
    | .error _ => none

/-- The reasons for which the other commands are refused. -/
def refused (rules : Rules) (z : Zone) (tick : Tick) (cs : List Command) : List Refusal :=
  cs.filterMap fun c => match c.intake rules z tick with
    | .ok _ => none
    | .error refusal => some refusal

/-- Every command is taken in or refused. -/
theorem length_accepted_add_refused (rules : Rules) (z : Zone) (tick : Tick) (cs : List Command) :
    (accepted rules z tick cs).length + (refused rules z tick cs).length = cs.length := by
  induction cs with
  | nil => rfl
  | cons c cs ih =>
    simp only [accepted, refused] at ih
    simp only [accepted, refused, List.filterMap_cons]
    cases c.intake rules z tick <;> simp only [List.length_cons] <;> omega

end Command

end Skirmish
