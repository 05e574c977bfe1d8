import Skirmish.Order.Canonical
import Skirmish.Position

/-!
# Commands, casts and intents

A command comes in loosely typed: most of its fields may be missing, and its target is told apart
by a number. A cast has every field filled in; an intent is a cast stamped with a tick. Intents
are put in the canonical order of all their fields. There a target number that means nothing
stands beside the target it would name, so such intents may tie.
-/

namespace Skirmish

/-- What a command is about. -/
inductive CommandKind where
  | move
  | castSkill
  | interact
  deriving DecidableEq, Inhabited

/-- What a cast is aimed at. -/
inductive Aim where
  | onSelf
  | entity
  | point
  /-- A target number without a meaning. -/
  | unrecognized (code : UInt8)
  deriving DecidableEq, Inhabited

namespace Aim

/-- The aim that a target number stands for. -/
def ofCode (code : UInt8) : Aim :=
  if code = 0 then onSelf else if code = 1 then entity else if code = 2 then point
  else unrecognized code

/-- The target number of an aim. -/
def code : Aim → UInt8
  | onSelf => 0
  | entity => 1
  | point => 2
  | unrecognized code => code

@[simp] theorem code_ofCode (code : UInt8) : (ofCode code).code = code := by
  unfold ofCode
  split
  · simp_all [Aim.code]
  · split
    · simp_all [Aim.code]
    · split <;> simp_all [Aim.code]

end Aim

/-- A command as it arrives. -/
structure Command where
  actor : EntityId
  kind : CommandKind
  skill : Option SkillId
  aimCode : UInt8
  target : Option EntityId
  point : Option Position
  deriving DecidableEq, Inhabited

namespace Command

/-- A cast at an entity. -/
def atEntity (actor : EntityId) (skill : SkillId) (target : EntityId) : Command :=
  ⟨actor, .castSkill, some skill, Aim.entity.code, some target, none⟩

/-- A cast at a point of the ground. -/
def atPoint (actor : EntityId) (skill : SkillId) (point : Position) : Command :=
  ⟨actor, .castSkill, some skill, Aim.point.code, none, some point⟩

/-- A cast on the caster. -/
def onSelf (actor : EntityId) (skill : SkillId) : Command :=
  ⟨actor, .castSkill, some skill, Aim.onSelf.code, none, none⟩

end Command

/-- A request to cast a skill. An absent target is the absent identifier, an absent point the zero
position. -/
structure Cast where
  caster : EntityId
  skill : SkillId
  aim : Aim
  target : EntityId
  point : Position
  deriving DecidableEq, Inhabited

/-- A cast stamped with the tick it was made on. -/
structure Intent where
  tick : Tick
  caster : EntityId
  skill : SkillId
  aim : Aim
  target : EntityId
  point : Position
  deriving DecidableEq, Inhabited

namespace Cast

/-- The cast that a command asks for; a command of another kind, or without a skill, asks for
none. -/
def ofCommand? (c : Command) : Option Cast :=
  if c.kind = .castSkill then
    c.skill.map fun skill =>
      ⟨c.actor, skill, .ofCode c.aimCode, c.target.getD .none, c.point.getD .zero⟩
  else none

/-- Do the target fields agree with the aim? -/
def isCoherent (c : Cast) : Bool :=
  match c.aim with
  | .onSelf => c.target.isNone && c.point.isZero
  | .entity => !c.target.isNone && c.point.isZero
  | .point => c.target.isNone
  | .unrecognized _ => false

/-- The cast with its tick. -/
def stamp (c : Cast) (tick : Tick) : Intent := ⟨tick, c.caster, c.skill, c.aim, c.target, c.point⟩

end Cast

namespace Intent

/-- The fields in the order in which they are compared. -/
def key (i : Intent) : List Int :=
  [i.tick.index, i.caster.index, i.skill.index, i.aim.code.toNat, i.target.index,
    i.point.x.units, i.point.y.units]

instance : Canonical Intent := ⟨key, tick⟩

/-- The entity that the intent is aimed at. -/
def targetEntity? (i : Intent) : Option EntityId := if i.aim = .entity then some i.target else none

/-- Intents of one key differ at most in an aim that shares its number with another. -/
theorem key_eq_iff {a b : Intent} :
    a.key = b.key ↔ a.aim.code = b.aim.code ∧ { a with aim := b.aim } = b := by
  cases a with
  | mk tick caster skill aim target point =>
    cases b with
    | mk tick' caster' skill' aim' target' point' =>
      cases point
      cases point'
      simp only [key, Int.natCast_inj, List.cons.injEq, Tick.index_inj, EntityId.index_inj,
        SkillId.index_inj, UInt8.toNat_inj, Fixed.units_inj, Intent.mk.injEq, Position.mk.injEq,
        and_true, true_and]
      constructor
      · rintro ⟨h₁, h₂, h₃, h₄, h₅, h₆, h₇⟩
        exact ⟨h₄, h₁, h₂, h₃, h₅, h₆, h₇⟩
      · rintro ⟨h₄, h₁, h₂, h₃, h₅, h₆, h₇⟩
        exact ⟨h₁, h₂, h₃, h₄, h₅, h₆, h₇⟩

end Intent

end Skirmish
