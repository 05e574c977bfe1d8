import Skirmish.Cast
import Skirmish.Refusal
import Skirmish.Saved.World

/-!
# Commands, casts and intents as saved data

Kinds are written as their names. An aim without a meaning is a record around its number, so that
it is never taken for the aim that has this number.
-/

namespace Skirmish

namespace CommandKind

def name : CommandKind → String
  | move => "Move"
  | castSkill => "CastSkill"
  | interact => "Interact"

end CommandKind

instance : Saved CommandKind where
  save k := .text k.name
  load?
    | .text "Move" => some .move
    | .text "CastSkill" => some .castSkill
    | .text "Interact" => some .interact
    | _ => none

instance : LawfulSaved CommandKind := ⟨fun k => by cases k <;> rfl⟩

instance : Saved Aim where
  save
    | .onSelf => .text "SelfOnly"
    | .entity => .text "Entity"
    | .point => .text "Point"
    | .unrecognized code => .record [("Unrecognized", save code)]
  load?
    | .text "SelfOnly" => some .onSelf
    | .text "Entity" => some .entity
    | .text "Point" => some .point
    | .record [("Unrecognized", code)] => (load? code).map .unrecognized
    | _ => none

instance : LawfulSaved Aim where
  load?_save
    | .onSelf | .entity | .point => rfl
    | .unrecognized code => congrArg (Option.map Aim.unrecognized) (LawfulSaved.load?_save code)

instance : Saved Refusal where
  save r := .text r.name
  load?
    | .text s => Refusal.all.find? (·.name = s)
    | _ => none

instance : LawfulSaved Refusal := ⟨fun r => by cases r <;> rfl⟩

instance : SavedRecord Command where
  names := ["actor", "kind", "skill", "target_kind", "target_entity", "target_position"]
  values c :=
    [save c.actor, save c.kind, saveOptional c.skill, save c.aimCode, saveOptional c.target,
      saveOptional c.point]
  ofFields? f := do
    let actor ← f.need? "actor"
    let kind ← f.need? "kind"
    let skill ← f.optional? "skill"
    let aimCode ← f.need? "target_kind"
    let target ← f.optional? "target_entity"
    let point ← f.optional? "target_position"
    return ⟨actor, kind, skill, aimCode, target, point⟩

instance : SavedRecord Cast where
  names := ["caster", "skill", "target_kind", "target_entity", "target_position"]
  values c := [save c.caster, save c.skill, save c.aim, save c.target, save c.point]
  ofFields? f := do
    let caster ← f.need? "caster"
    let skill ← f.need? "skill"
    let aim ← f.need? "target_kind"
    let target ← f.need? "target_entity"
    let point ← f.need? "target_position"
    return ⟨caster, skill, aim, target, point⟩

instance : LawfulSaved Cast := .ofRecord fun c => by simp

instance : SavedRecord Intent where
  names := ["tick", "caster", "skill", "target_kind", "target_entity", "target_position"]
  values i := [save i.tick, save i.caster, save i.skill, save i.aim, save i.target, save i.point]
  ofFields? f := do
    let tick ← f.need? "tick"
    let caster ← f.need? "caster"
    let skill ← f.need? "skill"
    let aim ← f.need? "target_kind"
    let target ← f.need? "target_entity"
    let point ← f.need? "target_position"
    return ⟨tick, caster, skill, aim, target, point⟩

instance : LawfulSaved Intent := .ofRecord fun i => by simp

end Skirmish
