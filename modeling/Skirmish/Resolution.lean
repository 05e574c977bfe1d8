import Skirmish.Cast
import Skirmish.Event
import Skirmish.Rules
import Skirmish.Zone

/-!
# Resolution

The intents of a tick are carried out in canonical order, each on the zone that the one before it
left. An intent either hits its target, which leaves one or two log entries, or does nothing. Once
enough entries are out, the remaining intents are dropped unseen.
-/

namespace Skirmish

/-- What a hit does: the target afterwards, and the log entries it leaves. -/
structure Hit where
  target : Entity
  entries : List LogEntry
  deriving DecidableEq

/-- What came out of the intents of a tick. -/
structure Resolution where
  zone : Zone
  /-- The log entries, in the order in which they came out. -/
  entries : List LogEntry
  /-- The intents that were looked at, in order. -/
  examined : List Intent
  /-- How many of those did nothing. -/
  skipped : Nat
  /-- How many intents were not looked at. -/
  dropped : Nat
  deriving DecidableEq

namespace Intent

/-- The entry for the damage done to a target. -/
def damageEntry (i : Intent) (tick : Tick) (skill : Skill) (target : Entity) : LogEntry :=
  ⟨tick, i.caster, i.target, i.skill, .damage, skill.damage, target.lossFrom skill.damage⟩

/-- The hit of a skill on a target: a damage entry, and the same as a kill if that kills. -/
def hit (i : Intent) (tick : Tick) (skill : Skill) (target : Entity) : Hit :=
  let entry := i.damageEntry tick skill target
  ⟨target.hurt skill.damage,
    if target.killedBy skill.damage then [entry, { entry with kind := .kill }] else [entry]⟩

/-- What the intent does to the zone: nothing unless it is aimed at a living entity of the zone,
with a known skill, by a caster who is in the zone, dead or alive. -/
def hit? (rules : Rules) (tick : Tick) (z : Zone) (i : Intent) : Option Hit :=
  match i.targetEntity?, rules.skill? i.skill, z.entity? i.caster, z.entity? i.target with
  | some _, some skill, some _, some target =>
    if target.alive then some (i.hit tick skill target) else none
  | _, _, _, _ => none

end Intent

namespace Resolution

/-- Carries out intents in the order given, on top of `out` entries that came out before. -/
def run (rules : Rules) (tick : Tick) (z : Zone) (out : Nat) : List Intent → Resolution
  | [] => ⟨z, [], [], 0, 0⟩
  | i :: is =>
    if Rules.logCap ≤ out then ⟨z, [], [], 0, is.length + 1⟩
    else match i.hit? rules tick z with
      | none =>
        let rest := run rules tick z out is
        { rest with examined := i :: rest.examined, skipped := rest.skipped + 1 }
      | some hit =>
        let rest := run rules tick (z.withEntity hit.target) (out + hit.entries.length) is
        { rest with examined := i :: rest.examined, entries := hit.entries ++ rest.entries }

end Resolution

/-- Carries out the intents of a tick. -/
def Zone.resolve (rules : Rules) (tick : Tick) (z : Zone) (intents : List Intent) : Resolution :=
  Resolution.run rules tick z 0 (Canonical.arrange intents)

namespace Resolution

/-- Every intent is looked at or dropped, and those looked at come first. -/
theorem examined_run (rules : Rules) (tick : Tick) (z : Zone) (out : Nat) (is : List Intent) :
    ∃ rest, is = (run rules tick z out is).examined ++ rest ∧
      rest.length = (run rules tick z out is).dropped := by
  fun_induction run rules tick z out is with
  | case1 => exact ⟨[], by simp⟩
  | case2 z out i is full => exact ⟨i :: is, by simp⟩
  | case3 z out i is room miss rest ih =>
    obtain ⟨tail, hsplit, hlen⟩ := ih
    exact ⟨tail, congrArg (i :: ·) hsplit, hlen⟩
  | case4 z out i is room hit found rest ih =>
    obtain ⟨tail, hsplit, hlen⟩ := ih
    exact ⟨tail, congrArg (i :: ·) hsplit, hlen⟩

@[simp] theorem id_run (rules : Rules) (tick : Tick) (z : Zone) (out : Nat) (is : List Intent) :
    (run rules tick z out is).zone.id = z.id := by
  fun_induction run rules tick z out is with
  | case1 => rfl
  | case2 => rfl
  | case3 z out i is room miss rest ih => exact ih
  | case4 z out i is room hit found rest ih => exact ih

@[simp] theorem terrain_run (rules : Rules) (tick : Tick) (z : Zone) (out : Nat)
    (is : List Intent) : (run rules tick z out is).zone.terrain = z.terrain := by
  fun_induction run rules tick z out is with
  | case1 => rfl
  | case2 => rfl
  | case3 z out i is room miss rest ih => exact ih
  | case4 z out i is room hit found rest ih => exact ih

end Resolution

end Skirmish
