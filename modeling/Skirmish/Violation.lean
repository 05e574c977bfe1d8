import Skirmish.Ident

/-!
# What the checks report

A check of a collection reports the first invariant it finds broken; a check of the rules reports
why they cannot be used. Each finding has a code, a severity and a message.
-/

namespace Skirmish

/-- How bad a finding is. -/
inductive Severity where
  /-- Input that is refused as it stands. -/
  | validation
  /-- A broken invariant: whatever built the value is at fault. -/
  | internal
  /-- State that must not enter a digest. -/
  | fatal
  deriving DecidableEq

namespace Severity

def name : Severity → String
  | validation => "validation"
  | internal => "internal"
  | fatal => "fatal"

/-- Does a finding of this severity point at the program and not at its input? -/
def isInternal : Severity → Bool
  | validation => false
  | internal | fatal => true

end Severity

/-- An invariant of a collection that does not hold, with where it fails. -/
inductive Violation where
  | cooldownOrder (index : Nat) (skill : SkillId)
  | cooldownExpired (skill : SkillId) (remaining : Int)
  | threatOrder (index : Nat) (source : EntityId)
  | threatRange (source : EntityId) (threat ceiling : Int)
  | eventOrder (index : Nat) (tick : Tick)
  | entityOrder (index : Nat) (entity : EntityId)
  | entityHealth (entity : EntityId) (health maxHealth : Int)
  deriving DecidableEq

namespace Violation

def severity : Violation → Severity
  | entityHealth .. => .fatal
  | _ => .internal

def code : Violation → String
  | cooldownOrder .. => "COOLDOWN_ORDER"
  | cooldownExpired .. => "COOLDOWN_EXPIRED"
  | threatOrder .. => "THREAT_ORDER"
  | threatRange .. => "THREAT_OUT_OF_RANGE"
  | eventOrder .. => "EVENT_ORDER"
  | entityOrder .. => "ENTITY_ORDER"
  | entityHealth .. => "ENTITY_HEALTH"

def message : Violation → String
  | cooldownOrder index skill =>
    s!"cooldown entries not strictly ascending at index {index} (skill {skill.text})"
  | cooldownExpired skill remaining =>
    s!"cooldown for skill {skill.text} stored with non-positive remaining ticks {remaining}"
  | threatOrder index source =>
    s!"threat entries not strictly ascending at index {index} (source {source.text})"
  | threatRange source threat ceiling =>
    s!"threat {threat} from source {source.text} outside [0, {ceiling}]"
  | eventOrder index tick =>
    s!"event sequence not in canonical order at index {index} (tick {tick.text})"
  | entityOrder index entity =>
    s!"zone entities not strictly ascending at index {index} (entity {entity.text})"
  | entityHealth entity health maxHealth =>
    s!"entity {entity.text} health {health} outside [0, {maxHealth}] or aliveness mismatch"

end Violation

/-- Why a set of rules cannot be used. -/
inductive RulesFault where
  | duplicateSkill (skill : SkillId)
  | negativeRange (skill : SkillId)
  deriving DecidableEq

namespace RulesFault

def severity (_ : RulesFault) : Severity := .validation

def code : RulesFault → String
  | duplicateSkill _ => "DUPLICATE_SKILL"
  | negativeRange _ => "NEGATIVE_RANGE"

def message : RulesFault → String
  | duplicateSkill skill => s!"skill {skill.text} defined more than once"
  | negativeRange skill => s!"skill {skill.text} has negative range"

end RulesFault

end Skirmish
