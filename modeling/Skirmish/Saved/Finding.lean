import Skirmish.Saved.World

/-!
# Findings as saved data

A finding is a record around its details, under the name of its kind.
-/

namespace Skirmish

/-- An integer of sixty-four bits among the details of a finding. -/
def Fields.amount? (name : String) (f : Fields) : Option Int :=
  (f.need? name : Option Int64).map Int64.toInt

/-- An integer of thirty-two bits among the details of a finding. -/
def Fields.health? (name : String) (f : Fields) : Option Int :=
  (f.need? name : Option Int32).map Int32.toInt

namespace Violation

/-- The name under which a violation is saved, and its details. -/
def details : Violation → String × Fields
  | cooldownOrder index skill => ("CooldownOrder", [("index", save index), ("skill", save skill)])
  | cooldownExpired skill remaining =>
    ("CooldownExpired", [("skill", save skill), ("remaining", .int remaining)])
  | threatOrder index source =>
    ("ThreatOrder", [("index", save index), ("source_id", save source)])
  | threatRange source threat ceiling =>
    ("ThreatOutOfRange",
      [("source_id", save source), ("threat", .int threat), ("ceiling", .int ceiling)])
  | eventOrder index tick => ("EventOrder", [("index", save index), ("tick", save tick)])
  | entityOrder index entity => ("EntityOrder", [("index", save index), ("entity", save entity)])
  | entityHealth entity health maxHealth =>
    ("EntityHealth",
      [("entity", save entity), ("health", .int health), ("max_health", .int maxHealth)])

/-- The violation of a name, from its details. -/
def ofDetails? (name : String) (f : Fields) : Option Violation :=
  match name with
  | "CooldownOrder" => do return cooldownOrder (← f.need? "index") (← f.need? "skill")
  | "CooldownExpired" => do return cooldownExpired (← f.need? "skill") (← f.amount? "remaining")
  | "ThreatOrder" => do return threatOrder (← f.need? "index") (← f.need? "source_id")
  | "ThreatOutOfRange" => do
    return threatRange (← f.need? "source_id") (← f.amount? "threat") (← f.amount? "ceiling")
  | "EventOrder" => do return eventOrder (← f.need? "index") (← f.need? "tick")
  | "EntityOrder" => do return entityOrder (← f.need? "index") (← f.need? "entity")
  | "EntityHealth" => do
    return entityHealth (← f.need? "entity") (← f.health? "health") (← f.health? "max_health")
  | _ => none

end Violation

instance : Saved Violation where
  save x := .record [(x.details.1, .record x.details.2)]
  load?
    | .record [(name, .record f)] => Violation.ofDetails? name f
    | _ => none

instance : Saved RulesFault where
  save
    | .duplicateSkill skill => .record [("DuplicateSkill", save skill)]
    | .negativeRange skill => .record [("NegativeRange", .record [("skill", save skill)])]
  load?
    | .record [("DuplicateSkill", skill)] => (load? skill).map .duplicateSkill
    | .record [("NegativeRange", .record f)] => (Fields.need? "skill" f).map .negativeRange
    | _ => none

end Skirmish
