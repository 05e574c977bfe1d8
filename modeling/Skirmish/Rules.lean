import Skirmish.Skill

/-!
# Rules

The rules of a simulation: which skills there are, and how many events are kept. A budget of zero
sets no bound.
-/

namespace Skirmish

/-- How many events are accepted, retained and shown. -/
structure Budgets where
  /-- Events accepted from one tick. -/
  perTick : UInt64
  /-- Events kept as history. -/
  retained : UInt64
  /-- Events shown in a snapshot. -/
  shown : UInt64
  /-- Log entries kept. -/
  logged : UInt64
  deriving DecidableEq, Inhabited

namespace Budgets

def default : Budgets := ⟨64, 512, 32, 512⟩

end Budgets

/-- The rules of a simulation. -/
structure Rules where
  skills : Skillbook
  budgets : Budgets
  deriving DecidableEq, Inhabited

namespace Rules

/-- Once so many log entries came out of a tick, its remaining intents are dropped. -/
def logCap : Nat := 256

/-- Threat does not grow beyond this. -/
def maxThreat : Int := 1000000000

def default : Rules := ⟨.empty, .default⟩

/-- Rules with the given skills and the usual budgets. -/
def ofSkills (skills : Skillbook) : Rules := ⟨skills, .default⟩

def withBudgets (r : Rules) (budgets : Budgets) : Rules := { r with budgets }

def skill? (r : Rules) (id : SkillId) : Option Skill := r.skills.skill? id

/-- Why the rules cannot be used. -/
def fault? (r : Rules) : Option RulesFault := r.skills.fault?

end Rules

end Skirmish
