import Skirmish.Content.Draft
import Skirmish.Content.Toml

/-!
# Configurations

A configuration gives budgets and drafts of skills, or names the sheet that has the skills. It is
written in TOML; what it does not give is as in the default rules, and what is not known outside of
the budgets is refused. Budgets and drafts may also be lists of values without their names.
-/

namespace Skirmish

/-- A configuration as its author writes it. -/
structure ConfigDraft where
  budgets : Budgets
  skills : List SkillDraft
  /-- The sheet that has the skills. -/
  sheet : Option String

/-- A list that stands for a record has the values of the fields in their order. In a configuration it
may have more of them, which do not count. -/
def Value.named (names : List String) : Value → Value
  | .list vs => .record (names.zip vs)
  | v => v

namespace ConfigDraft

/-- A draft of a skill with its fields by name, and no more than two numbers in its fraction. -/
def namedSkill (v : Value) : Value :=
  match v.named SkillDraft.fieldNames with
  | .record f => .record (f.map fun
    | ("range_fraction", .list vs) => ("range_fraction", .list (vs.take 2))
    | field => field)
  | v => v

/-- The fields of a configuration with names for what is in them. -/
def namedFields (f : Fields) : Fields :=
  f.map fun
    | ("budgets", v) => ("budgets", v.named Budgets.fieldNames)
    | ("skills", .list vs) => ("skills", .list (vs.map namedSkill))
    | field => field

/-- The fields that a configuration may have. -/
def fieldNames : List String := ["budgets", "skills", "skills_file"]

instance : SavedRecord ConfigDraft where
  names := fieldNames
  values c := [save c.budgets, save c.skills, saveOptional c.sheet]
  least := 0
  ofFields? f := do
    guard (f.all fun (name, _) => fieldNames.contains name)
    let budgets ← f.needOr? "budgets" Budgets.default
    let skills ← f.needOr? "skills" []
    let sheet ← f.optional? "skills_file"
    return ⟨budgets, skills, sheet⟩

/-- The configuration of some fields, of which those that are not known have to be readable too. -/
def ofReadable? (f : Fields) : Option ConfigDraft :=
  if Value.fieldsReadable f then ofFields? f else none

/-- The configuration of a text. -/
def read (text : String) : Except ContentError ConfigDraft :=
  match (Toml.read? text).bind fun f => ofReadable? (namedFields f) with
  | some c => .ok c
  | none => .error .badConfig

end ConfigDraft

end Skirmish
