import Skirmish.Saved.Rules

/-!
# Drafts of skills

Authors write a range in whole tiles, with a fraction of a tile added to it if they like. A draft
becomes a skill unless the denominator of its fraction is zero; drafts together become a book,
unless that cannot be used. A draft with a field that is not known is refused.
-/

namespace Skirmish

/-- Why content is refused. -/
inductive ContentError where
  /-- There is no file at the path. -/
  | unreadable (path : String)
  /-- The text is no sheet of skills. -/
  | badSheet
  /-- The text is no configuration. -/
  | badConfig
  | zeroDenominator (skill : UInt32)
  | unusableSkills (fault : RulesFault)
  /-- The sheet at the path is refused. -/
  | inSheet (path : String) (cause : ContentError)
  /-- The configuration at the path has skills of its own and names a sheet. -/
  | skillsTwice (path file : String)
  | unusableConfig (path : String) (fault : RulesFault)
  deriving DecidableEq

namespace ContentError

def message : ContentError → String
  | unreadable path => s!"Failed to read file {path}: No such file or directory (os error 2)"
  | badSheet => "Failed to parse skill RON:"
  | badConfig => "Failed to parse config TOML:"
  | zeroDenominator skill => s!"Skill {skill.toNat} has a zero range fraction denominator"
  | unusableSkills fault => s!"Invalid skill table: {fault.message}"
  | inSheet path cause => s!"Failed to load skills at {path}: {cause.message}"
  | skillsTwice path file => s!"Config {path} lists skills inline and in {file}"
  | unusableConfig path fault => s!"Invalid config {path}: {fault.message}"

end ContentError

/-- A part of a tile. -/
structure Fraction where
  numerator : Int32
  denominator : Int32
  deriving DecidableEq

/-- A skill as its author writes it. -/
structure SkillDraft where
  id : UInt32
  damage : Int32
  /-- The range in whole tiles. -/
  range : Int32
  /-- What is added to the range. -/
  fraction : Option Fraction
  cooldown : Int64
  threatPercent : UInt32
  needsSight : Bool
  deriving DecidableEq

instance : Saved Fraction where
  save r := .list [save r.numerator, save r.denominator]
  load?
    | .list [n, d] => do return ⟨← load? n, ← load? d⟩
    | _ => none

namespace SkillDraft

/-- The fields that a draft may have. -/
def fieldNames : List String :=
  ["id", "damage", "range", "range_fraction", "cooldown", "threat_percent", "line_of_sight"]

instance : SavedRecord SkillDraft where
  names := fieldNames
  values d :=
    [save d.id, save d.damage, save d.range, saveOptional d.fraction, save d.cooldown,
      save d.threatPercent, save d.needsSight]
  least := 3
  ofFields? f := do
    guard (f.all fun (name, _) => fieldNames.contains name)
    let id ← f.need? "id"
    let damage ← f.need? "damage"
    let range ← f.need? "range"
    let fraction ← f.optional? "range_fraction"
    let cooldown ← f.needOr? "cooldown" 0
    let threatPercent ← f.needOr? "threat_percent" Skill.defaultThreatPercent
    let needsSight ← f.needOr? "line_of_sight" false
    return ⟨id, damage, range, fraction, cooldown, threatPercent, needsSight⟩

/-- The range of the draft; a fraction over zero has none. -/
def fullRange? (d : SkillDraft) : Option Fixed :=
  match d.fraction with
  | none => some (.ofWhole d.range)
  | some r => (Fixed.ofRatio? r.numerator r.denominator).map (Fixed.ofWhole d.range + ·)

/-- The skill of a draft. -/
def skill (d : SkillDraft) : Except ContentError Skill :=
  match d.fullRange? with
  | none => .error (.zeroDenominator d.id)
  | some range =>
    .ok ⟨⟨d.id⟩, d.damage, range, d.cooldown, d.threatPercent, d.needsSight⟩

/-- The skills of drafts, unless one of them has none. -/
def skills : List SkillDraft → Except ContentError (List Skill)
  | [] => .ok []
  | d :: ds => do
    let s ← d.skill
    let rest ← skills ds
    return s :: rest

/-- The book of drafts, unless it cannot be used. -/
def book (ds : List SkillDraft) : Except ContentError Skillbook := do
  let book := Skillbook.ofList (← skills ds)
  match book.fault? with
  | some fault => .error (.unusableSkills fault)
  | none => .ok book

theorem fullRange?_eq_none_iff {d : SkillDraft} :
    d.fullRange? = none ↔ ∃ r, d.fraction = some r ∧ r.denominator.toInt = 0 := by
  cases h : d.fraction <;> simp [fullRange?, h]

end SkillDraft

end Skirmish
