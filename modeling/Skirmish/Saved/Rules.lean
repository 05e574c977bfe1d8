import Skirmish.Rules
import Skirmish.Saved.World

/-!
# Rules as saved data

Most of the rules have a value to fall back on. Skills are read in the order in which they stand in
the data.
-/

namespace Skirmish

instance : SavedRecord Skill where
  names :=
    ["id", "base_damage", "range", "cooldown_ticks", "threat_percent", "requires_line_of_sight"]
  values s :=
    [save s.id, save s.baseDamage, save s.range, save s.cooldown, save s.threatPercent,
      save s.needsSight]
  least := 3
  ofFields? f := do
    let id ← f.need? "id"
    let baseDamage ← f.need? "base_damage"
    let range ← f.need? "range"
    let cooldown ← f.needOr? "cooldown_ticks" 0
    let threatPercent ← f.needOr? "threat_percent" Skill.defaultThreatPercent
    let needsSight ← f.needOr? "requires_line_of_sight" false
    return ⟨id, baseDamage, range, cooldown, threatPercent, needsSight⟩

instance : LawfulSaved Skill :=
  .ofRecord fun s => by simp

/-- The fields of budgets. -/
def Budgets.fieldNames : List String :=
  ["max_events_per_tick", "max_retained_events", "max_snapshot_events", "max_combat_log_events"]

instance : SavedRecord Budgets where
  names := Budgets.fieldNames
  values b := [save b.perTick, save b.retained, save b.shown, save b.logged]
  least := 0
  ofFields? f := do
    let perTick ← f.needOr? "max_events_per_tick" Budgets.default.perTick
    let retained ← f.needOr? "max_retained_events" Budgets.default.retained
    let shown ← f.needOr? "max_snapshot_events" Budgets.default.shown
    let logged ← f.needOr? "max_combat_log_events" Budgets.default.logged
    return ⟨perTick, retained, shown, logged⟩

instance : LawfulSaved Budgets :=
  .ofRecord fun b => by simp [Budgets.fieldNames]

namespace Rules

/-- The fields of rules. -/
def fieldNames : List String := ["skills", "budgets"]

/-- Rules as a record, with their book saved in some way. -/
def toRecord (saveBook : Skillbook → Value) (r : Rules) : Value :=
  .record (fieldNames.zip [saveBook r.skills, save r.budgets])

/-- The rules of a record, with their book read in some way. -/
def ofRecord? (loadBook? : Value → Option Skillbook) (dflt : Skillbook) (v : Value) :
    Option Rules := do
  let f ← v.fieldsOf? fieldNames 0
  let skills ← f.readOr? loadBook? "skills" dflt
  let budgets ← f.needOr? "budgets" Budgets.default
  return ⟨skills, budgets⟩

theorem ofRecord?_toRecord {saveBook : Skillbook → Value} {loadBook? : Value → Option Skillbook}
    {r : Rules} (h : loadBook? (saveBook r.skills) = some r.skills) (dflt : Skillbook) :
    ofRecord? loadBook? dflt (toRecord saveBook r) = some r := by
  rw [ofRecord?, toRecord, Value.fieldsOf?_record (by decide) rfl]
  simp [fieldNames, h]

end Rules

end Skirmish
