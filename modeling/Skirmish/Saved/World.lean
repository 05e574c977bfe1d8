import Skirmish.Saved.Value
import Skirmish.Zone

/-!
# The world as saved data

Identifiers are plain numbers and positions records of two coordinates. The entities of a zone are
read in the order in which they stand in the data.
-/

namespace Skirmish

/-! ### Identifiers and places -/

instance : Saved EntityId := ⟨fun e => save e.val, fun v => (load? v).map EntityId.mk⟩

instance : Saved SkillId := ⟨fun s => save s.val, fun v => (load? v).map SkillId.mk⟩

instance : Saved ZoneId := ⟨fun z => save z.val, fun v => (load? v).map ZoneId.mk⟩

instance : Saved Tick := ⟨fun t => save t.val, fun v => (load? v).map Tick.mk⟩

instance : Saved Fixed := ⟨fun a => save a.raw, fun v => (load? v).map Fixed.mk⟩

instance : LawfulSaved EntityId :=
  .ofWrapper EntityId.mk EntityId.val (fun _ => rfl) (fun _ => rfl) fun _ => rfl

instance : LawfulSaved SkillId :=
  .ofWrapper SkillId.mk SkillId.val (fun _ => rfl) (fun _ => rfl) fun _ => rfl

instance : LawfulSaved ZoneId :=
  .ofWrapper ZoneId.mk ZoneId.val (fun _ => rfl) (fun _ => rfl) fun _ => rfl

instance : LawfulSaved Tick :=
  .ofWrapper Tick.mk Tick.val (fun _ => rfl) (fun _ => rfl) fun _ => rfl

instance : LawfulSaved Fixed :=
  .ofWrapper Fixed.mk Fixed.raw (fun _ => rfl) (fun _ => rfl) fun _ => rfl

instance : SavedRecord Position where
  names := ["x", "y"]
  values p := [save p.x, save p.y]
  ofFields? f := do
    let x ← f.need? "x"
    let y ← f.need? "y"
    return ⟨x, y⟩

instance : LawfulSaved Position := .ofRecord fun p => by simp

/-! ### Zones -/

instance : SavedRecord Terrain where
  names := ["width", "height", "solid"]
  values g := [save g.width, save g.height, save g.solid.toList]
  ofFields? f := do
    let width ← f.need? "width"
    let height ← f.need? "height"
    let solid : List Bool ← f.need? "solid"
    return ⟨width, height, solid.toArray⟩

instance : LawfulSaved Terrain := .ofRecord fun g => by simp

instance : SavedRecord Entity where
  names := ["id", "health", "max_health", "alive", "position"]
  values e := [save e.id, save e.health, save e.maxHealth, save e.alive, save e.position]
  ofFields? f := do
    let id ← f.need? "id"
    let health ← f.need? "health"
    let maxHealth ← f.need? "max_health"
    let alive ← f.need? "alive"
    let position ← f.need? "position"
    return ⟨id, health, maxHealth, alive, position⟩

instance : LawfulSaved Entity := .ofRecord fun e => by simp

namespace Zone

/-- The fields of a zone. -/
def fieldNames : List String := ["id", "entities", "tiles"]

/-- A zone as a record. -/
def toRecord (z : Zone) : Value :=
  .record (fieldNames.zip [save z.id, save z.entities, save z.terrain])

/-- The zone of a record, with its entities as they stand there. -/
def ofRecord? (v : Value) : Option Zone := do
  let f ← v.fieldsOf? fieldNames 3
  let id ← f.need? "id"
  let entities ← f.need? "entities"
  let terrain ← f.need? "tiles"
  return ⟨id, entities, terrain⟩

@[simp] theorem ofRecord?_toRecord (z : Zone) : ofRecord? (toRecord z) = some z := by
  rw [ofRecord?, toRecord, Value.fieldsOf?_record (by decide) rfl]
  simp [fieldNames]

end Zone

end Skirmish
