import Skirmish.Proofs.Order.Sorting
import Skirmish.Proofs.Order.Updates
import Skirmish.Zone

/-!
# Zones are finite maps

A zone made of entities in any order and then updated any number of times has under each identifier
the entity that it was last given for it. Its identifiers ascend all along: an entity stands behind
as many others as have smaller ones, where a search by halving finds it, and an update makes room for
a new entity behind as many.
-/

namespace Skirmish.Zone

/-- The zone after some updates, the latest in front. -/
def update (z : Zone) : List Entity → Zone
  | [] => z
  | latest :: earlier => (z.update earlier).withEntity latest

variable {z : Zone} {e : Entity}

/-! ### Looking up -/

lemma entity?_eq (z : Zone) (id : EntityId) : z.entity? id = z.entities.find? (·.id = id) := by
  simp only [entity?, Keyed.find?, Keyed.key, EntityId.index_inj]

lemma entity?_ofEntities (zone : ZoneId) (given : List Entity) (terrain : Terrain)
    (id : EntityId) : (ofEntities zone given terrain).entity? id = given.find? (·.id = id) := by
  rw [entity?, ofEntities, Keyed.find?_sort]
  exact entity?_eq ⟨zone, given, terrain⟩ id

lemma entity?_update (z : Zone) (history : List Entity) (id : EntityId) :
    (z.update history).entity? id = (history.find? (·.id = id)).or (z.entity? id) := by
  induction history with
  | nil => rfl
  | cons latest earlier ih =>
    rw [update]
    by_cases same : latest.id = id
    · subst same
      simp
    · rw [entity?_withEntity_of_ne same, ih, List.find?_cons_of_neg (by simpa using same)]

/-! ### Positions -/

lemma position?_eq (h : Keyed.Ascending z.entities) (id : EntityId) :
    z.position? id = if (z.entity? id).isSome then
      some (z.entities.countP fun e => e.id.index < id.index) else none := by
  rw [position?, h.sorted.search_eq, entity?, apply_ite Keyed.Place.taken?]
  rfl

lemma entity?_eq_position? (h : Keyed.Ascending z.entities) (id : EntityId) :
    z.entity? id = (z.position? id).bind fun i => z.entities[i]? :=
  h.sorted.find?_eq_search id.index

/-! ### One update -/

/-- An update takes the position of the entity with its identifier. -/
lemma entities_withEntity_of_present (h : Keyed.Ascending z.entities) {i : Nat}
    (here : z.position? e.id = some i) : (z.withEntity e).entities = z.entities.set i e := by
  have taken : Keyed.search (Keyed.key e) z.entities = .taken i :=
    Keyed.Place.taken?_eq_some_iff.1 here
  rw [withEntity, h.sorted.put_eq_search, taken]

/-- An update for a new identifier makes room behind all smaller ones. -/
lemma entities_withEntity_of_absent (h : Keyed.Ascending z.entities)
    (absent : z.entity? e.id = none) : (z.withEntity e).entities =
      z.entities.insertIdx (z.entities.countP fun x => x.id.index < e.id.index) e := by
  have free : Keyed.find? (Keyed.key e) z.entities = none := absent
  rw [withEntity, h.sorted.put_eq_search, h.sorted.search_eq, free]
  rfl

lemma withEntity_comm (h : Keyed.Ascending z.entities) {e e' : Entity} (other : e.id ≠ e'.id) :
    (z.withEntity e).withEntity e' = (z.withEntity e').withEntity e := by
  have keys : Keyed.key e ≠ Keyed.key e' := mt EntityId.index_inj.1 other
  simp only [withEntity, Keyed.put_comm h keys]

/-! ### Updates -/

lemma ascending_ofEntities (zone : ZoneId) {given : List Entity}
    (unique : (given.map (·.id)).Nodup) (terrain : Terrain) :
    Keyed.Ascending (ofEntities zone given terrain).entities := by
  refine Keyed.ascending_sort_iff.2 ?_
  have keys : given.map Keyed.key = (given.map (·.id)).map EntityId.index := by
    rw [List.map_map]
    rfl
  rw [keys]
  exact unique.map fun _ _ => EntityId.index_inj.1

lemma ascending_update (h : Keyed.Ascending z.entities) (history : List Entity) :
    Keyed.Ascending (z.update history).entities := by
  induction history with
  | nil => exact h
  | cons latest earlier ih => exact Keyed.ascending_put ih latest

/-- Zones are maps from identifiers to entities. A look-up finds what was given last for the
identifier, and nothing for one that was never given. Identifiers ascend, and an entity stands behind
as many others as have smaller ones. An update replaces an entity that is there in its position, and
puts a new one into the position that belongs to it. Updates for two identifiers can change places. -/
theorem update_maps (zone : ZoneId) (terrain : Terrain) {given : List Entity}
    (unique : (given.map (·.id)).Nodup) (history : List Entity) :
    let z := (ofEntities zone given terrain).update history
    Keyed.Ascending z.entities ∧
    (∀ id, z.entity? id = (history ++ given).find? (·.id = id)) ∧
    (∀ id, z.entity? id = none ↔ ∀ e ∈ history ++ given, e.id ≠ id) ∧
    (∀ id, z.position? id = if (z.entity? id).isSome then
      some (z.entities.countP fun e => e.id.index < id.index) else none) ∧
    (∀ id, z.entity? id = (z.position? id).bind fun i => z.entities[i]?) ∧
    (∀ e i, z.position? e.id = some i → (z.withEntity e).entities = z.entities.set i e) ∧
    (∀ e, z.entity? e.id = none → (z.withEntity e).entities =
      z.entities.insertIdx (z.entities.countP fun x => x.id.index < e.id.index) e) ∧
    ∀ e e', e.id ≠ e'.id → (z.withEntity e).withEntity e' = (z.withEntity e').withEntity e := by
  intro z
  have ascending : Keyed.Ascending z.entities :=
    ascending_update (ascending_ofEntities zone unique terrain) history
  have latest (id : EntityId) : z.entity? id = (history ++ given).find? (·.id = id) := by
    rw [entity?_update, entity?_ofEntities, List.find?_append]
  refine ⟨ascending, latest, ?_, position?_eq ascending, entity?_eq_position? ascending,
    fun e i => entities_withEntity_of_present ascending,
    fun e => entities_withEntity_of_absent ascending, fun e e' => withEntity_comm ascending⟩
  intro id
  rw [latest, List.find?_eq_none]
  simp only [decide_eq_true_eq]

/-- Three entities in no order, the middle one of which is hurt twice, and two more that join them in
front and at the end. -/
theorem update_maps_joined :
    let one (id : UInt32) (health : Int32) : Entity := ⟨⟨id⟩, health, 9, true, .zero⟩
    let given := [one 9 9, one 2 9, one 5 9]
    let history := [one 5 1, one 0xffffffff 9, one 0 9, one 5 4]
    let z := (ofEntities ⟨1⟩ given (.clear 0 0)).update history
    (given.map (·.id)).Nodup ∧ z.entity? ⟨5⟩ = some (one 5 1) ∧ z.entity? ⟨9⟩ = some (one 9 9) ∧
      z.entity? ⟨4⟩ = none ∧ z.position? ⟨5⟩ = some 2 ∧ z.position? ⟨0xffffffff⟩ = some 4 ∧
      (z.withEntity (one 5 3)).entities = z.entities.set 2 (one 5 3) ∧
      (z.withEntity (one 4 3)).entities = z.entities.insertIdx 2 (one 4 3) ∧
      (z.withEntity (one 4 3)).withEntity (one 5 3) =
        (z.withEntity (one 5 3)).withEntity (one 4 3) := by
  intro one given history z
  have unique : (given.map (·.id)).Nodup := by decide
  obtain ⟨-, latest, never, place, -, replace, join, swap⟩ :=
    update_maps ⟨1⟩ (.clear 0 0) unique history
  have five : z.position? ⟨5⟩ = some 2 := (place ⟨5⟩).trans (by cbv)
  have four : z.entity? ⟨4⟩ = none := (never ⟨4⟩).2 (by decide)
  have before : (z.entities.countP fun x => x.id.index < 4) = 2 := by cbv
  refine ⟨unique, latest ⟨5⟩, latest ⟨9⟩, four, five, (place ⟨0xffffffff⟩).trans (by cbv),
    replace (one 5 3) 2 five, ?_, swap (one 4 3) (one 5 3) (by decide)⟩
  exact (join (one 4 3) four).trans (congrArg (fun i => z.entities.insertIdx i _) before)

end Skirmish.Zone
