import Skirmish.Entity
import Skirmish.Order.Bisection
import Skirmish.Terrain
import Skirmish.Violation

/-!
# Zones

A zone is a map of entities by identifier on some terrain. Updates replace one entity and leave the
rest alone. A check finds out whether the identifiers ascend and every entity is sound.
-/

namespace Skirmish

/-- The entities of one part of the world, with its terrain. -/
structure Zone where
  id : ZoneId
  entities : List Entity
  terrain : Terrain
  deriving DecidableEq, Inhabited

/-- The health of an entity has to lie within its bounds and go with its life. -/
def Entity.violation? (e : Entity) : Option Violation :=
  if e.Sound then none else some (.entityHealth e.id e.health.toInt e.maxHealth.toInt)

namespace Zone

/-- A zone with the given entities, put in the order of their identifiers. -/
def ofEntities (id : ZoneId) (entities : List Entity) (terrain : Terrain) : Zone :=
  ⟨id, Keyed.sort entities, terrain⟩

/-- The entity of an identifier. -/
def entity? (z : Zone) (id : EntityId) : Option Entity := Keyed.find? id.index z.entities

/-- The position of an entity among the entities of the zone. -/
def position? (z : Zone) (id : EntityId) : Option Nat := (Keyed.search id.index z.entities).taken?

/-- The zone with an entity in the place of the one with its identifier, or added to it. -/
def withEntity (z : Zone) (e : Entity) : Zone := { z with entities := Keyed.put e z.entities }

/-- The first broken invariant: an identifier not above the one before it, or else an entity that
is not sound. -/
def violation? (z : Zone) : Option Violation :=
  Keyed.check (fun index e => .entityOrder index e.id) Entity.violation? z.entities

@[simp] theorem id_withEntity (z : Zone) (e : Entity) : (z.withEntity e).id = z.id := rfl

@[simp] theorem terrain_withEntity (z : Zone) (e : Entity) :
    (z.withEntity e).terrain = z.terrain := rfl

theorem id_of_entity? {z : Zone} {id : EntityId} {e : Entity} (h : z.entity? id = some e) :
    e.id = id :=
  EntityId.index_inj.1 (Keyed.key_of_find? h)

@[simp] theorem entity?_withEntity_self (z : Zone) (e : Entity) :
    (z.withEntity e).entity? e.id = some e :=
  Keyed.find?_put_self e z.entities

theorem entity?_withEntity_of_ne {z : Zone} {e : Entity} {id : EntityId} (h : e.id ≠ id) :
    (z.withEntity e).entity? id = z.entity? id :=
  Keyed.find?_put_of_ne (fun hk => h (EntityId.index_inj.1 hk)) z.entities

/-- The check passes exactly when identifiers ascend and all entities are sound. -/
theorem violation?_eq_none_iff {z : Zone} :
    z.violation? = none ↔ Keyed.Ascending z.entities ∧ ∀ e ∈ z.entities, e.Sound := by
  rw [violation?, Keyed.check_eq_none_iff]
  simp [Entity.violation?]

end Zone

end Skirmish
