import Mathlib.Data.List.Nodup
import Mathlib.Tactic.Lemma
import Skirmish.Zone

/-!
# Sound zones and their living

A zone is sound if its identifiers ascend and each of its entities is sound, which is what its check
finds out. An entity lives in a zone if the zone has it and it is alive.
-/

namespace Skirmish

namespace Zone

/-- Does the zone pass its check? -/
structure Sound (z : Zone) : Prop where
  ascending : Keyed.Ascending z.entities
  entities : ∀ e ∈ z.entities, e.Sound

lemma sound_iff {z : Zone} : z.violation? = none ↔ z.Sound :=
  violation?_eq_none_iff.trans ⟨fun h => ⟨h.1, h.2⟩, fun h => ⟨h.1, h.2⟩⟩

lemma Sound.entity {z : Zone} (h : z.Sound) {id : EntityId} {e : Entity}
    (he : z.entity? id = some e) : e.Sound :=
  h.entities e (Keyed.mem_of_find? he)

lemma Sound.withEntity {z : Zone} (h : z.Sound) {e : Entity} (he : e.Sound) :
    (z.withEntity e).Sound := by
  refine ⟨Keyed.ascending_put h.ascending e, ?_⟩
  intro x hx
  rcases Keyed.mem_put hx with rfl | hx
  · exact he
  · exact h.entities x hx

/-- A look-up finds exactly the entities whose identifiers the zone holds. -/
lemma mem_ids_iff {z : Zone} {id : EntityId} :
    id ∈ z.entities.map (·.id) ↔ ∃ e, z.entity? id = some e := by
  constructor
  · intro h
    obtain ⟨e, he, rfl⟩ := List.mem_map.1 h
    cases found : z.entity? e.id with
    | none => exact absurd rfl (Keyed.find?_eq_none_iff.1 found e he)
    | some e' => exact ⟨e', rfl⟩
  · rintro ⟨e, he⟩
    exact List.mem_map.2 ⟨e, Keyed.mem_of_find? he, id_of_entity? he⟩

lemma entity?_eq_none_iff {z : Zone} {id : EntityId} :
    z.entity? id = none ↔ ∀ e ∈ z.entities, e.id ≠ id := by
  rw [entity?, Keyed.find?_eq_none_iff]
  exact forall₂_congr fun e _ => not_congr EntityId.index_inj

/-- Where nobody shares an identifier, a look-up finds whoever has it. -/
lemma entity?_eq_some_iff {z : Zone} (unique : (z.entities.map (·.id)).Nodup) {id : EntityId}
    {e : Entity} : z.entity? id = some e ↔ e ∈ z.entities ∧ e.id = id := by
  constructor
  · intro found
    exact ⟨Keyed.mem_of_find? found, id_of_entity? found⟩
  · rintro ⟨here, rfl⟩
    obtain ⟨e', found⟩ := mem_ids_iff.1 (List.mem_map_of_mem here)
    have same : e' = e :=
      List.inj_on_of_nodup_map unique (Keyed.mem_of_find? found) here (id_of_entity? found)
    rw [found, same]

/-- Does the zone have the entity, and is it alive? -/
def Living (z : Zone) (id : EntityId) : Prop := ∃ e, z.entity? id = some e ∧ e.alive = true

instance (z : Zone) (id : EntityId) : Decidable (z.Living id) :=
  decidable_of_iff ((z.entity? id).any (·.alive) = true) (Option.any_eq_true ..)

end Zone

end Skirmish
