import Skirmish.Ident
import Skirmish.Position
import Skirmish.Order.Keyed

/-!
# Entities

What combat knows of an entity: where it stands, its health, and whether it is alive. Damage never
raises health and never takes it below zero; the hit that brings a living entity to zero kills it.
-/

namespace Skirmish

/-- An entity as combat sees it. -/
structure Entity where
  id : EntityId
  health : Int32
  maxHealth : Int32
  alive : Bool
  position : Position
  deriving DecidableEq, Inhabited

instance : Keyed Entity := ⟨fun e => e.id.index⟩

namespace Entity

/-- A new entity at full health, alive if that is anything at all. -/
def fresh (id : EntityId) (maxHealth : Int32) (position : Position) : Entity :=
  let full := Clamp.toInt32 (max 0 maxHealth.toInt)
  ⟨id, full, full, 0 < full.toInt, position⟩

/-- The entity with its health set as far as its maximum allows. -/
def withHealth (e : Entity) (health : Int32) : Entity :=
  let health := Clamp.toInt32 (min (max 0 health.toInt) e.maxHealth.toInt)
  { e with health, alive := 0 < health.toInt }

/-- What is left of the health after some damage; negative damage is none. -/
def healthAfter (e : Entity) (damage : Int32) : Int32 :=
  Clamp.toInt32 (max 0 (e.health.toInt - max 0 damage.toInt))

/-- The entity after some damage. -/
def hurt (e : Entity) (damage : Int32) : Entity :=
  { e with
    health := e.healthAfter damage
    alive := e.alive && 0 < (e.healthAfter damage).toInt }

/-- Does the damage kill the entity? -/
def killedBy (e : Entity) (damage : Int32) : Bool :=
  e.alive && (e.healthAfter damage).toInt = 0

/-- How much health the damage takes away. -/
def lossFrom (e : Entity) (damage : Int32) : Int32 :=
  Clamp.toInt32 (e.health.toInt - (e.healthAfter damage).toInt)

/-- Health within its bounds, and none of it only in the dead. -/
def Sound (e : Entity) : Prop :=
  0 ≤ e.health.toInt ∧ e.health.toInt ≤ e.maxHealth.toInt ∧
    ¬(e.alive = true ∧ e.health.toInt = 0)

instance (e : Entity) : Decidable e.Sound := inferInstanceAs (Decidable (_ ∧ _))

theorem toInt_healthAfter (e : Entity) (damage : Int32) :
    (e.healthAfter damage).toInt = max 0 (e.health.toInt - max 0 damage.toInt) := by
  have := Int32.toInt_lt e.health
  rw [healthAfter, Clamp.toInt_toInt32]
  apply Clamp.between_of_mem <;> omega

@[simp] theorem id_hurt (e : Entity) (damage : Int32) : (e.hurt damage).id = e.id := rfl

@[simp] theorem position_hurt (e : Entity) (damage : Int32) :
    (e.hurt damage).position = e.position := rfl

@[simp] theorem maxHealth_hurt (e : Entity) (damage : Int32) :
    (e.hurt damage).maxHealth = e.maxHealth := rfl

theorem toInt_health_hurt (e : Entity) (damage : Int32) :
    (e.hurt damage).health.toInt = max 0 (e.health.toInt - max 0 damage.toInt) :=
  e.toInt_healthAfter damage

theorem alive_hurt_iff {e : Entity} {damage : Int32} :
    (e.hurt damage).alive = true ↔ e.alive = true ∧ e.killedBy damage = false := by
  have := e.toInt_healthAfter damage
  simp only [hurt, killedBy, Bool.and_eq_true, Bool.and_eq_false_iff, decide_eq_true_eq,
    decide_eq_false_iff_not]
  constructor
  · rintro ⟨alive, pos⟩
    exact ⟨alive, .inr (by omega)⟩
  · rintro ⟨alive, dead | left⟩
    · simp [alive] at dead
    · exact ⟨alive, by omega⟩

/-- Damage keeps an entity sound. -/
theorem Sound.hurt {e : Entity} (h : e.Sound) (damage : Int32) : (e.hurt damage).Sound := by
  obtain ⟨low, high, alive⟩ := h
  have health := e.toInt_health_hurt damage
  refine ⟨by omega, by rw [maxHealth_hurt]; omega, ?_⟩
  rintro ⟨hlive, hzero⟩
  simp only [Entity.hurt, Bool.and_eq_true, decide_eq_true_eq] at hlive hzero
  omega

end Entity

end Skirmish
