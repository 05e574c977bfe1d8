import Mathlib.Algebra.BigOperators.Group.List.Basic
import Mathlib.Algebra.Ring.Int.Defs
import Mathlib.Order.Bounds.Basic
import Mathlib.Tactic.Lemma
import Skirmish.Entity

/-!
# Hits add up

Each hit takes its damage from what the hits before it have left, and nothing goes below zero; and
yet hits take as much as one hit with all their damage would, however large that is. An entity dies
of the first hit by which they come to the health that it had, and of no other.
-/

namespace Skirmish.Entity

/-- The entity after some hits, one after another. -/
def hurtAll (e : Entity) (hits : List Int32) : Entity := hits.foldl hurt e

/-- Does it kill the entity, for each of some hits, one after another? -/
def deathBlows (e : Entity) : List Int32 → List Bool
  | [] => []
  | hit :: hits => e.killedBy hit :: (e.hurt hit).deathBlows hits

/-- The damage of all hits, in which negative damage is none. -/
def dealt (hits : List Int32) : Int := (hits.map fun hit => max 0 hit.toInt).sum

/-- The positions of hits by which the damage comes to the health of the entity. -/
def Spent (e : Entity) (hits : List Int32) : Set Nat :=
  {i | i < hits.length ∧ e.health.toInt ≤ dealt (hits.take (i + 1))}

variable {e : Entity} {hits : List Int32}

/-! ### Damage -/

@[simp] lemma dealt_nil : dealt [] = 0 := rfl

lemma dealt_cons (hit : Int32) (hits : List Int32) :
    dealt (hit :: hits) = max 0 hit.toInt + dealt hits := by
  simp [dealt]

lemma dealt_nonneg (hits : List Int32) : 0 ≤ dealt hits := by
  induction hits with
  | nil => exact Int.le_refl 0
  | cons hit hits ih =>
    rw [dealt_cons]
    omega

lemma dealt_take_succ {i : Nat} {hit : Int32} (hi : hits[i]? = some hit) :
    dealt (hits.take (i + 1)) = dealt (hits.take i) + max 0 hit.toInt := by
  simp [dealt, List.take_add_one, hi]

/-! ### One hit -/

lemma killedBy_iff {hit : Int32} :
    e.killedBy hit = true ↔ e.alive = true ∧ e.health.toInt ≤ max 0 hit.toInt := by
  rw [killedBy, Bool.and_eq_true, decide_eq_true_iff, toInt_healthAfter]
  exact and_congr_right fun _ => by omega

/-! ### Hits one after another -/

lemma hurtAll_take_succ {i : Nat} {hit : Int32} (hi : hits[i]? = some hit) :
    e.hurtAll (hits.take (i + 1)) = (e.hurtAll (hits.take i)).hurt hit := by
  simp [hurtAll, List.take_add_one, hi]

lemma toInt_health_hurtAll (low : 0 ≤ e.health.toInt) (hits : List Int32) :
    (e.hurtAll hits).health.toInt = max 0 (e.health.toInt - dealt hits) := by
  induction hits generalizing e with
  | nil =>
    rw [dealt_nil, hurtAll, List.foldl_nil]
    omega
  | cons hit hits ih =>
    have left := e.toInt_health_hurt hit
    have further := ih (e := e.hurt hit) (by omega)
    have more := dealt_nonneg hits
    rw [hurtAll, List.foldl_cons, dealt_cons, ← hurtAll]
    omega

lemma same_hurtAll (e : Entity) (hits : List Int32) :
    (e.hurtAll hits).id = e.id ∧ (e.hurtAll hits).maxHealth = e.maxHealth ∧
      (e.hurtAll hits).position = e.position := by
  induction hits generalizing e with
  | nil => exact ⟨rfl, rfl, rfl⟩
  | cons hit hits ih => exact ih (e.hurt hit)

lemma alive_hurtAll_iff (e : Entity) (hits : List Int32) :
    (e.hurtAll hits).alive = true ↔ e.alive = true ∧ true ∉ e.deathBlows hits := by
  induction hits generalizing e with
  | nil => simp [hurtAll, deathBlows]
  | cons hit hits ih =>
    rw [hurtAll, List.foldl_cons, ← hurtAll, ih, alive_hurt_iff, deathBlows, List.mem_cons, not_or,
      and_assoc, Bool.eq_false_iff, ne_comm]

@[simp] lemma length_deathBlows (e : Entity) (hits : List Int32) :
    (e.deathBlows hits).length = hits.length := by
  induction hits generalizing e with
  | nil => rfl
  | cons hit hits ih => simp [deathBlows, ih]

/-- A hit is told of as it strikes the entity that the hits before it have left. -/
lemma getElem?_deathBlows (e : Entity) (hits : List Int32) (i : Nat) :
    (e.deathBlows hits)[i]? = hits[i]?.map (e.hurtAll (hits.take i)).killedBy := by
  induction hits generalizing e i with
  | nil => rfl
  | cons hit hits ih =>
    cases i with
    | zero => rfl
    | succ i => simpa [deathBlows, hurtAll] using ih (e.hurt hit) i

/-! ### The hit that kills -/

lemma mem_spent_iff {i : Nat} :
    i ∈ e.Spent hits ↔ i < hits.length ∧ e.health.toInt ≤ dealt (hits.take (i + 1)) := Iff.rfl

lemma isLeast_spent_iff {i : Nat} :
    IsLeast (e.Spent hits) i ↔ (∀ j < i, j ∉ e.Spent hits) ∧ i ∈ e.Spent hits := by
  rw [IsLeast, and_comm, mem_lowerBounds]
  exact and_congr_left fun _ =>
    ⟨fun least j hj hspent => Nat.not_lt.2 (least j hspent) hj,
      fun first j hspent => Nat.not_lt.1 fun hj => first j hj hspent⟩

/-- A hit kills whom the hits before it have left alive, if with it the damage comes to the health. -/
lemma killedBy_hurtAll_take_iff (low : 0 ≤ e.health.toInt) {i : Nat} {hit : Int32}
    (hi : hits[i]? = some hit) :
    (e.hurtAll (hits.take i)).killedBy hit = true ↔
      (e.hurtAll (hits.take i)).alive = true ∧ i ∈ e.Spent hits := by
  have inside : i < hits.length := (List.getElem?_eq_some_iff.1 hi).1
  have left := toInt_health_hurtAll low (hits.take i)
  rw [killedBy_iff, mem_spent_iff, dealt_take_succ hi, left]
  exact and_congr_right fun _ => by omega

/-- The first hits leave an entity alive until the damage comes to its health. -/
lemma alive_hurtAll_take_iff (low : 0 ≤ e.health.toInt) {n : Nat} (hn : n ≤ hits.length) :
    (e.hurtAll (hits.take n)).alive = true ↔ e.alive = true ∧ ∀ j < n, j ∉ e.Spent hits := by
  induction n with
  | zero => simp [hurtAll]
  | succ n ih =>
    -- one hit more is survived unless it is in the set, and then it is the first that is
    have hi : hits[n]? = some hits[n] := List.getElem?_eq_getElem hn
    rw [hurtAll_take_succ hi, alive_hurt_iff, Bool.eq_false_iff, ne_eq,
      killedBy_hurtAll_take_iff low hi, ih (Nat.le_of_lt hn)]
    simp only [Nat.forall_lt_succ_right]
    tauto

/-- The death blow is the first hit by which the damage comes to the health. -/
lemma deathBlow_iff (low : 0 ≤ e.health.toInt) {i : Nat} :
    (e.deathBlows hits)[i]? = some true ↔ e.alive = true ∧ IsLeast (e.Spent hits) i := by
  rw [getElem?_deathBlows]
  cases hi : hits[i]? with
  | none =>
    have outside : i ∉ e.Spent hits := fun spent =>
      Nat.not_lt.2 (List.getElem?_eq_none_iff.1 hi) spent.1
    simp [IsLeast, outside]
  | some hit =>
    have inside : i < hits.length := (List.getElem?_eq_some_iff.1 hi).1
    rw [Option.map_some, Option.some.injEq, killedBy_hurtAll_take_iff low hi,
      alive_hurtAll_take_iff low (Nat.le_of_lt inside), isLeast_spent_iff, and_assoc]

lemma notMem_deathBlows_of_dead (dead : e.alive = false) (hits : List Int32) :
    true ∉ e.deathBlows hits := by
  induction hits generalizing e with
  | nil => simp [deathBlows]
  | cons hit hits ih =>
    have spared : e.killedBy hit = false := by simp [killedBy, dead]
    have still : (e.hurt hit).alive = false := by simp [hurt, dead]
    simp [deathBlows, spared, ih still]

lemma count_deathBlows_le_one (e : Entity) (hits : List Int32) :
    (e.deathBlows hits).count true ≤ 1 := by
  induction hits generalizing e with
  | nil => simp [deathBlows]
  | cons hit hits ih =>
    rw [deathBlows]
    cases killed : e.killedBy hit with
    | false => simpa using ih (e.hurt hit)
    | true =>
      have dead : (e.hurt hit).alive = false := by
        rw [Bool.eq_false_iff, ne_eq, alive_hurt_iff, killed]
        simp
      rw [List.count_cons_self, List.count_eq_zero_of_not_mem (notMem_deathBlows_of_dead dead hits)]

/-- Hits leave the health less all their damage, or nothing if there is not as much. At most one of
them kills: if the entity was alive, the first by which the damage comes to its health. It is alive in
the end if it was alive and none of them has killed it, and nothing else of it has changed. -/
theorem hits_add_up (low : 0 ≤ e.health.toInt) (hits : List Int32) :
    (e.hurtAll hits).health.toInt = max 0 (e.health.toInt - dealt hits) ∧
    (e.deathBlows hits).length = hits.length ∧ (e.deathBlows hits).count true ≤ 1 ∧
    (∀ i, (e.deathBlows hits)[i]? = some true ↔ e.alive = true ∧ IsLeast (e.Spent hits) i) ∧
    ((e.hurtAll hits).alive = true ↔ e.alive = true ∧ true ∉ e.deathBlows hits) ∧
    (e.hurtAll hits).id = e.id ∧ (e.hurtAll hits).maxHealth = e.maxHealth ∧
      (e.hurtAll hits).position = e.position :=
  ⟨toInt_health_hurtAll low hits, length_deathBlows e hits, count_deathBlows_le_one e hits,
    fun _ => deathBlow_iff low, alive_hurtAll_iff e hits, same_hurtAll e hits⟩

/-- The greatest health there is survives damage that is one short of it, and negative damage before
and after. The next hit kills, and one more of the same kind no longer does. -/
theorem hits_add_up_last_point :
    let e : Entity := ⟨⟨3⟩, 0x7fffffff, 0x7fffffff, true, .zero⟩
    let hits : List Int32 := [Int32.minValue, 0x7ffffffe, -5, 0, 0x7fffffff, 0x7fffffff]
    0 ≤ e.health.toInt ∧ dealt hits = 0x17ffffffc ∧ (e.hurtAll hits).health.toInt = 0 ∧
      IsLeast (e.Spent hits) 4 ∧ (e.deathBlows hits).count true ≤ 1 ∧
      (e.hurtAll hits).alive = false ∧ (e.hurtAll hits).maxHealth = 0x7fffffff := by
  intro e hits
  have low : 0 ≤ e.health.toInt := by decide
  obtain ⟨health, -, once, blow, alive, -, full, -⟩ := hits_add_up low hits
  have fatal : (e.deathBlows hits)[4]? = some true := by decide
  refine ⟨low, by decide, health.trans (by decide), ((blow 4).1 fatal).2, once, ?_, full⟩
  rw [Bool.eq_false_iff, ne_eq, alive]
  exact fun survived => survived.2 (List.mem_of_getElem? fatal)

end Skirmish.Entity
