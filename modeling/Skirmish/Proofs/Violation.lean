import Mathlib.Tactic.Lemma
import Skirmish.Ledger
import Skirmish.Zone

/-!
# What the checks of collections report

A check compares neighbours and stops at the first fault, and yet it is about the collection as a
whole: it passes just if each key is below all later ones and each element is in range. What it
reports is the first element that is out of order, and only if there is none the first that is out
of range. All of this holds of any list, in order or not.
-/

namespace Skirmish

namespace Keyed

variable {α β : Type} [Keyed α] {xs : List α}

/-- Is the key of each place below those of all later places? -/
def Climbs (xs : List α) : Prop :=
  ∀ (i j : Nat) (a b : α), i < j → xs[i]? = some a → xs[j]? = some b → key a < key b

/-- Is the key of place `j` not above that of the place before it? -/
def FallsAt (xs : List α) (j : Nat) : Prop :=
  ∃ (i : Nat) (a b : α), j = i + 1 ∧ xs[i]? = some a ∧ xs[j]? = some b ∧ key b ≤ key a

/-- What is to be reported of a list: the first element that is out of order or, if the keys climb,
the fault of the first element that has one. -/
inductive Reports (disorder : Nat → α → β) (Fault : α → β → Prop) (xs : List α) : β → Prop
  | disorder {j : Nat} {b : α} (falls : FallsAt xs j) (first : ∀ k < j, ¬FallsAt xs k)
      (here : xs[j]? = some b) : Reports disorder Fault xs (disorder j b)
  | fault {front back : List α} {b : α} {v : β} (climbs : Climbs xs)
      (here : xs = front ++ b :: back) (fault : Fault b v)
      (first : ∀ a ∈ front, ∀ w, ¬Fault a w) : Reports disorder Fault xs v

/-! ### Order -/

lemma ascending_iff_climbs : Ascending xs ↔ Climbs xs := by
  rw [Ascending, List.pairwise_iff_getElem]
  constructor
  · intro h i j a b hij ha hb
    obtain ⟨hi, rfl⟩ := List.getElem?_eq_some_iff.1 ha
    obtain ⟨hj, rfl⟩ := List.getElem?_eq_some_iff.1 hb
    exact h i j hi hj hij
  · intro h i j hi hj hij
    exact h i j _ _ hij (List.getElem?_eq_getElem hi) (List.getElem?_eq_getElem hj)

lemma fallsAt_succ_iff {i : Nat} :
    FallsAt xs (i + 1) ↔ Order.BreaksAt (fun a b => decide (key a < key b)) xs i := by
  simp [FallsAt, Order.BreaksAt]

lemma not_fallsAt_zero : ¬FallsAt xs 0 := by
  simp [FallsAt]

lemma disorder?_eq_some_iff {j : Nat} {b : α} :
    disorder? xs = some (j, b) ↔
      FallsAt xs j ∧ (∀ k < j, ¬FallsAt xs k) ∧ xs[j]? = some b := by
  rw [disorder?, Order.firstBreak?_eq_some_iff]
  constructor
  · rintro ⟨i, breaks, first, rfl, here⟩
    refine ⟨fallsAt_succ_iff.2 breaks, ?_, here⟩
    intro k hk
    cases k with
    | zero => exact not_fallsAt_zero
    | succ k => exact mt fallsAt_succ_iff.1 (first k (by omega))
  · rintro ⟨falls, first, here⟩
    cases j with
    | zero => exact absurd falls not_fallsAt_zero
    | succ i =>
      refine ⟨i, fallsAt_succ_iff.1 falls, ?_, rfl, here⟩
      intro k hk
      exact mt fallsAt_succ_iff.2 (first (k + 1) (by omega))

/-! ### What is reported -/

variable {order : Nat → α → β} {fault? : α → Option β} {v : β}

/-- A check reports what it should, as far as it knows the faults of elements. -/
lemma check_eq_some_iff :
    check order fault? xs = some v ↔ Reports order (fun x w => fault? x = some w) xs v := by
  rw [check]
  constructor
  · intro found
    cases disorder : disorder? xs with
    | some p =>
      obtain ⟨j, b⟩ := p
      obtain rfl : order j b = v := by simpa [disorder] using found
      obtain ⟨falls, first, here⟩ := disorder?_eq_some_iff.1 disorder
      exact .disorder falls first here
    | none =>
      simp only [disorder] at found
      obtain ⟨front, b, back, here, fault, first⟩ := List.findSome?_eq_some_iff.1 found
      have climbs := ascending_iff_climbs.1 (disorder?_eq_none_iff.1 disorder)
      exact .fault climbs here fault fun a ha w => by simp [first a ha]
  · rintro (⟨falls, first, here⟩ | ⟨climbs, here, fault, first⟩)
    · rw [disorder?_eq_some_iff.2 ⟨falls, first, here⟩]
    · rw [disorder?_eq_none_iff.2 (ascending_iff_climbs.2 climbs)]
      refine List.findSome?_eq_some_iff.2 ⟨_, _, _, here, fault, fun a ha => ?_⟩
      exact Option.eq_none_iff_forall_not_mem.2 (first a ha)

/-- Where an element is at fault just if it is out of range, a check passes just if the keys climb
and every element is in range. -/
lemma check_eq_none_iff_climbs {InRange : α → Prop}
    (passes : ∀ x, fault? x = none ↔ InRange x) :
    check order fault? xs = none ↔ Climbs xs ∧ ∀ x ∈ xs, InRange x := by
  simp only [check_eq_none_iff, ascending_iff_climbs, passes]

lemma check_eq_some_iff_reports {Fault : α → β → Prop}
    (faulty : ∀ x v, fault? x = some v ↔ Fault x v) :
    check order fault? xs = some v ↔ Reports order Fault xs v := by
  simp only [check_eq_some_iff, faulty]

end Keyed

open Keyed (Climbs Reports)

/-! ### Elements -/

lemma Cooldown.violation?_eq_none_iff {c : Cooldown} :
    c.violation? = none ↔ 0 < c.remaining.toNat := by
  simp [violation?, Nat.pos_iff_ne_zero]

lemma Cooldown.violation?_eq_some_iff {c : Cooldown} {v : Violation} :
    c.violation? = some v ↔ c.remaining.toNat = 0 ∧ v = .cooldownExpired c.skill 0 := by
  rw [violation?]
  split
  · rename_i spent
    simp [spent, eq_comm]
  · simp [*]

lemma Threat.violation?_eq_none_iff {t : Threat} :
    t.violation? = none ↔ 0 ≤ t.amount.toInt ∧ t.amount.toInt ≤ 1000000000 := by
  change _ ↔ t.Sound
  rw [violation?]
  split <;> simp [*]

lemma Threat.violation?_eq_some_iff {t : Threat} {v : Violation} :
    t.violation? = some v ↔ ¬(0 ≤ t.amount.toInt ∧ t.amount.toInt ≤ 1000000000) ∧
      v = .threatRange t.source t.amount.toInt 1000000000 := by
  rw [← violation?_eq_none_iff, violation?]
  split <;> simp [eq_comm, Rules.maxThreat]

lemma Entity.violation?_eq_none_iff {e : Entity} : e.violation? = none ↔
    0 ≤ e.health.toInt ∧ e.health.toInt ≤ e.maxHealth.toInt ∧
      ¬(e.alive = true ∧ e.health.toInt = 0) := by
  change _ ↔ e.Sound
  rw [violation?]
  split <;> simp [*]

lemma Entity.violation?_eq_some_iff {e : Entity} {v : Violation} : e.violation? = some v ↔
    ¬(0 ≤ e.health.toInt ∧ e.health.toInt ≤ e.maxHealth.toInt ∧
      ¬(e.alive = true ∧ e.health.toInt = 0)) ∧
      v = .entityHealth e.id e.health.toInt e.maxHealth.toInt := by
  rw [← violation?_eq_none_iff, violation?]
  split <;> simp [eq_comm]

lemma Standing.violation?_eq_some_iff {s : Standing} {v : Violation} : s.violation? = some v ↔
    s.cooldowns.violation? = some v ∨
      s.cooldowns.violation? = none ∧ s.threats.violation? = some v := by
  rw [violation?]
  split <;> simp [*]

/-! ### Collections -/

/-- Each check passes just if all keys climb and all elements are in range; in a ledger, if the
cooldowns and the threats of all standings pass theirs. Otherwise it reports the first element that
is not above the one before it or, if there is none, the first that is out of range; in a ledger,
what the check of its cooldowns reports, before that of its threats. -/
theorem violations_exact :
    (∀ c : Cooldowns,
      (c.violation? = none ↔ Climbs c.entries ∧ ∀ e ∈ c.entries, 0 < e.remaining.toNat) ∧
      ∀ v, c.violation? = some v ↔
        Reports (fun j e => .cooldownOrder j e.skill)
          (fun e v => e.remaining.toNat = 0 ∧ v = .cooldownExpired e.skill 0) c.entries v) ∧
    (∀ t : Threats,
      (t.violation? = none ↔ Climbs t.entries ∧
        ∀ e ∈ t.entries, 0 ≤ e.amount.toInt ∧ e.amount.toInt ≤ 1000000000) ∧
      ∀ v, t.violation? = some v ↔
        Reports (fun j e => .threatOrder j e.source)
          (fun e v => ¬(0 ≤ e.amount.toInt ∧ e.amount.toInt ≤ 1000000000) ∧
            v = .threatRange e.source e.amount.toInt 1000000000) t.entries v) ∧
    (∀ z : Zone,
      (z.violation? = none ↔ Climbs z.entities ∧
        ∀ e ∈ z.entities, 0 ≤ e.health.toInt ∧ e.health.toInt ≤ e.maxHealth.toInt ∧
          ¬(e.alive = true ∧ e.health.toInt = 0)) ∧
      ∀ v, z.violation? = some v ↔
        Reports (fun j e => .entityOrder j e.id)
          (fun e v => ¬(0 ≤ e.health.toInt ∧ e.health.toInt ≤ e.maxHealth.toInt ∧
              ¬(e.alive = true ∧ e.health.toInt = 0)) ∧
            v = .entityHealth e.id e.health.toInt e.maxHealth.toInt) z.entities v) ∧
    ∀ l : Ledger,
      (l.violation? = none ↔ Climbs l.standings ∧
        ∀ s ∈ l.standings, s.cooldowns.violation? = none ∧ s.threats.violation? = none) ∧
      ∀ v, l.violation? = some v ↔
        Reports (fun j s => .entityOrder j s.entity)
          (fun s v => s.cooldowns.violation? = some v ∨
            s.cooldowns.violation? = none ∧ s.threats.violation? = some v) l.standings v := by
  refine ⟨fun c => ⟨?_, fun v => ?_⟩, fun t => ⟨?_, fun v => ?_⟩, fun z => ⟨?_, fun v => ?_⟩,
    fun l => ⟨?_, fun v => ?_⟩⟩
  · exact Keyed.check_eq_none_iff_climbs fun _ => Cooldown.violation?_eq_none_iff
  · exact Keyed.check_eq_some_iff_reports fun _ _ => Cooldown.violation?_eq_some_iff
  · exact Keyed.check_eq_none_iff_climbs fun _ => Threat.violation?_eq_none_iff
  · exact Keyed.check_eq_some_iff_reports fun _ _ => Threat.violation?_eq_some_iff
  · exact Keyed.check_eq_none_iff_climbs fun _ => Entity.violation?_eq_none_iff
  · exact Keyed.check_eq_some_iff_reports fun _ _ => Entity.violation?_eq_some_iff
  · exact Keyed.check_eq_none_iff_climbs fun _ => Standing.violation?_eq_none_iff
  · exact Keyed.check_eq_some_iff_reports fun _ _ => Standing.violation?_eq_some_iff

/-- An entry that has run out goes unreported where a later one is out of order. -/
example : (Cooldowns.mk [⟨⟨3⟩, 0⟩, ⟨⟨5⟩, 2⟩, ⟨⟨5⟩, 1⟩]).violation? =
    some (.cooldownOrder 2 ⟨5⟩) := by
  decide

end Skirmish
