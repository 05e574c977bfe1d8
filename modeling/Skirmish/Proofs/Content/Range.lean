import Mathlib.Algebra.Order.Floor.Ring
import Mathlib.Data.Rat.Floor
import Mathlib.Tactic.Lemma
import Mathlib.Tactic.Linarith
import Mathlib.Tactic.Ring
import Skirmish.Content.Draft

/-!
# Ranges as authors mean them

The range of a draft is a rational number of tiles, a whole number and a fraction. A skill has the
largest range in units that does not go beyond it: the fraction is rounded down on its own, which is
to round down the sum, and no word on the way is too short for what it has to hold.
-/

namespace Skirmish

namespace Fixed

variable {n d : Int32} {f : Fixed}

/-- The largest number of units that are no more than `q`. -/
lemma isGreatest_floor (q : ℚ) : IsGreatest {u : ℤ | (u : ℚ) / unit ≤ q} ⌊q * unit⌋ := by
  have unit_pos : (0 : ℚ) < unit := by norm_num [unit]
  have below (u : ℤ) : (u : ℚ) / unit ≤ q ↔ u ≤ ⌊q * unit⌋ := by
    rw [div_le_iff₀ unit_pos, Int.le_floor]
  exact ⟨(below _).2 le_rfl, fun u hu => (below u).1 hu⟩

/-! ### Quotients -/

lemma upright_bounds (n d : Int32) :
    -0x80000000 ≤ (upright n d).1.toInt ∧ (upright n d).1.toInt ≤ 0x80000000 := by
  have lower := Int32.le_toInt n
  have upper := Int32.toInt_lt n
  rw [upright]
  split
  · simp only [toInt_neg_toInt64]
    omega
  · simp only [Int32.toInt_toInt64]
    omega

/-- The sign of a quotient may go with its numerator. -/
lemma upright_quotient (some : d.toInt ≠ 0) :
    0 < (upright n d).2.toInt ∧
      ((upright n d).1.toInt : ℚ) / (upright n d).2.toInt = n.toInt / d.toInt := by
  rw [upright]
  split
  · simp only [toInt_neg_toInt64]
    refine ⟨by omega, ?_⟩
    push_cast
    exact neg_div_neg_eq _ _
  · simp only [Int32.toInt_toInt64]
    exact ⟨by omega, trivial⟩

lemma toInt_raise_upright (n d : Int32) :
    (raise (upright n d).1).toInt = (upright n d).1.toInt * unit := by
  obtain ⟨lower, upper⟩ := upright_bounds n d
  exact toInt_raise lower upper

lemma ofRatio?_eq_some_iff : ofRatio? n d = some f ↔
    d.toInt ≠ 0 ∧ ⟨quotient (raise (upright n d).1) (upright n d).2⟩ = f := by
  rw [ofRatio?]
  split <;> simp [*]

lemma units_of_ofRatio? (h : ofRatio? n d = some f) :
    f.units = (upright n d).1.toInt * unit / (upright n d).2.toInt := by
  obtain ⟨some, rfl⟩ := ofRatio?_eq_some_iff.1 h
  rw [units, toInt_quotient (upright_quotient some).1, toInt_raise_upright]

/-- A quotient is rounded down, whatever the signs. -/
lemma units_of_ofRatio?_eq_floor (h : ofRatio? n d = some f) :
    f.units = ⌊(n.toInt / d.toInt : ℚ) * unit⌋ := by
  obtain ⟨some, -⟩ := ofRatio?_eq_some_iff.1 h
  obtain ⟨positive, same⟩ := upright_quotient (n := n) some
  calc f.units
      = (upright n d).1.toInt * unit / (upright n d).2.toInt := units_of_ofRatio? h
    _ = ⌊((upright n d).1.toInt * unit : ℤ) / ((upright n d).2.toInt : ℚ)⌋ := by
        rw [Int.floor_div_cast_of_nonneg positive.le, Int.floor_intCast]
    _ = ⌊(n.toInt / d.toInt : ℚ) * unit⌋ := by
        rw [← same, Int.cast_mul, div_mul_eq_mul_div]

/-- A whole number and a quotient are together well within sixty-four bits. -/
lemma units_ofWhole_add (w : Int32) (h : ofRatio? n d = some f) :
    (ofWhole w + f).units = (ofWhole w).units + f.units := by
  have lower := Int32.le_toInt w
  have upper := Int32.toInt_lt w
  obtain ⟨lower', upper'⟩ := upright_bounds n d
  -- a quotient is no larger than its numerator
  have small := Int.natAbs_ediv_le_natAbs ((upright n d).1.toInt * unit) (upright n d).2.toInt
  rw [← units_of_ofRatio? h] at small
  rw [units_add, units_ofWhole]
  simp only [unit] at small ⊢
  apply Clamp.between_of_mem <;> omega

end Fixed

namespace SkillDraft

open Fixed

variable {d : SkillDraft} {range : Fixed}

/-! ### Ranges -/

/-- The range that the author of the draft means, in tiles. -/
def intended (d : SkillDraft) : ℚ :=
  match d.fraction with
  | none => d.range.toInt
  | some r => d.range.toInt + r.numerator.toInt / r.denominator.toInt

/-- No word on the way to the range is too short: what the words stand for is what the numbers come
to. -/
structure Exact (d : SkillDraft) : Prop where
  whole : (raise d.range.toInt64).toInt = d.range.toInt * 65536
  negated : ∀ r, d.fraction = some r → (-r.numerator.toInt64).toInt = -r.numerator.toInt ∧
    (-r.denominator.toInt64).toInt = -r.denominator.toInt
  raised : ∀ r, d.fraction = some r →
    let n := (upright r.numerator r.denominator).1
    (raise n).toInt = n.toInt * 65536
  sum : ∀ r f, d.fraction = some r → ofRatio? r.numerator r.denominator = some f →
    (ofWhole d.range + f).units = (ofWhole d.range).units + f.units

lemma exact (d : SkillDraft) : d.Exact where
  whole := by
    have lower := Int32.le_toInt d.range
    have upper := Int32.toInt_lt d.range
    rw [toInt_raise, Int32.toInt_toInt64, unit] <;> rw [Int32.toInt_toInt64] <;> omega
  negated r _ := ⟨toInt_neg_toInt64 r.numerator, toInt_neg_toInt64 r.denominator⟩
  raised r _ := toInt_raise_upright r.numerator r.denominator
  sum _ _ _ h := units_ofWhole_add d.range h

/-- The range of a skill is the one its author means, rounded down. -/
lemma units_of_fullRange? (h : d.fullRange? = some range) : range.units = ⌊d.intended * unit⌋ := by
  rw [fullRange?] at h
  rw [intended]
  cases fraction : d.fraction with
  | none =>
    simp only [fraction, Option.some.injEq] at h
    rw [← h, units_ofWhole, ← Int.cast_mul, Int.floor_intCast]
  | some r =>
    simp only [fraction, Option.map_eq_some_iff] at h
    obtain ⟨f, hf, rfl⟩ := h
    rw [units_ofWhole_add d.range hf, units_ofWhole, units_of_ofRatio?_eq_floor hf, add_mul,
      ← Int.cast_mul, Int.floor_intCast_add]

/-- The range of a skill is not negative just if its author means no negative one. -/
lemma units_nonneg_iff (h : d.fullRange? = some range) : 0 ≤ range.units ↔ 0 ≤ d.intended := by
  rw [units_of_fullRange? h, Int.floor_nonneg]
  exact mul_nonneg_iff_of_pos_right (by norm_num [unit])

lemma skill_eq_ok_iff {s : Skill} : d.skill = .ok s ↔
    ∃ range, d.fullRange? = some range ∧
      ⟨⟨d.id⟩, d.damage, range, d.cooldown, d.threatPercent, d.needsSight⟩ = s := by
  rw [skill]
  split <;> simp [*]

lemma skill_eq_error_iff {e : ContentError} : d.skill = .error e ↔
    e = .zeroDenominator d.id ∧ ∃ r, d.fraction = some r ∧ r.denominator.toInt = 0 := by
  rw [skill, ← fullRange?_eq_none_iff]
  split <;> simp [*, eq_comm]

/-- A draft has a skill unless its fraction is over zero. The range of the skill is the largest
number of units that is no more than the author means, and it is negative only if that is. No word
on the way is too short. -/
theorem range_rounds_down (d : SkillDraft) :
    (∀ e, d.skill = .error e ↔
      e = .zeroDenominator d.id ∧ ∃ r, d.fraction = some r ∧ r.denominator.toInt = 0) ∧
    d.Exact ∧
    ∀ s, d.skill = .ok s →
      IsGreatest {u : ℤ | (u : ℚ) / 65536 ≤ d.intended} s.range.units ∧
      (d.fraction = none → s.range.units = d.range.toInt * 65536) ∧
      (0 ≤ s.range.units ↔ 0 ≤ d.intended) := by
  refine ⟨fun e => skill_eq_error_iff, d.exact, ?_⟩
  intro s hs
  obtain ⟨range, h, rfl⟩ := skill_eq_ok_iff.1 hs
  refine ⟨?_, ?_, units_nonneg_iff h⟩
  · rw [units_of_fullRange? h]
    exact isGreatest_floor d.intended
  · intro whole
    simp only [fullRange?, whole, Option.some.injEq] at h
    rw [← h]
    exact units_ofWhole d.range

/-- The lowest whole range there is, and a fraction of two negative numbers that brings back a third
of it. -/
theorem range_rounds_down_lowest :
    let d : SkillDraft := ⟨7, 5, Int32.minValue, some ⟨Int32.minValue, -3⟩, 0, 100, false⟩
    let s : Skill := ⟨⟨7⟩, 5, ⟨-93824992236886⟩, 0, 100, false⟩
    d.skill = .ok s ∧ IsGreatest {u : ℤ | (u : ℚ) / 65536 ≤ d.intended} (-93824992236886) ∧
      d.intended < 0 := by
  intro d s
  have found : d.skill = .ok s := by decide
  obtain ⟨-, -, ranges⟩ := range_rounds_down d
  obtain ⟨largest, -, sign⟩ := ranges s found
  exact ⟨found, largest, not_le.1 (mt sign.2 (by decide))⟩

end SkillDraft

end Skirmish
