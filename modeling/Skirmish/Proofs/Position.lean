import Mathlib.Algebra.Order.Ring.Abs
import Mathlib.Algebra.Order.Ring.Int
import Mathlib.Tactic.Lemma
import Skirmish.Intake

/-!
# How far a range reaches

The square of a distance can take more than the 128 bits it is worked out in, since the coordinates
take up all of their 64. As long as it fits, a range reaches as far as it says; where it does not,
checked arithmetic overflows, and it depends on the squares of the two differences in which operation.
Positions in the middle half of either axis are never too far apart.

Without checks the square of a distance that does not fit is whole turns of 128 bits off, and a
position may count as near because it is too far away.
-/

namespace Skirmish

namespace Wrap

/-- The largest signed number of 128 bits. -/
def largest : Int := 0x7fffffffffffffffffffffffffffffff

/-- How many numbers 128 bits tell apart. -/
def turn : Int := 0x100000000000000000000000000000000

end Wrap

open Wrap

namespace Position

/-- The square of the difference between the columns, in as many bits as it takes. -/
def columnSquare (p q : Position) : Int := (p.x.units - q.x.units) * (p.x.units - q.x.units)

/-- The square of the difference between the rows, in as many bits as it takes. -/
def rowSquare (p q : Position) : Int := (p.y.units - q.y.units) * (p.y.units - q.y.units)

/-- The square of the distance, in units of `2 ^ -32`, in as many bits as it takes. -/
def trueSquare (p q : Position) : Int := p.columnSquare q + p.rowSquare q

/-- Do 128 bits hold the squares of the two differences, and their sum? -/
def Fits (p q : Position) : Prop :=
  p.columnSquare q ≤ largest ∧ p.rowSquare q ≤ largest ∧ p.trueSquare q ≤ largest

/-- Is `q` at most `range` away from `p`? -/
def Near (p q : Position) (range : Fixed) : Prop :=
  0 ≤ range.units ∧ p.trueSquare q ≤ range.units * range.units

/-- Does the position lie in the middle half of either axis? -/
def Central (p : Position) : Prop :=
  (-0x4000000000000000 ≤ p.x.units ∧ p.x.units < 0x4000000000000000) ∧
    -0x4000000000000000 ≤ p.y.units ∧ p.y.units < 0x4000000000000000

instance (p q : Position) : Decidable (p.Fits q) := inferInstanceAs (Decidable (_ ∧ _))

instance (p q : Position) (range : Fixed) : Decidable (p.Near q range) :=
  inferInstanceAs (Decidable (_ ∧ _))

instance (p : Position) : Decidable p.Central := inferInstanceAs (Decidable (_ ∧ _))

variable {p q : Position} {range : Fixed}

/-! ### Bounds -/

lemma columnSquare_nonneg (p q : Position) : 0 ≤ p.columnSquare q := mul_self_nonneg _

lemma rowSquare_nonneg (p q : Position) : 0 ≤ p.rowSquare q := mul_self_nonneg _

lemma trueSquare_nonneg (p q : Position) : 0 ≤ p.trueSquare q :=
  add_nonneg (p.columnSquare_nonneg q) (p.rowSquare_nonneg q)

lemma mul_self_le {i bound : Int} (low : -bound ≤ i) (high : i ≤ bound) : i * i ≤ bound * bound := by
  have apart : |i| ≤ bound := abs_le.2 ⟨low, high⟩
  rw [← abs_mul_abs_self]
  exact mul_le_mul apart apart (abs_nonneg _) (le_trans (abs_nonneg _) apart)

/-- Two coordinates are less than a number of sixty-five bits apart. -/
lemma sq_units_sub_le (a b : Fixed) :
    (a.units - b.units) * (a.units - b.units) ≤ 0xffffffffffffffff * 0xffffffffffffffff := by
  have := a.units_lower
  have := a.units_upper
  have := b.units_lower
  have := b.units_upper
  apply mul_self_le <;> omega

lemma trueSquare_lt (p q : Position) : p.trueSquare q < 2 * turn := by
  have columns : p.columnSquare q ≤ _ := sq_units_sub_le p.x q.x
  have rows : p.rowSquare q ≤ _ := sq_units_sub_le p.y q.y
  rw [trueSquare, turn]
  omega

lemma sq_range_le (h : 0 ≤ range.units) :
    range.units * range.units ≤ 0x7fffffffffffffff * 0x7fffffffffffffff :=
  mul_le_mul range.units_upper range.units_upper h (by decide)

/-- The sum is the largest of the three. -/
lemma fits_iff : p.Fits q ↔ p.trueSquare q ≤ largest := by
  have columns := p.columnSquare_nonneg q
  have rows := p.rowSquare_nonneg q
  rw [Fits, trueSquare]
  omega

lemma Central.fits (hp : p.Central) (hq : q.Central) : p.Fits q := by
  obtain ⟨⟨_, _⟩, _, _⟩ := hp
  obtain ⟨⟨_, _⟩, _, _⟩ := hq
  have columns : p.columnSquare q ≤ 0x7fffffffffffffff * 0x7fffffffffffffff := by
    apply mul_self_le <;> omega
  have rows : p.rowSquare q ≤ 0x7fffffffffffffff * 0x7fffffffffffffff := by
    apply mul_self_le <;> omega
  rw [fits_iff, trueSquare, largest]
  omega

/-! ### The checked square -/

lemma distanceSquaredChecked_eq (p q : Position) : p.distanceSquaredChecked q =
    if largest < p.columnSquare q ∨ largest < p.rowSquare q then .error .multiply
    else if largest < p.trueSquare q then .error .add
    else .ok (p.trueSquare q) := by
  have columns := p.columnSquare_nonneg q
  have rows := p.rowSquare_nonneg q
  have sum := p.trueSquare_nonneg q
  show (do
    let columns ← Checked.int128 .multiply (p.columnSquare q)
    let rows ← Checked.int128 .multiply (p.rowSquare q)
    Checked.int128 .add (columns + rows)) = _
  rcases Int.lt_or_le largest (p.columnSquare q) with wide | narrow
  · rw [if_pos (.inl wide), Checked.int128_of_lt wide]
    rfl
  rw [Checked.int128_of_le columns narrow]
  rcases Int.lt_or_le largest (p.rowSquare q) with high | low
  · rw [if_pos (.inr high), Checked.int128_of_lt high]
    rfl
  rw [Checked.int128_of_le rows low, if_neg (by omega)]
  show Checked.int128 .add (p.trueSquare q) = _
  rcases Int.lt_or_le largest (p.trueSquare q) with far | near
  · rw [if_pos far, Checked.int128_of_lt far]
  · rw [if_neg (Int.not_lt.2 near), Checked.int128_of_le sum near]

/-- The square of a range never overflows, so it is only the distance that can. -/
lemma withinChecked_eq (p q : Position) (range : Fixed) : p.withinChecked q range =
    if range.units < 0 then .ok false
    else (p.distanceSquaredChecked q).map fun d => decide (d ≤ range.units * range.units) := by
  rw [withinChecked]
  split
  · rfl
  · rename_i reaches
    have short := sq_range_le (Int.not_lt.1 reaches)
    rw [Checked.int128_of_le (mul_self_nonneg _) (by omega)]
    cases p.distanceSquaredChecked q <;> rfl

lemma distanceSquaredChecked_eq_ok_iff {d : Int} :
    p.distanceSquaredChecked q = .ok d ↔ p.Fits q ∧ d = p.trueSquare q := by
  rw [distanceSquaredChecked_eq, Fits]
  split
  · simp only [reduceCtorEq, false_iff]
    omega
  · split
    · simp only [reduceCtorEq, false_iff]
      omega
    · rw [Except.ok.injEq]
      omega

/-- The square of one of the differences overflows. -/
lemma distanceSquaredChecked_eq_multiply_iff : p.distanceSquaredChecked q = .error .multiply ↔
    largest < p.columnSquare q ∨ largest < p.rowSquare q := by
  rw [distanceSquaredChecked_eq]
  split
  · rename_i overflows
    simpa using overflows
  · rename_i square
    split <;> simpa using square

/-- Both squares fit, and only their sum overflows. -/
lemma distanceSquaredChecked_eq_add_iff : p.distanceSquaredChecked q = .error .add ↔
    p.columnSquare q ≤ largest ∧ p.rowSquare q ≤ largest ∧ largest < p.trueSquare q := by
  rw [distanceSquaredChecked_eq]
  split
  · simp only [Except.error.injEq, reduceCtorEq, false_iff]
    omega
  · split
    · simp only [true_iff]
      omega
    · simp only [reduceCtorEq, false_iff]
      omega

lemma withinChecked_eq_ok_iff {b : Bool} : p.withinChecked q range = .ok b ↔
    (range.units < 0 ∨ p.Fits q) ∧ (b = true ↔ p.Near q range) := by
  rw [withinChecked_eq]
  rcases Int.lt_or_le range.units 0 with negative | reaches
  · simp [negative, Near, Int.not_le.2 negative, eq_comm]
  rw [if_neg (Int.not_lt.2 reaches)]
  cases square : p.distanceSquaredChecked q with
  | error operation =>
    have overflows : ¬p.Fits q := by
      intro fits
      simp [distanceSquaredChecked_eq_ok_iff.2 ⟨fits, rfl⟩] at square
    simp [Except.map, overflows, Int.not_lt.2 reaches]
  | ok d =>
    obtain ⟨fits, rfl⟩ := distanceSquaredChecked_eq_ok_iff.1 square
    cases b <;> simp [Except.map, fits, Near, reaches]

lemma withinChecked_eq_error_iff {operation : Overflow} :
    p.withinChecked q range = .error operation ↔
      0 ≤ range.units ∧ p.distanceSquaredChecked q = .error operation := by
  rw [withinChecked_eq]
  rcases Int.lt_or_le range.units 0 with negative | reaches
  · simp [negative, Int.not_le.2 negative]
  · rw [if_neg (Int.not_lt.2 reaches)]
    cases p.distanceSquaredChecked q <;> simp [Except.map, reaches]

/-- Checked arithmetic works the square of a distance out exactly if it fits. Otherwise the square of
one of the differences overflows, or only their sum does, and there is no answer to whether the
position is within a range that is not negative. Every answer that there is, is right. -/
theorem within_exact_iff (p q : Position) :
    (p.Fits q ↔ p.trueSquare q ≤ largest) ∧
    (∀ d, p.distanceSquaredChecked q = .ok d ↔ p.Fits q ∧ d = p.trueSquare q) ∧
    (p.distanceSquaredChecked q = .error .multiply ↔
      largest < p.columnSquare q ∨ largest < p.rowSquare q) ∧
    (p.distanceSquaredChecked q = .error .add ↔
      p.columnSquare q ≤ largest ∧ p.rowSquare q ≤ largest ∧ largest < p.trueSquare q) ∧
    (∀ range b, p.withinChecked q range = .ok b ↔
      (range.units < 0 ∨ p.Fits q) ∧ (b = true ↔ p.Near q range)) ∧
    ∀ range operation, p.withinChecked q range = .error operation ↔
      0 ≤ range.units ∧ p.distanceSquaredChecked q = .error operation :=
  ⟨fits_iff, fun _ => distanceSquaredChecked_eq_ok_iff, distanceSquaredChecked_eq_multiply_iff,
    distanceSquaredChecked_eq_add_iff, fun _ _ => withinChecked_eq_ok_iff,
    fun _ _ => withinChecked_eq_error_iff⟩

/-- From the origin the squares of both differences to the lowest corner fit, and their sum is one
over the largest number. A cast from the origin at that corner breaks down, although its range is ten
tiles; without checks the sum is kept as the least number, and the cast is taken in. -/
theorem within_lowest_corner :
    let corner : Position := ⟨⟨Int64.minValue⟩, ⟨Int64.minValue⟩⟩
    let jab := Skill.basic ⟨1⟩ 5 (.ofWhole 10)
    let rules := Rules.ofSkills ⟨[jab]⟩
    let z : Zone := ⟨⟨1⟩, [.fresh ⟨1⟩ 10 zero], .field⟩
    let throw := Command.atPoint ⟨1⟩ ⟨1⟩ corner
    ¬zero.Fits corner ∧ zero.distanceSquaredChecked corner = .error .add ∧
      ¬zero.Near corner jab.range ∧ zero.withinChecked corner jab.range = .error .add ∧
      throw.breakdown? rules z = some (.overflow .add) ∧
      throw.intake rules z ⟨1⟩ = .ok ⟨⟨1⟩, ⟨1⟩, ⟨1⟩, .point, .none, corner⟩ := by
  refine ⟨?_, ?_, ?_, ?_, ?_, ?_⟩ <;> decide +kernel

/-! ### Without checks -/

lemma distanceSquared_eq (p q : Position) :
    p.distanceSquared q = Wrap.int128 (p.trueSquare q) :=
  Wrap.int128_add ..

/-- The kept square is the one number of 128 bits that is whole turns off the true square. -/
lemma distanceSquared_eq_sub (k : Int) (low : -largest ≤ p.trueSquare q - k * turn + 1)
    (high : p.trueSquare q - k * turn ≤ largest) :
    p.distanceSquared q = p.trueSquare q - k * turn := by
  rw [largest, turn] at low high
  rw [distanceSquared_eq, ← Wrap.int128_sub_turns _ k, turn]
  apply Wrap.int128_of_mem <;> omega

/-- When a range is right about a position: if it is negative, if the square of the distance fits, or
if the square is one turn off and the range falls short even of what is left. -/
theorem within_iff_near_iff (p q : Position) (range : Fixed) :
    (p.within q range = true ↔ p.Near q range) ↔
      range.units < 0 ∨ p.trueSquare q ≤ largest ∨
        turn + range.units * range.units < p.trueSquare q ∧ p.trueSquare q ≤ largest + turn := by
  have nonneg := trueSquare_nonneg p q
  have bounded := trueSquare_lt p q
  rcases Int.lt_or_le range.units 0 with negative | reaches
  · simp [within_iff, Near, negative, Int.not_le.2 negative]
  have short := sq_range_le reaches
  have square_nonneg := mul_self_nonneg range.units
  rw [within_iff, Near, and_iff_right reaches, and_iff_right reaches]
  -- the true square is less than two turns, so at most two are taken off
  obtain fits | once | twice : p.trueSquare q ≤ largest ∨
      (largest < p.trueSquare q ∧ p.trueSquare q ≤ largest + turn) ∨
      largest + turn < p.trueSquare q := by omega
  · rw [distanceSquared_eq_sub 0] <;> simp only [largest, turn] at * <;> omega
  · rw [distanceSquared_eq_sub 1] <;> simp only [largest, turn] at * <;> omega
  · rw [distanceSquared_eq_sub 2] <;> simp only [largest, turn] at * <;> omega

/-- Every answer of checked arithmetic is the one that is given without checks. -/
theorem within_of_withinChecked {b : Bool} (h : p.withinChecked q range = .ok b) :
    p.within q range = b := by
  obtain ⟨answered, right⟩ := withinChecked_eq_ok_iff.1 h
  rw [Bool.eq_iff_iff, right]
  exact (within_iff_near_iff p q range).2 (answered.imp_right fun fits => .inl (fits_iff.1 fits))

end Position

end Skirmish
