import Mathlib.Algebra.Order.Field.Basic
import Mathlib.Algebra.Order.Ring.Int
import Mathlib.Algebra.Order.Ring.Rat
import Mathlib.Tactic.FieldSimp
import Mathlib.Tactic.Linarith
import Mathlib.Tactic.Ring
import Skirmish.Terrain.Sight

/-!
# The tiles a line touches

A line touches a tile if the closed square of the tile meets the segment between the two centres
(`Line.Meets`). In whole numbers this is a bound on the offset of the tile from the line, within the
box that the ends of the line span (`Line.Touches`); at an exact corner it holds of all four tiles
around.
-/

namespace Skirmish

namespace Line

/-- Does the tile lie in the box that the ends of the line span? -/
def Spans (l : Line) (t : Tile) : Prop :=
  (min l.start.x l.finish.x ≤ t.x ∧ t.x ≤ max l.start.x l.finish.x) ∧
    min l.start.y l.finish.y ≤ t.y ∧ t.y ≤ max l.start.y l.finish.y

/-- Does the tile lie in the box of the line, and no further off the line than its square
reaches? -/
def Touches (l : Line) (t : Tile) : Prop :=
  l.Spans t ∧
    2 * |(|t.x - l.start.x| * |l.dy| - |t.y - l.start.y| * |l.dx|)| ≤ |l.dx| + |l.dy|

instance (l : Line) (t : Tile) : Decidable (l.Spans t) :=
  inferInstanceAs (Decidable ((_ ∧ _) ∧ _ ∧ _))

instance (l : Line) (t : Tile) : Decidable (l.Touches t) := inferInstanceAs (Decidable (_ ∧ _))

/-- Does the closed square of the tile meet the segment between the centres of the two ends? -/
def Meets (l : Line) (t : Tile) : Prop :=
  ∃ s : ℚ, 0 ≤ s ∧ s ≤ 1 ∧
    (t.x ≤ l.start.x + 1 / 2 + s * l.dx ∧ l.start.x + 1 / 2 + s * l.dx ≤ t.x + 1) ∧
    t.y ≤ l.start.y + 1 / 2 + s * l.dy ∧ l.start.y + 1 / 2 + s * l.dy ≤ t.y + 1

/-! ### Offsets -/

/-- How far the tile `x` columns and `y` rows along is off the line, to its one side or, below zero,
to the other. -/
def offset (l : Line) (x y : Nat) : Int := x * l.rows - y * l.columns

variable (l : Line) {x y i j : Nat}

lemma decision_eq (x y : Nat) : l.decision x y = 2 * l.offset x y + l.rows - l.columns := by
  simp only [decision, columnWay, rowWay, offset]
  ring

@[simp] lemma offset_start : l.offset 0 0 = 0 := by simp [offset]

@[simp] lemma offset_finish : l.offset l.columns l.rows = 0 := by
  simp only [offset]
  ring

lemma offset_succ_left (x y : Nat) : l.offset (x + 1) y = l.offset x y + l.rows := by
  simp only [offset]
  push_cast
  ring

lemma offset_succ_right (x y : Nat) : l.offset x (y + 1) = l.offset x y - l.columns := by
  simp only [offset]
  push_cast
  ring

lemma offset_le_right (x : Nat) (h : y ≤ j) : l.offset x j ≤ l.offset x y := by
  have : (y : Int) * l.columns ≤ j * l.columns := by gcongr
  simp only [offset]
  linarith

/-- The line touches the tile `i` columns and `j` rows along. -/
structure TouchesAt (i j : Nat) : Prop where
  column : i ≤ l.columns
  row : j ≤ l.rows
  lower : -(l.columns + l.rows) ≤ 2 * l.offset i j
  upper : 2 * l.offset i j ≤ l.columns + l.rows

/-! ### Columns for rows -/

/-- The line with columns and rows changed for each other. -/
def transpose (l : Line) : Line := ⟨⟨l.start.y, l.start.x⟩, ⟨l.finish.y, l.finish.x⟩⟩

@[simp] lemma columns_transpose : l.transpose.columns = l.rows := rfl

@[simp] lemma rows_transpose : l.transpose.rows = l.columns := rfl

@[simp] lemma offset_transpose (x y : Nat) : l.transpose.offset y x = -l.offset x y := by
  simp [offset]

@[simp] lemma decision_transpose (x y : Nat) : l.transpose.decision y x = -l.decision x y := by
  simp only [decision_eq, offset_transpose, columns_transpose, rows_transpose]
  ring

variable {l}

/-- Where the line does not meet the next column first, its transpose does not meet the next row
first. -/
lemma decision_transpose_nonpos (first : 0 ≤ l.decision x y) : l.transpose.decision y x ≤ 0 := by
  rw [decision_transpose]
  exact Int.neg_nonpos_of_nonneg first

lemma TouchesAt.transpose (touches : l.TouchesAt i j) : l.transpose.TouchesAt j i := by
  have lower := touches.lower
  have upper := touches.upper
  refine ⟨touches.row, touches.column, ?_, ?_⟩
  · rw [offset_transpose, columns_transpose, rows_transpose]
    omega
  · rw [offset_transpose, columns_transpose, rows_transpose]
    omega

end Line

/-! ### One axis -/

/-- Between two numbers lie those that a stride towards the second, of at most their distance, leads
to from the first. -/
lemma between_iff_stride {s f t : Int} :
    (min s f ≤ t ∧ t ≤ max s f) ↔ ∃ i : Nat, i ≤ (f - s).natAbs ∧ t = s + (f - s).sign * i := by
  rcases Int.lt_trichotomy s f with up | same | down
  · rw [Int.sign_eq_one_of_pos (by omega)]
    constructor
    · intro h
      exact ⟨(t - s).toNat, by omega, by omega⟩
    · rintro ⟨i, hi, rfl⟩
      omega
  · subst same
    rw [Int.sub_self, Int.sign_zero]
    constructor
    · intro h
      exact ⟨0, Nat.zero_le _, by omega⟩
    · rintro ⟨i, hi, rfl⟩
      omega
  · rw [Int.sign_eq_neg_one_of_neg (by omega)]
    constructor
    · intro h
      exact ⟨(s - t).toNat, by omega, by omega⟩
    · rintro ⟨i, hi, rfl⟩
      omega

lemma abs_sign_mul {d : Int} {i : Nat} (h : i ≤ d.natAbs) : |d.sign * i| = i := by
  rcases Int.lt_trichotomy d 0 with down | rfl | up
  · simp [Int.sign_eq_neg_one_of_neg down]
  · obtain rfl : i = 0 := by simpa using h
    rfl
  · simp [Int.sign_eq_one_of_pos up]

namespace Line

variable {l : Line} {i j : Nat}

/-- The box of a line holds the tiles that its columns and rows lead to. -/
lemma spans_iff {t : Tile} :
    l.Spans t ↔ ∃ i j, i ≤ l.columns ∧ j ≤ l.rows ∧ t = l.tileAt i j := by
  obtain ⟨x, y⟩ := t
  simp only [Spans, between_iff_stride, tileAt, Tile.mk.injEq]
  constructor
  · rintro ⟨⟨i, hi, hx⟩, j, hj, hy⟩
    exact ⟨i, j, hi, hj, hx, hy⟩
  · rintro ⟨i, j, hi, hj, hx, hy⟩
    exact ⟨⟨i, hi, hx⟩, j, hj, hy⟩

lemma touches_tileAt (hi : i ≤ l.columns) (hj : j ≤ l.rows) :
    l.Touches (l.tileAt i j) ↔ l.TouchesAt i j := by
  have spans : l.Spans (l.tileAt i j) := spans_iff.2 ⟨i, j, hi, hj, rfl⟩
  have column : |(l.tileAt i j).x - l.start.x| = i := by
    rw [tileAt, add_sub_cancel_left]
    exact abs_sign_mul hi
  have row : |(l.tileAt i j).y - l.start.y| = j := by
    rw [tileAt, add_sub_cancel_left]
    exact abs_sign_mul hj
  have columns : |l.dx| = l.columns := Int.abs_eq_natAbs l.dx
  have rows : |l.dy| = l.rows := Int.abs_eq_natAbs l.dy
  have near : 2 * |(i * l.rows - j * l.columns : Int)| ≤ l.columns + l.rows ↔
      -(l.columns + l.rows : Int) ≤ 2 * l.offset i j ∧ 2 * l.offset i j ≤ l.columns + l.rows := by
    rw [← abs_le, abs_mul, abs_two, offset]
  rw [Touches, column, row, columns, rows, near]
  constructor
  · rintro ⟨-, lower, upper⟩
    exact ⟨hi, hj, lower, upper⟩
  · intro touches
    exact ⟨spans, touches.lower, touches.upper⟩

lemma touches_iff {t : Tile} : l.Touches t ↔ ∃ i j, l.TouchesAt i j ∧ t = l.tileAt i j := by
  constructor
  · intro touches
    obtain ⟨i, j, hi, hj, rfl⟩ := spans_iff.1 touches.1
    exact ⟨i, j, (touches_tileAt hi hj).1 touches, rfl⟩
  · rintro ⟨i, j, touches, rfl⟩
    exact (touches_tileAt touches.column touches.row).2 touches

/-- The columns and rows of a box lead to different tiles. -/
lemma tileAt_inj {i' j' : Nat} (hi : i ≤ l.columns) (hj : j ≤ l.rows) (hi' : i' ≤ l.columns)
    (hj' : j' ≤ l.rows) : l.tileAt i j = l.tileAt i' j' ↔ i = i' ∧ j = j' := by
  constructor
  · intro same
    obtain ⟨hx, hy⟩ := Tile.mk.inj same
    rw [add_right_inj] at hx hy
    have columns := abs_sign_mul hi
    have rows := abs_sign_mul hj
    have columns' := abs_sign_mul hi'
    have rows' := abs_sign_mul hj'
    exact ⟨by exact_mod_cast columns.symm.trans ((congrArg _ hx).trans columns'),
      by exact_mod_cast rows.symm.trans ((congrArg _ hy).trans rows')⟩
  · rintro ⟨rfl, rfl⟩
    rfl

@[simp] lemma tileAt_start : l.tileAt 0 0 = l.start := by simp [tileAt]

@[simp] lemma tileAt_finish : l.tileAt l.columns l.rows = l.finish := by
  simp only [tileAt, columns, rows, Int.sign_mul_natAbs, dx, dy]
  cases l.finish
  simp

/-! ### The segment between the centres -/

/-- Along one axis, the part of a segment over `c` columns at which it enters the one that is `i`
columns along. -/
def entry (i c : Nat) : ℚ := if i = 0 then 0 else (2 * i - 1) / (2 * c)

lemma entry_nonneg (i c : Nat) : 0 ≤ entry i c := by
  unfold entry
  split
  · exact le_rfl
  · rename_i some
    have : (1 : ℚ) ≤ i := by exact_mod_cast Nat.one_le_iff_ne_zero.2 some
    apply div_nonneg
    · linarith
    · positivity

lemma entry_le_one {i c : Nat} (h : i ≤ c) : entry i c ≤ 1 := by
  unfold entry
  split
  · exact zero_le_one
  · have : (i : ℚ) ≤ c := by exact_mod_cast h
    apply div_le_one_of_le₀
    · linarith
    · positivity

/-- From the entry on, the segment is past the near side of the column. -/
lemma le_mul_of_entry_le {i c : Nat} (h : i ≤ c) {s : ℚ} (entered : entry i c ≤ s) :
    (i : ℚ) - 1 / 2 ≤ s * c := by
  unfold entry at entered
  split at entered
  · rename_i none
    have : 0 ≤ s * c := by positivity
    rw [none, Nat.cast_zero]
    linarith
  · rename_i some
    have : (0 : ℚ) < 2 * c := by
      have : 0 < c := by omega
      positivity
    rw [div_le_iff₀ this] at entered
    linarith

/-- Where the segment enters a column it is not past the far side of a row that it touches. -/
lemma entry_mul_le {i j c r : Nat} (hi : i ≤ c)
    (near : 2 * ((i : ℚ) * r - j * c) ≤ c + r) : entry i c * r ≤ (j : ℚ) + 1 / 2 := by
  unfold entry
  split
  · rw [zero_mul]
    positivity
  · have : (0 : ℚ) < 2 * c := by
      have : 0 < c := by omega
      positivity
    rw [div_mul_eq_mul_div, div_le_iff₀ this]
    linarith

lemma cast_offset (l : Line) (i j : Nat) :
    ((l.offset i j : Int) : ℚ) = i * l.rows - j * l.columns := by
  simp [offset]

/-- Where the segment has entered both column and row of a touched tile it is not past the far side
of the column. -/
lemma TouchesAt.max_entry_mul_le (touches : l.TouchesAt i j) :
    max (entry i l.columns) (entry j l.rows) * l.columns ≤ (i : ℚ) + 1 / 2 := by
  rcases max_choice (entry i l.columns) (entry j l.rows) with later | later
  · rw [later]
    exact entry_mul_le touches.column (by linarith)
  · have lower : -(l.columns + l.rows : ℚ) ≤ 2 * (i * l.rows - j * l.columns) := by
      rw [← cast_offset]
      exact_mod_cast touches.lower
    rw [later]
    exact entry_mul_le touches.row (by linarith)

/-- A touched tile is met where the segment has entered both its column and its row. -/
lemma TouchesAt.exists_entered (touches : l.TouchesAt i j) :
    ∃ s : ℚ, 0 ≤ s ∧ s ≤ 1 ∧ ((i : ℚ) - 1 / 2 ≤ s * l.columns ∧ s * l.columns ≤ i + 1 / 2) ∧
      (j : ℚ) - 1 / 2 ≤ s * l.rows ∧ s * l.rows ≤ j + 1 / 2 := by
  have far_row := touches.transpose.max_entry_mul_le
  rw [columns_transpose, rows_transpose, max_comm] at far_row
  refine ⟨max (entry i l.columns) (entry j l.rows), ?_, ?_, ⟨?_, touches.max_entry_mul_le⟩, ?_,
    far_row⟩
  · exact le_max_of_le_left (entry_nonneg i l.columns)
  · exact max_le (entry_le_one touches.column) (entry_le_one touches.row)
  · exact le_mul_of_entry_le touches.column (le_max_left ..)
  · exact le_mul_of_entry_le touches.row (le_max_right ..)

/-- Where the segment is in a column and in a row at once, it touches their tile. -/
lemma touchesAt_of_passed (hi : i ≤ l.columns) (hj : j ≤ l.rows) {s : ℚ}
    (column : (i : ℚ) - 1 / 2 ≤ s * l.columns ∧ s * l.columns ≤ i + 1 / 2)
    (row : (j : ℚ) - 1 / 2 ≤ s * l.rows ∧ s * l.rows ≤ j + 1 / 2) : l.TouchesAt i j := by
  have columns : (0 : ℚ) ≤ l.columns := Nat.cast_nonneg _
  have rows : (0 : ℚ) ≤ l.rows := Nat.cast_nonneg _
  have left := mul_le_mul_of_nonneg_right column.1 rows
  have right := mul_le_mul_of_nonneg_right column.2 rows
  have below := mul_le_mul_of_nonneg_right row.1 columns
  have above := mul_le_mul_of_nonneg_right row.2 columns
  refine ⟨hi, hj, ?_, ?_⟩
  · rw [← Int.cast_le (R := ℚ)]
    push_cast [cast_offset]
    linarith
  · rw [← Int.cast_le (R := ℚ)]
    push_cast [cast_offset]
    linarith

/-- Along one axis, the segment is in the square of a tile exactly when it has gone as many columns
as lead to the tile, give or take half a column. -/
lemma within_iff_stride {p d : Int} {k : Nat} (h : k ≤ d.natAbs) (s : ℚ) :
    (((p + d.sign * k : Int) : ℚ) ≤ p + 1 / 2 + s * d ∧
      p + 1 / 2 + s * d ≤ ((p + d.sign * k : Int) : ℚ) + 1) ↔
    (k : ℚ) - 1 / 2 ≤ s * d.natAbs ∧ s * d.natAbs ≤ k + 1 / 2 := by
  rcases Int.lt_trichotomy d 0 with down | rfl | up
  · have size : ((d.natAbs : Nat) : ℚ) = -d := by
      rw [Nat.cast_natAbs, abs_of_neg down, Int.cast_neg]
    rw [Int.sign_eq_neg_one_of_neg down, size]
    push_cast
    constructor
    · rintro ⟨lower, upper⟩
      exact ⟨by linarith, by linarith⟩
    · rintro ⟨lower, upper⟩
      exact ⟨by linarith, by linarith⟩
  · obtain rfl : k = 0 := by simpa using h
    norm_num
  · have size : ((d.natAbs : Nat) : ℚ) = d := by
      rw [Nat.cast_natAbs, abs_of_pos up]
    rw [Int.sign_eq_one_of_pos up, size]
    push_cast
    constructor
    · rintro ⟨lower, upper⟩
      exact ⟨by linarith, by linarith⟩
    · rintro ⟨lower, upper⟩
      exact ⟨by linarith, by linarith⟩

/-- Along one axis, the segment meets no square beyond those of its ends. -/
lemma between_of_within {p q t : Int} {s : ℚ} (hs : 0 ≤ s) (hs' : s ≤ 1)
    (h : (t : ℚ) ≤ p + 1 / 2 + s * (q - p : Int) ∧ p + 1 / 2 + s * (q - p : Int) ≤ (t : ℚ) + 1) :
    min p q ≤ t ∧ t ≤ max p q := by
  obtain ⟨lower, upper⟩ := h
  push_cast at lower upper
  rcases le_total p q with up | down
  · have up' : (0 : ℚ) ≤ q - p := sub_nonneg.2 (Int.cast_le.2 up)
    have gone : 0 ≤ s * (q - p) := mul_nonneg hs up'
    have left : s * (q - p) ≤ q - p := mul_le_of_le_one_left up' hs'
    rw [min_eq_left up, max_eq_right up, ← Int.lt_add_one_iff, ← Int.lt_add_one_iff,
      ← Int.cast_lt (R := ℚ), ← Int.cast_lt (R := ℚ)]
    push_cast
    exact ⟨by linarith, by linarith⟩
  · have down' : (q - p : ℚ) ≤ 0 := sub_nonpos.2 (Int.cast_le.2 down)
    have gone : s * (q - p) ≤ 0 := mul_nonpos_of_nonneg_of_nonpos hs down'
    have left : q - p ≤ s * (q - p) := le_mul_of_le_one_left down' hs'
    rw [min_eq_right down, max_eq_left down, ← Int.lt_add_one_iff, ← Int.lt_add_one_iff,
      ← Int.cast_lt (R := ℚ), ← Int.cast_lt (R := ℚ)]
    push_cast
    exact ⟨by linarith, by linarith⟩

/-- A line touches exactly the tiles whose squares meet the segment between its ends. -/
theorem touches_iff_meets (t : Tile) : l.Touches t ↔ l.Meets t := by
  constructor
  · intro touches
    obtain ⟨i, j, at_tile, rfl⟩ := touches_iff.1 touches
    obtain ⟨s, hs, hs', column, row⟩ := at_tile.exists_entered
    exact ⟨s, hs, hs', (within_iff_stride at_tile.column s).2 column,
      (within_iff_stride at_tile.row s).2 row⟩
  · rintro ⟨s, hs, hs', column, row⟩
    have spans : l.Spans t := ⟨between_of_within hs hs' column, between_of_within hs hs' row⟩
    obtain ⟨i, j, hi, hj, rfl⟩ := spans_iff.1 spans
    exact touches_iff.2 ⟨i, j, touchesAt_of_passed hi hj ((within_iff_stride hi s).1 column)
      ((within_iff_stride hj s).1 row), rfl⟩

end Line

end Skirmish
