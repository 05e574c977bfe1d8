import Skirmish.Proofs.Terrain.Sight

/-!
# How far a look gets

A look along a line goes on from one place to the next until something is in the way or the line
ends (`Line.Reaches`). At each place reached the line passes through the inside of the tile
(`Line.Passes`), and a look that finds its way clear reaches every such place before the end.

What decides on a stride is the difference of two products. It stays small, but the products do not:
on a clear way they grow to about twice the columns times the rows (`Line.longestWay`), which is
more than sixty-four bits hold if the line is long enough.
-/

namespace Skirmish

namespace Line

/-- A look comes to where `x` columns and `y` rows are crossed, and goes on from there. -/
inductive Reaches (l : Line) (blocked : Tile → Bool) : Nat → Nat → Prop
  | start (apart : l.start ≠ l.finish) : l.Reaches blocked 0 0
  | stride {x y : Nat} (here : l.Reaches blocked x y)
      (clear : (l.questions x y).any blocked = false) (misses : l.landing x y ≠ l.finish) :
      l.Reaches blocked (l.stride x y).1 (l.stride x y).2

/-- The line passes through the inside of the tile `x` columns and `y` rows along. -/
structure Passes (l : Line) (x y : Nat) : Prop where
  column : x ≤ l.columns
  row : y ≤ l.rows
  lower : -(l.columns + l.rows) < 2 * l.offset x y
  upper : 2 * l.offset x y < l.columns + l.rows

variable {l : Line} {blocked : Tile → Bool} {x y i j : Nat}

lemma Passes.touchesAt (passes : l.Passes x y) : l.TouchesAt x y :=
  ⟨passes.column, passes.row, passes.lower.le, passes.upper.le⟩

lemma Passes.transpose (passes : l.Passes x y) : l.transpose.Passes y x := by
  have lower := passes.lower
  have upper := passes.upper
  refine ⟨passes.row, passes.column, ?_, ?_⟩
  · rw [offset_transpose, columns_transpose, rows_transpose]
    omega
  · rw [offset_transpose, columns_transpose, rows_transpose]
    omega

/-! ### What a look reaches -/

/-- A stride leads from the inside of one tile to the inside of the next. -/
lemma Passes.stride (passes : l.Passes x y) (more : x + y < l.columns + l.rows) :
    l.Passes (l.stride x y).1 (l.stride x y).2 := by
  have touches := passes.touchesAt
  have lands := touches.stride more
  have lower := passes.lower
  have upper := passes.upper
  have decides := l.decision_eq x y
  have inside : -(l.columns + l.rows) < 2 * l.offset (l.stride x y).1 (l.stride x y).2 ∧
      2 * l.offset (l.stride x y).1 (l.stride x y).2 < l.columns + l.rows := by
    rcases Int.lt_trichotomy (l.decision x y) 0 with neg | zero | pos
    · simp only [stride_of_neg neg, offset_succ_left]
      omega
    · have columns := column_left touches more zero.le
      have rows := row_left touches more zero.ge
      simp only [stride_of_zero zero, offset_succ_right, offset_succ_left]
      omega
    · simp only [stride_of_pos pos, offset_succ_right]
      omega
  exact ⟨lands.column, lands.row, inside.1, inside.2⟩

/-- Wherever a look gets, the line passes through the tile, and there is something left to cross. -/
theorem Reaches.passes (here : l.Reaches blocked x y) :
    l.Passes x y ∧ x + y < l.columns + l.rows := by
  induction here with
  | start apart =>
    have more := left_at_start apart
    refine ⟨⟨Nat.zero_le _, Nat.zero_le _, ?_, ?_⟩, more⟩
    · rw [offset_start]
      omega
    · rw [offset_start]
      omega
  | stride here clear misses ih =>
    obtain ⟨passes, more⟩ := ih
    have next := passes.stride more
    have column := next.column
    have row := next.row
    rw [ne_eq, landing_eq_finish_iff passes.touchesAt more] at misses
    exact ⟨next, by omega⟩

/-- A look is what is still to be looked at from each place that it reaches. -/
theorem Reaches.trace_eq (here : l.Reaches blocked x y) :
    ∃ asked, l.trace blocked = l.traceFrom blocked x y asked := by
  induction here with
  | start apart => exact ⟨[], by rw [trace, if_neg apart]⟩
  | @stride x y here clear misses ih =>
    obtain ⟨asked, trace⟩ := ih
    obtain ⟨passes, -⟩ := here.passes
    rw [traceFrom, if_pos ⟨passes.column, passes.row⟩] at trace
    simp only [clear, Bool.false_eq_true, if_false, if_neg misses] at trace
    exact ⟨_, trace⟩

/-- What a stride asks about but does not land on, the line only touches at a corner. -/
lemma Asks.eq_stride (asks : l.Asks x y i j) (passes : l.Passes i j) : (i, j) = l.stride x y := by
  have lower := passes.lower
  have upper := passes.upper
  have decides := l.decision_eq x y
  rcases asks with lands | ⟨corner, flank | flank⟩
  · exact lands
  · obtain ⟨rfl, rfl⟩ := Prod.mk.inj flank
    rw [offset_succ_left] at upper
    omega
  · obtain ⟨rfl, rfl⟩ := Prod.mk.inj flank
    rw [offset_succ_right] at lower
    omega

section Clear

variable (clear : ∀ t, l.Touches t → t ≠ l.start → blocked t = false)

include clear

/-- On a clear way nothing holds up a stride. -/
lemma Reaches.any_questions (here : l.Reaches blocked x y) :
    (l.questions x y).any blocked = false := by
  obtain ⟨passes, more⟩ := here.passes
  rw [any_questions_eq_false_iff passes.touchesAt more]
  intro i j asks
  have touches := asks.touchesAt passes.touchesAt more
  exact clear _ (touches_iff.2 ⟨i, j, touches, rfl⟩)
    (asks.tileAt_ne_start passes.touchesAt more)

/-- What the line passes through ahead of a place reached is reached as well. -/
lemma Reaches.reaches_of_ahead {x y : Nat} (here : l.Reaches blocked x y)
    (passes : l.Passes i j) (left : i + j < l.columns + l.rows) (ahead : l.Ahead x y i j) :
    l.Reaches blocked i j := by
  obtain ⟨at_here, more⟩ := here.passes
  have short : (l.stride x y).1 + (l.stride x y).2 < l.columns + l.rows →
      l.Reaches blocked (l.stride x y).1 (l.stride x y).2 := by
    intro short
    refine here.stride (here.any_questions clear) ?_
    rw [ne_eq, landing_eq_finish_iff at_here.touchesAt more]
    exact short.ne
  rcases Ahead.asks_or at_here.touchesAt more ahead with asks | ahead'
  · obtain ⟨rfl, rfl⟩ := Prod.ext_iff.1 (asks.eq_stride passes)
    exact short left
  · exact (short (ahead'.further.trans left)).reaches_of_ahead passes left ahead'
termination_by l.columns + l.rows - (x + y)
decreasing_by
  have := l.stride_progress x y
  omega

/-- A look that finds its way clear reaches every tile that the line passes through before its
end. -/
theorem reaches_of_passes (passes : l.Passes i j) (left : i + j < l.columns + l.rows) :
    l.Reaches blocked i j := by
  have apart : l.start ≠ l.finish := by
    intro same
    have columns : l.columns = 0 := by simp [columns, dx, same]
    have rows : l.rows = 0 := by simp [rows, dy, same]
    omega
  by_cases first : i + j = 0
  · obtain ⟨rfl, rfl⟩ : i = 0 ∧ j = 0 := by omega
    exact .start apart
  · refine (Reaches.start apart).reaches_of_ahead clear passes left ?_
    exact ⟨passes.touchesAt, Nat.zero_le _, Nat.zero_le _, by omega⟩

end Clear

/-! ### How large the products get -/

/-- The longest way, to the next column or to the next row, that a look along a clear line
measures. -/
def longestWay (l : Line) : Int :=
  2 * l.columns * l.rows + if l.columns = l.rows then -(l.columns : Int) else max l.columns l.rows

lemma columnWay_transpose (l : Line) (y : Nat) : l.transpose.columnWay y = l.rowWay y := by
  rw [rowWay, columnWay, rows_transpose]

lemma columnWay_nonneg (l : Line) (x : Nat) : 0 ≤ l.columnWay x := by
  rw [columnWay]
  positivity

lemma rowWay_nonneg (l : Line) (y : Nat) : 0 ≤ l.rowWay y :=
  columnWay_transpose l y ▸ l.transpose.columnWay_nonneg y

lemma longestWay_transpose (l : Line) : l.transpose.longestWay = l.longestWay := by
  rw [longestWay, longestWay, columns_transpose, rows_transpose]
  by_cases square : l.columns = l.rows
  · rw [if_pos square, if_pos square.symm, square]
  · rw [if_neg square, if_neg (Ne.symm square), max_comm]
    ring

/-- In its last column the line measures on only if it crosses more rows than columns. -/
lemma Passes.columnWay_le (passes : l.Passes x y) (more : x + y < l.columns + l.rows) :
    l.columnWay x ≤ l.longestWay := by
  have rows : (0 : Int) ≤ l.rows := Int.natCast_nonneg _
  rw [columnWay, longestWay]
  rcases Nat.lt_or_eq_of_le passes.column with before | rfl
  · have bound : (1 + 2 * x) * (l.rows : Int) ≤ (2 * l.columns - 1) * l.rows := by
      gcongr
      omega
    have expand : (2 * l.columns - 1) * (l.rows : Int) = 2 * l.columns * l.rows - l.rows := by ring
    split <;> omega
  · have upper := passes.upper
    have last := l.offset_le_right l.columns (show y ≤ l.rows - 1 by omega)
    have finish := l.offset_succ_right l.columns (l.rows - 1)
    rw [Nat.sub_add_cancel (by omega), offset_finish] at finish
    have fewer : l.columns < l.rows := by omega
    have expand : (1 + 2 * l.columns) * (l.rows : Int) = 2 * l.columns * l.rows + l.rows := by ring
    rw [if_neg fewer.ne, expand]
    omega

/-- No way that a look measures is longer. -/
theorem Reaches.ways_le (here : l.Reaches blocked x y) :
    l.columnWay x ≤ l.longestWay ∧ l.rowWay y ≤ l.longestWay := by
  obtain ⟨passes, more⟩ := here.passes
  refine ⟨passes.columnWay_le more, ?_⟩
  rw [← columnWay_transpose, ← longestWay_transpose]
  refine passes.transpose.columnWay_le ?_
  rw [columns_transpose, rows_transpose]
  omega

/-- In front of its last row, a line of more rows than columns passes through the last column. -/
lemma passes_last_column (fewer : l.columns < l.rows) : l.Passes l.columns (l.rows - 1) := by
  have finish := l.offset_succ_right l.columns (l.rows - 1)
  rw [Nat.sub_add_cancel (by omega), offset_finish] at finish
  exact ⟨le_rfl, by omega, by omega, by omega⟩

/-- In front of its end a diagonal passes through the tile at the last corner. -/
lemma passes_last_corner (square : l.columns = l.rows) (some : 0 < l.columns) :
    l.Passes (l.columns - 1) (l.rows - 1) := by
  have corner : l.offset (l.columns - 1) (l.rows - 1) = 0 := by
    rw [offset, square, sub_self]
  exact ⟨by omega, by omega, by omega, by omega⟩

/-- In front of its end, a look that finds its way clear measures the longest way. -/
theorem exists_reaches_longestWay (apart : l.start ≠ l.finish)
    (clear : ∀ t, l.Touches t → t ≠ l.start → blocked t = false) :
    ∃ x y, l.Reaches blocked x y ∧
      (l.columnWay x = l.longestWay ∨ l.rowWay y = l.longestWay) := by
  have some := left_at_start apart
  rcases Nat.lt_trichotomy l.columns l.rows with fewer | square | more
  · have passes := passes_last_column fewer
    refine ⟨_, _, reaches_of_passes clear passes (by omega), .inl ?_⟩
    rw [columnWay, longestWay, if_neg fewer.ne, max_eq_right (by omega)]
    ring
  · have passes := passes_last_corner square (by omega)
    refine ⟨_, _, reaches_of_passes clear passes (by omega), .inl ?_⟩
    rw [columnWay, longestWay, if_pos square, square]
    push_cast [Nat.cast_sub (show 1 ≤ l.rows by omega)]
    ring
  · have passes : l.Passes (l.columns - 1) l.rows :=
      (passes_last_column (l := l.transpose) more).transpose
    refine ⟨_, _, reaches_of_passes clear passes (by omega), .inr ?_⟩
    rw [rowWay, longestWay, if_neg more.ne', max_eq_left (by omega)]
    ring

/-- What decides on a stride is less than twice the longer side of the box. -/
theorem Reaches.abs_decision_lt (here : l.Reaches blocked x y) :
    |l.decision x y| < 2 * max (l.columns : Int) l.rows := by
  obtain ⟨passes, -⟩ := here.passes
  have lower := passes.lower
  have upper := passes.upper
  rw [decision_eq, abs_lt]
  omega

end Line

/-- Do sixty-four bits hold the number? -/
def Wrap.Holds64 (i : Int) : Prop := -0x8000000000000000 ≤ i ∧ i ≤ 0x7fffffffffffffff

instance (i : Int) : Decidable (Wrap.Holds64 i) := inferInstanceAs (Decidable (_ ∧ _))

open Wrap

/-- Words of thirty-two bits are no farther apart than thirty-two bits count. -/
lemma natAbs_toInt_sub_le (a b : Int32) : (b.toInt - a.toInt).natAbs ≤ 0xffffffff := by
  have a_lower := Int32.le_toInt a
  have a_upper := Int32.toInt_lt a
  have b_lower := Int32.le_toInt b
  have b_upper := Int32.toInt_lt b
  omega

namespace Position

/-- Positions are at most so many columns and rows apart as thirty-two bits count. -/
lemma lineTo_le (p q : Position) :
    (p.lineTo q).columns ≤ 0xffffffff ∧ (p.lineTo q).rows ≤ 0xffffffff :=
  ⟨natAbs_toInt_sub_le p.x.floor q.x.floor, natAbs_toInt_sub_le p.y.floor q.y.floor⟩

/-- Sixty-four bits hold what decides on a stride. -/
lemma toInt_ofInt_decision {p q : Position} {blocked : Tile → Bool} {x y : Nat}
    (here : (p.lineTo q).Reaches blocked x y) :
    (Int64.ofInt ((p.lineTo q).decision x y)).toInt = (p.lineTo q).decision x y := by
  have small := abs_lt.1 here.abs_decision_lt
  have few := lineTo_le p q
  apply Int64.toInt_ofInt_of_le
  · omega
  · omega

/-- Sixty-four bits hold both products of every stride, whatever is in the way, exactly if they hold
the longest way. The difference of the two that sixty-four bits make of them is always right. -/
theorem ways_hold_iff (p q : Position) :
    let l := p.lineTo q
    ((∀ blocked x y, l.Reaches blocked x y → Holds64 (l.columnWay x) ∧ Holds64 (l.rowWay y)) ↔
      l.longestWay ≤ 0x7fffffffffffffff) ∧
    ∀ blocked x y, l.Reaches blocked x y →
      (Int64.ofInt (l.columnWay x) - Int64.ofInt (l.rowWay y)).toInt = l.decision x y := by
  intro l
  refine ⟨⟨?_, ?_⟩, ?_⟩
  · intro holds
    by_cases same : l.start = l.finish
    · simp [Line.longestWay, Line.columns, Line.rows, Line.dx, Line.dy, same]
    · have clear : ∀ t, l.Touches t → t ≠ l.start → (fun _ => false : Tile → Bool) t = false :=
        fun _ _ _ => rfl
      obtain ⟨x, y, here, way⟩ := Line.exists_reaches_longestWay same clear
      obtain ⟨column, row⟩ := holds _ x y here
      rcases way with way | way
      · exact way ▸ column.2
      · exact way ▸ row.2
  · intro short blocked x y here
    obtain ⟨column, row⟩ := here.ways_le
    have column_nonneg := l.columnWay_nonneg x
    have row_nonneg := l.rowWay_nonneg y
    exact ⟨⟨by omega, by omega⟩, by omega, by omega⟩
  · intro blocked x y here
    have difference : Int64.ofInt (l.columnWay x) - Int64.ofInt (l.rowWay y) =
        Int64.ofInt (l.decision x y) := (Int64.ofInt_sub ..).symm
    rw [difference]
    exact toInt_ofInt_decision here

/-- A look over an open field from the lowest corner to the highest comes to a place where
sixty-four bits do not hold the way to the next column. -/
theorem ways_overflow_between_corners :
    let l : Line := lineTo ⟨⟨Int64.minValue⟩, ⟨Int64.minValue⟩⟩ ⟨⟨Int64.maxValue⟩, ⟨Int64.maxValue⟩⟩
    l.Reaches Terrain.field.blocks 0x40000000 0x40000000 ∧ ¬Holds64 (l.columnWay 0x40000000) := by
  intro l
  have columns : l.columns = 0xffffffff := by decide +kernel
  have rows : l.rows = 0xffffffff := by decide +kernel
  have middle : l.offset 0x40000000 0x40000000 = 0 := by rw [Line.offset, columns, rows, sub_self]
  have passes : l.Passes 0x40000000 0x40000000 :=
    ⟨by omega, by omega, by omega, by omega⟩
  refine ⟨Line.reaches_of_passes ?_ passes (by omega), ?_⟩
  · intro t _ _
    exact Terrain.blocks_of_isField rfl t
  · rw [Line.columnWay, rows]
    decide

end Position

end Skirmish
