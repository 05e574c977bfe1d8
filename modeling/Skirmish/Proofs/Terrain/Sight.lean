import Skirmish.Proofs.Terrain.Touch

/-!
# What a look along a line asks about

A look along a line asks about the tiles that the line touches, but for the one it starts from, and
about no others. Each stride asks about those that are no longer ahead after it, which are the tile
it lands on and, at an exact corner, the two beside it.
-/

namespace Skirmish

namespace Line

variable {l : Line} {x y i j : Nat}

/-- The tile `i` columns and `j` rows along is touched, and still ahead where `x` columns and `y`
rows are crossed. -/
structure Ahead (l : Line) (x y i j : Nat) : Prop where
  touches : l.TouchesAt i j
  column : x ≤ i
  row : y ≤ j
  further : x + y < i + j

lemma Ahead.transpose (ahead : l.Ahead x y i j) : l.transpose.Ahead y x j i := by
  have further := ahead.further
  exact ⟨ahead.touches.transpose, ahead.row, ahead.column, by omega⟩

/-- A stride from where `x` columns and `y` rows are crossed asks about the tile `i` columns and `j`
rows along. -/
def Asks (l : Line) (x y i j : Nat) : Prop :=
  (i, j) = l.stride x y ∨ l.decision x y = 0 ∧ ((i, j) = (x + 1, y) ∨ (i, j) = (x, y + 1))

/-! ### The three ways of a stride -/

lemma stride_of_neg (h : l.decision x y < 0) : l.stride x y = (x + 1, y) := by
  rw [stride, if_neg (Int.ne_of_lt h), if_pos h]

lemma stride_of_pos (h : 0 < l.decision x y) : l.stride x y = (x, y + 1) := by
  rw [stride, if_neg (Int.ne_of_gt h), if_neg (Int.lt_asymm h)]

lemma stride_of_zero (h : l.decision x y = 0) : l.stride x y = (x + 1, y + 1) := by
  rw [stride, if_pos h]

/-- What a stride asks about is further along. -/
lemma Asks.progress (asks : l.Asks x y i j) : x ≤ i ∧ y ≤ j ∧ x + y < i + j := by
  rcases asks with lands | ⟨-, flank | flank⟩
  · obtain ⟨rfl, rfl⟩ := Prod.mk.inj lands
    exact l.stride_progress x y
  · obtain ⟨rfl, rfl⟩ := Prod.mk.inj flank
    omega
  · obtain ⟨rfl, rfl⟩ := Prod.mk.inj flank
    omega

/-- Of what is touched beyond a stride, all is ahead but the tile it lands on. -/
lemma asks_or_ahead (touches : l.TouchesAt i j) (column : (l.stride x y).1 ≤ i)
    (row : (l.stride x y).2 ≤ j) :
    l.Asks x y i j ∨ l.Ahead (l.stride x y).1 (l.stride x y).2 i j := by
  by_cases lands : (i, j) = l.stride x y
  · exact .inl (.inl lands)
  · refine .inr ⟨touches, column, row, ?_⟩
    rw [Prod.ext_iff, not_and_or] at lands
    omega

/-! ### One stride -/

section Stride

variable (touches : l.TouchesAt x y) (more : x + y < l.columns + l.rows)

include touches

/-- Unless a row comes first, the next column is touched, if there is one. -/
lemma TouchesAt.next_column (left : x < l.columns) (first : l.decision x y ≤ 0) :
    l.TouchesAt (x + 1) y := by
  have lower := touches.lower
  rw [decision_eq] at first
  refine ⟨left, touches.row, ?_, ?_⟩
  · rw [offset_succ_left]
    omega
  · rw [offset_succ_left]
    omega

lemma TouchesAt.next_row (left : y < l.rows) (first : 0 ≤ l.decision x y) :
    l.TouchesAt x (y + 1) :=
  (touches.transpose.next_column left (decision_transpose_nonpos first)).transpose

include more

lemma column_left (first : l.decision x y ≤ 0) : x < l.columns := by
  by_contra none
  -- in the last column the line passes above the next row, so that row comes first
  obtain rfl : x = l.columns := Nat.le_antisymm touches.column (Nat.le_of_not_lt none)
  have row : y + 1 ≤ l.rows := by omega
  have next := l.offset_le_right l.columns row
  rw [offset_finish, offset_succ_right] at next
  rw [decision_eq] at first
  omega

lemma row_left (first : 0 ≤ l.decision x y) : y < l.rows := by
  have more' : y + x < l.transpose.columns + l.transpose.rows := by
    rw [columns_transpose, rows_transpose]
    omega
  exact column_left touches.transpose more' (decision_transpose_nonpos first)

lemma TouchesAt.stride : l.TouchesAt (l.stride x y).1 (l.stride x y).2 := by
  rcases Int.lt_trichotomy (l.decision x y) 0 with neg | zero | pos
  · rw [stride_of_neg neg]
    exact touches.next_column (column_left touches more neg.le) neg.le
  · rw [stride_of_zero zero]
    have corner := touches.next_column (column_left touches more zero.le) zero.le
    refine corner.next_row (row_left touches more zero.ge) ?_
    rw [decision_eq] at zero
    rw [decision_eq, offset_succ_left]
    omega
  · rw [stride_of_pos pos]
    exact touches.next_row (row_left touches more pos.le) pos.le

/-- Whatever a stride asks about is touched. -/
lemma Asks.touchesAt (asks : l.Asks x y i j) : l.TouchesAt i j := by
  rcases asks with lands | ⟨corner, flank | flank⟩
  · obtain ⟨rfl, rfl⟩ := Prod.mk.inj lands
    exact touches.stride more
  · obtain ⟨rfl, rfl⟩ := Prod.mk.inj flank
    exact touches.next_column (column_left touches more corner.le) corner.le
  · obtain ⟨rfl, rfl⟩ := Prod.mk.inj flank
    exact touches.next_row (row_left touches more corner.ge) corner.ge

/-- Unless a row comes first, nothing of the column is ahead but the tile beside a corner. -/
lemma Ahead.in_column (first : l.decision x y ≤ 0) (ahead : l.Ahead x y x j) :
    l.decision x y = 0 ∧ j = y + 1 := by
  have column := column_left touches more first
  have further := ahead.further
  have lower := ahead.touches.lower
  have next := l.offset_le_right x (show y + 1 ≤ j by omega)
  rw [offset_succ_right] at next
  rw [decision_eq] at first ⊢
  refine ⟨by omega, ?_⟩
  by_contra other
  -- a second row would be off the line by all the columns there are, and there is one left
  have after := l.offset_le_right x (show y + 1 + 1 ≤ j by omega)
  rw [offset_succ_right, offset_succ_right] at after
  omega

lemma Ahead.in_row (first : 0 ≤ l.decision x y) (ahead : l.Ahead x y i y) :
    l.decision x y = 0 ∧ i = x + 1 := by
  have more' : y + x < l.transpose.columns + l.transpose.rows := by
    rw [columns_transpose, rows_transpose]
    omega
  have beside :=
    ahead.transpose.in_column touches.transpose more' (decision_transpose_nonpos first)
  rwa [decision_transpose, neg_eq_zero] at beside

/-- What is ahead before a stride is asked about in it, or is still ahead after it. -/
lemma Ahead.asks_or (ahead : l.Ahead x y i j) :
    l.Asks x y i j ∨ l.Ahead (l.stride x y).1 (l.stride x y).2 i j := by
  have column := ahead.column
  have row := ahead.row
  rcases Int.lt_trichotomy (l.decision x y) 0 with neg | zero | pos
  · refine asks_or_ahead ahead.touches ?_ ?_
    · rw [stride_of_neg neg]
      refine Nat.lt_of_le_of_ne column ?_
      rintro rfl
      exact neg.ne (ahead.in_column touches more neg.le).1
    · rwa [stride_of_neg neg]
  · by_cases same_column : x = i
    · subst same_column
      exact .inl (.inr ⟨zero, .inr (by rw [(ahead.in_column touches more zero.le).2])⟩)
    · by_cases same_row : y = j
      · subst same_row
        exact .inl (.inr ⟨zero, .inl (by rw [(ahead.in_row touches more zero.ge).2])⟩)
      · refine asks_or_ahead ahead.touches ?_ ?_
        · rw [stride_of_zero zero]
          exact Nat.lt_of_le_of_ne column same_column
        · rw [stride_of_zero zero]
          exact Nat.lt_of_le_of_ne row same_row
  · refine asks_or_ahead ahead.touches ?_ ?_
    · rwa [stride_of_pos pos]
    · rw [stride_of_pos pos]
      refine Nat.lt_of_le_of_ne row ?_
      rintro rfl
      exact pos.ne' (ahead.in_row touches more pos.le).1

lemma ahead_iff : l.Ahead x y i j ↔
    l.Asks x y i j ∨ l.Ahead (l.stride x y).1 (l.stride x y).2 i j := by
  constructor
  · exact Ahead.asks_or touches more
  · rintro (asks | ahead)
    · obtain ⟨column, row, further⟩ := asks.progress
      exact ⟨asks.touchesAt touches more, column, row, further⟩
    · obtain ⟨column, row, further⟩ := l.stride_progress x y
      exact ⟨ahead.touches, column.trans ahead.column, row.trans ahead.row,
        further.trans ahead.further⟩

end Stride

/-! ### The tiles asked about -/

section Questions

variable (touches : l.TouchesAt x y) (more : x + y < l.columns + l.rows)

include touches more

lemma Asks.tileAt_ne_start (asks : l.Asks x y i j) : l.tileAt i j ≠ l.start := by
  have at_tile := asks.touchesAt touches more
  have further := asks.progress.2.2
  rw [← tileAt_start, ne_eq, tileAt_inj at_tile.column at_tile.row (Nat.zero_le _) (Nat.zero_le _)]
  omega

lemma mem_questions {t : Tile} :
    t ∈ l.questions x y ↔ ∃ i j, l.Asks x y i j ∧ t = l.tileAt i j := by
  constructor
  · intro ht
    rcases List.mem_append.1 ht with ht | ht
    · rw [flanks] at ht
      split at ht
      · rename_i corner
        rcases List.mem_pair.1 (List.mem_filter.1 ht).1 with rfl | rfl
        · exact ⟨x + 1, y, .inr ⟨corner, .inl rfl⟩, rfl⟩
        · exact ⟨x, y + 1, .inr ⟨corner, .inr rfl⟩, rfl⟩
      · simp at ht
    · obtain rfl := List.mem_singleton.1 ht
      exact ⟨_, _, .inl rfl, rfl⟩
  · rintro ⟨i, j, asks, rfl⟩
    have other := asks.tileAt_ne_start touches more
    rcases asks with lands | ⟨corner, flank⟩
    · apply List.mem_append_right
      rw [List.mem_singleton, landing, ← lands]
    · apply List.mem_append_left
      rw [flanks, if_pos corner, List.mem_filter, List.mem_pair]
      refine ⟨?_, by simpa using other⟩
      rcases flank with flank | flank
      · obtain ⟨rfl, rfl⟩ := Prod.mk.inj flank
        exact .inl rfl
      · obtain ⟨rfl, rfl⟩ := Prod.mk.inj flank
        exact .inr rfl

lemma any_questions_eq_false_iff {blocked : Tile → Bool} : (l.questions x y).any blocked = false ↔
    ∀ i j, l.Asks x y i j → blocked (l.tileAt i j) = false := by
  simp only [List.any_eq_false, mem_questions touches more, Bool.not_eq_true]
  constructor
  · intro h i j asks
    exact h _ ⟨i, j, asks, rfl⟩
  · rintro h t ⟨i, j, asks, rfl⟩
    exact h i j asks

/-- A stride lands on the end of the line exactly if nothing is left to cross after it. -/
lemma landing_eq_finish_iff :
    l.landing x y = l.finish ↔ (l.stride x y).1 + (l.stride x y).2 = l.columns + l.rows := by
  have next := touches.stride more
  have column := next.column
  have row := next.row
  rw [landing, ← tileAt_finish, tileAt_inj column row le_rfl le_rfl]
  omega

end Questions

/-! ### The whole look -/

/-- A look finds its way clear exactly if nothing that is ahead is blocked. -/
lemma clear_traceFrom (blocked : Tile → Bool) (asked : List Tile) (touches : l.TouchesAt x y)
    (more : x + y < l.columns + l.rows) :
    (l.traceFrom blocked x y asked).clear = true ↔
      ∀ i j, l.Ahead x y i j → blocked (l.tileAt i j) = false := by
  fun_induction traceFrom l blocked x y asked with
  | case1 x y asked inside questions asked' found =>
    simp only [Bool.false_eq_true, false_iff]
    intro clear
    have all_open : questions.any blocked = false :=
      (any_questions_eq_false_iff touches more).2 fun i j asks =>
        clear i j ((ahead_iff touches more).2 (.inl asks))
    simp [found] at all_open
  | case2 x y asked inside questions asked' none lands =>
    have all_open := (any_questions_eq_false_iff touches more).1 (Bool.eq_false_iff.2 none)
    rw [landing_eq_finish_iff touches more] at lands
    simp only [true_iff]
    intro i j ahead
    rcases (ahead_iff touches more).1 ahead with asks | ahead
    · exact all_open i j asks
    · -- nothing of the box is ahead of the end of the line
      have column := ahead.touches.column
      have row := ahead.touches.row
      have further := ahead.further
      omega
  | case3 x y asked inside questions asked' none misses ih =>
    have all_open := (any_questions_eq_false_iff touches more).1 (Bool.eq_false_iff.2 none)
    have next := touches.stride more
    have more' : (l.stride x y).1 + (l.stride x y).2 < l.columns + l.rows := by
      rw [landing_eq_finish_iff touches more] at misses
      have column := next.column
      have row := next.row
      omega
    rw [ih next more']
    constructor
    · intro clear i j ahead
      rcases (ahead_iff touches more).1 ahead with asks | ahead
      · exact all_open i j asks
      · exact clear i j ahead
    · intro clear i j ahead
      exact clear i j ((ahead_iff touches more).2 (.inr ahead))
  | case4 x y asked outside => exact absurd ⟨touches.column, touches.row⟩ outside

lemma touchesAt_start : l.TouchesAt 0 0 := by
  refine ⟨Nat.zero_le _, Nat.zero_le _, ?_, ?_⟩
  · rw [offset_start]
    omega
  · rw [offset_start]
    omega

/-- Between different tiles there is something to cross. -/
lemma left_at_start (apart : l.start ≠ l.finish) : 0 + 0 < l.columns + l.rows := by
  by_contra none
  have columns : l.columns = 0 := by omega
  have rows : l.rows = 0 := by omega
  rw [← tileAt_finish, columns, rows, tileAt_start] at apart
  exact apart rfl

/-- At the start all that the line touches is ahead, but for the tile it starts from. -/
lemma ahead_start_iff : l.Ahead 0 0 i j ↔ l.TouchesAt i j ∧ l.tileAt i j ≠ l.start := by
  have away (touches : l.TouchesAt i j) : l.tileAt i j ≠ l.start ↔ 0 + 0 < i + j := by
    rw [← tileAt_start, ne_eq, tileAt_inj touches.column touches.row (Nat.zero_le _)
      (Nat.zero_le _)]
    omega
  constructor
  · intro ahead
    exact ⟨ahead.touches, (away ahead.touches).2 ahead.further⟩
  · rintro ⟨touches, other⟩
    exact ⟨touches, Nat.zero_le _, Nat.zero_le _, (away touches).1 other⟩

/-- The way along a line is clear exactly if the line touches no blocked tile but, perhaps, the one
it starts from. -/
theorem isClear_iff (blocked : Tile → Bool) :
    l.isClear blocked = true ↔
      l.start = l.finish ∨ ∀ t, l.Touches t → t ≠ l.start → blocked t = false := by
  rw [isClear, trace]
  split
  · rename_i same
    exact ⟨fun _ => .inl same, fun _ => rfl⟩
  · rename_i apart
    rw [clear_traceFrom blocked [] touchesAt_start (left_at_start apart), or_iff_right apart]
    simp only [ahead_start_iff, touches_iff]
    constructor
    · rintro clear t ⟨i, j, touches, rfl⟩ other
      exact clear i j ⟨touches, other⟩
    · rintro clear i j ⟨touches, other⟩
      exact clear _ ⟨i, j, touches, rfl⟩ other

/-- A blocked tile that the line touches is in the way, unless the line starts from it. -/
lemma isClear_eq_false_of_touches {t : Tile} (apart : l.start ≠ l.finish) (touches : l.Touches t)
    (other : t ≠ l.start) (barred : blocked t = true) : l.isClear blocked = false := by
  rw [← Bool.not_eq_true, isClear_iff]
  rintro (same | clear)
  · exact apart same
  · exact Bool.eq_false_iff.1 (clear t touches other) barred

end Line

namespace Terrain

lemma blocks_of_isField {g : Terrain} (field : g.isField = true) (t : Tile) : g.blocks t = false := by
  rw [blocks, if_pos field]

/-- On an open field every way is clear. -/
lemma isClear_of_isField {g : Terrain} (field : g.isField = true) (l : Line) :
    l.isClear g.blocks = true :=
  (Line.isClear_iff g.blocks).2 (.inr fun t _ _ => blocks_of_isField field t)

/-- A look at terrain finds out what a look along the line does, unless a tile is missing that it
asks about. -/
theorem isClearChecked_eq_ok_iff {g : Terrain} {l : Line} {clear : Bool} :
    g.isClearChecked l = .ok clear ↔ g.missingAlong? l = none ∧ l.isClear g.blocks = clear := by
  rw [isClearChecked]
  split
  · rename_i field
    have nothing : g.missingAlong? l = none := by
      rw [missingAlong?, List.findSome?_eq_none_iff]
      intro t _
      rw [missing?, if_pos field]
    simp [nothing, isClear_of_isField field]
  · cases g.missingAlong? l <;> simp

end Terrain

/-- A single wall beside a corner is in the way. -/
example : (Line.mk ⟨0, 0⟩ ⟨1, 1⟩).isClear (· = ⟨1, 0⟩) = false := by cbv

/-- One position sees another exactly if they share a tile, or if no tile that is touched by the
line between their tiles is blocked, where the tile of the first position does not count. The
touched tiles are those whose closed squares meet the segment between the two centres. -/
theorem Position.sees_iff (blocked : Tile → Bool) (p q : Position) :
    (p.sees blocked q = true ↔ p.tile = q.tile ∨
      ∀ t, (p.lineTo q).Touches t → t ≠ p.tile → blocked t = false) ∧
    ∀ t, (p.lineTo q).Touches t ↔ (p.lineTo q).Meets t :=
  ⟨Line.isClear_iff blocked, Line.touches_iff_meets⟩

end Skirmish
