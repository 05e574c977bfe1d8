import Skirmish.Proofs.Terrain.Stride

/-!
# A look in machine words

A look holds the tile it is at in words of thirty-two bits, and what it has crossed in words of
sixty-four (`Gaze`). Words wrap around, but these stand for the place that the look reaches
(`Gaze.At`): the look stays in the box that the ends of the line span, and what decides on a stride
stays small. So it asks about the same tiles as if there were no words at all.

Each stride goes further in the box. A look therefore runs into a blocked tile or lands on the end
of the line, within as many strides as there are columns and rows, and it is never astray.
-/

namespace Skirmish

/-- A look under way, as machine words hold it: the tile it is at and what it has crossed. -/
structure Gaze where
  x : Int32
  y : Int32
  columns : Int64
  rows : Int64
  deriving DecidableEq

namespace Gaze

open Line

/-- What one more stride comes to. A look that is past the end of the line along one of the axes is
astray and makes no stride. -/
inductive Next
  | astray
  | blocked (t : Tile)
  | landed
  | further (g : Gaze)
  deriving DecidableEq

/-- How far one word is from another. -/
def across (a b : Int32) : Int64 := b.toInt64 - a.toInt64

/-- The sign of a distance. -/
def heading (d : Int64) : Int32 := Int32.ofInt d.toInt.sign

/-- A look that starts from the tile of a position. -/
def start (p : Position) : Gaze := ⟨p.x.floor, p.y.floor, 0, 0⟩

/-- The tile the look is at. -/
def tile (g : Gaze) : Tile := ⟨g.x.toInt, g.y.toInt⟩

section Look

variable (p q : Position) (g : Gaze)

def dx : Int64 := across p.x.floor q.x.floor

def dy : Int64 := across p.y.floor q.y.floor

/-- The difference of the two ways, which decides on a stride. -/
def decision : Int64 := (1 + 2 * g.columns) * (dy p q).abs - (1 + 2 * g.rows) * (dx p q).abs

def nextColumn : Gaze := { g with x := g.x + heading (dx p q), columns := g.columns + 1 }

def nextRow : Gaze := { g with y := g.y + heading (dy p q), rows := g.rows + 1 }

def stride : Gaze :=
  if g.decision p q = 0 then (g.nextColumn p q).nextRow p q
  else if g.decision p q < 0 then g.nextColumn p q
  else g.nextRow p q

/-- The tiles a stride asks about, in order. -/
def questions : List Tile :=
  (if g.decision p q = 0 then
    [(g.nextColumn p q).tile, (g.nextRow p q).tile].filter (· ≠ p.tile)
  else []) ++ [(g.stride p q).tile]

/-- What one more stride comes to on a look between two positions. -/
def next (blocked : Tile → Bool) : Next :=
  if g.columns ≤ (dx p q).abs ∧ g.rows ≤ (dy p q).abs then
    match (g.questions p q).find? blocked with
    | some t => .blocked t
    | none => if (g.stride p q).tile = q.tile then .landed else .further (g.stride p q)
  else .astray

end Look

/-- A look between two positions is under way after `n` strides. -/
inductive After (blocked : Tile → Bool) (p q : Position) : Nat → Gaze → Prop
  | start (apart : p.tile ≠ q.tile) : After blocked p q 0 (start p)
  | stride {n : Nat} {g g' : Gaze} (here : After blocked p q n g)
      (leads : g.next p q blocked = .further g') : After blocked p q (n + 1) g'

/-- The words stand for the place `x` columns and `y` rows along the line. -/
structure At (g : Gaze) (l : Line) (x y : Nat) : Prop where
  tile : g.tile = l.tileAt x y
  columns : g.columns.toInt = x
  rows : g.rows.toInt = y

/-! ### Words along one axis -/

section Axis

variable {a b w : Int32} {c : Int64} {i : Nat}

lemma toInt_across (a b : Int32) : (across a b).toInt = b.toInt - a.toInt := by
  have near := natAbs_toInt_sub_le a b
  rw [across, Int64.toInt_sub, Int32.toInt_toInt64, Int32.toInt_toInt64]
  apply Int.bmod_eq_of_le <;> omega

lemma toInt_abs_across (a b : Int32) : (across a b).abs.toInt = (b.toInt - a.toInt).natAbs := by
  have near := natAbs_toInt_sub_le a b
  have distance := toInt_across a b
  rw [← Int64.toInt_toBitVec] at distance
  -- only the lowest word has no absolute value, and it is too far away
  have other : (across a b).toBitVec ≠ BitVec.intMin 64 := by
    intro least
    rw [least, BitVec.toInt_intMin] at distance
    norm_num at distance
    omega
  change (across a b).toBitVec.abs.toInt = _
  rw [BitVec.toInt_abs_eq_natAbs, if_neg other, distance]

/-- A step towards the end of an axis stays on the axis, where no sum wraps around. -/
lemma toInt_add_heading (here : w.toInt = a.toInt + (b.toInt - a.toInt).sign * i)
    (left : i < (b.toInt - a.toInt).natAbs) :
    (w + heading (across a b)).toInt = a.toInt + (b.toInt - a.toInt).sign * (i + 1 : Nat) := by
  have la := Int32.le_toInt a
  have ua := Int32.toInt_lt a
  have lb := Int32.le_toInt b
  have ub := Int32.toInt_lt b
  have sum : w + heading (across a b) =
      Int32.ofInt (a.toInt + (b.toInt - a.toInt).sign * (i + 1 : Nat)) := by
    rw [heading, toInt_across, ← Int32.ofInt_toInt w, here, ← Int32.ofInt_add]
    congr 1
    push_cast
    ring
  have between := between_iff_stride.2 ⟨i + 1, left, rfl⟩
  rw [sum]
  exact Int32.toInt_ofInt_of_le (by omega) (by omega)

lemma toInt_add_one (here : c.toInt = i) (small : i ≤ 0xffffffff) :
    (c + 1).toInt = (i + 1 : Nat) := by
  rw [Int64.toInt_add, here]
  apply Int.bmod_eq_of_le <;> simp <;> omega

end Axis

/-! ### One stride in words -/

section Stride

variable {p q : Position} {blocked : Tile → Bool} {g g' : Gaze} {x y : Nat}

lemma at_start (p q : Position) : (start p).At (p.lineTo q) 0 0 :=
  ⟨(tileAt_start (l := p.lineTo q)).symm, rfl, rfl⟩

lemma At.nextColumn (here : g.At (p.lineTo q) x y) (left : x < (p.lineTo q).columns) :
    (g.nextColumn p q).At (p.lineTo q) (x + 1) y := by
  obtain ⟨column, row⟩ := Tile.mk.inj here.tile
  have few := (Position.lineTo_le p q).1
  refine ⟨?_, toInt_add_one here.columns (by omega), here.rows⟩
  exact Tile.mk.injEq .. ▸ ⟨toInt_add_heading column left, row⟩

lemma At.nextRow (here : g.At (p.lineTo q) x y) (left : y < (p.lineTo q).rows) :
    (g.nextRow p q).At (p.lineTo q) x (y + 1) := by
  obtain ⟨column, row⟩ := Tile.mk.inj here.tile
  have few := (Position.lineTo_le p q).2
  refine ⟨?_, here.columns, toInt_add_one here.rows (by omega)⟩
  exact Tile.mk.injEq .. ▸ ⟨column, toInt_add_heading row left⟩

/-- Sixty-four bits hold what decides on a stride, even where they do not hold the two ways. -/
lemma At.toInt_decision (here : g.At (p.lineTo q) x y)
    (reached : (p.lineTo q).Reaches blocked x y) :
    (g.decision p q).toInt = (p.lineTo q).decision x y := by
  -- words are whole numbers but for multiples of `2 ^ 64`, so it is the difference that has to fit
  have word : g.decision p q = Int64.ofInt ((p.lineTo q).decision x y) := by
    rw [Gaze.decision, ← Int64.ofInt_toInt g.columns, ← Int64.ofInt_toInt g.rows,
      ← Int64.ofInt_toInt (dx p q).abs, ← Int64.ofInt_toInt (dy p q).abs, dx, dy,
      toInt_abs_across, toInt_abs_across, here.columns, here.rows]
    simp only [Line.decision, columnWay, rowWay, Int64.ofInt_sub, Int64.ofInt_mul, Int64.ofInt_add]
    rfl
  rw [word]
  exact Position.toInt_ofInt_decision reached

section Reached

variable (here : g.At (p.lineTo q) x y) (reached : (p.lineTo q).Reaches blocked x y)

include here reached

lemma At.decision_eq_zero_iff : g.decision p q = 0 ↔ (p.lineTo q).decision x y = 0 := by
  rw [← here.toInt_decision reached, ← Int64.toInt_inj]
  rfl

lemma At.decision_neg_iff : g.decision p q < 0 ↔ (p.lineTo q).decision x y < 0 := by
  rw [← here.toInt_decision reached, Int64.lt_iff_toInt_lt]
  rfl

/-- Unless a row comes first, a stride may go to the next column. -/
lemma At.column (first : (p.lineTo q).decision x y ≤ 0) :
    (g.nextColumn p q).At (p.lineTo q) (x + 1) y := by
  obtain ⟨passes, more⟩ := reached.passes
  exact here.nextColumn (column_left passes.touchesAt more first)

/-- Unless a column comes first, a stride may go to the next row. -/
lemma At.row (first : 0 ≤ (p.lineTo q).decision x y) :
    (g.nextRow p q).At (p.lineTo q) x (y + 1) := by
  obtain ⟨passes, more⟩ := reached.passes
  exact here.nextRow (row_left passes.touchesAt more first)

/-- The sum that leads to the next column is right. -/
lemma At.toInt_next_column (first : (p.lineTo q).decision x y ≤ 0) :
    (g.x + heading (dx p q)).toInt = g.x.toInt + (p.lineTo q).dx.sign := by
  have next := (Tile.mk.inj (here.column reached first).tile).1
  have column := (Tile.mk.inj here.tile).1
  rw [Gaze.nextColumn] at next
  rw [next, column]
  push_cast
  ring

/-- The sum that leads to the next row is right. -/
lemma At.toInt_next_row (first : 0 ≤ (p.lineTo q).decision x y) :
    (g.y + heading (dy p q)).toInt = g.y.toInt + (p.lineTo q).dy.sign := by
  have next := (Tile.mk.inj (here.row reached first).tile).2
  have row := (Tile.mk.inj here.tile).2
  rw [Gaze.nextRow] at next
  rw [next, row]
  push_cast
  ring

/-- A stride in words leads to where the stride leads. -/
lemma At.stride :
    (g.stride p q).At (p.lineTo q) ((p.lineTo q).stride x y).1 ((p.lineTo q).stride x y).2 := by
  simp only [Gaze.stride, here.decision_eq_zero_iff reached, here.decision_neg_iff reached]
  rcases Int.lt_trichotomy ((p.lineTo q).decision x y) 0 with neg | zero | pos
  · rw [if_neg neg.ne, if_pos neg, stride_of_neg neg]
    exact here.column reached neg.le
  · obtain ⟨passes, more⟩ := reached.passes
    rw [if_pos zero, stride_of_zero zero]
    exact (here.column reached zero.le).nextRow (row_left passes.touchesAt more zero.ge)
  · rw [if_neg pos.ne', if_neg pos.not_gt, stride_of_pos pos]
    exact here.row reached pos.le

/-- A stride in words asks about the tiles that the stride asks about. -/
lemma At.questions : g.questions p q = (p.lineTo q).questions x y := by
  simp only [Gaze.questions, Line.questions, flanks, landing, (here.stride reached).tile,
    here.decision_eq_zero_iff reached]
  congr 1
  split
  · rename_i corner
    rw [(here.column reached corner.le).tile, (here.row reached corner.ge).tile]
    rfl
  · rfl

/-- On the axes of a line that is not crossed yet, no stride is past its end. -/
lemma At.not_past : g.columns ≤ (dx p q).abs ∧ g.rows ≤ (dy p q).abs := by
  obtain ⟨passes, -⟩ := reached.passes
  rw [Int64.le_iff_toInt_le, Int64.le_iff_toInt_le, here.columns, here.rows, dx, dy,
    toInt_abs_across, toInt_abs_across, Int.ofNat_le, Int.ofNat_le]
  exact ⟨passes.column, passes.row⟩

lemma At.next_eq : g.next p q blocked =
    match ((p.lineTo q).questions x y).find? blocked with
    | some t => .blocked t
    | none =>
      if (p.lineTo q).landing x y = (p.lineTo q).finish then .landed
      else .further (g.stride p q) := by
  rw [Gaze.next, if_pos (here.not_past reached), here.questions reached,
    (here.stride reached).tile]
  rfl

/-- A look that reaches a place makes another stride there. -/
lemma At.not_astray : g.next p q blocked ≠ .astray := by
  rw [here.next_eq reached]
  split
  · simp
  · split <;> simp

/-- A stride that leads further lands short of the end, on open tiles. -/
lemma At.further (leads : g.next p q blocked = .further g') :
    (p.lineTo q).Reaches blocked ((p.lineTo q).stride x y).1 ((p.lineTo q).stride x y).2 ∧
      g' = g.stride p q := by
  rw [here.next_eq reached] at leads
  split at leads
  · cases leads
  · rename_i none
    have clear : ((p.lineTo q).questions x y).any blocked = false := by
      simpa using none
    split at leads
    · cases leads
    · rename_i misses
      cases leads
      exact ⟨reached.stride clear misses, rfl⟩

/-- A look that runs into a tile finds its way blocked. -/
lemma At.sees_of_blocked {t : Tile} (ends : g.next p q blocked = .blocked t) :
    blocked t = true ∧ p.sees blocked q = false := by
  rw [here.next_eq reached] at ends
  split at ends
  · rename_i t found
    cases ends
    have some : ((p.lineTo q).questions x y).any blocked = true :=
      List.any_eq_true.2 ⟨t, List.mem_of_find?_eq_some found, List.find?_some found⟩
    obtain ⟨asked, trace⟩ := reached.trace_eq
    obtain ⟨passes, -⟩ := reached.passes
    rw [Position.sees, isClear, trace, traceFrom, if_pos ⟨passes.column, passes.row⟩]
    simp only [some, if_true]
    exact ⟨List.find?_some found, trivial⟩
  · split at ends
    · cases ends
    · cases ends

/-- A look that lands finds its way clear. -/
lemma At.sees_of_landed (ends : g.next p q blocked = .landed) : p.sees blocked q = true := by
  rw [here.next_eq reached] at ends
  split at ends
  · cases ends
  · rename_i none
    have clear : ((p.lineTo q).questions x y).any blocked = false := by
      simpa using none
    split at ends
    · rename_i lands
      obtain ⟨asked, trace⟩ := reached.trace_eq
      obtain ⟨passes, -⟩ := reached.passes
      rw [Position.sees, isClear, trace, traceFrom, if_pos ⟨passes.column, passes.row⟩]
      simp only [clear, Bool.false_eq_true, if_false, if_pos lands]
    · cases ends

end Reached

end Stride

/-! ### The whole look in words -/

/-- What holds whenever a look between two positions begins its stride number `n`: the words stand
for a place that the look along the line reaches, the look is in the box, and so is every tile that
the stride asks about. -/
structure Sound (blocked : Tile → Bool) (p q : Position) (n : Nat) (g : Gaze) (x y : Nat) :
    Prop where
  place : g.At (p.lineTo q) x y
  reached : ∃ asked,
    (p.lineTo q).trace blocked = (p.lineTo q).traceFrom blocked x y asked
  few : n < (p.lineTo q).columns + (p.lineTo q).rows
  not_astray : g.next p q blocked ≠ .astray
  inside : (p.lineTo q).Spans g.tile
  asks : g.questions p q = (p.lineTo q).questions x y
  asks_inside : ∀ t ∈ g.questions p q, (p.lineTo q).Spans t ∧ t ≠ p.tile
  column_holds : (p.lineTo q).decision x y ≤ 0 →
    (g.x + heading (dx p q)).toInt = g.x.toInt + (p.lineTo q).dx.sign
  row_holds : 0 ≤ (p.lineTo q).decision x y →
    (g.y + heading (dy p q)).toInt = g.y.toInt + (p.lineTo q).dy.sign
  decision_holds : (g.decision p q).toInt = (p.lineTo q).decision x y
  decision_small : |(p.lineTo q).decision x y| < 2 * max |(p.lineTo q).dx| |(p.lineTo q).dy|

section Run

variable {p q : Position} {blocked : Tile → Bool} {g : Gaze} {n : Nat}

/-- After so many strides the words stand for a place that lies at least as far along. -/
lemma After.exists_reaches (under_way : After blocked p q n g) :
    ∃ x y, g.At (p.lineTo q) x y ∧ (p.lineTo q).Reaches blocked x y ∧ n ≤ x + y := by
  induction under_way with
  | start apart => exact ⟨0, 0, at_start p q, .start apart, Nat.zero_le _⟩
  | @stride n g g' _ leads ih =>
    obtain ⟨x, y, here, reached, far⟩ := ih
    obtain ⟨next, rfl⟩ := here.further reached leads
    have progress := (p.lineTo q).stride_progress x y
    exact ⟨_, _, here.stride reached, next, by omega⟩

/-- The look is sound at each stride. -/
lemma After.sound (under_way : After blocked p q n g) : ∃ x y, Sound blocked p q n g x y := by
  obtain ⟨x, y, here, reached, far⟩ := under_way.exists_reaches
  obtain ⟨passes, more⟩ := reached.passes
  refine ⟨x, y, here, reached.trace_eq, by omega, ?_, ?_, here.questions reached, ?_, ?_, ?_,
    here.toInt_decision reached, ?_⟩
  · exact here.not_astray reached
  · exact here.tile ▸ spans_iff.2 ⟨x, y, passes.column, passes.row, rfl⟩
  · intro t asked
    rw [here.questions reached, mem_questions passes.touchesAt more] at asked
    obtain ⟨i, j, asks, rfl⟩ := asked
    have touches := asks.touchesAt passes.touchesAt more
    exact ⟨spans_iff.2 ⟨i, j, touches.column, touches.row, rfl⟩,
      asks.tileAt_ne_start passes.touchesAt more⟩
  · exact here.toInt_next_column reached
  · exact here.toInt_next_row reached
  · have small := reached.abs_decision_lt
    rwa [Int.abs_eq_natAbs (p.lineTo q).dx, Int.abs_eq_natAbs (p.lineTo q).dy]

/-- A look that is under way ends, with the answer that it finds. -/
lemma After.ends {n : Nat} {g : Gaze} (under_way : After blocked p q n g) :
    ∃ n' g', After blocked p q n' g' ∧
      (g'.next p q blocked = .landed ∧ p.sees blocked q = true ∨
        ∃ t, g'.next p q blocked = .blocked t ∧ blocked t = true ∧ p.sees blocked q = false) := by
  obtain ⟨x, y, here, reached, far⟩ := under_way.exists_reaches
  obtain ⟨-, more⟩ := reached.passes
  cases result : g.next p q blocked with
  | astray => exact absurd result (here.not_astray reached)
  | blocked t => exact ⟨n, g, under_way, .inr ⟨t, result, here.sees_of_blocked reached result⟩⟩
  | landed => exact ⟨n, g, under_way, .inl ⟨result, here.sees_of_landed reached result⟩⟩
  | further g' => exact (under_way.stride result).ends
termination_by (p.lineTo q).columns + (p.lineTo q).rows - n

end Run

end Gaze

namespace Position

open Gaze

/-- Between positions of different tiles a look is sound at each stride, and there are no more
strides than columns and rows. The look ends: it lands and finds its way clear, or it runs into a
blocked tile and does not. -/
theorem look_lands (blocked : Tile → Bool) (p q : Position) (apart : p.tile ≠ q.tile) :
    (∀ n g, After blocked p q n g → ∃ x y, Sound blocked p q n g x y) ∧
      ∃ n g, After blocked p q n g ∧
        (g.next p q blocked = .landed ∧ p.sees blocked q = true ∨
          ∃ t, g.next p q blocked = .blocked t ∧ blocked t = true ∧ p.sees blocked q = false) :=
  ⟨fun _ _ under_way => under_way.sound, (After.start apart).ends⟩

/-- A look over an open field from the lowest corner to the highest is sound and lands. -/
theorem look_lands_between_corners :
    let p : Position := ⟨⟨Int64.minValue⟩, ⟨Int64.minValue⟩⟩
    let q : Position := ⟨⟨Int64.maxValue⟩, ⟨Int64.maxValue⟩⟩
    p.tile ≠ q.tile ∧
      (∀ n g, After Terrain.field.blocks p q n g →
        ∃ x y, Sound Terrain.field.blocks p q n g x y) ∧
      ∃ n g, After Terrain.field.blocks p q n g ∧
        g.next p q Terrain.field.blocks = .landed := by
  intro p q
  have apart : p.tile ≠ q.tile := by decide +kernel
  obtain ⟨sound, n, g, under_way, ends⟩ := look_lands Terrain.field.blocks p q apart
  refine ⟨apart, sound, n, g, under_way, ?_⟩
  rcases ends with ⟨lands, -⟩ | ⟨t, -, met, -⟩
  · exact lands
  · rw [Terrain.blocks_of_isField rfl] at met
    cases met

end Position

end Skirmish
