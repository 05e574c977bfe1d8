import Skirmish.Terrain

/-!
# Lines of sight

A line runs between the centres of two tiles and visits the tiles it touches one after another.
At a stride it moves on to the next column, the next row, or, where it meets a corner exactly, to
both at once; then the two tiles beside the corner must be open as well. Every tile is asked about
but the one the line starts from.

All of this is integer arithmetic: which way a stride goes is the sign of the difference of two
products.
-/

namespace Skirmish

/-- A straight line between the centres of two tiles. -/
structure Line where
  start : Tile
  finish : Tile
  deriving DecidableEq

/-- What a look along a line found: the tiles asked about, in order, and whether all were open. -/
structure Trace where
  asked : List Tile
  clear : Bool
  deriving DecidableEq

namespace Line

def dx (l : Line) : Int := l.finish.x - l.start.x

def dy (l : Line) : Int := l.finish.y - l.start.y

/-- How many columns the line crosses. -/
def columns (l : Line) : Nat := l.dx.natAbs

/-- How many rows the line crosses. -/
def rows (l : Line) : Nat := l.dy.natAbs

/-- The tile `x` columns and `y` rows along the line. -/
def tileAt (l : Line) (x y : Nat) : Tile :=
  ⟨l.start.x + l.dx.sign * x, l.start.y + l.dy.sign * y⟩

/-- Twice the way to the next column, by the rows to cross. -/
def columnWay (l : Line) (x : Nat) : Int := (1 + 2 * x) * l.rows

/-- Twice the way to the next row, by the columns to cross. -/
def rowWay (l : Line) (y : Nat) : Int := (1 + 2 * y) * l.columns

/-- Below zero the line meets the next column first, above zero the next row, and at zero both in
one corner. -/
def decision (l : Line) (x y : Nat) : Int := l.columnWay x - l.rowWay y

/-- How many columns and rows are crossed after one more stride. -/
def stride (l : Line) (x y : Nat) : Nat × Nat :=
  if l.decision x y = 0 then (x + 1, y + 1)
  else if l.decision x y < 0 then (x + 1, y)
  else (x, y + 1)

/-- The tiles beside the corner of a stride through one. -/
def flanks (l : Line) (x y : Nat) : List Tile :=
  if l.decision x y = 0 then [l.tileAt (x + 1) y, l.tileAt x (y + 1)].filter (· ≠ l.start) else []

/-- The tile a stride lands on. -/
def landing (l : Line) (x y : Nat) : Tile := l.tileAt (l.stride x y).1 (l.stride x y).2

/-- The tiles a stride asks about, in order. -/
def questions (l : Line) (x y : Nat) : List Tile := l.flanks x y ++ [l.landing x y]

/-- The front of a list up to the first blocked tile, which is its last. -/
def upToBlocked (blocked : Tile → Bool) : List Tile → List Tile
  | [] => []
  | t :: ts => if blocked t then [t] else t :: upToBlocked blocked ts

/-- A stride goes further in at least one direction, and back in none. -/
theorem stride_progress (l : Line) (x y : Nat) :
    x ≤ (l.stride x y).1 ∧ y ≤ (l.stride x y).2 ∧
      x + y < (l.stride x y).1 + (l.stride x y).2 := by
  unfold stride
  split
  · simp only; omega
  · split <;> simp only <;> omega

/-- Looks on from where `x` columns and `y` rows are crossed; `asked` holds the tiles asked about
before, the latest first. -/
def traceFrom (l : Line) (blocked : Tile → Bool) (x y : Nat) (asked : List Tile) : Trace :=
  if x ≤ l.columns ∧ y ≤ l.rows then
    let questions := l.questions x y
    let asked := (upToBlocked blocked questions).reverse ++ asked
    if questions.any blocked then ⟨asked.reverse, false⟩
    else if l.landing x y = l.finish then ⟨asked.reverse, true⟩
    else l.traceFrom blocked (l.stride x y).1 (l.stride x y).2 asked
  else ⟨asked.reverse, false⟩
termination_by (l.columns + 1 - x) + (l.rows + 1 - y)
decreasing_by
  have := l.stride_progress x y
  omega

/-- Looks along the whole line; within one tile there is nothing to ask. -/
def trace (l : Line) (blocked : Tile → Bool) : Trace :=
  if l.start = l.finish then ⟨[], true⟩ else l.traceFrom blocked 0 0 []

/-- Is nothing in the way along the line? -/
def isClear (l : Line) (blocked : Tile → Bool) : Bool := (l.trace blocked).clear

end Line

namespace Position

/-- The line between the tiles of two positions. -/
def lineTo (p q : Position) : Line := ⟨p.tile, q.tile⟩

/-- Does `q` lie open to the view from `p`? -/
def sees (blocked : Tile → Bool) (p q : Position) : Bool := (p.lineTo q).isClear blocked

end Position

namespace Terrain

/-- What is missing from the terrain on a look along the line. -/
def missingAlong? (g : Terrain) (l : Line) : Option MissingTile :=
  (l.trace g.blocks).asked.findSome? g.missing?

/-- Looks along a line, or says which tile the array has no place for. On an open field there is
nothing to look for, however long the line is. -/
def isClearChecked (g : Terrain) (l : Line) : Except MissingTile Bool :=
  if g.isField then .ok true
  else match g.missingAlong? l with
    | some missing => .error missing
    | none => .ok (l.isClear g.blocks)

end Terrain

end Skirmish
