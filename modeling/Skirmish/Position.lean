import Skirmish.Fixed

/-!
# Positions and tiles

A position is a pair of fixed-point coordinates and lies in one tile, the pair of their floors.
Distances are compared as squares in 128 bits, which do not hold all of them. To checked arithmetic
that is an error, and without checks the squares wrap around.
-/

namespace Skirmish

/-- A square of the map, named by the whole coordinates of its lower corner. -/
structure Tile where
  x : Int
  y : Int
  deriving DecidableEq, Inhabited

/-- A point of the map. -/
structure Position where
  x : Fixed
  y : Fixed
  deriving DecidableEq, Inhabited

namespace Position

/-- The point that stands for the absence of a position. -/
def zero : Position := ⟨.zero, .zero⟩

def isZero (p : Position) : Bool := p.x.isZero && p.y.isZero

/-- The tile in which the point lies. -/
def tile (p : Position) : Tile := ⟨p.x.floor.toInt, p.y.floor.toInt⟩

/-- The square of the distance, in units of `2 ^ -32`, unless 128 bits do not hold the square of a
difference, or the sum of the two. -/
def distanceSquaredChecked (p q : Position) : Except Overflow Int := do
  let dx := p.x.units - q.x.units
  let dy := p.y.units - q.y.units
  let columns ← Checked.int128 .multiply (dx * dx)
  let rows ← Checked.int128 .multiply (dy * dy)
  Checked.int128 .add (columns + rows)

/-- Is `q` at most `range` away? A negative range reaches nothing, however far `q` is. -/
def withinChecked (p q : Position) (range : Fixed) : Except Overflow Bool :=
  if range.units < 0 then .ok false
  else do
    let distance ← p.distanceSquaredChecked q
    let reach ← Checked.int128 .multiply (range.units * range.units)
    return distance ≤ reach

/-- The square of the distance as it is without checks: the squares of the two differences wrap
around in 128 bits, and so does their sum. -/
def distanceSquared (p q : Position) : Int :=
  let dx := p.x.units - q.x.units
  let dy := p.y.units - q.y.units
  Wrap.int128 (Wrap.int128 (dx * dx) + Wrap.int128 (dy * dy))

/-- Is `q` at most `range` away, without checks? -/
def within (p q : Position) (range : Fixed) : Bool :=
  0 ≤ range.units && p.distanceSquared q ≤ range.units * range.units

@[simp] theorem isZero_iff {p : Position} : p.isZero = true ↔ p = zero := by
  cases p
  simp [isZero, zero]

theorem within_iff {p q : Position} {range : Fixed} :
    p.within q range = true ↔ 0 ≤ range.units ∧ p.distanceSquared q ≤ range.units * range.units := by
  simp [within]

end Position

end Skirmish
