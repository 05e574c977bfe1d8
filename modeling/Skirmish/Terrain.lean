import Skirmish.Position

/-!
# Terrain

A rectangle of tiles, some of them solid, kept row by row in one array. Everything outside the
rectangle is solid. Terrain without any tile is an open field.

The array may be too short for the rectangle when it was read from elsewhere. Such a tile is
missing: it counts as solid, and `missing?` tells it apart, so that a caller who needs the tile can
refuse it.
-/

namespace Skirmish

/-- A rectangular map of solid tiles. -/
structure Terrain where
  width : UInt32
  height : UInt32
  solid : Array Bool
  deriving DecidableEq, Inhabited

/-- A tile of the rectangle for which the array has no place: where it should be, and how long the
array is. -/
structure MissingTile where
  length : Nat
  index : Nat
  deriving DecidableEq

def MissingTile.message (m : MissingTile) : String :=
  s!"index out of bounds: the len is {m.length} but the index is {m.index}"

namespace Terrain

/-- Terrain that holds no tiles. -/
def field : Terrain := ⟨0, 0, #[]⟩

/-- A rectangle without a solid tile. -/
def clear (width height : UInt32) : Terrain :=
  ⟨width, height, Array.replicate (width.toNat * height.toNat) false⟩

/-- Terrain that holds no tiles is an open field. -/
def isField (g : Terrain) : Bool := g.solid.isEmpty

/-- The place of a tile in the array; a tile outside the rectangle has none. -/
def index? (g : Terrain) (t : Tile) : Option Nat :=
  if 0 ≤ t.x ∧ 0 ≤ t.y ∧ t.x < g.width.toNat ∧ t.y < g.height.toNat then
    some (t.y.toNat * g.width.toNat + t.x.toNat)
  else none

/-- Is the tile solid? -/
def blocks (g : Terrain) (t : Tile) : Bool :=
  if g.isField then false
  else match g.index? t with
    | some i => g.solid.getD i true
    | none => true

/-- Makes a tile solid or open; a tile without a place in the array stays as it is. -/
def set (g : Terrain) (t : Tile) (solid : Bool) : Terrain :=
  match g.index? t with
  | some i => { g with solid := g.solid.setIfInBounds i solid }
  | none => g

/-- The tiles that a drawing marks with `#`, row by row. Rows and columns are numbered with thirty-two
bits, so that far out the numbers turn negative. -/
def drawn (rows : List String) : List Tile :=
  rows.zipIdx.flatMap fun (row, y) =>
    row.toList.zipIdx.filterMap fun (c, x) =>
      if c = '#' then some ⟨(Int32.ofNat x).toInt, (Int32.ofNat y).toInt⟩ else none

/-- Terrain drawn as text, a row for each line and `#` for each solid tile. Short rows end with open
tiles. -/
def ofRows (rows : List String) : Terrain :=
  let width := (rows.map String.length).max?.getD 0
  (drawn rows).foldl (fun g t => g.set t true)
    (clear (UInt32.ofNat width) (UInt32.ofNat rows.length))

/-- What is missing when the tile is changed. -/
def unset? (g : Terrain) (t : Tile) : Option MissingTile :=
  match g.index? t with
  | some i => if i < g.solid.size then none else some ⟨g.solid.size, i⟩
  | none => none

/-- What is missing when the tile is looked up: nothing in an open field. -/
def missing? (g : Terrain) (t : Tile) : Option MissingTile :=
  if g.isField then none else g.unset? t

/-- Changes a tile, or says that the array has no place for it. -/
def setChecked (g : Terrain) (t : Tile) (solid : Bool) : Except MissingTile Terrain :=
  match g.unset? t with
  | some missing => .error missing
  | none => .ok (g.set t solid)

/-- Looks a tile up, or says that the array has no place for it. -/
def blocksChecked (g : Terrain) (t : Tile) : Except MissingTile Bool :=
  match g.missing? t with
  | some missing => .error missing
  | none => .ok (g.blocks t)

/-! ### Sizes stay, and so do other tiles -/

@[simp] theorem width_set (g : Terrain) (t : Tile) (b : Bool) : (g.set t b).width = g.width := by
  unfold set
  split <;> rfl

@[simp] theorem height_set (g : Terrain) (t : Tile) (b : Bool) :
    (g.set t b).height = g.height := by
  unfold set
  split <;> rfl

@[simp] theorem size_solid_set (g : Terrain) (t : Tile) (b : Bool) :
    (g.set t b).solid.size = g.solid.size := by
  unfold set
  split <;> simp

@[simp] theorem index?_set (g : Terrain) (t u : Tile) (b : Bool) :
    (g.set t b).index? u = g.index? u := by
  simp [index?]

@[simp] theorem isField_set (g : Terrain) (t : Tile) (b : Bool) :
    (g.set t b).isField = g.isField := by
  simp [isField, Array.isEmpty]

/-- Two tiles of the rectangle never share a place in the array. -/
theorem index?_inj {g : Terrain} {t u : Tile} {i : Nat} (ht : g.index? t = some i)
    (hu : g.index? u = some i) : t = u := by
  simp only [index?, Option.ite_none_right_eq_some, Option.some.injEq] at ht hu
  obtain ⟨⟨htx, hty, htw, -⟩, hti⟩ := ht
  obtain ⟨⟨hux, huy, huw, -⟩, hui⟩ := hu
  have htx' : t.x.toNat < g.width.toNat := by omega
  have hux' : u.x.toNat < g.width.toNat := by omega
  have rows : t.y.toNat = u.y.toNat := by
    have := congrArg (· / g.width.toNat) (hti.trans hui.symm)
    simpa [Nat.mul_comm _ g.width.toNat, Nat.mul_add_div (Nat.zero_lt_of_lt htx'),
      Nat.div_eq_of_lt htx', Nat.div_eq_of_lt hux'] using this
  have columns : t.x.toNat = u.x.toNat := by
    rw [rows] at hti
    omega
  have hx : t.x = u.x := by omega
  have hy : t.y = u.y := by omega
  cases t
  cases u
  simp_all

theorem blocks_set_of_ne {g : Terrain} {t u : Tile} (h : t ≠ u) (b : Bool) :
    (g.set t b).blocks u = g.blocks u := by
  simp only [blocks, isField_set, index?_set]
  split
  · rfl
  · cases hu : g.index? u with
    | none => rfl
    | some j =>
      simp only [set]
      cases ht : g.index? t with
      | none => rfl
      | some i =>
        have hij : i ≠ j := fun hij => h (index?_inj ht (hij ▸ hu))
        simp [Array.getD_eq_getD_getElem?, Array.getElem?_setIfInBounds_ne hij]

end Terrain

end Skirmish
