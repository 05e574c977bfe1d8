import Mathlib.Tactic.Lemma
import Skirmish.Terrain

/-!
# Terrain keeps what each tile was set to

All tiles share one array, row by row. A tile of the rectangle has a place of its own in it, so
setting a tile shows in no other, and after any number of changes each tile is as it was last set, or
else as it was drawn. Tiles outside the rectangle stay solid, and a rectangle without tiles is open
everywhere.
-/

namespace Skirmish.Terrain

/-! ### Terrain with a place for each of its tiles -/

/-- Does the array have a place for every tile of the rectangle? -/
def Complete (g : Terrain) : Prop := g.width.toNat * g.height.toNat ≤ g.solid.size

namespace Complete

variable {g : Terrain} (h : g.Complete)

include h

lemma index?_lt {t : Tile} {i : Nat} (hi : g.index? t = some i) : i < g.solid.size := by
  simp only [index?, Option.ite_none_right_eq_some, Option.some.injEq] at hi
  obtain ⟨⟨hx, hy, hw, hh⟩, rfl⟩ := hi
  calc t.y.toNat * g.width.toNat + t.x.toNat
      < t.y.toNat * g.width.toNat + g.width.toNat := by omega
    _ = g.width.toNat * (t.y.toNat + 1) := by rw [Nat.mul_comm, Nat.mul_succ]
    _ ≤ g.width.toNat * g.height.toNat := Nat.mul_le_mul_left _ (by omega)
    _ ≤ g.solid.size := h

lemma unset? (t : Tile) : g.unset? t = none := by
  rw [Terrain.unset?]
  cases hi : g.index? t with
  | none => rfl
  | some i => simp [h.index?_lt hi]

lemma missing? (t : Tile) : g.missing? t = none := by
  rw [Terrain.missing?, h.unset?, ite_self]

lemma set (t : Tile) (solid : Bool) : (g.set t solid).Complete := by
  simpa [Complete] using h

/-- Nothing is missing when a tile is changed or looked up. -/
lemma setChecked (t : Tile) (solid : Bool) : g.setChecked t solid = .ok (g.set t solid) := by
  rw [Terrain.setChecked, h.unset?]

lemma blocksChecked (t : Tile) : g.blocksChecked t = .ok (g.blocks t) := by
  rw [Terrain.blocksChecked, h.missing?]

end Complete

/-! ### What terrain shows -/

/-- Every tile can be looked up. A rectangle without tiles is open everywhere; any other is solid on
the outside, and inside it is as `solid` says. -/
structure Shows (g : Terrain) (columns rows : Nat) (solid : Tile → Bool) : Prop where
  width : g.width.toNat = columns
  height : g.height.toNat = rows
  field : ∀ t : Tile, columns = 0 ∨ rows = 0 → g.blocksChecked t = .ok false
  outside : ∀ t : Tile, columns ≠ 0 → rows ≠ 0 →
    (t.x < 0 ∨ t.y < 0 ∨ columns ≤ t.x ∨ rows ≤ t.y) → g.blocksChecked t = .ok true
  inside : ∀ t : Tile, 0 ≤ t.x → 0 ≤ t.y → t.x < columns → t.y < rows →
    g.blocksChecked t = .ok (solid t)

lemma index?_eq_none_iff {g : Terrain} {t : Tile} :
    g.index? t = none ↔ t.x < 0 ∨ t.y < 0 ∨ g.width.toNat ≤ t.x ∨ g.height.toNat ≤ t.y := by
  simp only [index?]
  split <;> simp <;> omega

/-- Only the tiles of the rectangle matter. -/
lemma Shows.congr {g : Terrain} {columns rows : Nat} {solid solid' : Tile → Bool}
    (shows : g.Shows columns rows solid)
    (same : ∀ t : Tile, 0 ≤ t.x → 0 ≤ t.y → t.x < columns → t.y < rows → solid t = solid' t) :
    g.Shows columns rows solid' := by
  refine { shows with inside := ?_ }
  intro t left top right bottom
  rw [shows.inside t left top right bottom, same t left top right bottom]

lemma complete_clear (width height : UInt32) : (clear width height).Complete := by
  simp [Complete, clear]

lemma isField_clear {width height : UInt32} :
    (clear width height).isField = true ↔ width.toNat = 0 ∨ height.toNat = 0 := by
  rw [isField, clear, Array.isEmpty_iff_size_eq_zero, Array.size_replicate, Nat.mul_eq_zero]

/-- Open terrain shows no solid tile. -/
lemma shows_clear (width height : UInt32) :
    (clear width height).Shows width.toNat height.toNat fun _ => false := by
  have complete := complete_clear width height
  refine ⟨rfl, rfl, ?_, ?_, ?_⟩ <;> simp only [complete.blocksChecked, Except.ok.injEq]
  · intro t empty
    rw [blocks, if_pos (isField_clear.2 empty)]
  · intro t columns rows out
    rw [blocks, if_neg (mt isField_clear.1 (by omega)), index?_eq_none_iff.2 out]
  · intro t left top right bottom
    obtain ⟨i, hi⟩ := Option.ne_none_iff_exists'.1
      (mt index?_eq_none_iff.1 (by simp only [clear]; omega) : (clear width height).index? t ≠ none)
    have hlt := complete.index?_lt hi
    simp_all [blocks, clear]

/-! ### One change -/

lemma set_of_index?_eq_none {g : Terrain} {t : Tile} (h : g.index? t = none) (b : Bool) :
    g.set t b = g := by
  rw [set, h]

lemma Complete.blocks_set_self {g : Terrain} (h : g.Complete) {t : Tile} {i : Nat}
    (hi : g.index? t = some i) (b : Bool) : (g.set t b).blocks t = b := by
  have hlt := h.index?_lt hi
  have full : g.isField = false := by
    simp [isField, Array.ne_empty_of_size_pos (Nat.zero_lt_of_lt hlt)]
  have place : (g.set t b).solid = g.solid.setIfInBounds i b := by rw [Terrain.set, hi]
  simp [blocks, full, hi, place, hlt]

/-- A change shows in no other tile, also when the array has no place for some. -/
lemma blocksChecked_set_of_ne {g : Terrain} {t u : Tile} (other : u ≠ t) (b : Bool) :
    (g.set t b).blocksChecked u = g.blocksChecked u := by
  simp [blocksChecked, missing?, unset?, blocks_set_of_ne other.symm]

lemma eq_set_of_setChecked {g g' : Terrain} {t : Tile} {b : Bool}
    (h : g.setChecked t b = .ok g') : g' = g.set t b := by
  rw [setChecked] at h
  split at h
  · cases h
  · exact (Except.ok.inj h).symm

/-- Terrain that shows something shows the same after a change, but for the tile that was changed. -/
lemma Shows.set {g : Terrain} {columns rows : Nat} {solid : Tile → Bool} (complete : g.Complete)
    (shows : g.Shows columns rows solid) (t : Tile) (b : Bool) :
    (g.set t b).Shows columns rows fun u => if t = u then b else solid u := by
  cases ht : g.index? t with
  | none =>
    -- The tile lies outside, where it does not matter what `solid` says of it.
    rw [set_of_index?_eq_none ht]
    refine shows.congr ?_
    intro u left top right bottom
    rw [index?_eq_none_iff, shows.width, shows.height] at ht
    rw [if_neg]
    rintro rfl
    omega
  | some i =>
    have lies := mt index?_eq_none_iff.2 (by simp [ht] : g.index? t ≠ none)
    rw [shows.width, shows.height] at lies
    refine ⟨by simp [shows.width], by simp [shows.height], ?_, ?_, ?_⟩
    · intro u empty
      omega
    · intro u left top out
      rw [blocksChecked_set_of_ne (by rintro rfl; omega), shows.outside u left top out]
    · intro u left top right bottom
      split
      case isTrue same =>
        subst same
        rw [(complete.set t b).blocksChecked, complete.blocks_set_self ht]
      case isFalse other =>
        rw [blocksChecked_set_of_ne (Ne.symm other), shows.inside u left top right bottom]

/-! ### Whole histories -/

/-- The terrain after some tiles were set, the latest in front, or what was missing on the way. -/
def paint (g : Terrain) : List (Tile × Bool) → Except MissingTile Terrain
  | [] => .ok g
  | (t, b) :: earlier => do (← g.paint earlier).setChecked t b

/-- What the tile was last set to. -/
def lastSet? (t : Tile) (history : List (Tile × Bool)) : Option Bool :=
  (history.find? fun change => change.1 = t).map (·.2)

lemma lastSet?_cons (t u : Tile) (b : Bool) (earlier : List (Tile × Bool)) :
    lastSet? u ((t, b) :: earlier) = if t = u then some b else lastSet? u earlier := by
  by_cases same : t = u <;> simp [lastSet?, same]

/-- Any history can be painted, and every tile is then as it was last set, or else as before. -/
lemma Shows.paint {g : Terrain} {columns rows : Nat} {solid : Tile → Bool} (complete : g.Complete)
    (shows : g.Shows columns rows solid) (history : List (Tile × Bool)) :
    ∃ g', g.paint history = .ok g' ∧ g'.Complete ∧
      g'.Shows columns rows fun t => (lastSet? t history).getD (solid t) := by
  induction history with
  | nil => exact ⟨g, rfl, complete, shows⟩
  | cons change earlier ih =>
    obtain ⟨t, b⟩ := change
    obtain ⟨g', paints, complete', shows'⟩ := ih
    refine ⟨g'.set t b, ?_, complete'.set t b, ?_⟩
    · rw [Terrain.paint, paints]
      exact complete'.setChecked t b
    · refine (shows'.set complete' t b).congr ?_
      intro u _ _ _ _
      rw [lastSet?_cons]
      split <;> rfl

/-! ### Drawings -/

/-- Does the row of the tile have `#` in the tile's column? -/
def isDrawn (rows : List String) (t : Tile) : Bool :=
  (rows[t.y.toNat]?.bind fun row => row.toList[t.x.toNat]?) == some '#'

/-- Rows and columns keep their numbers where there are fewer than `2 ^ 31` of them. -/
lemma toInt_ofNat_of_getElem? {rows : List String} (few : rows.length < 0x80000000)
    (short : ∀ row ∈ rows, row.length < 0x80000000) {x y : Nat} {row : String} {c : Char}
    (hy : rows[y]? = some row) (hx : row.toList[x]? = some c) :
    (Int32.ofNat x).toInt = x ∧ (Int32.ofNat y).toInt = y := by
  have below : y < rows.length := (List.getElem?_eq_some_iff.1 hy).1
  have inside : x < row.length := (List.getElem?_eq_some_iff.1 hx).1
  have narrow := short row (List.mem_of_getElem? hy)
  exact ⟨Int32.toInt_ofNat_of_lt (by omega), Int32.toInt_ofNat_of_lt (by omega)⟩

lemma mem_drawn_iff {rows : List String} (few : rows.length < 0x80000000)
    (short : ∀ row ∈ rows, row.length < 0x80000000) {t : Tile} :
    t ∈ drawn rows ↔ 0 ≤ t.x ∧ 0 ≤ t.y ∧ isDrawn rows t := by
  simp only [drawn, isDrawn, List.mem_flatMap, List.mem_filterMap, List.mem_zipIdx_iff_getElem?,
    Prod.exists, Option.ite_none_right_eq_some, Option.some.injEq, beq_iff_eq,
    Option.bind_eq_some_iff]
  constructor
  · rintro ⟨row, y, hy, c, x, hx, rfl, rfl⟩
    obtain ⟨column, line⟩ := toInt_ofNat_of_getElem? few short hy hx
    rw [column, line]
    exact ⟨Int.natCast_nonneg x, Int.natCast_nonneg y, row, hy, hx⟩
  · rintro ⟨left, top, row, hy, hx⟩
    obtain ⟨column, line⟩ := toInt_ofNat_of_getElem? few short hy hx
    refine ⟨row, t.y.toNat, hy, '#', t.x.toNat, hx, rfl, ?_⟩
    rw [column, line, Int.toNat_of_nonneg left, Int.toNat_of_nonneg top]

/-- What terrain shows after some tiles were made solid. -/
lemma Shows.foldl_set {g : Terrain} {columns rows : Nat} {solid : Tile → Bool}
    (complete : g.Complete) (shows : g.Shows columns rows solid) (ts : List Tile) :
    (ts.foldl (fun g t => g.set t true) g).Complete ∧
      (ts.foldl (fun g t => g.set t true) g).Shows columns rows
        fun u => decide (u ∈ ts) || solid u := by
  induction ts generalizing g solid with
  | nil => exact ⟨complete, by simpa using shows⟩
  | cons t ts ih =>
    obtain ⟨complete', shows'⟩ := ih (complete.set t true) (shows.set complete t true)
    refine ⟨complete', shows'.congr ?_⟩
    intro u _ _ _ _
    by_cases same : t = u <;> simp [same, eq_comm]

/-- A drawing shows what it marks. -/
lemma shows_ofRows {rows : List String} (few : rows.length < 0x80000000)
    (short : ∀ row ∈ rows, row.length < 0x80000000) :
    (ofRows rows).Complete ∧
      (ofRows rows).Shows ((rows.map String.length).max?.getD 0) rows.length (isDrawn rows) := by
  have narrow : (rows.map String.length).max?.getD 0 < 0x80000000 := by
    cases longest : (rows.map String.length).max? with
    | none => decide
    | some length =>
      obtain ⟨row, hrow, rfl⟩ := List.mem_map.1 (List.max?_mem longest)
      exact short row hrow
  have start := shows_clear (UInt32.ofNat ((rows.map String.length).max?.getD 0))
    (UInt32.ofNat rows.length)
  rw [UInt32.toNat_ofNat_of_lt' (Nat.lt_trans narrow (by decide)),
    UInt32.toNat_ofNat_of_lt' (Nat.lt_trans few (by decide))] at start
  obtain ⟨complete, shows⟩ := start.foldl_set (complete_clear _ _) (drawn rows)
  refine ⟨complete, shows.congr ?_⟩
  intro t left top _ _
  simp [mem_drawn_iff few short, left, top]

/-- Painted terrain shows each tile as it was last set, or else as it was drawn. No tile that is
changed or looked up is ever missing, and no change shows in another tile. -/
theorem paint_shows_last (history : List (Tile × Bool)) :
    (∀ rows : List String, rows.length < 0x80000000 → (∀ row ∈ rows, row.length < 0x80000000) →
      ∃ g, (ofRows rows).paint history = .ok g ∧
        g.Shows ((rows.map String.length).max?.getD 0) rows.length fun t =>
          (lastSet? t history).getD (isDrawn rows t)) ∧
    (∀ width height : UInt32, ∃ g, (clear width height).paint history = .ok g ∧
      g.Shows width.toNat height.toNat fun t => (lastSet? t history).getD false) ∧
    ∀ (g g' : Terrain) (t u : Tile) (b : Bool), g.setChecked t b = .ok g' → u ≠ t →
      g'.blocksChecked u = g.blocksChecked u := by
  refine ⟨?_, ?_, ?_⟩
  · intro rows few short
    obtain ⟨complete, shows⟩ := shows_ofRows few short
    obtain ⟨g, paints, -, painted⟩ := shows.paint complete history
    exact ⟨g, paints, painted⟩
  · intro width height
    obtain ⟨g, paints, -, painted⟩ :=
      (shows_clear width height).paint (complete_clear width height) history
    exact ⟨g, paints, painted⟩
  · intro g g' t u b sets other
    obtain rfl := eq_set_of_setChecked sets
    exact blocksChecked_set_of_ne other b

/-- The last column of a short row is made solid, and tiles past the ends of the rows stay apart from
those whose places come next. Where a place is missing it stays so. -/
theorem paint_shows_last_ragged :
    let rows := ["..#", "#"]
    let history : List (Tile × Bool) :=
      [(⟨2, 1⟩, true), (⟨0, 1⟩, false), (⟨-1, 1⟩, false), (⟨3, 0⟩, true), (⟨0, 1⟩, true)]
    rows.length < 0x80000000 ∧ (∀ row ∈ rows, row.length < 0x80000000) ∧
      (∃ g, (ofRows rows).paint history = .ok g ∧ g.blocksChecked ⟨2, 0⟩ = .ok true ∧
        g.blocksChecked ⟨3, 0⟩ = .ok true ∧ g.blocksChecked ⟨0, 1⟩ = .ok false ∧
        g.blocksChecked ⟨1, 1⟩ = .ok false ∧ g.blocksChecked ⟨2, 1⟩ = .ok true) ∧
      (∃ g, (clear 3 0).paint history = .ok g ∧ g.blocksChecked ⟨2, 1⟩ = .ok false) ∧
      (⟨3, 2, #[true]⟩ : Terrain).setChecked ⟨0, 0⟩ false = .ok ⟨3, 2, #[false]⟩ ∧
      (⟨3, 2, #[false]⟩ : Terrain).blocksChecked ⟨2, 1⟩ = .error ⟨1, 5⟩ := by
  intro rows history
  have few : rows.length < 0x80000000 := by decide
  have short : ∀ row ∈ rows, row.length < 0x80000000 := by decide
  obtain ⟨drawing, opening, apart⟩ := paint_shows_last history
  obtain ⟨g, paints, shows⟩ := drawing rows few short
  obtain ⟨g', paints', shows'⟩ := opening 3 0
  have sets : (⟨3, 2, #[true]⟩ : Terrain).setChecked ⟨0, 0⟩ false = .ok ⟨3, 2, #[false]⟩ := rfl
  refine ⟨few, short, ⟨g, paints, ?_, ?_, ?_, ?_, ?_⟩, ⟨g', paints', ?_⟩, sets, ?_⟩
  · exact shows.inside ⟨2, 0⟩ (by decide) (by decide) (by decide) (by decide)
  · exact shows.outside ⟨3, 0⟩ (by decide) (by decide) (by decide)
  · exact shows.inside ⟨0, 1⟩ (by decide) (by decide) (by decide) (by decide)
  · exact shows.inside ⟨1, 1⟩ (by decide) (by decide) (by decide) (by decide)
  · exact shows.inside ⟨2, 1⟩ (by decide) (by decide) (by decide) (by decide)
  · exact shows'.field ⟨2, 1⟩ (by decide)
  · exact apart _ _ _ ⟨2, 1⟩ _ sets (by decide)

end Skirmish.Terrain
