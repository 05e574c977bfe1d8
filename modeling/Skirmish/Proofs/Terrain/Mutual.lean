import Skirmish.Proofs.Terrain.Sight

/-!
# Mutual sight

A line meets the same tiles from either end, since the segment between the two centres is the same.
A look does not count the tile it starts from, so the two looks along a line differ in nothing but
the tiles at its ends: if both are open, each end sees the other or neither does.
-/

namespace Skirmish

namespace Line

variable {l : Line} {t : Tile}

/-- The line from its other end. -/
def reverse (l : Line) : Line := ⟨l.finish, l.start⟩

@[simp] lemma start_reverse : l.reverse.start = l.finish := rfl

@[simp] lemma finish_reverse : l.reverse.finish = l.start := rfl

@[simp] lemma reverse_reverse (l : Line) : l.reverse.reverse = l := rfl

@[simp] lemma dx_reverse : l.reverse.dx = -l.dx := by
  rw [dx, dx, start_reverse, finish_reverse, neg_sub]

@[simp] lemma dy_reverse : l.reverse.dy = -l.dy := by
  rw [dy, dy, start_reverse, finish_reverse, neg_sub]

/-! ### The same tiles from either end -/

/-- From the other end, the rest of the segment is left to go. -/
lemma Meets.reverse (h : l.Meets t) : l.reverse.Meets t := by
  obtain ⟨s, hs, hs', column, row⟩ := h
  have across : (l.finish.x : ℚ) + 1 / 2 + (1 - s) * ((-l.dx : Int) : ℚ) =
      l.start.x + 1 / 2 + s * l.dx := by
    rw [dx]
    push_cast
    ring
  have along : (l.finish.y : ℚ) + 1 / 2 + (1 - s) * ((-l.dy : Int) : ℚ) =
      l.start.y + 1 / 2 + s * l.dy := by
    rw [dy]
    push_cast
    ring
  refine ⟨1 - s, sub_nonneg.2 hs', sub_le_self 1 hs, ?_, ?_⟩
  · rw [start_reverse, dx_reverse, across]
    exact column
  · rw [start_reverse, dy_reverse, along]
    exact row

lemma touches_reverse : l.reverse.Touches t ↔ l.Touches t := by
  rw [touches_iff_meets, touches_iff_meets]
  constructor
  · intro h
    rw [← l.reverse_reverse]
    exact h.reverse
  · exact Meets.reverse

lemma touches_start : l.Touches l.start := touches_iff.2 ⟨0, 0, touchesAt_start, tileAt_start.symm⟩

/-- Within one tile a line touches no other. -/
lemma eq_start_of_touches (same : l.start = l.finish) (touches : l.Touches t) : t = l.start := by
  obtain ⟨i, j, at_tile, rfl⟩ := touches_iff.1 touches
  have columns : l.columns = 0 := by simp [columns, dx, same]
  have rows : l.rows = 0 := by simp [rows, dy, same]
  obtain rfl : i = 0 := Nat.le_zero.1 (columns ▸ at_tile.column)
  obtain rfl : j = 0 := Nat.le_zero.1 (rows ▸ at_tile.row)
  exact tileAt_start

/-! ### Looks from either end -/

/-- A way is clear from an open tile exactly if the line touches no blocked tile at all. -/
lemma isClear_from_open_iff (blocked : Tile → Bool) :
    l.isClear blocked = true ∧ blocked l.start = false ↔
      ∀ t, l.Touches t → blocked t = false := by
  rw [isClear_iff]
  constructor
  · rintro ⟨same | clear, start_open⟩ t touches
    · rwa [eq_start_of_touches same touches]
    · by_cases here : t = l.start
      · rwa [here]
      · exact clear t touches here
  · intro clear
    exact ⟨.inr fun t touches _ => clear t touches, clear l.start touches_start⟩

/-- The way is clear from an open tile at one end exactly if it is so from the other. -/
theorem isClear_reverse_iff (blocked : Tile → Bool) :
    l.reverse.isClear blocked = true ∧ blocked l.finish = false ↔
      l.isClear blocked = true ∧ blocked l.start = false := by
  rw [← start_reverse, isClear_from_open_iff, isClear_from_open_iff]
  simp only [touches_reverse]

end Line

/-- One position sees another from an open tile exactly if it is seen from there, and from an open
tile. So between open tiles sight is mutual. -/
theorem Position.sees_mutual (blocked : Tile → Bool) (p q : Position) :
    (p.sees blocked q = true ∧ blocked p.tile = false ↔
      q.sees blocked p = true ∧ blocked q.tile = false) ∧
    (blocked p.tile = false → blocked q.tile = false → p.sees blocked q = q.sees blocked p) := by
  have both : p.sees blocked q = true ∧ blocked p.tile = false ↔
      q.sees blocked p = true ∧ blocked q.tile = false :=
    ((p.lineTo q).isClear_reverse_iff blocked).symm
  refine ⟨both, fun openp openq => ?_⟩
  rw [Bool.eq_iff_iff]
  simpa [openp, openq] using both

/-- A pillar beside a corner bars the view both ways. Whoever stands in the pillar sees out of it and
is not seen. -/
theorem Position.sees_mutual_pillar :
    let pillar : Tile → Bool := (· = ⟨1, 0⟩)
    let p := zero
    let q : Position := ⟨.one, .one⟩
    let inside : Position := ⟨.one, .zero⟩
    pillar p.tile = false ∧ pillar q.tile = false ∧ p.sees pillar q = q.sees pillar p ∧
      p.sees pillar q = false ∧ inside.sees pillar q = true ∧ q.sees pillar inside = false := by
  intro pillar p q inside
  have openp : pillar p.tile = false := by decide
  have openq : pillar q.tile = false := by decide
  have both := (sees_mutual pillar p q).2 openp openq
  have fore : (p.lineTo q).Touches ⟨1, 0⟩ := by decide
  have back : (q.lineTo inside).Touches ⟨1, 0⟩ := by decide
  refine ⟨openp, openq, both, ?_, ?_, ?_⟩
  · exact Line.isClear_eq_false_of_touches (by decide) fore (by decide) rfl
  · exact (Line.isClear_iff pillar).2 (.inr fun t _ other => decide_eq_false other)
  · exact Line.isClear_eq_false_of_touches (by decide) back (by decide) rfl

end Skirmish
