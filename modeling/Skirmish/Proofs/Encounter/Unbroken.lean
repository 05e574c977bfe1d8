import Skirmish.Proofs.Encounter.Run
import Skirmish.Proofs.Position
import Skirmish.Proofs.Resolution
import Skirmish.Proofs.Terrain.Tiles

/-!
# Runs that do not break off

Where the terrain has a place for each of its tiles, and all that stands or is aimed at lies in the
middle half of the map, no turn breaks down: no tile is missing, and no distance overflows. Ticks
keep the terrain and the positions, so a run plays every turn (`length_rounds`).
-/

namespace Skirmish

/-- Has the terrain a place for each of its tiles, and do all entities stand in the middle half of
the map? -/
structure Zone.Tame (z : Zone) : Prop where
  complete : z.terrain.Complete
  central : ∀ e ∈ z.entities, e.position.Central

/-- Does the command aim at no point, or at one in the middle half of the map? -/
def Command.Tame (c : Command) : Prop := (c.point.getD .zero).Central

instance (c : Command) : Decidable c.Tame := inferInstanceAs (Decidable (Position.Central _))

variable {rules : Rules} {tick : Tick} {z : Zone}

/-! ### Commands -/

namespace Cast

variable {c : Cast}

lemma central_of_aimPoint? (h : z.Tame) (aimed : c.point.Central) {p : Position}
    (hp : c.aimPoint? z = .ok (some p)) : p.Central := by
  rw [aimPoint?] at hp
  split at hp
  · simp at hp
  · split at hp
    · rename_i target found
      obtain rfl : target.position = p := by simpa using hp
      exact h.central target (Keyed.mem_of_find? found)
    · simp at hp
  · obtain rfl : c.point = p := by simpa using hp
    exact aimed
  · simp at hp

lemma overflow?_of_tame (h : z.Tame) (aimed : c.point.Central) : c.overflow? rules z = none := by
  rw [overflow?]
  split
  · rename_i skill caster aim known found aims
    have fits : caster.position.Fits aim :=
      (h.central caster (Keyed.mem_of_find? found)).fits (central_of_aimPoint? h aimed aims)
    have answered : caster.position.withinChecked aim skill.range =
        .ok (decide (caster.position.Near aim skill.range)) :=
      Position.withinChecked_eq_ok_iff.2 ⟨.inr fits, decide_eq_true_iff⟩
    rw [answered]
    exact ite_self none
  · rfl

lemma missingTile?_of_tame (h : z.Tame) : c.missingTile? rules z = none := by
  rw [missingTile?]
  split
  · exact List.findSome?_eq_none_iff.2 fun t _ => h.complete.missing? t
  · rfl

end Cast

lemma Command.breakdown?_of_tame (h : z.Tame) {c : Command} (hc : c.Tame) :
    c.breakdown? rules z = none := by
  rw [breakdown?]
  cases hcast : Cast.ofCommand? c with
  | none => rfl
  | some cast =>
    have aimed : cast.point.Central := by
      rw [Cast.ofCommand?, Option.ite_none_right_eq_some, Option.map_eq_some_iff] at hcast
      obtain ⟨-, skill, -, rfl⟩ := hcast
      exact hc
    simp only [Cast.breakdown?, Cast.overflow?_of_tame h aimed, Cast.missingTile?_of_tame h,
      Option.map_none, ite_self]

/-! ### Ticks -/

lemma Zone.Tame.withEntity (h : z.Tame) {e : Entity} (he : e.position.Central) :
    (z.withEntity e).Tame where
  complete := h.complete
  central := by
    intro x hx
    rcases Keyed.mem_put hx with rfl | hx
    · exact he
    · exact h.central x hx

lemma Resolution.tame_run (h : z.Tame) (out : Nat) (is : List Intent) :
    (run rules tick z out is).zone.Tame := by
  refine invariant rules tick (P := Zone.Tame) ?_ h out is
  intro z i hit h struck
  obtain ⟨skill, target, -, found, -, rfl⟩ := Intent.hit?_eq_some struck
  exact h.withEntity (h.central target (Keyed.mem_of_find? found))

namespace Encounter

variable {e : Encounter}

lemma stepChecked_of_tame (h : e.zone.Tame) {cs : List Command} (hcs : ∀ c ∈ cs, c.Tame) :
    e.stepChecked rules tick cs = .ok (e.step rules tick cs) := by
  have nothing : e.breakdown? rules cs = none :=
    List.findSome?_eq_none_iff.2 fun c hc => Command.breakdown?_of_tame h (hcs c hc)
  rw [stepChecked, nothing]

/-- A run plays every turn, if the terrain has a place for each of its tiles and all that stands or
is aimed at lies in the middle half of the map. -/
theorem length_rounds (h : e.zone.Tame) {ts : List Turn} (hts : ∀ t ∈ ts, ∀ c ∈ t.commands, c.Tame) :
    (e.rounds rules ts).length = ts.length := by
  induction ts generalizing e with
  | nil => rfl
  | cons t ts ih =>
    obtain ⟨ht, hts⟩ := List.forall_mem_cons.1 hts
    have rest : ((e.step rules t.tick t.commands).next.rounds rules ts).length = ts.length :=
      ih (Resolution.tame_run h 0 _) hts
    rw [rounds, stepChecked_of_tame h ht]
    simpa using rest

end Encounter

end Skirmish
