import Mathlib.Data.List.Forall2
import Skirmish.Proofs.Encounter.Run
import Skirmish.Proofs.Intake

/-!
# The order of arrival

A tick does not depend on the order in which its commands arrive. What is taken in is put in
canonical order before anything else looks at it, and the key of that order tells any two intents
apart that can get there; the refusals are only counted.
-/

namespace Skirmish

/-! ### Counting refusals -/

namespace RefusalCounts

lemma ext_count {c d : RefusalCounts} (h : ∀ r, c.count r = d.count r) : c = d := by
  have ranks : ∀ i : Fin 9, ∃ r ∈ Refusal.all, r.rank = i := by decide
  obtain ⟨cs⟩ := c
  obtain ⟨ds⟩ := d
  congr 1
  apply Vector.ext
  intro i hi
  obtain ⟨r, -, hr⟩ := ranks ⟨i, hi⟩
  have same := h r
  simp only [count, hr] at same
  exact same

lemma ofList_perm {rs ss : List Refusal} (h : rs.Perm ss) : ofList rs = ofList ss := by
  apply ext_count
  intro r
  rw [count_ofList, count_ofList, h.count_eq r]

end RefusalCounts

/-! ### One tick -/

/-- The same tick, with the same commands in any order. -/
def Turn.Reordered (t u : Turn) : Prop := t.tick = u.tick ∧ t.commands.Perm u.commands

namespace Encounter

variable {rules : Rules} {tick : Tick} {e : Encounter} {cs ds : List Command}

lemma candidates_perm (h : cs.Perm ds) :
    e.candidates rules tick cs = e.candidates rules tick ds := by
  apply Canonical.arrange_eq_of_perm
  · exact h.filterMap _
  · exact Intent.separates_of_faithful fun i hi => Command.faithful_of_mem_accepted hi

lemma gate_perm (h : cs.Perm ds) : e.gate rules tick cs = e.gate rules tick ds := by
  rw [gate, gate, candidates_perm h]

lemma resolution_perm (h : cs.Perm ds) :
    e.resolution rules tick cs = e.resolution rules tick ds := by
  rw [resolution, resolution, gate_perm h]

/-- A tick comes out the same, in whatever order its commands arrive. -/
lemma step_perm (h : cs.Perm ds) : e.step rules tick cs = e.step rules tick ds := by
  have refused : (Command.refused rules e.zone tick cs).Perm
      (Command.refused rules e.zone tick ds) := h.filterMap _
  have refusals (held : List Refusal) :
      RefusalCounts.ofList (Command.refused rules e.zone tick cs ++ held) =
        RefusalCounts.ofList (Command.refused rules e.zone tick ds ++ held) :=
    RefusalCounts.ofList_perm (refused.append_right held)
  simp only [step, gate_perm h, resolution_perm h, refusals, h.length_eq]

/-- Whether a tick breaks down does not depend on the order, only what breaks down first. -/
lemma isSome_breakdown?_perm (h : cs.Perm ds) :
    (e.breakdown? rules cs).isSome = (e.breakdown? rules ds).isSome := by
  rw [Bool.eq_iff_iff, breakdown?, breakdown?, List.isSome_findSome?, List.isSome_findSome?,
    List.any_eq_true, List.any_eq_true]
  exact exists_congr fun c => and_congr_left fun _ => h.mem_iff

/-! ### Whole runs -/

lemma run_cons (rules : Rules) (e : Encounter) (t : Turn) (ts : List Turn) :
    e.run rules (t :: ts) =
      if (e.breakdown? rules t.commands).isSome then []
      else e.step rules t.tick t.commands ::
        (e.step rules t.tick t.commands).next.run rules ts := by
  unfold run
  rw [rounds, stepChecked]
  cases e.breakdown? rules t.commands <;> simp

/-- A run comes out the same tick by tick, in whatever order the commands of each tick arrive, and
so do the digests of what each tick leaves, by whatever hash. -/
theorem run_reordered (rules : Rules) (e : Encounter) {ts us : List Turn}
    (h : List.Forall₂ Turn.Reordered ts us) :
    e.run rules ts = e.run rules us ∧
      ∀ hash, (e.run rules ts).map (Outcome.digest hash) =
        (e.run rules us).map (Outcome.digest hash) := by
  suffices same : e.run rules ts = e.run rules us from ⟨same, fun hash => by rw [same]⟩
  induction h generalizing e with
  | nil => rfl
  | @cons t u ts us head tail ih =>
    obtain ⟨ticks, commands⟩ := head
    rw [run_cons, run_cons, isSome_breakdown?_perm commands, ticks, step_perm commands, ih]

/-- In every turn of the brawl the commands arrive in the opposite order. -/
theorem run_reordered_brawl :
    brawl.run brawlRules brawlTurns =
      brawl.run brawlRules (brawlTurns.map fun t => ⟨t.tick, t.commands.reverse⟩) := by
  have reordered : List.Forall₂ Turn.Reordered brawlTurns
      (brawlTurns.map fun t => ⟨t.tick, t.commands.reverse⟩) := by
    rw [List.forall₂_map_right_iff, List.forall₂_same]
    intro t _
    exact ⟨rfl, (List.reverse_perm t.commands).symm⟩
  exact (run_reordered brawlRules brawl reordered).1

end Encounter

end Skirmish
