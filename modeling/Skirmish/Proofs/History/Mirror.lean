import Skirmish.Proofs.History.Retention
import Skirmish.Proofs.Resolution

/-!
# Two histories, one story

Events and log entries are retained apart, and ordered by different keys: that of an entry holds the
damage meant as well. As long as all entries of a skill mean the same damage, the two keys agree on
which comes first, and histories of one size that are fed the same hits keep the same of them.
-/

namespace Skirmish

/-- Entries are ordered like their events, if those of one skill mean the same damage. -/
lemma LogEntry.precedes_event {x y : LogEntry} (h : x.skill = y.skill → x.rawAmount = y.rawAmount) :
    Canonical.precedes x y = Canonical.precedes x.event y.event := by
  change lexLe x.key y.key = lexLe x.event.key y.event.key
  by_cases same : x.skill = y.skill
  · simp [key, Event.key, event, lexLe, same, h same]
  · have apart : x.skill.index ≠ y.skill.index := fun index => same (SkillId.index_inj.1 index)
    simp [key, Event.key, event, lexLe, apart]

namespace History

/-- Do the retained events tell of the retained entries, and do these follow the rules? -/
structure Mirrors (h : History) (rules : Rules) : Prop where
  events : h.events = h.log.map (·.event)
  follow : ∀ x ∈ h.log, x.Follows rules

lemma mirrors_new (b : Budgets) (rules : Rules) : (new b).Mirrors rules :=
  ⟨rfl, by simp [new]⟩

variable {h : History} {rules : Rules}

/-- The hits of a tick, fed to both histories, leave them in agreement. -/
lemma Mirrors.ingest (mirrors : h.Mirrors rules) (same : h.budgets.retained = h.budgets.logged)
    {xs : List LogEntry} (follow : ∀ x ∈ xs, x.Follows rules)
    (room : h.budgets.perTick.toNat = 0 ∨ xs.length ≤ h.budgets.perTick.toNat) :
    ((h.ingest (xs.map (·.event))).ingestLog xs).Mirrors rules := by
  have all : ∀ x ∈ h.log ++ xs, x.Follows rules := by
    intro x hx
    rcases List.mem_append.1 hx with hx | hx
    · exact mirrors.follow x hx
    · exact follow x hx
  constructor
  · have keeps : ∀ x ∈ h.log ++ xs, ∀ y ∈ h.log ++ xs,
        Canonical.precedes x y = Canonical.precedes x.event y.event := by
      intro x hx y hy
      exact LogEntry.precedes_event ((all x hx).rawAmount_eq (all y hy))
    have accepted : h.accepted (xs.map (·.event)) = Canonical.arrange (xs.map (·.event)) := by
      apply Canonical.earliest_of_room
      rwa [List.length_map]
    have merged : (h.events ++ h.accepted (xs.map (·.event))).Perm
        ((h.log ++ xs).map (·.event)) := by
      rw [mirrors.events, accepted, List.map_append]
      exact (Canonical.arrange_perm _).append_left _
    calc Canonical.latest h.budgets.retained.toNat (h.events ++ h.accepted (xs.map (·.event)))
        = Canonical.latest h.budgets.retained.toNat ((h.log ++ xs).map (·.event)) :=
          Canonical.latest_perm Event.key_injective _ merged
      _ = (Canonical.latest h.budgets.retained.toNat (h.log ++ xs)).map (·.event) :=
          (Canonical.map_latest _ keeps).symm
      _ = (Canonical.latest h.budgets.logged.toNat (h.log ++ xs)).map (·.event) := by rw [same]
  · intro x hx
    exact all x (Canonical.mem_arrange.1 ((Canonical.latest_sublist ..).mem hx))

end History

end Skirmish
