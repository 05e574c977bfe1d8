import Skirmish.Proofs.Encounter.Account
import Skirmish.Proofs.Order.Selection

/-!
# Every check passes again

A tick leaves an encounter in which all checks find nothing, the histories are within their budgets
and no standing is idle, whatever the commands were. What an encounter is checked for is therefore
never found on a run that starts from a sound zone, an empty ledger and an empty history.
-/

namespace Skirmish

/-! ### Health and life -/

/-- Is the entity alive exactly if it has health left? -/
def Entity.Vital (e : Entity) : Prop := e.alive = true ↔ 0 < e.health.toInt

/-- Is every entity of the zone alive exactly if it has health left? -/
def Zone.Vital (z : Zone) : Prop := ∀ e ∈ z.entities, e.Vital

instance (e : Entity) : Decidable e.Vital := inferInstanceAs (Decidable (_ ↔ _))

instance (z : Zone) : Decidable z.Vital := inferInstanceAs (Decidable (∀ e ∈ z.entities, _))

/-- Damage takes life along with the last of the health. -/
lemma Entity.Vital.hurt {e : Entity} (vital : e.Vital) (damage : Int32) :
    (e.hurt damage).Vital := by
  have health := e.toInt_health_hurt damage
  have alive : (e.hurt damage).alive = true ↔
      e.alive = true ∧ 0 < (e.hurt damage).health.toInt := by
    simp [Entity.hurt]
  rw [Vital, alive]
  constructor
  · intro h
    exact h.2
  · intro left
    exact ⟨vital.2 (by omega), left⟩

lemma Zone.Vital.withEntity {z : Zone} (vital : z.Vital) {e : Entity} (he : e.Vital) :
    (z.withEntity e).Vital := by
  intro x hx
  rcases Keyed.mem_put hx with rfl | hx
  · exact he
  · exact vital x hx

lemma Resolution.vital_run (rules : Rules) (tick : Tick) {z : Zone} (vital : z.Vital) (out : Nat)
    (is : List Intent) : (run rules tick z out is).zone.Vital := by
  refine invariant rules tick ?_ vital out is
  intro z i hit vital found
  obtain ⟨skill, target, -, htarget, -, rfl⟩ := Intent.hit?_eq_some found
  exact vital.withEntity ((vital target (Keyed.mem_of_find? htarget)).hurt skill.damage)

/-! ### Checks -/

namespace Ledger

/-- Once time has passed, no standing is idle. -/
lemma busy_of_mem_tick {l : Ledger} {s : Standing} (h : s ∈ l.tick.standings) :
    s.cooldowns.entries ≠ [] ∨ s.threats.entries ≠ [] := by
  have busy := (List.mem_filter.1 h).2
  exact Standing.isIdle_eq_false_iff.1 (by simpa using busy)

end Ledger

namespace Encounter

/-- Do all checks of the encounter find nothing? -/
structure Passes (e : Encounter) : Prop where
  zone : e.zone.violation? = none
  ledger : e.ledger.violation? = none
  standings : ∀ s ∈ e.ledger.standings, s.cooldowns.violation? = none ∧ s.threats.violation? = none
  events : Canonical.violation? e.history.events = none
  log : Canonical.violation? e.history.log = none

/-- Are the histories within the budgets, and is no standing idle? -/
structure Trim (e : Encounter) (b : Budgets) : Prop where
  events : b.retained.toNat ≠ 0 → e.history.events.length ≤ b.retained.toNat
  log : b.logged.toNat ≠ 0 → e.history.log.length ≤ b.logged.toNat
  standings : ∀ s ∈ e.ledger.standings, s.cooldowns.entries ≠ [] ∨ s.threats.entries ≠ []

variable {rules : Rules} {e : Encounter}

/-- Zone and ledger pass all of their checks if they are sound. -/
lemma Sound.passes (sound : e.Sound) (events : Canonical.violation? e.history.events = none)
    (log : Canonical.violation? e.history.log = none) : e.Passes where
  zone := Zone.sound_iff.2 sound.zone
  ledger := Ledger.sound_iff.2 sound.ledger
  standings := by
    intro s hs
    have standing := sound.ledger.standings s hs
    exact ⟨Cooldowns.sound_iff.2 standing.cooldowns, Threats.sound_iff.2 standing.threats⟩
  events := events
  log := log

lemma Passes.sound (passes : e.Passes) : e.Sound :=
  ⟨Zone.sound_iff.1 passes.zone, Ledger.sound_iff.1 passes.ledger⟩

lemma passes_after_step (sound : e.Sound) (tick : Tick) (cs : List Command) :
    (e.step rules tick cs).next.Passes := by
  have after : (e.round rules ⟨tick, cs⟩).after.Sound := sound.after_round
  exact after.passes (Canonical.violation?_latest ..) (Canonical.violation?_latest ..)

lemma trim_after_step (tick : Tick) (cs : List Command) :
    (e.step rules tick cs).next.Trim e.history.budgets where
  events := Canonical.length_latest_le
  log := Canonical.length_latest_le
  standings := fun _ => Ledger.busy_of_mem_tick

/-! ### What ticks lead to -/

/-- The encounters that ticks lead to, by any rules, from a zone that passes its check with nothing in
the ledger and in the history. -/
inductive Reachable : Encounter → Prop where
  | new {z : Zone} (sound : z.violation? = none) (b : Budgets) : Reachable (.new z (.new b))
  | step {e : Encounter} (h : Reachable e) (rules : Rules) (tick : Tick) (cs : List Command) :
      Reachable (e.step rules tick cs).next

lemma Reachable.passes (h : Reachable e) : e.Passes := by
  induction h with
  | new sound b => exact Sound.passes ⟨Zone.sound_iff.1 sound, Ledger.sound_empty⟩ rfl rfl
  | step h rules tick cs ih => exact passes_after_step ih.sound tick cs

/-- What a run leaves is reachable if it starts from there. -/
lemma Reachable.after (h : Reachable e) (ts : List Turn) : Reachable (e.after rules ts) :=
  ((played_rounds rules e ts).invariant
    (fun _ t reachable => reachable.step rules t.tick t.commands) h).2

/-- After a tick all checks find nothing if those of zone and ledger found nothing before it, the
histories are within the budgets, and no standing is idle. Where life went with health before, it
does so after. So no check ever finds anything in what ticks lead to from a zone that passes its
check, with nothing in the ledger and in the history. -/
theorem step_passes :
    (∀ (rules : Rules) (tick : Tick) (e : Encounter) (cs : List Command),
      e.zone.violation? = none → e.ledger.violation? = none →
        (e.step rules tick cs).next.Passes ∧
        (e.step rules tick cs).next.Trim e.history.budgets ∧
        (e.zone.Vital → (e.step rules tick cs).next.zone.Vital)) ∧
    ∀ e, Reachable e → e.Passes := by
  constructor
  · intro rules tick e cs zone ledger
    have sound : e.Sound := ⟨Zone.sound_iff.1 zone, Ledger.sound_iff.1 ledger⟩
    refine ⟨passes_after_step sound tick cs, trim_after_step tick cs, ?_⟩
    intro vital
    exact Resolution.vital_run rules tick vital 0 _
  · intro e reachable
    exact reachable.passes

/-- Life goes with health after a swing, and the ledger passes its check after the whole brawl. -/
theorem step_passes_brawl :
    (brawl.step brawlRules ⟨0⟩ [.atEntity ⟨1⟩ ⟨2⟩ ⟨2⟩]).next.zone.Vital ∧
      (brawl.after brawlRules brawlTurns).ledger.violation? = none := by
  have sound : brawl.zone.violation? = none := by decide
  have vital : brawl.zone.Vital := by decide
  obtain ⟨-, -, stays⟩ := step_passes.1 brawlRules ⟨0⟩ brawl [.atEntity ⟨1⟩ ⟨2⟩ ⟨2⟩] sound rfl
  have reachable : Reachable (brawl.after brawlRules brawlTurns) := (Reachable.new sound _).after _
  exact ⟨stays vital, (step_passes.2 _ reachable).ledger⟩

end Encounter

end Skirmish
