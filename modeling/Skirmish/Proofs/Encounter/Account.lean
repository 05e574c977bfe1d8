import Skirmish.Proofs.Encounter.Run
import Skirmish.Proofs.Gate
import Skirmish.Proofs.Intake
import Skirmish.Proofs.Ledger.Soundness
import Skirmish.Proofs.Resolution

/-!
# The log accounts for the zone

Over a whole run the log entries account for what becomes of the zone: health falls by what they say
was lost, those die of whose kill they tell, and nothing else about the zone changes. Every entry
was caused by somebody alive when its tick began.
-/

namespace Skirmish

open LogEntry

/-! ### One round -/

namespace Round

variable {rules : Rules} {r : Round} {i : Intent}

lemma accepted_of_mem_examined (h : i ∈ r.examined rules) : i ∈ r.accepted rules :=
  Canonical.mem_arrange.1 (Resolution.mem_of_mem_examined rules r.turn.tick h)

/-- Only the living have their casts accepted. -/
lemma living_of_mem_accepted (h : i ∈ r.accepted rules) : r.before.zone.Living i.caster :=
  Command.living_of_mem_accepted (Canonical.mem_arrange.1 (Gate.mem_of_mem_passed h))

end Round

namespace Encounter

variable {rules : Rules} {e : Encounter} {t : Turn}

lemma account_round (sound : e.zone.Sound) :
    e.zone.Account (e.round rules t).entries (e.round rules t).after.zone :=
  (Resolution.account_run rules t.tick sound 0 _).1

lemma sound_after_round (sound : e.zone.Sound) : (e.round rules t).after.zone.Sound :=
  (Resolution.account_run rules t.tick sound 0 _).2

/-- Do zone and ledger pass their checks? -/
structure Sound (e : Encounter) : Prop where
  zone : e.zone.Sound
  ledger : e.ledger.Sound

lemma Sound.after_round (h : e.Sound) : (e.round rules t).after.Sound :=
  ⟨sound_after_round h.zone, h.ledger.settle rules t.tick _⟩

/-- Whoever causes an entry was alive when the tick began. -/
lemma source_living {x : LogEntry} (h : x ∈ (e.round rules t).entries) :
    e.zone.Living x.source := by
  obtain ⟨i, hi, source⟩ := Resolution.source_of_mem_entries rules t.tick h
  rw [source]
  exact Round.living_of_mem_accepted (r := e.round rules t) (Round.accepted_of_mem_examined hi)

/-! ### Whole runs -/

lemma Played.sound_before {rs : List Round} (h : Played rules e rs) (sound : e.Sound) :
    ∀ r ∈ rs, r.before.Sound :=
  (h.invariant (fun _ _ h => h.after_round) sound).1

lemma Played.account {rs : List Round} (h : Played rules e rs) (sound : e.zone.Sound) :
    e.zone.Account (rs.flatMap (·.entries)) (e.leave rs).zone := by
  induction h with
  | done e => exact .refl e.zone
  | turn e t rest ih =>
    rw [List.flatMap_cons, leave_cons]
    exact (account_round sound).trans (ih (sound_after_round sound))

/-- The log of a run accounts for the zone that the run leaves: every entity has lost the health
that the entries say, it has died if they tell of its kill, which they do once and last, and apart
from that the zone is as it was. The source of each entry was alive when its tick began. -/
theorem log_accounts (rules : Rules) (e : Encounter) (sound : e.zone.violation? = none)
    (ts : List Turn) :
    (∀ x ∈ e.zone.entities, ∃ x', (e.after rules ts).zone.entity? x.id = some x' ∧
      x.Account (e.log rules ts) x' ∧ (kills x.id (e.log rules ts)).length ≤ 1) ∧
    (∀ r ∈ e.rounds rules ts, ∀ y ∈ r.entries, r.before.zone.Living y.source) ∧
    (e.after rules ts).zone.id = e.zone.id ∧
    (e.after rules ts).zone.terrain = e.zone.terrain ∧
    (e.after rules ts).zone.entities.map (·.id) = e.zone.entities.map (·.id) := by
  rw [Zone.sound_iff] at sound
  have played := played_rounds rules e ts
  have account : e.zone.Account (e.log rules ts) (e.after rules ts).zone := played.account sound
  refine ⟨?_, ?_, account.id, account.terrain, account.ids⟩
  · intro x hx
    obtain ⟨x', hx', accountx⟩ := account.entity x.id x (Keyed.find?_of_mem sound.ascending hx)
    exact ⟨x', hx', accountx, length_kills_le_one accountx.silent⟩
  · intro r hr y hy
    rw [played.eq_round hr] at hy
    exact source_living hy

/-- By the end of the brawl the first fighter has lost what the log says, and is among the slain. -/
theorem log_accounts_brawl :
    ∃ x', (brawl.after brawlRules brawlTurns).zone.entity? ⟨1⟩ = some x' ∧
      x'.health.toInt = 100 - lost ⟨1⟩ (brawl.log brawlRules brawlTurns) ∧ x'.alive = false := by
  obtain ⟨x', found, account, -⟩ := (log_accounts brawlRules brawl (by decide) brawlTurns).1
    (.fresh ⟨1⟩ 100 .zero) (List.mem_cons_self ..)
  have slain : Slain ⟨1⟩ (brawl.log brawlRules brawlTurns) := of_decide_eq_true (by cbv)
  refine ⟨x', found, account.health, Bool.eq_false_iff.2 ?_⟩
  intro alive
  exact (account.alive.1 alive).2 slain

end Encounter

end Skirmish
