import Skirmish.Proofs.Encounter.Account
import Skirmish.Proofs.Ledger.Mentions

/-!
# The ledger mentions only the living

Whoever gets into the ledger in a tick was alive when the tick began, also if killed before the
intents that did it were looked at: casters and sources passed the intake, and targets were alive
when hit. The killed are forgotten only after everything has been recorded, so none of them stays.
-/

namespace Skirmish

namespace Encounter

/-- Do zone and ledger pass their checks, and does the ledger mention only the living? -/
structure Tidy (e : Encounter) : Prop extends Sound e where
  living : ∀ id, e.ledger.Mentions id → e.zone.Living id

variable {rules : Rules} {e : Encounter} {t : Turn}

/-- Whoever an entry is aimed at was alive when the tick began. -/
lemma target_living (sound : e.zone.Sound) {x : LogEntry} (h : x ∈ (e.round rules t).entries) :
    e.zone.Living x.target :=
  Resolution.living_of_mem_entries rules t.tick sound h

lemma Tidy.after_round (tidy : e.Tidy) : (e.round rules t).after.Tidy where
  toSound := tidy.toSound.after_round
  living := by
    intro id mentions
    have recording := tidy.ledger.record rules t.tick ((e.round rules t).examined rules)
      (e.round rules t).entries
    obtain ⟨recorded, survived⟩ :=
      Ledger.mentions_bury recording (Ledger.mentions_tick mentions)
    have before : e.zone.Living id := by
      rcases Ledger.mentions_record recorded with old | ⟨i, hi, rfl⟩ | ⟨x, hx, rfl | rfl⟩
      · exact tidy.living id old
      · exact Round.living_of_mem_accepted (Round.accepted_of_mem_examined hi)
      · exact target_living tidy.zone hx
      · exact source_living hx
    exact (account_round tidy.zone).living.2 ⟨before, survived⟩

/-- From a zone and a ledger that pass their checks, where the ledger mentions only the living, every
run leads to such a zone and such a ledger again. -/
theorem ledger_mentions_living (rules : Rules) (e : Encounter)
    (zone : e.zone.violation? = none) (ledger : e.ledger.violation? = none)
    (living : ∀ id, e.ledger.Mentions id → e.zone.Living id) (ts : List Turn) :
    (e.after rules ts).zone.violation? = none ∧ (e.after rules ts).ledger.violation? = none ∧
      ∀ id, (e.after rules ts).ledger.Mentions id → (e.after rules ts).zone.Living id := by
  have start : e.Tidy := ⟨⟨Zone.sound_iff.1 zone, Ledger.sound_iff.1 ledger⟩, living⟩
  have tidy := ((played_rounds rules e ts).invariant (fun _ _ h => h.after_round) start).2
  exact ⟨Zone.sound_iff.2 tidy.zone, Ledger.sound_iff.2 tidy.ledger, tidy.living⟩

/-- The first fighter dies in the brawl, and the ledger forgets it, though it cast and drew threat. -/
theorem ledger_mentions_living_brawl :
    ¬(brawl.after brawlRules brawlTurns).ledger.Mentions ⟨1⟩ := by
  intro mentions
  have living := (ledger_mentions_living brawlRules brawl (by decide) (by decide)
    (fun _ mentions => absurd mentions Ledger.not_mentions_empty) brawlTurns).2.2 ⟨1⟩ mentions
  have dead : decide ((brawl.after brawlRules brawlTurns).zone.Living ⟨1⟩) = false := by cbv
  exact of_decide_eq_false dead living

end Encounter

end Skirmish
