import Skirmish.Proofs.Encounter.Run
import Skirmish.Proofs.History.Mirror

/-!
# Both histories of a run agree

Over a run under fixed rules, the events retained are those of the log entries retained, one by one.
This takes budgets of one size for both histories, and room for all events of a tick in the budget
for one tick: the cap on a tick lets at most one entry more than `Rules.logCap` come out.
-/

namespace Skirmish.Encounter

variable {rules : Rules} {e : Encounter}

/-- A tick feeds both histories the same hits. -/
lemma mirrors_after_round (mirrors : e.history.Mirrors rules)
    (same : e.history.budgets.retained = e.history.budgets.logged)
    (room : e.history.budgets.perTick.toNat = 0 ∨
      Rules.logCap + 1 ≤ e.history.budgets.perTick.toNat) (t : Turn) :
    (e.round rules t).after.history.Mirrors rules := by
  refine mirrors.ingest same ?_ ?_
  · intro x hx
    exact Resolution.follows_of_mem_entries rules t.tick hx
  · have short := Resolution.length_entries_run_le rules t.tick (z := e.zone)
      (Canonical.arrange (e.gate rules t.tick t.commands).passed) (Nat.zero_le _)
    rw [Nat.zero_add] at short
    exact room.imp_right short.trans

/-- A run that starts from a new history with budgets of one size, and with room for all events of
a tick, leaves after every tick the events of the entries that it leaves in the log. -/
theorem events_mirror_log (rules : Rules) (e : Encounter) {b : Budgets}
    (fresh : e.history = .new b) (room : b.perTick.toNat = 0 ∨ 257 ≤ b.perTick.toNat)
    (same : b.retained = b.logged) (ts : List Turn) :
    ∀ r ∈ e.rounds rules ts, r.after.history.events = r.after.history.log.map (·.event) := by
  have preserved (e : Encounter) (t : Turn)
      (h : e.history.budgets = b ∧ e.history.Mirrors rules) :
      (e.round rules t).after.history.budgets = b ∧
        (e.round rules t).after.history.Mirrors rules := by
    obtain ⟨rfl, mirrors⟩ := h
    exact ⟨rfl, mirrors_after_round mirrors same room t⟩
  have start : e.history.budgets = b ∧ e.history.Mirrors rules := by
    rw [fresh]
    exact ⟨rfl, History.mirrors_new b rules⟩
  intro r hr
  exact ((played_rounds rules e ts).invariant_after preserved start r hr).2.events

/-- With room for three of each, the last turn pushes older events and entries out. -/
theorem events_mirror_log_brawl :
    let b : Budgets := ⟨257, 3, 1, 3⟩
    let e : Encounter := { brawl with history := .new b }
    e.history = .new b ∧ b.retained = b.logged ∧
      (∀ r ∈ e.rounds brawlRules brawlTurns,
        r.after.history.events = r.after.history.log.map (·.event)) ∧
      (e.rounds brawlRules brawlTurns).map (·.after.history.log.length) = [2, 2, 3] := by
  intro b e
  refine ⟨rfl, rfl, events_mirror_log brawlRules e rfl (.inr (by decide)) rfl brawlTurns, ?_⟩
  cbv

end Skirmish.Encounter
