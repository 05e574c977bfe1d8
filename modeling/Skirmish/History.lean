import Skirmish.Event
import Skirmish.Rules

/-!
# History

What is kept of the events and log entries of past ticks, each within its budget. The events of a
tick are first cut to the canonically first ones, then merged into what is kept, which drops the
canonically first ones of it.
-/

namespace Skirmish

/-- The retained events and log entries of one zone. -/
structure History where
  budgets : Budgets
  events : List Event
  log : List LogEntry
  deriving DecidableEq, Inhabited

namespace History

/-- A history in which nothing has happened. -/
def new (budgets : Budgets) : History := ⟨budgets, [], []⟩

/-- The events of a tick that fit its budget. -/
def accepted (h : History) (events : List Event) : List Event :=
  Canonical.earliest h.budgets.perTick.toNat events

/-- How many events of a tick do not fit its budget. -/
def overBudget (h : History) (events : List Event) : Nat :=
  events.length - (h.accepted events).length

/-- Takes in the events of a tick. -/
def ingest (h : History) (events : List Event) : History :=
  { h with
    events := Canonical.latest h.budgets.retained.toNat (h.events ++ h.accepted events) }

/-- Takes in the log entries of a tick. -/
def ingestLog (h : History) (entries : List LogEntry) : History :=
  { h with log := Canonical.latest h.budgets.logged.toNat (h.log ++ entries) }

/-- The canonically first retained events. -/
def snapshot (h : History) : List Event := Canonical.earliest h.budgets.shown.toNat h.events

@[simp] theorem budgets_ingest (h : History) (events : List Event) :
    (h.ingest events).budgets = h.budgets := rfl

@[simp] theorem log_ingest (h : History) (events : List Event) :
    (h.ingest events).log = h.log := rfl

@[simp] theorem budgets_ingestLog (h : History) (entries : List LogEntry) :
    (h.ingestLog entries).budgets = h.budgets := rfl

@[simp] theorem events_ingestLog (h : History) (entries : List LogEntry) :
    (h.ingestLog entries).events = h.events := rfl

end History

end Skirmish
