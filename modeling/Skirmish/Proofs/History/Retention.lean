import Mathlib
import Skirmish.History
import Skirmish.Proofs.Order.Selection

/-!
# What a history retains

A history is fed batches, of events or of log entries, and forgets something after each of them. In
the end it retains what a single selection from everything it was fed would have kept, so it matters
neither in which order the batches came nor how the two kinds were mixed.
-/

namespace Skirmish

namespace Event

lemma key_injective : Function.Injective (Canonical.key : Event → List Int) :=
  fun _ _ h => key_inj.1 h

end Event

namespace LogEntry

lemma key_injective : Function.Injective (Canonical.key : LogEntry → List Int) :=
  fun _ _ h => key_inj.1 h

end LogEntry

/-! ### Batches -/

/-- What a history is fed at once: events of a tick, or log entries. -/
inductive Batch where
  | events (xs : List Event)
  | log (xs : List LogEntry)

namespace Batch

/-- The batches of events among some batches. -/
def ofEvents (bs : List Batch) : List (List Event) :=
  bs.filterMap fun
    | events xs => some xs
    | log _ => none

/-- The batches of log entries among some batches. -/
def ofLog (bs : List Batch) : List (List LogEntry) :=
  bs.filterMap fun
    | events _ => none
    | log xs => some xs

@[simp] lemma ofEvents_nil : ofEvents [] = [] := rfl

@[simp] lemma ofLog_nil : ofLog [] = [] := rfl

@[simp] lemma ofEvents_events (xs : List Event) (bs : List Batch) :
    ofEvents (events xs :: bs) = xs :: ofEvents bs := rfl

@[simp] lemma ofEvents_log (xs : List LogEntry) (bs : List Batch) :
    ofEvents (log xs :: bs) = ofEvents bs := rfl

@[simp] lemma ofLog_events (xs : List Event) (bs : List Batch) :
    ofLog (events xs :: bs) = ofLog bs := rfl

@[simp] lemma ofLog_log (xs : List LogEntry) (bs : List Batch) :
    ofLog (log xs :: bs) = xs :: ofLog bs := rfl

end Batch

namespace Budgets

/-- The events of a batch that are accepted: the canonically first ones. -/
def accepted (b : Budgets) (xs : List Event) : List Event :=
  firstWithin b.perTick.toNat (Canonical.arrange xs)

/-- The events of a batch that are not. -/
def surplus (b : Budgets) (xs : List Event) : List Event :=
  beyondFirst b.perTick.toNat (Canonical.arrange xs)

lemma accepted_append_surplus (b : Budgets) (xs : List Event) :
    b.accepted xs ++ b.surplus xs = Canonical.arrange xs :=
  firstWithin_append_beyondFirst _ _

end Budgets

namespace History

/-- Takes in a batch. -/
def feed (h : History) : Batch → History
  | .events xs => h.ingest xs
  | .log xs => h.ingestLog xs

/-- Takes in batches one after another. -/
def feedAll (h : History) (bs : List Batch) : History := bs.foldl feed h

@[simp] lemma feedAll_nil (h : History) : h.feedAll [] = h := rfl

@[simp] lemma feedAll_events (h : History) (xs : List Event) (bs : List Batch) :
    h.feedAll (.events xs :: bs) = (h.ingest xs).feedAll bs := rfl

@[simp] lemma feedAll_log (h : History) (xs : List LogEntry) (bs : List Batch) :
    h.feedAll (.log xs :: bs) = (h.ingestLog xs).feedAll bs := rfl

/-- The numbers of events over budget that are reported along the way, one for each batch of
events. -/
def reports (h : History) : List Batch → List Nat
  | [] => []
  | .events xs :: bs => h.overBudget xs :: (h.ingest xs).reports bs
  | .log xs :: bs => (h.ingestLog xs).reports bs

/-! ### One batch -/

/-- What is reported are the events of the batch that are not accepted. -/
lemma overBudget_eq_length_surplus (h : History) (xs : List Event) :
    h.overBudget xs = (h.budgets.surplus xs).length := by
  have total := congrArg List.length (h.budgets.accepted_append_surplus xs)
  rw [List.length_append, Canonical.length_arrange] at total
  change xs.length - (h.budgets.accepted xs).length = _
  omega

lemma overBudget_eq (h : History) (xs : List Event) :
    h.overBudget xs = if h.budgets.perTick.toNat ≠ 0 ∧ h.budgets.perTick.toNat < xs.length
      then xs.length - h.budgets.perTick.toNat else 0 := by
  rw [overBudget_eq_length_surplus, Budgets.surplus, length_beyondFirst, Canonical.length_arrange]
  split
  · rename_i unbounded
    rw [if_neg fun bounded => bounded.1 unbounded]
  · split
    · rfl
    · omega

/-- The history keeps what selections from all these events and log entries keep. -/
structure Retains (h : History) (b : Budgets) (events : List Event) (log : List LogEntry) :
    Prop where
  budgets : h.budgets = b
  events : h.events = Canonical.latest b.retained.toNat events
  log : h.log = Canonical.latest b.logged.toNat log

variable {h : History} {b : Budgets} {es : List Event} {ls : List LogEntry}

lemma retains_new (b : Budgets) : (new b).Retains b [] [] :=
  ⟨rfl, (Canonical.latest_nil _).symm, (Canonical.latest_nil _).symm⟩

lemma Retains.ingest (hr : h.Retains b es ls) (xs : List Event) :
    (h.ingest xs).Retains b (es ++ b.accepted xs) ls where
  budgets := hr.budgets
  events := by
    obtain ⟨rfl, events, -⟩ := hr
    change Canonical.latest _ (h.events ++ h.budgets.accepted xs) = _
    rw [events, Canonical.latest_latest_append Event.key_injective]
  log := hr.log

lemma Retains.ingestLog (hr : h.Retains b es ls) (xs : List LogEntry) :
    (h.ingestLog xs).Retains b es (ls ++ xs) where
  budgets := hr.budgets
  events := hr.events
  log := by
    obtain ⟨rfl, -, log⟩ := hr
    change Canonical.latest _ (h.log ++ xs) = _
    rw [log, Canonical.latest_latest_append LogEntry.key_injective]

/-! ### All batches -/

lemma Retains.feedAll (hr : h.Retains b es ls) (bs : List Batch) :
    (h.feedAll bs).Retains b (es ++ (Batch.ofEvents bs).flatMap b.accepted)
      (ls ++ (Batch.ofLog bs).flatten) := by
  induction bs generalizing h es ls with
  | nil => simpa using hr
  | cons batch bs ih =>
    cases batch with
    | events xs => simpa using ih (hr.ingest xs)
    | log xs => simpa using ih (hr.ingestLog xs)

lemma reports_eq (h : History) (bs : List Batch) :
    h.reports bs = (Batch.ofEvents bs).map fun xs => (h.budgets.surplus xs).length := by
  induction bs generalizing h with
  | nil => rfl
  | cons batch bs ih =>
    cases batch with
    | events xs => rw [reports, overBudget_eq_length_surplus, ih, budgets_ingest, Batch.ofEvents_events,
        List.map_cons]
    | log xs => rw [reports, ih, budgets_ingestLog, Batch.ofEvents_log]

/-- The retained events depend on the batches of events alone, and not on their order. -/
lemma events_feedAll_perm {bs cs : List Batch}
    (same : (Batch.ofEvents bs).Perm (Batch.ofEvents cs)) :
    ((new b).feedAll bs).events = ((new b).feedAll cs).events := by
  rw [((retains_new b).feedAll bs).events, ((retains_new b).feedAll cs).events]
  exact Canonical.latest_perm Event.key_injective _ (same.flatMap_right b.accepted)

/-- The retained log depends on the batches of log entries alone, and not on their order. -/
lemma log_feedAll_perm {bs cs : List Batch} (same : (Batch.ofLog bs).Perm (Batch.ofLog cs)) :
    ((new b).feedAll bs).log = ((new b).feedAll cs).log := by
  rw [((retains_new b).feedAll bs).log, ((retains_new b).feedAll cs).log]
  exact Canonical.latest_perm LogEntry.key_injective _ same.flatten

/-- However a new history is fed, it retains the canonically last of all the events that were
accepted from their batches, and of all log entries. It shows the first of the events that it
retains, and reports of each batch how many events were not accepted. Neither the order of the
batches nor those of the other kind make a difference to what is retained. -/
theorem feedAll_retains (b : Budgets) (bs : List Batch) :
    ((new b).feedAll bs).events = lastWithin b.retained.toNat
      (Canonical.arrange ((Batch.ofEvents bs).flatMap b.accepted)) ∧
    ((new b).feedAll bs).log = lastWithin b.logged.toNat
      (Canonical.arrange (Batch.ofLog bs).flatten) ∧
    ((new b).feedAll bs).snapshot = firstWithin b.shown.toNat ((new b).feedAll bs).events ∧
    (new b).reports bs = (Batch.ofEvents bs).map (fun xs => (b.surplus xs).length) ∧
    ∀ cs : List Batch,
      ((Batch.ofEvents bs).Perm (Batch.ofEvents cs) →
        ((new b).feedAll bs).events = ((new b).feedAll cs).events) ∧
      ((Batch.ofLog bs).Perm (Batch.ofLog cs) →
        ((new b).feedAll bs).log = ((new b).feedAll cs).log) := by
  have retains := (retains_new b).feedAll bs
  refine ⟨retains.events, retains.log, ?_, reports_eq (new b) bs, ?_⟩
  · have arranged : Canonical.arrange ((new b).feedAll bs).events = ((new b).feedAll bs).events := by
      rw [retains.events]
      exact Canonical.arrange_of_pairwise
        (Canonical.isArranged_iff.1 (Canonical.isArranged_latest ..))
    rw [snapshot, retains.budgets, Canonical.earliest_eq, arranged]
  · intro cs
    exact ⟨events_feedAll_perm, log_feedAll_perm⟩

/-- Batches that come in two orders, with room for two events and one entry. What is retained is not
what came last, and the first batch of events has one too many for its tick. -/
theorem feedAll_retains_reordered :
    let jab (tick : UInt64) : Event := ⟨⟨tick⟩, ⟨1⟩, ⟨2⟩, ⟨1⟩, .damage, 30⟩
    let kill (tick : UInt64) : LogEntry := ⟨⟨tick⟩, ⟨1⟩, ⟨2⟩, ⟨1⟩, .kill, 30, 30⟩
    let bs : List Batch :=
      [.events [jab 4, jab 3], .log [kill 3], .events [jab 1], .log [kill 2], .events [jab 2]]
    let cs : List Batch :=
      [.log [kill 2], .events [jab 2], .events [jab 4, jab 3], .log [kill 3], .events [jab 1]]
    let fed := (new ⟨1, 2, 1, 1⟩).feedAll bs
    fed.events = [jab 2, jab 3] ∧ fed.log = [kill 3] ∧
      fed.events = ((new ⟨1, 2, 1, 1⟩).feedAll cs).events ∧
      fed.log = ((new ⟨1, 2, 1, 1⟩).feedAll cs).log := by
  intro jab kill bs cs fed
  obtain ⟨events, log, -, -, order⟩ := feedAll_retains ⟨1, 2, 1, 1⟩ bs
  have same_events : (Batch.ofEvents bs).Perm (Batch.ofEvents cs) := by decide
  have same_log : (Batch.ofLog bs).Perm (Batch.ofLog cs) := by decide
  refine ⟨events.trans ?_, log.trans ?_, (order cs).1 same_events, (order cs).2 same_log⟩
  · cbv
  · cbv

end History

end Skirmish
