import Mathlib
import Skirmish.Digest
import Skirmish.Encounter

/-!
# Runs

A run plays turns one after another, each on what the turn before it left, and keeps a record of
every turn it played. It breaks off at a turn that breaks down: a distance overflows, or the terrain
has no place for a tile that a command looks at.

Statements about a run are proved by induction on its rounds, which follow one another (`Played`).
-/

namespace Skirmish

/-- What one tick is given. -/
structure Turn where
  tick : Tick
  commands : List Command
  deriving DecidableEq

/-- A turn that was played: the encounter it found, what it was given, and what came out. -/
structure Round where
  before : Encounter
  turn : Turn
  outcome : Outcome
  deriving DecidableEq

/-- The digest, by some hash, of the zone and the retained events that a tick leaves. -/
def Outcome.digest (hash : List UInt8 → List UInt8) (o : Outcome) : Digest :=
  .under hash o.next.zone o.next.history.events

namespace Round

/-- The encounter that the round leaves. -/
def after (r : Round) : Encounter := r.outcome.next

/-- The log entries of the round, in the order in which they came out. -/
def entries (r : Round) : List LogEntry := r.outcome.entries

/-- The intents that were accepted. -/
def accepted (rules : Rules) (r : Round) : List Intent :=
  (r.before.gate rules r.turn.tick r.turn.commands).passed

/-- The intents that were accepted and not dropped. -/
def examined (rules : Rules) (r : Round) : List Intent :=
  (r.before.resolution rules r.turn.tick r.turn.commands).examined

end Round

namespace Encounter

/-- The round in which an encounter meets a turn. -/
def round (rules : Rules) (e : Encounter) (t : Turn) : Round :=
  ⟨e, t, e.step rules t.tick t.commands⟩

/-- The rounds of a run, as far as it goes. -/
def rounds (rules : Rules) (e : Encounter) : List Turn → List Round
  | [] => []
  | t :: ts =>
    match e.stepChecked rules t.tick t.commands with
    | .error _ => []
    | .ok o => ⟨e, t, o⟩ :: o.next.rounds rules ts

/-- What comes out of a run, tick by tick. -/
def run (rules : Rules) (e : Encounter) (ts : List Turn) : List Outcome :=
  (e.rounds rules ts).map (·.outcome)

/-- The encounter that some rounds leave. -/
def leave (e : Encounter) (rs : List Round) : Encounter := rs.foldl (fun _ r => r.after) e

/-- The encounter that a run leaves. -/
def after (rules : Rules) (e : Encounter) (ts : List Turn) : Encounter :=
  e.leave (e.rounds rules ts)

/-- All log entries of a run, in the order in which they came out. -/
def log (rules : Rules) (e : Encounter) (ts : List Turn) : List LogEntry :=
  (e.rounds rules ts).flatMap (·.entries)

@[simp] lemma leave_nil (e : Encounter) : e.leave [] = e := rfl

@[simp] lemma leave_cons (e : Encounter) (r : Round) (rs : List Round) :
    e.leave (r :: rs) = r.after.leave rs := rfl

/-! ### Runs as chains of rounds -/

/-- The rounds follow one another from an encounter on. -/
inductive Played (rules : Rules) : Encounter → List Round → Prop where
  | done (e : Encounter) : Played rules e []
  | turn (e : Encounter) (t : Turn) {rs : List Round}
      (rest : Played rules (e.round rules t).after rs) : Played rules e (e.round rules t :: rs)

/-- A checked tick that does not fail is the tick. -/
lemma eq_step_of_stepChecked {rules : Rules} {tick : Tick} {e : Encounter} {cs : List Command}
    {o : Outcome} (h : e.stepChecked rules tick cs = .ok o) : o = e.step rules tick cs := by
  rw [stepChecked] at h
  cases hbreak : e.breakdown? rules cs with
  | some cause => simp [hbreak] at h
  | none =>
    simp only [hbreak] at h
    cases h
    rfl

/-- What a run plays are rounds that follow one another. -/
theorem played_rounds (rules : Rules) (e : Encounter) (ts : List Turn) :
    Played rules e (e.rounds rules ts) := by
  induction ts generalizing e with
  | nil => exact .done e
  | cons t ts ih =>
    rw [rounds]
    cases hstep : e.stepChecked rules t.tick t.commands with
    | error cause => exact .done e
    | ok o =>
      obtain rfl := eq_step_of_stepChecked hstep
      exact .turn e t (ih _)

/-- Every round is the one in which what it found meets what it was given. -/
lemma Played.eq_round {rules : Rules} {e : Encounter} {rs : List Round} (h : Played rules e rs)
    {r : Round} (hr : r ∈ rs) : r = r.before.round rules r.turn := by
  induction h with
  | done e => simp at hr
  | turn e t rest ih =>
    rcases List.mem_cons.1 hr with rfl | hr
    · rfl
    · exact ih hr

/-- What holds at the start and is preserved by every round holds of all that a run meets, and of
what it leaves. -/
theorem Played.invariant {rules : Rules} {P : Encounter → Prop}
    (preserved : ∀ e t, P e → P (e.round rules t).after) {e : Encounter} {rs : List Round}
    (h : Played rules e rs) (start : P e) : (∀ r ∈ rs, P r.before) ∧ P (e.leave rs) := by
  induction h with
  | done e => exact ⟨by simp, start⟩
  | turn e t rest ih =>
    obtain ⟨met, left⟩ := ih (preserved e t start)
    refine ⟨?_, left⟩
    intro r hr
    rcases List.mem_cons.1 hr with rfl | hr
    · exact start
    · exact met r hr

/-- What holds at the start and is preserved by every round holds of all that the rounds leave. -/
lemma Played.invariant_after {rules : Rules} {P : Encounter → Prop}
    (preserved : ∀ e t, P e → P (e.round rules t).after) {e : Encounter} {rs : List Round}
    (h : Played rules e rs) (start : P e) : ∀ r ∈ rs, P r.after := by
  intro r hr
  rw [h.eq_round hr]
  exact preserved _ _ ((h.invariant preserved start).1 r hr)

/-- The first round starts from the start. -/
lemma Played.before_head {rules : Rules} {e : Encounter} {rs : List Round} (h : Played rules e rs)
    {r : Round} (hr : rs[0]? = some r) : r.before = e := by
  cases h with
  | done e => simp at hr
  | turn e t rest =>
    obtain rfl : e.round rules t = r := by simpa using hr
    rfl

/-- Each round starts from what the round before it left. -/
lemma Played.before_next {rules : Rules} {e : Encounter} {rs : List Round} (h : Played rules e rs)
    {k : Nat} {r r' : Round} (hr : rs[k]? = some r) (hr' : rs[k + 1]? = some r') :
    r'.before = r.after := by
  induction h generalizing k with
  | done e => simp at hr
  | turn e t rest ih =>
    cases k with
    | zero =>
      obtain rfl : e.round rules t = r := by simpa using hr
      exact rest.before_head (by simpa using hr')
    | succ k => exact ih (by simpa using hr) (by simpa using hr')

/-! ### A brawl -/

/-- The rules of a brawl: a jab that takes three ticks to recover from, and a swing that takes
none. -/
def brawlRules : Rules :=
  .ofSkills ⟨[(Skill.basic ⟨1⟩ 30 .one).withCooldown 3, Skill.basic ⟨2⟩ 80 .one]⟩

/-- Two fighters at one spot. -/
def brawl : Encounter :=
  .new ⟨⟨1⟩, [.fresh ⟨1⟩ 100 .zero, .fresh ⟨2⟩ 100 .zero], .field⟩ (.new .default)

/-- Both jab, the first jabs again in vain, and with a swing each they kill each other. -/
def brawlTurns : List Turn :=
  [⟨⟨0⟩, [.atEntity ⟨1⟩ ⟨1⟩ ⟨2⟩, .atEntity ⟨2⟩ ⟨1⟩ ⟨1⟩]⟩,
    ⟨⟨1⟩, [.atEntity ⟨1⟩ ⟨1⟩ ⟨2⟩]⟩,
    ⟨⟨2⟩, [.atEntity ⟨1⟩ ⟨2⟩ ⟨2⟩, .atEntity ⟨2⟩ ⟨2⟩ ⟨1⟩]⟩]

end Encounter

end Skirmish
