import Skirmish.History
import Skirmish.Intake
import Skirmish.Ledger
import Skirmish.Resolution

/-!
# Encounters

What a zone carries from tick to tick, and what one tick does to it. All commands are judged by the
zone as the tick found it. The intents are then put in canonical order and pass the cooldowns, those
of earlier ticks and those that the tick itself starts. What is left is resolved, recorded in the
ledger, and kept in the history; the killed leave the ledger, and the cooldowns count down.
-/

namespace Skirmish

/-- How the commands of a tick fared. -/
structure Tally where
  commands : Nat
  accepted : Nat
  refusals : RefusalCounts
  skipped : Nat
  dropped : Nat
  overBudget : Nat
  deriving DecidableEq, Inhabited

namespace Tally

/-- The tally of a tick that received some commands and has not judged them yet. -/
def new (commands : Nat) : Tally := ⟨commands, 0, .zero, 0, 0, 0⟩

def refuse (t : Tally) (r : Refusal) : Tally := { t with refusals := t.refusals.add r }

end Tally

/-- What a zone carries from tick to tick. -/
structure Encounter where
  zone : Zone
  ledger : Ledger
  history : History
  deriving DecidableEq, Inhabited

/-- What came out of a tick. -/
structure Outcome where
  next : Encounter
  /-- The log entries of the tick, in the order in which they came out. -/
  entries : List LogEntry
  tally : Tally
  deriving DecidableEq

/-- The intents that pass the cooldowns, and those that are held back. -/
structure Gate where
  passed : List Intent
  held : List Intent
  deriving DecidableEq

namespace Gate

/-- Does the skill of the intent have to wait after a cast? -/
def startsCooldown (rules : Rules) (i : Intent) : Bool :=
  match rules.skill? i.skill with
  | some skill => skill.hasCooldown
  | none => false

/-- Lets intents pass in the order given; `started` holds who has cast what in this tick, of the
skills that have a cooldown. -/
def run (rules : Rules) (l : Ledger) (started : List (EntityId × SkillId)) : List Intent → Gate
  | [] => ⟨[], []⟩
  | i :: is =>
    if l.isReady i.caster i.skill = false || started.contains (i.caster, i.skill) then
      let rest := run rules l started is
      { rest with held := i :: rest.held }
    else
      let started := if startsCooldown rules i then (i.caster, i.skill) :: started else started
      let rest := run rules l started is
      { rest with passed := i :: rest.passed }

/-- Every intent passes or is held back. -/
theorem length_passed_add_held (rules : Rules) (l : Ledger) (started : List (EntityId × SkillId))
    (is : List Intent) :
    (run rules l started is).passed.length + (run rules l started is).held.length = is.length := by
  fun_induction run rules l started is with
  | case1 => rfl
  | case2 started i is wait rest ih => simp only [List.length_cons, rest]; omega
  | case3 started i is pass started' rest ih => simp only [List.length_cons, rest]; omega

end Gate

namespace Encounter

/-- An encounter in which nothing has happened. -/
def new (zone : Zone) (history : History) : Encounter := ⟨zone, .empty, history⟩

/-- The intents that the commands of a tick become, in canonical order. -/
def candidates (rules : Rules) (tick : Tick) (e : Encounter) (cs : List Command) : List Intent :=
  Canonical.arrange (Command.accepted rules e.zone tick cs)

/-- The candidates of a tick at the cooldowns. -/
def gate (rules : Rules) (tick : Tick) (e : Encounter) (cs : List Command) : Gate :=
  Gate.run rules e.ledger [] (e.candidates rules tick cs)

/-- What comes out of the intents that pass. -/
def resolution (rules : Rules) (tick : Tick) (e : Encounter) (cs : List Command) : Resolution :=
  e.zone.resolve rules tick (e.gate rules tick cs).passed

/-- Forgets the targets of all kills. -/
def bury (l : Ledger) (entries : List LogEntry) : Ledger :=
  (entries.filter (·.isKill)).foldl (fun l e => l.forget e.target) l

/-- The ledger after a tick. -/
def settle (rules : Rules) (tick : Tick) (l : Ledger) (r : Resolution) : Ledger :=
  (bury (l.record rules tick r.examined r.entries) r.entries).tick

/-- One tick. -/
def step (rules : Rules) (tick : Tick) (e : Encounter) (cs : List Command) : Outcome :=
  let gate := e.gate rules tick cs
  let r := e.resolution rules tick cs
  let events := r.entries.map (·.event)
  let refusals := Command.refused rules e.zone tick cs ++ gate.held.map fun _ => .onCooldown
  { next :=
      { zone := r.zone
        ledger := settle rules tick e.ledger r
        history := (e.history.ingest events).ingestLog r.entries }
    entries := r.entries
    tally :=
      { commands := cs.length
        accepted := gate.passed.length
        refusals := .ofList refusals
        skipped := r.skipped
        dropped := r.dropped
        overBudget := e.history.overBudget events } }

/-- What is missing from the terrain when the commands of a tick are taken in. -/
def missingTile? (rules : Rules) (e : Encounter) (cs : List Command) : Option MissingTile :=
  cs.findSome? fun c => c.missingTile? rules e.zone

/-- What breaks down first when the commands of a tick are taken in, one after another. -/
def breakdown? (rules : Rules) (e : Encounter) (cs : List Command) : Option Breakdown :=
  cs.findSome? fun c => c.breakdown? rules e.zone

/-- One tick, unless taking in a command breaks down: the distance it asks for overflows, or it looks
at a tile that the terrain has no place for. -/
def stepChecked (rules : Rules) (tick : Tick) (e : Encounter) (cs : List Command) :
    Except Breakdown Outcome :=
  match e.breakdown? rules cs with
  | some cause => .error cause
  | none => .ok (e.step rules tick cs)

end Encounter

end Skirmish
