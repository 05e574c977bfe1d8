import Skirmish.Cast
import Skirmish.Cooldowns
import Skirmish.Event
import Skirmish.Threats

/-!
# The ledger

One standing for each entity that waits for a skill or has drawn threat. An idle standing, with
neither, is never kept, so that two ledgers of the same situation are the same list.
-/

namespace Skirmish

/-- The cooldowns of an entity and the threat against it. -/
structure Standing where
  entity : EntityId
  cooldowns : Cooldowns
  threats : Threats
  deriving DecidableEq, Inhabited

instance : Keyed Standing := ⟨fun s => s.entity.index⟩

namespace Standing

/-- The standing of an entity that has none yet. -/
def blank (entity : EntityId) : Standing := ⟨entity, .empty, .empty⟩

def isIdle (s : Standing) : Bool := s.cooldowns.isEmpty && s.threats.isEmpty

def violation? (s : Standing) : Option Violation :=
  match s.cooldowns.violation? with
  | some violation => some violation
  | none => s.threats.violation?

theorem violation?_eq_none_iff {s : Standing} :
    s.violation? = none ↔ s.cooldowns.violation? = none ∧ s.threats.violation? = none := by
  rw [violation?]
  cases s.cooldowns.violation? <;> simp

end Standing

/-- The standings of a zone, in the order of entities. -/
structure Ledger where
  standings : List Standing
  deriving DecidableEq, Inhabited

namespace Ledger

def empty : Ledger := ⟨[]⟩

/-- The standing of an entity. -/
def standing? (l : Ledger) (entity : EntityId) : Option Standing :=
  Keyed.find? entity.index l.standings

/-- Can the entity use the skill? -/
def isReady (l : Ledger) (entity : EntityId) (skill : SkillId) : Bool :=
  match l.standing? entity with
  | some s => s.cooldowns.isReady skill
  | none => true

/-- Changes the standing of one entity, and drops it if that leaves it idle. -/
def update (l : Ledger) (entity : EntityId) (change : Standing → Standing) : Ledger :=
  let s := change ((l.standing? entity).getD (.blank entity))
  if s.isIdle then ⟨Keyed.drop entity.index l.standings⟩ else ⟨Keyed.put s l.standings⟩

/-- Starts the cooldown of the skill that an intent cast, if it has one. -/
def recordCast (rules : Rules) (l : Ledger) (i : Intent) : Ledger :=
  match rules.skill? i.skill with
  | none => l
  | some skill =>
    if skill.hasCooldown then
      l.update i.caster fun s =>
        { s with cooldowns := s.cooldowns.start skill.id skill.cooldown }
    else l

/-- The threat of an amount of damage done with a skill, in whole points toward zero. -/
def threatOf (rules : Rules) (skill : SkillId) (amount : Int32) : Int :=
  let percent := ((rules.skill? skill).map fun s => s.threatPercent.toNat).getD 0
  (amount.toInt * percent).tdiv 100

/-- Adds the threat of a damage entry. -/
def recordEntry (rules : Rules) (tick : Tick) (l : Ledger) (e : LogEntry) : Ledger :=
  let amount := threatOf rules e.skill e.finalAmount
  if e.isDamage && 0 < amount then
    l.update e.target fun s => { s with threats := s.threats.add e.source amount tick }
  else l

/-- Starts the cooldowns of the intents of a tick and adds the threat of its log entries. -/
def record (rules : Rules) (tick : Tick) (l : Ledger) (casts : List Intent)
    (entries : List LogEntry) : Ledger :=
  entries.foldl (recordEntry rules tick) (casts.foldl (recordCast rules) l)

/-- Removes an entity: its own standing, and its threat against all others. -/
def forget (l : Ledger) (entity : EntityId) : Ledger :=
  let others := Keyed.drop entity.index l.standings
  ⟨(others.map fun s => { s with threats := s.threats.drop entity }).filter (!·.isIdle)⟩

/-- One tick later. -/
def tick (l : Ledger) : Ledger :=
  ⟨(l.standings.map fun s => { s with cooldowns := s.cooldowns.tick }).filter (!·.isIdle)⟩

/-- The first broken invariant: an entity not above the one before it, or else one of a standing,
its cooldowns first. -/
def violation? (l : Ledger) : Option Violation :=
  Keyed.check (fun index s => .entityOrder index s.entity) Standing.violation? l.standings

theorem violation?_eq_none_iff {l : Ledger} :
    l.violation? = none ↔ Keyed.Ascending l.standings ∧ ∀ s ∈ l.standings, s.violation? = none :=
  Keyed.check_eq_none_iff

end Ledger

end Skirmish
