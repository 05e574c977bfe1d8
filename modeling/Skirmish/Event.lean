import Skirmish.Order.Canonical

/-!
# Events

A hit leaves a log entry, which tells the damage meant from the health taken, and an event, which
holds the health taken alone. A kill leaves both a second time. The canonical order compares all
fields, the tick first.
-/

namespace Skirmish

/-- What happened to the target. -/
inductive EventKind where
  | damage
  | kill
  deriving DecidableEq, Inhabited

namespace EventKind

def name : EventKind → String
  | damage => "Damage"
  | kill => "Kill"

/-- The number of the kind in the canonical order. -/
def code : EventKind → UInt8
  | damage => 0
  | kill => 1

theorem code_inj {a b : EventKind} : a.code = b.code ↔ a = b := by
  cases a <;> cases b <;> decide

end EventKind

/-- What others see of a hit. -/
structure Event where
  tick : Tick
  source : EntityId
  target : EntityId
  skill : SkillId
  kind : EventKind
  amount : Int32
  deriving DecidableEq, Inhabited

/-- What the log keeps of a hit: the damage of the skill, and the health it took. -/
structure LogEntry where
  tick : Tick
  source : EntityId
  target : EntityId
  skill : SkillId
  kind : EventKind
  rawAmount : Int32
  finalAmount : Int32
  deriving DecidableEq, Inhabited

namespace Event

/-- The fields in the order in which they are compared. -/
def key (e : Event) : List Int :=
  [e.tick.index, e.source.index, e.target.index, e.skill.index, e.kind.code.toNat, e.amount.toInt]

instance : Canonical Event := ⟨key, tick⟩

theorem key_inj {a b : Event} : a.key = b.key ↔ a = b := by
  cases a
  cases b
  simp only [key, List.cons.injEq, Int.natCast_inj, Tick.index_inj, EntityId.index_inj,
    SkillId.index_inj, UInt8.toNat_inj, EventKind.code_inj, Int32.toInt_inj, and_true,
    Event.mk.injEq]

end Event

namespace LogEntry

/-- The fields in the order in which they are compared. -/
def key (e : LogEntry) : List Int :=
  [e.tick.index, e.source.index, e.target.index, e.skill.index, e.kind.code.toNat,
    e.rawAmount.toInt, e.finalAmount.toInt]

instance : Canonical LogEntry := ⟨key, tick⟩

theorem key_inj {a b : LogEntry} : a.key = b.key ↔ a = b := by
  cases a
  cases b
  simp only [key, List.cons.injEq, Int.natCast_inj, Tick.index_inj, EntityId.index_inj,
    SkillId.index_inj, UInt8.toNat_inj, EventKind.code_inj, Int32.toInt_inj, and_true,
    LogEntry.mk.injEq]

/-- The event that stands for the entry. -/
def event (e : LogEntry) : Event :=
  ⟨e.tick, e.source, e.target, e.skill, e.kind, e.finalAmount⟩

def isDamage (e : LogEntry) : Bool := e.kind = .damage

def isKill (e : LogEntry) : Bool := e.kind = .kill

end LogEntry

end Skirmish
