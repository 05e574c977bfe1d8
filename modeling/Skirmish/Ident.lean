/-!
# Identifiers and ticks

Entities, skills and zones carry thirty-two bit numbers; each kind has its own type, so that none
stands in for another, and its own written form. A tick is one step of simulated time: it is
counted in sixty-four bits and stays at its last value once it gets there.
-/

namespace Skirmish

/-- The number of an entity of a zone. -/
structure EntityId where
  val : UInt32
  deriving DecidableEq, Inhabited

/-- The number of a skill. -/
structure SkillId where
  val : UInt32
  deriving DecidableEq, Inhabited

/-- The number of a zone. -/
structure ZoneId where
  val : UInt32
  deriving DecidableEq, Inhabited

/-- One step of simulated time. -/
structure Tick where
  val : UInt64
  deriving DecidableEq, Inhabited

/-! ### Entities -/

namespace EntityId

/-- The identifier that stands for the absence of an entity. -/
def none : EntityId := ⟨0⟩

/-- Does the identifier stand for the absence of an entity? -/
def isNone (e : EntityId) : Bool := e = none

/-- The place of the identifier in the order of identifiers. -/
def index (e : EntityId) : Nat := e.val.toNat

/-- An entity is written as its number behind a hash sign. -/
def text (e : EntityId) : String := s!"#{e.index}"

theorem index_inj {a b : EntityId} : a.index = b.index ↔ a = b := by
  cases a; cases b; simp [index, UInt32.toNat_inj]

theorem isNone_iff {e : EntityId} : e.isNone = true ↔ e = none := by simp [isNone]

end EntityId

/-! ### Skills and zones -/

namespace SkillId

/-- The place of the identifier in the order of identifiers. -/
def index (s : SkillId) : Nat := s.val.toNat

/-- A skill is written as the word `skill` and its number. -/
def text (s : SkillId) : String := s!"skill:{s.index}"

theorem index_inj {a b : SkillId} : a.index = b.index ↔ a = b := by
  cases a; cases b; simp [index, UInt32.toNat_inj]

end SkillId

namespace ZoneId

/-- A zone is written as the word `zone` and its number. -/
def text (z : ZoneId) : String := s!"zone:{z.val.toNat}"

end ZoneId

/-! ### Ticks -/

namespace Tick

/-- The first tick. -/
def zero : Tick := ⟨0⟩

/-- The place of the tick in time. -/
def index (t : Tick) : Nat := t.val.toNat

/-- The largest tick there is. -/
def last : Nat := 0xffffffffffffffff

/-- The tick `n` steps later, or the last one when time ends before that. -/
def later (t : Tick) (n : Nat) : Tick := ⟨UInt64.ofNat (min (t.index + n) last)⟩

/-- The tick after this one. -/
def next (t : Tick) : Tick := t.later 1

/-- A tick is written as its plain number. -/
def text (t : Tick) : String := toString t.index

theorem index_inj {a b : Tick} : a.index = b.index ↔ a = b := by
  cases a; cases b; simp [index, UInt64.toNat_inj]

@[simp] theorem index_later (t : Tick) (n : Nat) : (t.later n).index = min (t.index + n) last := by
  simp only [later, index, last, UInt64.toNat_ofNat']
  omega

end Tick

end Skirmish
