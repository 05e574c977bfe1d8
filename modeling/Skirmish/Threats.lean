import Skirmish.Rules

/-!
# Threat

How much each attacker has drawn the attention of one defender. Threat only grows, up to a ceiling,
until its source is dropped; a sum that passes the ceiling stays there.
-/

namespace Skirmish

/-- The threat of one attacker, and the tick it last grew on. -/
structure Threat where
  source : EntityId
  amount : Int32
  lastTick : Tick
  deriving DecidableEq, Inhabited

instance : Keyed Threat := ⟨fun t => t.source.index⟩

/-- The threat against one defender, in the order of attackers. -/
structure Threats where
  entries : List Threat
  deriving DecidableEq, Inhabited

namespace Threat

/-- An amount of threat that lies within its bounds. -/
def Sound (t : Threat) : Prop := 0 ≤ t.amount.toInt ∧ t.amount.toInt ≤ Rules.maxThreat

instance (t : Threat) : Decidable t.Sound := inferInstanceAs (Decidable (_ ∧ _))

/-- An amount has to lie within its bounds. -/
def violation? (t : Threat) : Option Violation :=
  if t.Sound then none else some (.threatRange t.source t.amount.toInt Rules.maxThreat)

end Threat

namespace Threats

def empty : Threats := ⟨[]⟩

def isEmpty (t : Threats) : Bool := t.entries.isEmpty

def size (t : Threats) : Nat := t.entries.length

/-- The entry of an attacker. -/
def threat? (t : Threats) (source : EntityId) : Option Threat :=
  Keyed.find? source.index t.entries

/-- The position of the entry of an attacker. -/
def position? (t : Threats) (source : EntityId) : Option Nat :=
  Keyed.position? source.index t.entries

/-- The entry with the most threat, the first of them in the order of attackers. -/
def top? (t : Threats) : Option Threat :=
  match t.entries with
  | [] => none
  | e :: es => some (es.foldl (fun best e => if best.amount.toInt < e.amount.toInt then e else best) e)

/-- Adds to the threat of an attacker; an amount that is not positive changes nothing. -/
def add (t : Threats) (source : EntityId) (amount : Int) (tick : Tick) : Threats :=
  if amount ≤ 0 then t
  else
    let before := ((t.threat? source).map (·.amount.toInt)).getD 0
    let sum := Clamp.toInt32 (Clamp.between 0 Rules.maxThreat (before + amount))
    ⟨Keyed.put ⟨source, sum, tick⟩ t.entries⟩

/-- Takes out the entry at a position, if there is one. -/
def removeAt (t : Threats) (index : Nat) : Threats := ⟨t.entries.eraseIdx index⟩

/-- Takes out the entry of an attacker, if there is one. -/
def drop (t : Threats) (source : EntityId) : Threats := ⟨Keyed.drop source.index t.entries⟩

/-- The first broken invariant: an attacker not above the one before it, or else an amount out of
bounds. -/
def violation? (t : Threats) : Option Violation :=
  Keyed.check (fun index e => .threatOrder index e.source) Threat.violation? t.entries

theorem violation?_eq_none_iff {t : Threats} :
    t.violation? = none ↔ Keyed.Ascending t.entries ∧ ∀ e ∈ t.entries, e.Sound := by
  rw [violation?, Keyed.check_eq_none_iff]
  simp [Threat.violation?]

end Threats

end Skirmish
