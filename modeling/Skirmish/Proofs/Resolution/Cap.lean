import Skirmish.Proofs.Resolution

/-!
# Where the cap cuts

What intents would leave if there were no cap is said intent by intent (`Zone.emitted`). The cap
then cuts off all that follow the shortest stretch of intents which leaves enough entries to reach
it. The last intent of that stretch may pass it by one entry, with a kill.
-/

namespace Skirmish

/-! ### Intents without a cap -/

namespace Intent

/-- The entries that the intent leaves. -/
def told (rules : Rules) (tick : Tick) (z : Zone) (i : Intent) : List LogEntry :=
  (i.hit? rules tick z).elim [] (·.entries)

/-- The intent strikes a target and kills it. -/
def Kills (rules : Rules) (z : Zone) (i : Intent) : Prop :=
  ∃ skill target, i.Strikes rules z skill target ∧ target.killedBy skill.damage = true

lemma length_told_le (rules : Rules) (tick : Tick) (z : Zone) (i : Intent) :
    (i.told rules tick z).length ≤ 2 := by
  cases found : i.hit? rules tick z with
  | none => simp [told, found]
  | some hit =>
    obtain ⟨skill, target, -, rfl⟩ := hit?_eq_some_iff.1 found
    simpa [told, found] using length_entries_hit_le i tick skill target

/-- Only a kill is told twice. -/
lemma length_told_eq_two_iff (rules : Rules) (tick : Tick) (z : Zone) (i : Intent) :
    (i.told rules tick z).length = 2 ↔ i.Kills rules z := by
  constructor
  · intro two
    cases found : i.hit? rules tick z with
    | none => simp [told, found] at two
    | some hit =>
      obtain ⟨skill, target, strikes, rfl⟩ := hit?_eq_some_iff.1 found
      refine ⟨skill, target, strikes, ?_⟩
      by_contra spared
      simp [told, found, Intent.hit, spared] at two
  · rintro ⟨skill, target, strikes, killed⟩
    have found : i.hit? rules tick z = some (i.hit tick skill target) :=
      hit?_eq_some_iff.2 ⟨skill, target, strikes, rfl⟩
    simp [told, found, hit, killed]

end Intent

namespace Zone

/-- The zone that the intent leaves. -/
def afterIntent (rules : Rules) (tick : Tick) (z : Zone) (i : Intent) : Zone :=
  (i.hit? rules tick z).elim z fun hit => z.withEntity hit.target

/-- The zone that intents leave, one after another. -/
def afterIntents (rules : Rules) (tick : Tick) (z : Zone) (is : List Intent) : Zone :=
  is.foldl (afterIntent rules tick) z

/-- The entries that intents leave, one after another, however many those are. -/
def emitted (rules : Rules) (tick : Tick) (z : Zone) : List Intent → List LogEntry
  | [] => []
  | i :: is => i.told rules tick z ++ (z.afterIntent rules tick i).emitted rules tick is

variable (rules : Rules) (tick : Tick)

@[simp] lemma emitted_nil (z : Zone) : z.emitted rules tick [] = [] := rfl

lemma emitted_cons_of_miss {z : Zone} {i : Intent} (miss : i.hit? rules tick z = none)
    (is : List Intent) : z.emitted rules tick (i :: is) = z.emitted rules tick is := by
  simp [emitted, Intent.told, afterIntent, miss]

lemma emitted_cons_of_hit {z : Zone} {i : Intent} {hit : Hit}
    (found : i.hit? rules tick z = some hit) (is : List Intent) :
    z.emitted rules tick (i :: is) =
      hit.entries ++ (z.withEntity hit.target).emitted rules tick is := by
  simp [emitted, Intent.told, afterIntent, found]

lemma emitted_concat (z : Zone) (is : List Intent) (i : Intent) :
    z.emitted rules tick (is ++ [i]) =
      z.emitted rules tick is ++ i.told rules tick (z.afterIntents rules tick is) := by
  induction is generalizing z with
  | nil => simp [emitted, afterIntents]
  | cons j is ih => simp [emitted, ih, afterIntents]

end Zone

/-! ### Intents up to the cap -/

namespace Resolution

variable (rules : Rules) (tick : Tick)

/-- What comes out is what the intents looked at leave. -/
lemma entries_run (z : Zone) (out : Nat) (is : List Intent) :
    (run rules tick z out is).entries =
      z.emitted rules tick (run rules tick z out is).examined := by
  fun_induction run rules tick z out is with
  | case1 => rfl
  | case2 => rfl
  | case3 z out i is room miss rest ih =>
    rw [Zone.emitted_cons_of_miss rules tick miss]
    exact ih
  | case4 z out i is room hit found rest ih =>
    rw [Zone.emitted_cons_of_hit rules tick found]
    exact congrArg _ ih

/-- An intent is looked at only if those before it left room for more. -/
lemma room_of_examined (z : Zone) (out : Nat) (is : List Intent) :
    ∀ p j s, (run rules tick z out is).examined = p ++ j :: s →
      out + (z.emitted rules tick p).length < Rules.logCap := by
  fun_induction run rules tick z out is with
  | case1 => simp
  | case2 => simp
  | case3 z out i is room miss rest ih =>
    intro p j s split
    cases p with
    | nil => simpa using room
    | cons k p =>
      obtain ⟨rfl, later⟩ := List.cons.inj split
      rw [Zone.emitted_cons_of_miss rules tick miss]
      exact ih p j s later
  | case4 z out i is room hit found rest ih =>
    intro p j s split
    cases p with
    | nil => simpa using room
    | cons k p =>
      obtain ⟨rfl, later⟩ := List.cons.inj split
      rw [Zone.emitted_cons_of_hit rules tick found, List.length_append, ← Nat.add_assoc]
      exact ih p j s later

/-- Whatever reaches the cap begins with all that is looked at. -/
lemma examined_prefix_of_full (z : Zone) (is : List Intent) {p : List Intent} (part : p <+: is)
    (full : Rules.logCap ≤ (z.emitted rules tick p).length) :
    (run rules tick z 0 is).examined <+: p := by
  obtain ⟨tail, split, -⟩ := examined_run rules tick z 0 is
  rcases List.prefix_or_prefix_of_prefix part ⟨tail, split.symm⟩ with ⟨s, shorter⟩ | longer
  · cases s with
    | nil => exact ⟨[], by simpa using shorter.symm⟩
    | cons j s =>
      have room := room_of_examined rules tick z 0 is p j s shorter.symm
      omega
  · exact longer

/-- Intents are dropped only if those looked at reach the cap. -/
lemma full_of_dropped (z : Zone) (is : List Intent)
    (dropped : 0 < (run rules tick z 0 is).dropped) :
    Rules.logCap ≤ (z.emitted rules tick (run rules tick z 0 is).examined).length := by
  rw [← entries_run, ← Nat.zero_add (List.length _)]
  exact logCap_le_of_dropped rules tick z 0 is dropped

/-- Intents are dropped exactly if some of them, short of all, reach the cap. -/
lemma dropped_pos_iff (z : Zone) (is : List Intent) : 0 < (run rules tick z 0 is).dropped ↔
    ∃ p, p <+: is ∧ p ≠ is ∧ Rules.logCap ≤ (z.emitted rules tick p).length := by
  obtain ⟨tail, split, length⟩ := examined_run rules tick z 0 is
  constructor
  · intro dropped
    refine ⟨_, ⟨tail, split.symm⟩, ?_, full_of_dropped rules tick z is dropped⟩
    intro all
    rw [← length, List.self_eq_append_right.1 (all.trans split)] at dropped
    contradiction
  · rintro ⟨p, part, proper, reached⟩
    rw [← length, List.length_pos_iff]
    rintro rfl
    -- all was looked at, so nothing short of all reaches the cap
    have all := examined_prefix_of_full rules tick z is part reached
    rw [List.append_nil] at split
    exact proper (part.eq_of_length_le (split ▸ all.length_le))

/-- The cap is passed exactly if the last intent looked at kills with one entry to go. -/
lemma length_entries_eq_iff (z : Zone) (is : List Intent) :
    (run rules tick z 0 is).entries.length = Rules.logCap + 1 ↔
      ∃ before i, (run rules tick z 0 is).examined = before ++ [i] ∧
        (z.emitted rules tick before).length + 1 = Rules.logCap ∧
        i.Kills rules (z.afterIntents rules tick before) := by
  rw [entries_run]
  constructor
  · intro passed
    obtain ⟨before, i, last⟩ : ∃ before i, (run rules tick z 0 is).examined = before ++ [i] := by
      refine List.eq_nil_or_concat' _ |>.resolve_left ?_
      intro none
      simp [none] at passed
    have room := room_of_examined rules tick z 0 is before i [] last
    have short := Intent.length_told_le rules tick (z.afterIntents rules tick before) i
    rw [last, Zone.emitted_concat, List.length_append] at passed
    refine ⟨before, i, last, by omega, ?_⟩
    rw [← Intent.length_told_eq_two_iff rules tick]
    omega
  · rintro ⟨before, i, last, short, kills⟩
    have twice := (Intent.length_told_eq_two_iff rules tick _ i).2 kills
    rw [last, Zone.emitted_concat, List.length_append, twice]
    omega

end Resolution

/-- The cap cuts off the end of the canonical order. Intents are dropped exactly if some of them, short
of all, leave enough entries to reach the cap; what is looked at is then the shortest such stretch
from the first intent on. The entries pass the cap by one at most, and do so exactly if the last
intent looked at kills with one entry to go. -/
theorem Zone.resolve_cut (rules : Rules) (tick : Tick) (z : Zone) (intents : List Intent) :
    let o := Canonical.arrange intents
    let r := z.resolve rules tick intents
    (∃ tail, o = r.examined ++ tail ∧ tail.length = r.dropped) ∧
    r.entries = z.emitted rules tick r.examined ∧
    (0 < r.dropped ↔
      ∃ p, p <+: o ∧ p ≠ o ∧ Rules.logCap ≤ (z.emitted rules tick p).length) ∧
    (0 < r.dropped →
      Rules.logCap ≤ (z.emitted rules tick r.examined).length ∧
      ∀ p, p <+: o → Rules.logCap ≤ (z.emitted rules tick p).length → r.examined <+: p) ∧
    r.entries.length ≤ Rules.logCap + 1 ∧
    (r.entries.length = Rules.logCap + 1 ↔
      ∃ before i, r.examined = before ++ [i] ∧
        (z.emitted rules tick before).length + 1 = Rules.logCap ∧
        i.Kills rules (z.afterIntents rules tick before)) := by
  intro o r
  refine ⟨Resolution.examined_run rules tick z 0 o, Resolution.entries_run rules tick z 0 o,
    Resolution.dropped_pos_iff rules tick z o, ?_, ?_,
    Resolution.length_entries_eq_iff rules tick z o⟩
  · intro dropped
    exact ⟨Resolution.full_of_dropped rules tick z o dropped,
      fun p => Resolution.examined_prefix_of_full rules tick z o⟩
  · have within := Resolution.length_entries_run_le rules tick (z := z) o (Nat.zero_le _)
    rwa [Nat.zero_add] at within

/-- Each jab takes one of 256 points of health. The one that kills comes with 255 entries out and
leaves two more, one past the cap; the jab behind it is dropped. -/
example :
    let jabs : Rules := .ofSkills ⟨[Skill.basic ⟨1⟩ 1 .one]⟩
    let z : Zone := ⟨⟨1⟩, [.fresh ⟨1⟩ 256 .zero], .field⟩
    let jab : Intent := ⟨⟨0⟩, ⟨1⟩, ⟨1⟩, .entity, ⟨1⟩, .zero⟩
    let r := Resolution.run jabs ⟨0⟩ z 0 (List.replicate 257 jab)
    r.entries.length = Rules.logCap + 1 ∧ r.dropped = 1 := by
  decide +kernel

end Skirmish
