import Skirmish.Proofs.Encounter.Run
import Skirmish.Proofs.Resolution

/-!
# Intents one after another

What one intent leaves is said here in terms of whom it strikes, with the damage and the loss as
numbers (`Intent.CarriedOut`). A sequence of intents is a chain of such steps, each on the zone that
the one before it left (`Sequence`). On a sound zone a resolution is the one sequence of the intents
that it looks at.
-/

namespace Skirmish

/-! ### One intent -/

namespace Intent

/-- What the intent leaves in the zone: the entries, and the zone afterwards. -/
inductive CarriedOut (rules : Rules) (tick : Tick) (z : Zone) (i : Intent) :
    List LogEntry → Zone → Prop
  /-- The target loses the damage of the skill, as far as its health goes. The loss is told once,
  and once more as a kill if it takes all of the health. Nothing else in the zone changes. -/
  | strike {skill : Skill} {target : Entity} {raw final left : Int32} {damage : LogEntry}
      (strikes : i.Strikes rules z skill target)
      (raw_eq : raw.toInt = max 0 skill.baseDamage.toInt)
      (final_eq : final.toInt = min raw.toInt target.health.toInt)
      (left_eq : left.toInt = target.health.toInt - final.toInt)
      (damage_eq : damage = ⟨tick, i.caster, i.target, i.skill, .damage, raw, final⟩) :
      CarriedOut rules tick z i
        (if final = target.health then [damage, { damage with kind := .kill }] else [damage])
        { z with
          entities := z.entities.map fun e =>
            if e.id = i.target then { e with health := left, alive := 0 < left.toInt } else e }
  | nothing (idle : ∀ skill target, ¬i.Strikes rules z skill target) :
      CarriedOut rules tick z i [] z

variable {rules : Rules} {tick : Tick} {z : Zone} {i : Intent}

lemma Strikes.unique {skill skill' : Skill} {target target' : Entity}
    (h : i.Strikes rules z skill target) (h' : i.Strikes rules z skill' target') :
    skill = skill' ∧ target = target' :=
  ⟨Option.some.inj (h.known.symm.trans h'.known), Option.some.inj (h.found.symm.trans h'.found)⟩

/-- An intent leaves nothing but one list of entries and one zone. -/
lemma CarriedOut.unique {xs xs' : List LogEntry} {z' z'' : Zone}
    (h : i.CarriedOut rules tick z xs z') (h' : i.CarriedOut rules tick z xs' z'') :
    xs = xs' ∧ z' = z'' := by
  cases h with
  | nothing idle =>
    cases h' with
    | nothing => exact ⟨rfl, rfl⟩
    | strike strikes => exact absurd strikes (idle _ _)
  | strike strikes raw final left damage =>
    cases h' with
    | nothing idle => exact absurd strikes (idle _ _)
    | strike strikes' raw' final' left' damage' =>
      obtain ⟨rfl, rfl⟩ := strikes.unique strikes'
      obtain rfl := Int32.toInt_inj.1 (raw.trans raw'.symm)
      obtain rfl := Int32.toInt_inj.1 (final.trans final'.symm)
      obtain rfl := Int32.toInt_inj.1 (left.trans left'.symm)
      obtain rfl := damage.trans damage'.symm
      exact ⟨rfl, rfl⟩

/-- The zone after a hit, entity by entity. -/
lemma Strikes.withEntity_hit (ascending : Keyed.Ascending z.entities) {skill : Skill}
    {target : Entity} (h : i.Strikes rules z skill target) :
    z.withEntity (i.hit tick skill target).target =
      { z with
        entities := z.entities.map fun e =>
          if e.id = i.target then
            { e with
              health := target.healthAfter skill.damage
              alive := 0 < (target.healthAfter skill.damage).toInt }
          else e } := by
  have id : target.id = i.target := Zone.id_of_entity? h.found
  have key : Keyed.key (i.hit tick skill target).target = i.target.index :=
    congrArg EntityId.index id
  rw [Zone.withEntity]
  congr 1
  refine Keyed.put_eq_map ascending (y := target) ?_ ?_ ?_ ?_
  · rw [key]
    exact h.found
  · intro e
    split <;> rfl
  · rw [if_pos id]
    simp [hit, Entity.hurt, h.alive]
  · intro e elsewhere
    rw [if_neg]
    intro same
    exact elsewhere (key ▸ congrArg EntityId.index same)

/-- An intent that strikes is carried out by its hit. -/
lemma Strikes.carriedOut (sound : z.Sound) {skill : Skill} {target : Entity}
    (h : i.Strikes rules z skill target) :
    i.CarriedOut rules tick z (i.hit tick skill target).entries
      (z.withEntity (i.hit tick skill target).target) := by
  have low := (sound.entity h.found).1
  have meant := skill.toInt_damage
  have left := target.toInt_healthAfter skill.damage
  have lost := Entity.toInt_lossFrom low skill.damage
  have final : (target.lossFrom skill.damage).toInt =
      min skill.damage.toInt target.health.toInt := by omega
  have remains : (target.healthAfter skill.damage).toInt =
      target.health.toInt - (target.lossFrom skill.damage).toInt := by omega
  -- the loss is all of the health exactly if nothing is left
  have kills : target.lossFrom skill.damage = target.health ↔
      target.killedBy skill.damage = true := by
    rw [← Int32.toInt_inj, Entity.killedBy, h.alive, Bool.true_and, decide_eq_true_iff]
    omega
  have told : i.damageEntry tick skill target = ⟨tick, i.caster, i.target, i.skill, .damage,
      skill.damage, target.lossFrom skill.damage⟩ := rfl
  have step := CarriedOut.strike h meant final remains told
  rw [← h.withEntity_hit sound.ascending] at step
  simp only [kills] at step
  exact step

end Intent

/-! ### Many intents -/

/-- Intents are carried out one after another, each on the zone that the one before it left. The
entries of each are kept apart. -/
inductive Sequence (rules : Rules) (tick : Tick) :
    Zone → List Intent → List (List LogEntry) → Zone → Prop
  | done (z : Zone) : Sequence rules tick z [] [] z
  | next {z z' z'' : Zone} {i : Intent} {is : List Intent} {xs : List LogEntry}
      {xss : List (List LogEntry)} (here : i.CarriedOut rules tick z xs z')
      (rest : Sequence rules tick z' is xss z'') : Sequence rules tick z (i :: is) (xs :: xss) z''

variable {rules : Rules} {tick : Tick}

lemma Sequence.unique {z z' z'' : Zone} {is : List Intent} {xss yss : List (List LogEntry)}
    (h : Sequence rules tick z is xss z') (h' : Sequence rules tick z is yss z'') :
    xss = yss ∧ z' = z'' := by
  induction h generalizing yss with
  | done z =>
    cases h' with
    | done => exact ⟨rfl, rfl⟩
  | next here rest ih =>
    cases h' with
    | next here' rest' =>
      obtain ⟨rfl, rfl⟩ := here.unique here'
      obtain ⟨rfl, rfl⟩ := ih rest'
      exact ⟨rfl, rfl⟩

/-- On a sound zone the intents looked at are carried out one after another. The entries that come
out are theirs, and those that left none did nothing. -/
lemma Resolution.sequence_run (rules : Rules) (tick : Tick) {z : Zone} (sound : z.Sound) (out : Nat)
    (is : List Intent) :
    ∃ xss, Sequence rules tick z (run rules tick z out is).examined xss
        (run rules tick z out is).zone ∧
      (run rules tick z out is).entries = xss.flatten ∧
      (run rules tick z out is).skipped = xss.countP (·.isEmpty) := by
  fun_induction run rules tick z out is with
  | case1 z out => exact ⟨[], .done z, rfl, rfl⟩
  | case2 z out => exact ⟨[], .done z, rfl, rfl⟩
  | case3 z out i is room miss rest ih =>
    obtain ⟨xss, steps, entries, skipped⟩ := ih sound
    have idle : ∀ skill target, ¬i.Strikes rules z skill target := by
      intro skill target strikes
      rw [Intent.hit?_eq_some_iff.2 ⟨skill, target, strikes, rfl⟩] at miss
      contradiction
    exact ⟨[] :: xss, .next (.nothing idle) steps, entries, by simp [skipped, rest]⟩
  | case4 z out i is room hit found rest ih =>
    obtain ⟨xss, steps, entries, skipped⟩ := ih (Intent.sound_withEntity_hit sound found)
    obtain ⟨skill, target, strikes, rfl⟩ := Intent.hit?_eq_some_iff.1 found
    refine ⟨_ :: xss, .next (strikes.carriedOut sound) steps, ?_, ?_⟩
    · rw [List.flatten_cons, ← entries]
    · have told := Intent.entries_hit_ne_nil i tick skill target
      simp [skipped, rest, told]

/-- In a zone that passes its check, a resolution carries out the intents it looks at, and no others,
one after another: there is one way to do so, its entries in order are those that come out, the zone
it leaves is the zone that comes out, and an intent is skipped if it leaves no entry. The intents
looked at are the first in canonical order, all of them unless the cap is reached. -/
theorem Zone.resolve_sequence (rules : Rules) (tick : Tick) {z : Zone} (valid : z.violation? = none)
    (intents : List Intent) :
    let r := z.resolve rules tick intents
    r.examined <+: Canonical.arrange intents ∧
    (r.examined ≠ Canonical.arrange intents → Rules.logCap ≤ r.entries.length) ∧
    ∃ xss : List (List LogEntry),
      (∀ yss z', Sequence rules tick z r.examined yss z' ↔ yss = xss ∧ z' = r.zone) ∧
      r.entries = xss.flatten ∧ r.skipped = xss.countP (·.isEmpty) := by
  intro r
  obtain ⟨tail, split, length⟩ := Resolution.examined_run rules tick z 0 (Canonical.arrange intents)
  obtain ⟨xss, steps, entries, skipped⟩ :=
    Resolution.sequence_run rules tick (Zone.sound_iff.1 valid) 0 (Canonical.arrange intents)
  refine ⟨⟨tail, split.symm⟩, ?_, xss, ?_, entries, skipped⟩
  · intro cut
    have left : tail ≠ [] := by
      rintro rfl
      exact cut (split.trans (List.append_nil _)).symm
    have full := Resolution.logCap_le_of_dropped rules tick z 0 (Canonical.arrange intents)
      (length ▸ List.length_pos_iff.2 left)
    rwa [Nat.zero_add] at full
  · intro yss z'
    constructor
    · intro other
      exact other.unique steps
    · rintro ⟨rfl, rfl⟩
      exact steps

/-- Blows of a brawl in one tick: the first fighter jabs himself and swings three times, and the
second jabs back. -/
def Encounter.brawlBlows : List Intent :=
  let swing : Intent := ⟨⟨0⟩, ⟨1⟩, ⟨2⟩, .entity, ⟨2⟩, .zero⟩
  [⟨⟨0⟩, ⟨1⟩, ⟨1⟩, .entity, ⟨1⟩, .zero⟩, swing, swing, swing,
    ⟨⟨0⟩, ⟨2⟩, ⟨1⟩, .entity, ⟨1⟩, .zero⟩]

open Encounter in
/-- The second swing kills, the third does nothing, and the jab of the dead still strikes. -/
theorem Zone.resolve_sequence_brawl :
    let r := brawl.zone.resolve brawlRules ⟨0⟩ brawlBlows
    brawl.zone.violation? = none ∧
      ∃ xss : List (List LogEntry),
        Sequence brawlRules ⟨0⟩ brawl.zone r.examined xss r.zone ∧
        r.examined = brawlBlows ∧ xss.countP (·.isEmpty) = 1 ∧
        xss.flatten.map (·.kind) = [.damage, .damage, .damage, .kill, .damage] := by
  have valid : brawl.zone.violation? = none := by decide
  obtain ⟨-, -, xss, steps, entries, skipped⟩ :=
    Zone.resolve_sequence brawlRules ⟨0⟩ valid brawlBlows
  refine ⟨valid, xss, (steps _ _).2 ⟨rfl, rfl⟩, ?_, ?_, ?_⟩
  · cbv
  · exact skipped.symm.trans (by cbv)
  · exact (congrArg _ entries.symm).trans (by cbv)

end Skirmish
