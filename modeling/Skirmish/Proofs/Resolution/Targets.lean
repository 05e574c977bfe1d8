import Skirmish.Proofs.Resolution.Sequence

/-!
# Intents by their targets

Only intents aimed at an entity do anything, and whatever they do is done to that entity. So the
intents may stand in any order: those that the canonical order does not tell apart are one and the
same, but for some that do nothing. And what becomes of one entity is settled by the intents aimed at
it, as long as the cap does not cut.
-/

namespace Skirmish

namespace Intent

variable {rules : Rules} {tick : Tick} {z : Zone} {i : Intent} {id : EntityId}

lemma targetEntity?_eq_some_iff : i.targetEntity? = some id ↔ i.aim = .entity ∧ i.target = id := by
  simp [targetEntity?]

/-- An intent that is not aimed at an entity does nothing. -/
lemma hit?_eq_none_of_aim (other : i.aim ≠ .entity) : i.hit? rules tick z = none := by
  rw [Option.eq_none_iff_forall_ne_some]
  intro hit found
  obtain ⟨skill, target, strikes, -⟩ := hit?_eq_some_iff.1 found
  exact other strikes.aimed

/-- The canonical order tells apart intents that are aimed at entities. -/
lemma separates_of_aim {is : List Intent} (aimed : ∀ i ∈ is, i.aim = .entity) :
    Canonical.Separates is := by
  apply separates_of_faithful
  intro i hi
  rw [aimed i hi]
  exact Aim.faithful_ofCode 1

end Intent

/-! ### Intents in any order -/

namespace Resolution

variable (rules : Rules) (tick : Tick)

/-- Behind the cap nothing happens. -/
lemma run_of_full {z : Zone} {out : Nat} (full : Rules.logCap ≤ out) (is : List Intent) :
    (run rules tick z out is).zone = z ∧ (run rules tick z out is).entries = [] := by
  cases is with
  | nil => simp [run]
  | cons i is => simp [run, full]

/-- Intents without a target make no difference to the zone and the entries, wherever they stand and
wherever the cap cuts. -/
lemma run_filter_aim (z : Zone) (out : Nat) (is : List Intent) :
    (run rules tick z out (is.filter (·.aim = .entity))).zone = (run rules tick z out is).zone ∧
      (run rules tick z out (is.filter (·.aim = .entity))).entries =
        (run rules tick z out is).entries := by
  fun_induction run rules tick z out is with
  | case1 => exact ⟨rfl, rfl⟩
  | case2 z out i is full => exact run_of_full rules tick full _
  | case3 z out i is room miss rest ih =>
    by_cases aimed : i.aim = .entity
    · simpa [aimed, run, room, miss] using ih
    · simpa [aimed] using ih
  | case4 z out i is room hit found rest ih =>
    have aimed : i.aim = .entity := by
      by_contra other
      simp [Intent.hit?_eq_none_of_aim other] at found
    simpa [aimed, run, room, found] using ih

end Resolution

/-- A resolution leaves the same zone and the same entries, in whatever order the intents stand. This
holds of any intents, also where the canonical order does not tell them apart, and also where the cap
cuts. -/
theorem Zone.resolve_reordered (rules : Rules) (tick : Tick) (z : Zone) {is js : List Intent}
    (h : is.Perm js) :
    (z.resolve rules tick is).zone = (z.resolve rules tick js).zone ∧
      (z.resolve rules tick is).entries = (z.resolve rules tick js).entries := by
  have separates (ks : List Intent) : Canonical.Separates (ks.filter (·.aim = .entity)) :=
    Intent.separates_of_aim fun i hi => of_decide_eq_true (List.mem_filter.1 hi).2
  have same : (Canonical.arrange is).filter (·.aim = .entity) =
      (Canonical.arrange js).filter (·.aim = .entity) := by
    rw [Canonical.filter_arrange (separates is), Canonical.filter_arrange (separates js)]
    exact Canonical.arrange_eq_of_perm (h.filter _) (separates is)
  obtain ⟨zone, entries⟩ := Resolution.run_filter_aim rules tick z 0 (Canonical.arrange is)
  obtain ⟨zone', entries'⟩ := Resolution.run_filter_aim rules tick z 0 (Canonical.arrange js)
  rw [same] at zone entries
  exact ⟨zone.symm.trans zone', entries.symm.trans entries'⟩

/-- Rules with a single skill, a tap that takes no health. -/
def Encounter.tapRules : Rules := .ofSkills ⟨[Skill.basic ⟨1⟩ 0 .one]⟩

/-- More taps on a fighter than the cap lets out, behind three intents of the same key that have no
target. -/
def Encounter.taps : List Intent :=
  let tap : Intent := ⟨⟨0⟩, ⟨1⟩, ⟨1⟩, .entity, ⟨2⟩, .zero⟩
  List.replicate 3 { tap with aim := .unrecognized 1 } ++ List.replicate 260 tap

open Encounter in
set_option maxRecDepth 20000 in
/-- The cap cuts taps of one key, and drops three more of them if the idle ones come last. -/
theorem Zone.resolve_reordered_taps :
    let r := brawl.zone.resolve tapRules ⟨0⟩ taps
    let r' := brawl.zone.resolve tapRules ⟨0⟩ taps.reverse
    r.zone = r'.zone ∧ r.entries = r'.entries ∧ r.dropped = 4 ∧ r'.dropped = 7 := by
  obtain ⟨zone, entries⟩ :=
    Zone.resolve_reordered tapRules ⟨0⟩ brawl.zone (List.reverse_perm taps).symm
  exact ⟨zone, entries, by cbv, by cbv⟩

/-! ### One target among others -/

/-- Have the two zones the same entities, and is the one entity alike in both? -/
structure Zone.Alike (id : EntityId) (z z' : Zone) : Prop where
  entity : z'.entity? id = z.entity? id
  present : ∀ other, (z'.entity? other).isSome = (z.entity? other).isSome

namespace Zone

variable {z z' : Zone} {e : Entity} {id : EntityId}

lemma Alike.refl (id : EntityId) (z : Zone) : z.Alike id z := ⟨rfl, fun _ => rfl⟩

/-- Putting an entity in its place takes nobody away and adds nobody. -/
lemma isSome_entity?_withEntity (found : (z.entity? e.id).isSome) (other : EntityId) :
    ((z.withEntity e).entity? other).isSome = (z.entity? other).isSome := by
  by_cases same : e.id = other
  · subst same
    simp [found]
  · rw [entity?_withEntity_of_ne same]

/-- Zones stay alike if the entity is changed in both. -/
lemma Alike.withEntity (alike : z.Alike e.id z') (found : (z.entity? e.id).isSome) :
    (z.withEntity e).Alike e.id (z'.withEntity e) := by
  refine ⟨by simp, fun other => ?_⟩
  have found' : (z'.entity? e.id).isSome := by rwa [alike.present]
  rw [isSome_entity?_withEntity found, isSome_entity?_withEntity found', alike.present]

/-- Zones stay alike if another entity is changed in one of them. -/
lemma Alike.withEntity_of_ne (alike : z.Alike id z') (other : e.id ≠ id)
    (found : (z.entity? e.id).isSome) : (z.withEntity e).Alike id z' := by
  refine ⟨?_, fun other => ?_⟩
  · rw [entity?_withEntity_of_ne other, alike.entity]
  · rw [isSome_entity?_withEntity found, alike.present]

end Zone

namespace Intent

variable {rules : Rules} {tick : Tick} {z z' : Zone} {i : Intent} {hit : Hit}

/-- What an intent strikes depends on its target alone, and on whether its caster is there. -/
lemma strikes_iff_of_alike (alike : z.Alike i.target z') {skill : Skill} {target : Entity} :
    i.Strikes rules z' skill target ↔ i.Strikes rules z skill target := by
  have present : (∃ caster, z'.entity? i.caster = some caster) ↔
      ∃ caster, z.entity? i.caster = some caster := by
    simp only [← Option.isSome_iff_exists, alike.present]
  constructor
  · intro h
    exact ⟨h.aimed, h.known, present.1 h.present, alike.entity ▸ h.found, h.alive⟩
  · intro h
    exact ⟨h.aimed, h.known, present.2 h.present, alike.entity.trans h.found, h.alive⟩

lemma hit?_eq_of_alike (alike : z.Alike i.target z') :
    i.hit? rules tick z' = i.hit? rules tick z := by
  apply Option.ext
  intro hit
  simp only [hit?_eq_some_iff, strikes_iff_of_alike alike]

/-- Whom a hit changes: the entity that the intent is aimed at, and that the zone has. -/
lemma target_of_hit? (h : i.hit? rules tick z = some hit) :
    i.targetEntity? = some i.target ∧ hit.target.id = i.target ∧
      (z.entity? hit.target.id).isSome ∧ ∀ x ∈ hit.entries, x.target = i.target := by
  obtain ⟨skill, target, strikes, rfl⟩ := hit?_eq_some_iff.1 h
  have id : target.id = i.target := Zone.id_of_entity? strikes.found
  refine ⟨targetEntity?_eq_some_iff.2 ⟨strikes.aimed, rfl⟩, id, ?_, fun x hx => ?_⟩
  · change (z.entity? target.id).isSome
    rw [id, strikes.found, Option.isSome_some]
  · exact (mem_entries_hit hx).2

end Intent

namespace Resolution

variable (rules : Rules) (tick : Tick)

/-- In zones that are alike in one entity, the intents aimed at it do the same to it, with the other
intents among them or without. If the cap leaves room for all of them it does so for the fewer entries
of the fewer intents as well. -/
lemma run_filter_target (id : EntityId) (z : Zone) (out : Nat) (is : List Intent)
    (all : (run rules tick z out is).dropped = 0) :
    ∀ {z' : Zone} {out' : Nat}, z.Alike id z' → out' ≤ out →
      let r := run rules tick z out is
      let r' := run rules tick z' out' (is.filter fun i => i.targetEntity? = some id)
      r.zone.Alike id r'.zone ∧ r'.entries = r.entries.filter (·.target = id) ∧
        r'.dropped = 0 := by
  fun_induction run rules tick z out is with
  | case1 z out =>
    intro z' out' alike _
    exact ⟨alike, rfl, rfl⟩
  | case2 z out i is full => simp at all
  | case3 z out i is room miss rest ih =>
    intro z' out' alike fewer
    by_cases aimed : i.targetEntity? = some id
    · obtain ⟨-, rfl⟩ := Intent.targetEntity?_eq_some_iff.1 aimed
      have room' : ¬Rules.logCap ≤ out' := fun full => room (full.trans fewer)
      have miss' : i.hit? rules tick z' = none := (Intent.hit?_eq_of_alike alike).trans miss
      simpa [aimed, run, room', miss'] using ih all alike fewer
    · simpa [aimed] using ih all alike fewer
  | case4 z out i is room hit found rest ih =>
    intro z' out' alike fewer
    obtain ⟨target, same, present, told⟩ := Intent.target_of_hit? found
    by_cases aimed : i.targetEntity? = some id
    · obtain rfl : i.target = id := Option.some.inj (target.symm.trans aimed)
      have room' : ¬Rules.logCap ≤ out' := fun full => room (full.trans fewer)
      have found' : i.hit? rules tick z' = some hit := (Intent.hit?_eq_of_alike alike).trans found
      have next : (z.withEntity hit.target).Alike i.target (z'.withEntity hit.target) := by
        rw [← same] at alike ⊢
        exact alike.withEntity present
      have kept : hit.entries.filter (·.target = i.target) = hit.entries :=
        List.filter_eq_self.2 fun x hx => decide_eq_true (told x hx)
      simpa [aimed, run, room', found', kept] using
        ih all next (Nat.add_le_add_right fewer hit.entries.length)
    · have other : i.target ≠ id := by
        rintro rfl
        exact aimed target
      have next : (z.withEntity hit.target).Alike id z' :=
        alike.withEntity_of_ne (same ▸ other) present
      have gone : hit.entries.filter (·.target = id) = [] := by
        rw [List.filter_eq_nil_iff]
        intro x hx
        simpa [told x hx] using other
      simpa [aimed, gone] using ih all next (Nat.le_add_right_of_le fewer)

end Resolution

/-- If no intent is dropped, the intents aimed at one entity leave it as all of the intents together
do, and the entries that come out of them are those that all together leave about it, in the same
order. None of them is dropped either. -/
theorem Zone.resolve_isolated (rules : Rules) (tick : Tick) (z : Zone) {is : List Intent}
    (all : (z.resolve rules tick is).dropped = 0) (id : EntityId) :
    let r := z.resolve rules tick is
    let r' := z.resolve rules tick (is.filter fun i => i.targetEntity? = some id)
    r'.zone.entity? id = r.zone.entity? id ∧ r'.entries = r.entries.filter (·.target = id) ∧
      r'.dropped = 0 := by
  intro r r'
  have separates : Canonical.Separates (is.filter fun i => i.targetEntity? = some id) := by
    apply Intent.separates_of_aim
    intro i hi
    exact (Intent.targetEntity?_eq_some_iff.1 (of_decide_eq_true (List.mem_filter.1 hi).2)).1
  have filtered : r' = Resolution.run rules tick z 0
      ((Canonical.arrange is).filter fun i => i.targetEntity? = some id) := by
    rw [Canonical.filter_arrange separates]
    rfl
  obtain ⟨alike, entries, dropped⟩ := Resolution.run_filter_target rules tick id z 0
    (Canonical.arrange is) all (.refl id z) le_rfl
  rw [← filtered] at alike entries dropped
  exact ⟨alike.entity, entries, dropped⟩

open Encounter in
/-- The first fighter is struck twice, the second time by the other, whom the blows left out here
would have killed before. -/
theorem Zone.resolve_isolated_brawl :
    let r := brawl.zone.resolve brawlRules ⟨0⟩ brawlBlows
    let r' := brawl.zone.resolve brawlRules ⟨0⟩
      (brawlBlows.filter fun i => i.targetEntity? = some ⟨1⟩)
    r.dropped = 0 ∧ r'.zone.entity? ⟨1⟩ = r.zone.entity? ⟨1⟩ ∧
      r'.entries = r.entries.filter (·.target = ⟨1⟩) ∧
      r'.entries.map (·.source) = [⟨1⟩, ⟨2⟩] ∧
      (r.zone.entity? ⟨2⟩).map (·.alive) = some false := by
  have all : (brawl.zone.resolve brawlRules ⟨0⟩ brawlBlows).dropped = 0 := by cbv
  obtain ⟨entity, entries, -⟩ := Zone.resolve_isolated brawlRules ⟨0⟩ brawl.zone all ⟨1⟩
  exact ⟨all, entity, entries, by cbv, by cbv⟩

end Skirmish
