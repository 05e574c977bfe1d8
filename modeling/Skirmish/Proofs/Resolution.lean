import Skirmish.Resolution
import Skirmish.Proofs.Order.Updates
import Skirmish.Proofs.Zone.Account

/-!
# What resolution does to a zone

An intent that hits leaves entries which account for what becomes of the zone, and so do all the
entries of a resolution. Whoever an entry names was there when the resolution began: its source cast
one of the intents looked at, and its target was alive.
-/

namespace Skirmish

/-! ### One hit -/

namespace Entity

/-- A hit takes as much health as it says. -/
lemma toInt_lossFrom {e : Entity} (h : 0 ≤ e.health.toInt) (damage : Int32) :
    (e.lossFrom damage).toInt = e.health.toInt - (e.healthAfter damage).toInt := by
  have after := e.toInt_healthAfter damage
  have upper := Int32.toInt_lt e.health
  rw [lossFrom, Clamp.toInt_toInt32]
  apply Clamp.between_of_mem <;> omega

end Entity

namespace Intent

variable {rules : Rules} {tick : Tick} {z : Zone} {i : Intent} {hit : Hit}

/-- The intent strikes the target with the skill: it is aimed at an entity, the rules know the skill,
the zone has the caster, dead or alive, and has the target alive. -/
structure Strikes (rules : Rules) (z : Zone) (i : Intent) (skill : Skill) (target : Entity) :
    Prop where
  aimed : i.aim = .entity
  known : rules.skill? i.skill = some skill
  present : ∃ caster, z.entity? i.caster = some caster
  found : z.entity? i.target = some target
  alive : target.alive = true

/-- An intent hits exactly if it strikes somebody. -/
lemma hit?_eq_some_iff : i.hit? rules tick z = some hit ↔
    ∃ skill target, i.Strikes rules z skill target ∧ hit = i.hit tick skill target := by
  constructor
  · intro h
    rw [hit?] at h
    split at h
    · rename_i aimed known present found
      split at h
      · rename_i alive
        rw [targetEntity?, Option.ite_none_right_eq_some] at aimed
        exact ⟨_, _, ⟨aimed.1, known, ⟨_, present⟩, found, alive⟩, (Option.some.inj h).symm⟩
      · simp at h
    · simp at h
  · rintro ⟨skill, target, ⟨aimed, known, ⟨caster, present⟩, found, alive⟩, rfl⟩
    simp [hit?, targetEntity?, aimed, known, present, found, alive]

/-- What it takes for an intent to hit. -/
lemma hit?_eq_some (h : i.hit? rules tick z = some hit) :
    ∃ skill target, rules.skill? i.skill = some skill ∧ z.entity? i.target = some target ∧
      target.alive = true ∧ hit = i.hit tick skill target := by
  obtain ⟨skill, target, strikes, rfl⟩ := hit?_eq_some_iff.1 h
  exact ⟨skill, target, strikes.known, strikes.found, strikes.alive, rfl⟩

lemma mem_entries_hit {skill : Skill} {target : Entity} {x : LogEntry}
    (h : x ∈ (i.hit tick skill target).entries) : x.source = i.caster ∧ x.target = i.target := by
  rw [hit] at h
  split at h
  · rcases List.mem_pair.1 h with rfl | rfl <;> exact ⟨rfl, rfl⟩
  · obtain rfl := List.mem_singleton.1 h
    exact ⟨rfl, rfl⟩

/-- The entries of a hit on a living entity account for what becomes of it. -/
lemma account_hit {skill : Skill} {target : Entity} (sound : target.Sound)
    (alive : target.alive = true) (htarget : target.id = i.target) :
    target.Account (i.hit tick skill target).entries (i.hit tick skill target).target where
  id := rfl
  position := rfl
  maxHealth := rfl
  health := by
    have loss := Entity.toInt_lossFrom sound.1 skill.damage
    rw [hit]
    split <;> simp [LogEntry.lost, LogEntry.isDamage, damageEntry, htarget, loss, Entity.hurt]
  alive := by
    have hurt : (i.hit tick skill target).target.alive = true ↔
        target.alive = true ∧ target.killedBy skill.damage = false := Entity.alive_hurt_iff
    rw [hurt]
    rw [hit]
    split
    · rename_i killed
      simp [LogEntry.Slain, LogEntry.isKill, damageEntry, killed, htarget]
    · rename_i spared
      simp [LogEntry.Slain, LogEntry.isKill, damageEntry, spared]
  silent := by
    rw [hit]
    split <;> simp [LogEntry.SilentOnceSlain, LogEntry.isKill, damageEntry]
  dead := by
    intro dead
    simp [alive] at dead

/-- The entries of an intent that hits account for what becomes of the zone. -/
lemma account_withEntity_hit (sound : z.Sound) (h : i.hit? rules tick z = some hit) :
    z.Account hit.entries (z.withEntity hit.target) := by
  obtain ⟨skill, target, -, htarget, alive, rfl⟩ := hit?_eq_some h
  have id := Zone.id_of_entity? htarget
  have account : target.Account (i.hit tick skill target).entries (i.hit tick skill target).target :=
    account_hit (sound.entity htarget) alive id
  refine ⟨rfl, rfl, ?_, ?_⟩
  · refine Keyed.map_put sound.ascending (y := target) ?_ account.id
    have key : Keyed.key (i.hit tick skill target).target = i.target.index :=
      congrArg EntityId.index (account.id.trans id)
    rw [key]
    exact htarget
  · intro id' e he
    by_cases same : target.id = id'
    · have : e = target := by
        rw [← same, id, htarget] at he
        exact (Option.some.inj he).symm
      subst this
      refine ⟨_, ?_, account⟩
      rw [← same, ← account.id]
      exact Zone.entity?_withEntity_self ..
    · refine ⟨e, ?_, .of_forall_ne ?_⟩
      · rw [Zone.entity?_withEntity_of_ne (by rwa [account.id]), he]
      · intro x hx
        rw [(mem_entries_hit hx).2, ← id, Zone.id_of_entity? he]
        exact same

/-- A hit leaves a sound zone sound. -/
lemma sound_withEntity_hit (sound : z.Sound) (h : i.hit? rules tick z = some hit) :
    (z.withEntity hit.target).Sound := by
  obtain ⟨skill, target, -, htarget, -, rfl⟩ := hit?_eq_some h
  exact sound.withEntity ((sound.entity htarget).hurt skill.damage)

/-- A hit leaves one entry, or two if it kills. -/
lemma length_entries_hit_le (i : Intent) (tick : Tick) (skill : Skill) (target : Entity) :
    (i.hit tick skill target).entries.length ≤ 2 := by
  rw [hit]
  split <;> simp

lemma entries_hit_ne_nil (i : Intent) (tick : Tick) (skill : Skill) (target : Entity) :
    (i.hit tick skill target).entries ≠ [] := by
  rw [hit]
  split <;> simp

/-- Whoever an entry of a hit is aimed at was alive. -/
lemma living_of_mem_entries_hit (h : i.hit? rules tick z = some hit) {x : LogEntry}
    (hx : x ∈ hit.entries) : z.Living x.target := by
  obtain ⟨skill, target, -, htarget, alive, rfl⟩ := hit?_eq_some h
  rw [(mem_entries_hit hx).2]
  exact ⟨target, htarget, alive⟩

end Intent

/-! ### What was meant -/

/-- Is the damage meant the damage that the rules give to the skill? -/
def LogEntry.Follows (rules : Rules) (x : LogEntry) : Prop :=
  ∃ skill, rules.skill? x.skill = some skill ∧ x.rawAmount = skill.damage

/-- Under the same rules, entries of one skill mean the same damage. -/
lemma LogEntry.Follows.rawAmount_eq {rules : Rules} {x y : LogEntry} (hx : x.Follows rules)
    (hy : y.Follows rules) (same : x.skill = y.skill) : x.rawAmount = y.rawAmount := by
  obtain ⟨s, hs, raw⟩ := hx
  obtain ⟨s', hs', raw'⟩ := hy
  obtain rfl : s = s' := by simpa [same, hs'] using hs.symm
  rw [raw, raw']

lemma Intent.follows_of_mem_entries_hit {rules : Rules} {tick : Tick} {z : Zone} {i : Intent}
    {hit : Hit} (h : i.hit? rules tick z = some hit) {x : LogEntry} (hx : x ∈ hit.entries) :
    x.Follows rules := by
  obtain ⟨skill, target, known, -, -, rfl⟩ := hit?_eq_some h
  rw [Intent.hit] at hx
  split at hx
  · rcases List.mem_pair.1 hx with rfl | rfl <;> exact ⟨skill, known, rfl⟩
  · obtain rfl := List.mem_singleton.1 hx
    exact ⟨skill, known, rfl⟩

/-! ### Whole resolutions -/

namespace Resolution

variable (rules : Rules) (tick : Tick)

/-- What every hit preserves holds of the zone after a resolution if it held before. -/
theorem invariant {P : Zone → Prop}
    (preserved : ∀ (z : Zone) (i : Intent) (hit : Hit), P z → i.hit? rules tick z = some hit →
      P (z.withEntity hit.target))
    {z : Zone} (start : P z) (out : Nat) (is : List Intent) : P (run rules tick z out is).zone := by
  fun_induction run rules tick z out is with
  | case1 => exact start
  | case2 => exact start
  | case3 z out i is room miss rest ih => exact ih start
  | case4 z out i is room hit found rest ih => exact ih (preserved z i hit start found)

/-- The entries of a resolution account for what becomes of the zone, and leave it sound. -/
theorem account_run {z : Zone} (sound : z.Sound) (out : Nat) (is : List Intent) :
    z.Account (run rules tick z out is).entries (run rules tick z out is).zone ∧
      (run rules tick z out is).zone.Sound := by
  fun_induction run rules tick z out is with
  | case1 => exact ⟨.refl _, sound⟩
  | case2 => exact ⟨.refl _, sound⟩
  | case3 z out i is room miss rest ih => exact ih sound
  | case4 z out i is room hit found rest ih =>
    obtain ⟨account, after⟩ := ih (Intent.sound_withEntity_hit sound found)
    exact ⟨(Intent.account_withEntity_hit sound found).trans account, after⟩

/-- The source of each entry cast one of the intents looked at. -/
lemma source_of_mem_entries {z : Zone} {out : Nat} {is : List Intent} {x : LogEntry}
    (hx : x ∈ (run rules tick z out is).entries) :
    ∃ i ∈ (run rules tick z out is).examined, x.source = i.caster := by
  fun_induction run rules tick z out is with
  | case1 => simp at hx
  | case2 => simp at hx
  | case3 z out i is room miss rest ih =>
    obtain ⟨j, hj, source⟩ := ih hx
    exact ⟨j, List.mem_cons_of_mem i hj, source⟩
  | case4 z out i is room hit found rest ih =>
    rcases List.mem_append.1 hx with hx | hx
    · obtain ⟨skill, target, -, -, -, rfl⟩ := Intent.hit?_eq_some found
      exact ⟨i, List.mem_cons_self .., (Intent.mem_entries_hit hx).1⟩
    · obtain ⟨j, hj, source⟩ := ih hx
      exact ⟨j, List.mem_cons_of_mem i hj, source⟩

/-- The target of each entry was alive when the resolution began. -/
lemma living_of_mem_entries {z : Zone} (sound : z.Sound) {out : Nat} {is : List Intent}
    {x : LogEntry} (hx : x ∈ (run rules tick z out is).entries) : z.Living x.target := by
  fun_induction run rules tick z out is with
  | case1 => simp at hx
  | case2 => simp at hx
  | case3 z out i is room miss rest ih => exact ih sound hx
  | case4 z out i is room hit found rest ih =>
    rcases List.mem_append.1 hx with hx | hx
    · exact Intent.living_of_mem_entries_hit found hx
    · have later := ih (Intent.sound_withEntity_hit sound found) hx
      exact ((Intent.account_withEntity_hit sound found).living.1 later).1

/-- Every entry of a resolution means what the rules say. -/
lemma follows_of_mem_entries {z : Zone} {out : Nat} {is : List Intent} {x : LogEntry}
    (hx : x ∈ (run rules tick z out is).entries) : x.Follows rules := by
  fun_induction run rules tick z out is with
  | case1 => simp at hx
  | case2 => simp at hx
  | case3 z out i is room miss rest ih => exact ih hx
  | case4 z out i is room hit found rest ih =>
    rcases List.mem_append.1 hx with hx | hx
    · exact Intent.follows_of_mem_entries_hit found hx
    · exact ih hx

/-- A resolution stops at the cap, which the last hit may pass by one entry. -/
lemma length_entries_run_le {z : Zone} {out : Nat} (is : List Intent)
    (within : out ≤ Rules.logCap + 1) :
    out + (run rules tick z out is).entries.length ≤ Rules.logCap + 1 := by
  fun_induction run rules tick z out is with
  | case1 => exact within
  | case2 => exact within
  | case3 z out i is room miss rest ih => exact ih within
  | case4 z out i is room hit found rest ih =>
    obtain ⟨skill, target, -, -, -, rfl⟩ := Intent.hit?_eq_some found
    have short := Intent.length_entries_hit_le i tick skill target
    rw [List.length_append, ← Nat.add_assoc]
    apply ih
    omega

/-- Intents are dropped only once the cap is reached. -/
lemma logCap_le_of_dropped (z : Zone) (out : Nat) (is : List Intent)
    (dropped : 0 < (run rules tick z out is).dropped) :
    Rules.logCap ≤ out + (run rules tick z out is).entries.length := by
  fun_induction run rules tick z out is with
  | case1 => simp at dropped
  | case2 z out i is full => exact full
  | case3 z out i is room miss rest ih => exact ih dropped
  | case4 z out i is room hit found rest ih =>
    rw [List.length_append, ← Nat.add_assoc]
    exact ih dropped

/-- An intent looked at is one of those given. -/
lemma mem_of_mem_examined {z : Zone} {out : Nat} {is : List Intent} {i : Intent}
    (hi : i ∈ (run rules tick z out is).examined) : i ∈ is := by
  obtain ⟨rest, split, -⟩ := examined_run rules tick z out is
  rw [split]
  exact List.mem_append_left rest hi

end Resolution

end Skirmish
