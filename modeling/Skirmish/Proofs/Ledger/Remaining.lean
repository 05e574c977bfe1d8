import Skirmish.Proofs.Gate
import Skirmish.Proofs.Ledger.Soundness
import Skirmish.Proofs.Zone.Account

/-!
# How long an entity has to wait

A ledger seen as a map from an entity and a skill to the ticks that remain, with one equation for
each operation. Only three things change the map: a cast that was looked at starts the cooldown of
its skill, the killed no longer wait for anything, and time takes one tick off what remains.
-/

namespace Skirmish

/-- What remains of some ticks one tick later. -/
def oneLess? (n : Nat) : Option Nat := if n ≤ 1 then none else some (n - 1)

/-- The ticks that a caster has to wait after a cast, as many as an entry can hold. -/
def Skill.wait (s : Skill) : Nat := min s.cooldown.toInt.toNat 0xffffffff

/-- The ticks that a caster has to wait after casting a skill of the rules, or none. -/
def Rules.wait (rules : Rules) (skill : SkillId) : Nat :=
  match rules.skill? skill with
  | some s => s.wait
  | none => 0

lemma Skill.wait_pos_iff {s : Skill} : 0 < s.wait ↔ s.hasCooldown = true := by
  simp only [wait, hasCooldown, decide_eq_true_eq]
  omega

lemma Skill.toNat_wait {s : Skill} (h : s.hasCooldown = true) :
    (Clamp.toUInt32 s.cooldown.toInt).toNat = s.wait := by
  have clamped := Clamp.toNat_toUInt32 s.cooldown.toInt
  simp only [hasCooldown, decide_eq_true_eq] at h
  simp only [Clamp.between] at clamped
  simp only [wait]
  omega

lemma Rules.wait_of_skill? {rules : Rules} {skill : SkillId} {s : Skill}
    (h : rules.skill? skill = some s) : rules.wait skill = s.wait := by
  rw [wait, h]

/-- Do the intents make the caster wait for the skill? -/
def Rules.Starts (rules : Rules) (is : List Intent) (caster : EntityId) (skill : SkillId) : Prop :=
  (∃ i ∈ is, i.Casts caster skill) ∧ 0 < rules.wait skill

instance (rules : Rules) (is : List Intent) (caster : EntityId) (skill : SkillId) :
    Decidable (rules.Starts is caster skill) :=
  inferInstanceAs (Decidable (_ ∧ _))

/-! ### Cooldowns -/

namespace Cooldowns

lemma remaining?_start (c : Cooldowns) {skill other : SkillId} {ticks : Int64}
    (positive : 0 < ticks.toInt) :
    (c.start skill ticks).remaining? other =
      if skill = other then some (Clamp.toUInt32 ticks.toInt) else c.remaining? other := by
  rw [start, if_neg (by omega)]
  unfold remaining?
  split
  · rename_i same
    subst same
    exact congrArg _ (Keyed.find?_put_self (⟨skill, Clamp.toUInt32 ticks.toInt⟩ : Cooldown) _)
  · rename_i other
    rw [Keyed.find?_put_of_ne]
    intro keys
    exact other (SkillId.index_inj.1 keys)

lemma remaining?_start_of_nonpos {c : Cooldowns} (sound : c.Sound) {skill : SkillId} {ticks : Int64}
    (none : ticks.toInt ≤ 0) (other : SkillId) :
    (c.start skill ticks).remaining? other = if skill = other then .none else c.remaining? other := by
  rw [start, if_pos none]
  unfold remaining?
  split
  · rename_i same
    rw [← same, Keyed.find?_drop_self sound.ascending, Option.map_none]
  · rename_i different
    rw [Keyed.find?_drop_of_ne fun keys => different (SkillId.index_inj.1 keys).symm]

lemma remaining?_tick {c : Cooldowns} (sound : c.Sound) (skill : SkillId) :
    (c.tick.remaining? skill).map (·.toNat) =
      ((c.remaining? skill).map (·.toNat)).bind oneLess? := by
  unfold remaining? tick
  rw [Keyed.find?_filterMap sound.ascending fun _ _ => Cooldown.key_tick?]
  cases Keyed.find? skill.index c.entries with
  | none => rfl
  | some e =>
    have upper := e.remaining.toNat_lt
    by_cases last : e.remaining.toNat ≤ 1
    · simp [Cooldown.tick?, oneLess?, last]
    · simp [Cooldown.tick?, oneLess?, last]
      omega

lemma remaining?_of_isEmpty {c : Cooldowns} (h : c.isEmpty = true) (skill : SkillId) :
    c.remaining? skill = none := by
  obtain ⟨entries⟩ := c
  obtain rfl : entries = [] := by simpa [isEmpty] using h
  rfl

/-- A skill is ready exactly when no tick remains to wait for it. -/
lemma isReady_iff {c : Cooldowns} (sound : c.Sound) {skill : SkillId} :
    c.isReady skill = true ↔ c.remaining? skill = none := by
  rw [isReady, remaining?]
  cases he : Keyed.find? skill.index c.entries with
  | none => simp
  | some e => simp [sound.running e (Keyed.mem_of_find? he)]

/-- Cooldowns are no more than what remains for each skill. -/
lemma ext_remaining? {c d : Cooldowns} (hc : c.Sound) (hd : d.Sound)
    (same : ∀ skill, c.remaining? skill = d.remaining? skill) : c = d := by
  have entry (b : Cooldowns) (skill : SkillId) :
      Keyed.find? skill.index b.entries = (b.remaining? skill).map (Cooldown.mk skill) := by
    rw [remaining?]
    cases he : Keyed.find? skill.index b.entries with
    | none => rfl
    | some e =>
      obtain rfl : e.skill = skill := SkillId.index_inj.1 (Keyed.key_of_find? he)
      rfl
  have entries : c.entries = d.entries := by
    refine Keyed.ext_find?_key hc.ascending hd.ascending ?_
    intro e
    change Keyed.find? e.skill.index c.entries = Keyed.find? e.skill.index d.entries
    rw [entry, entry, same]
  cases c
  cases d
  congr

end Cooldowns

/-! ### Standings -/

namespace Standing

/-- The ticks that remain until the owner can use the skill; none if it is ready. -/
def remaining? (s : Standing) (skill : SkillId) : Option Nat :=
  (s.cooldowns.remaining? skill).map (·.toNat)

lemma remaining?_of_isIdle {s : Standing} (h : s.isIdle = true) (skill : SkillId) :
    s.remaining? skill = none := by
  rw [isIdle] at h
  rw [Bool.and_eq_true] at h
  rw [remaining?, Cooldowns.remaining?_of_isEmpty h.1, Option.map_none]

end Standing

/-! ### Ledgers -/

namespace Ledger

/-- The ticks that remain until the entity can use the skill; none if it is ready. -/
def remaining? (l : Ledger) (entity : EntityId) (skill : SkillId) : Option Nat :=
  (l.standing? entity).bind (·.remaining? skill)

lemma remaining?_standing (l : Ledger) (entity : EntityId) (skill : SkillId) :
    (l.standing entity).remaining? skill = l.remaining? entity skill := by
  rw [standing, remaining?]
  cases l.standing? entity <;> rfl

/-- A skill is ready exactly when no tick remains to wait for it. -/
lemma isReady_iff {l : Ledger} (sound : l.Sound) {entity : EntityId} {skill : SkillId} :
    l.isReady entity skill = true ↔ l.remaining? entity skill = none := by
  rw [isReady, remaining?]
  cases hs : l.standing? entity with
  | none => simp
  | some s =>
    have cooldowns := (sound.standings s (Keyed.mem_of_find? hs)).cooldowns
    simp [Standing.remaining?, Cooldowns.isReady_iff cooldowns]

variable {l : Ledger} {entity other : EntityId} {skill : SkillId}

/-- An update of one standing changes the waiting of its owner, and of nobody else. -/
lemma remaining?_update (sound : l.Sound) {change : Standing → Standing}
    (keeps : ∀ s, (change s).entity = s.entity) :
    (l.update entity change).remaining? other skill =
      if entity = other then (change (l.standing entity)).remaining? skill
      else l.remaining? other skill :=
  bind_standing?_update sound keeps (fun _ idle => Standing.remaining?_of_isIdle idle skill) other

/-! ### Recording -/

lemma remaining?_start (sound : l.Sound) {s : Skill} (cools : s.hasCooldown = true) :
    (l.update entity fun st =>
      { st with cooldowns := st.cooldowns.start s.id s.cooldown }).remaining? other skill =
        if entity = other ∧ s.id = skill then some s.wait else l.remaining? other skill := by
  rw [remaining?_update sound]
  · by_cases owner : entity = other
    · rw [if_pos owner, Standing.remaining?, Cooldowns.remaining?_start]
      · by_cases same : s.id = skill
        · rw [if_pos same, if_pos ⟨owner, same⟩, Option.map_some, Skill.toNat_wait cools]
        · rw [if_neg same, if_neg fun both => same both.2, ← owner]
          exact remaining?_standing l entity skill
      · simpa [Skill.hasCooldown] using cools
    · rw [if_neg owner, if_neg fun both => owner both.1]
  · intro st
    rfl

/-- A cast starts the cooldown of its skill for its caster, and no other. -/
lemma remaining?_recordCast (sound : l.Sound) (rules : Rules) (i : Intent) :
    (recordCast rules l i).remaining? entity skill =
      if i.Casts entity skill ∧ 0 < rules.wait skill then some (rules.wait skill)
      else l.remaining? entity skill := by
  rw [recordCast]
  cases hs : rules.skill? i.skill with
  | none =>
    rw [if_neg]
    rintro ⟨⟨-, rfl⟩, positive⟩
    simp [Rules.wait, hs] at positive
  | some s =>
    have id := Skillbook.id_of_skill? hs
    by_cases cools : s.hasCooldown = true
    · simp only [cools, if_true]
      rw [remaining?_start sound cools, id]
      by_cases casts : i.caster = entity ∧ i.skill = skill
      · obtain ⟨rfl, rfl⟩ := casts
        rw [Rules.wait_of_skill? hs, if_pos ⟨rfl, rfl⟩, if_pos]
        exact ⟨⟨rfl, rfl⟩, Skill.wait_pos_iff.2 cools⟩
      · rw [if_neg casts, if_neg fun both => casts both.1]
    · simp only [cools]
      rw [if_neg, if_neg]
      · rintro ⟨⟨-, rfl⟩, positive⟩
        rw [Rules.wait_of_skill? hs] at positive
        exact cools (Skill.wait_pos_iff.1 positive)
      · exact Bool.false_ne_true

lemma remaining?_casts (sound : l.Sound) (rules : Rules) (is : List Intent) :
    (is.foldl (recordCast rules) l).remaining? entity skill =
      if rules.Starts is entity skill then some (rules.wait skill)
      else l.remaining? entity skill := by
  induction is generalizing l with
  | nil => simp [Rules.Starts]
  | cons i is ih =>
    rw [List.foldl_cons, ih (sound.recordCast rules i), remaining?_recordCast sound]
    simp only [Rules.Starts, List.exists_mem_cons_iff, or_and_right]
    by_cases first : i.Casts entity skill ∧ 0 < rules.wait skill
    · simp [first]
    · simp [first]

/-- Drawing threat makes nobody wait. -/
lemma remaining?_recordEntry (sound : l.Sound) (rules : Rules) (tick : Tick) (x : LogEntry) :
    (recordEntry rules tick l x).remaining? entity skill = l.remaining? entity skill := by
  simp only [recordEntry]
  split
  · rw [remaining?_update sound]
    · split
      · rename_i owner
        rw [← owner]
        exact remaining?_standing l x.target skill
      · rfl
    · intro s
      rfl
  · rfl

lemma remaining?_record (sound : l.Sound) (rules : Rules) (tick : Tick) (is : List Intent)
    (xs : List LogEntry) :
    (l.record rules tick is xs).remaining? entity skill =
      if rules.Starts is entity skill then some (rules.wait skill)
      else l.remaining? entity skill := by
  rw [← remaining?_casts sound]
  have recorded : (is.foldl (recordCast rules) l).Sound := sound.record rules tick is []
  rw [record]
  generalize is.foldl (recordCast rules) l = l' at recorded ⊢
  induction xs generalizing l' with
  | nil => rfl
  | cons x xs ih =>
    rw [List.foldl_cons, ih _ (recorded.recordEntry rules tick x), remaining?_recordEntry recorded]

/-! ### Forgetting -/

/-- The forgotten wait for nothing, and everybody else waits as before. -/
lemma remaining?_forget (sound : l.Sound) (id : EntityId) :
    (l.forget id).remaining? entity skill =
      if id = entity then none else l.remaining? entity skill := by
  have others := Keyed.ascending_drop sound.ascending id.index
  simp only [forget, remaining?, standing?]
  rw [Keyed.find?_filter, Standing.bind_filter fun _ idle => Standing.remaining?_of_isIdle idle skill,
    Keyed.find?_map others]
  · split
    · rename_i same
      rw [← same, Keyed.find?_drop_self sound.ascending]
      rfl
    · rename_i different
      rw [Keyed.find?_drop_of_ne fun keys => different (EntityId.index_inj.1 keys).symm]
      cases Keyed.find? entity.index l.standings <;> rfl
  · intro s
    rfl
  · apply Keyed.ascending_map others
    intro s
    rfl

lemma remaining?_forget_targets (sound : l.Sound) (ks : List LogEntry) :
    (ks.foldl (fun l k => l.forget k.target) l).remaining? entity skill =
      if ∃ k ∈ ks, k.target = entity then none else l.remaining? entity skill := by
  induction ks generalizing l with
  | nil => simp
  | cons k ks ih =>
    rw [List.foldl_cons, ih (sound.forget k.target), remaining?_forget sound]
    simp only [List.exists_mem_cons_iff]
    by_cases first : k.target = entity
    · simp [first]
    · simp [first]

lemma remaining?_bury (sound : l.Sound) (xs : List LogEntry) :
    (Encounter.bury l xs).remaining? entity skill =
      if LogEntry.Slain entity xs then none else l.remaining? entity skill := by
  rw [Encounter.bury, remaining?_forget_targets sound]
  refine if_congr ?_ rfl rfl
  simp [LogEntry.Slain, and_assoc]

/-! ### Time -/

/-- Time takes a tick off whatever remains. -/
lemma remaining?_tick (sound : l.Sound) :
    l.tick.remaining? entity skill = (l.remaining? entity skill).bind oneLess? := by
  simp only [tick, remaining?, standing?]
  rw [Keyed.find?_filter, Standing.bind_filter fun _ idle => Standing.remaining?_of_isIdle idle skill,
    Keyed.find?_map sound.ascending]
  · cases hs : Keyed.find? entity.index l.standings with
    | none => rfl
    | some s =>
      exact Cooldowns.remaining?_tick (sound.standings s (Keyed.mem_of_find? hs)).cooldowns skill
  · intro s
    rfl
  · apply Keyed.ascending_map sound.ascending
    intro s
    rfl

/-! ### A whole tick -/

/-- What anybody waits for after a tick: the killed for nothing, and everybody else for what was
started in the tick or was left of earlier ticks, which that tick already counts for. -/
theorem remaining?_settle (sound : l.Sound) (rules : Rules) (tick : Tick) (r : Resolution) :
    (Encounter.settle rules tick l r).remaining? entity skill =
      if LogEntry.Slain entity r.entries then none
      else (if rules.Starts r.examined entity skill then some (rules.wait skill)
        else l.remaining? entity skill).bind oneLess? := by
  have recorded := sound.record rules tick r.examined r.entries
  rw [Encounter.settle, remaining?_tick (recorded.bury r.entries), remaining?_bury recorded,
    remaining?_record sound]
  split
  · rfl
  · rfl

end Ledger

end Skirmish
