import Mathlib.Tactic.Lemma
import Skirmish.Encounter
import Skirmish.Proofs.Order.Updates

/-!
# Sound ledgers

A ledger is sound if its standings ascend and hold cooldowns that have not run out and threat within
its bounds, each in ascending order too, which is what its check finds out. Whatever happens to a
ledger in a tick leaves it sound.
-/

namespace Skirmish

/-! ### Cooldowns -/

/-- Do the cooldowns pass their check? -/
structure Cooldowns.Sound (c : Cooldowns) : Prop where
  ascending : Keyed.Ascending c.entries
  running : ∀ e ∈ c.entries, e.remaining.toNat ≠ 0

namespace Cooldowns

lemma sound_iff {c : Cooldowns} : c.violation? = none ↔ c.Sound :=
  violation?_eq_none_iff.trans ⟨fun h => ⟨h.1, h.2⟩, fun h => ⟨h.1, h.2⟩⟩

lemma sound_empty : empty.Sound := ⟨.nil, by simp [empty]⟩

lemma Sound.start {c : Cooldowns} (h : c.Sound) (skill : SkillId) (ticks : Int64) :
    (c.start skill ticks).Sound := by
  rw [Cooldowns.start]
  split
  · refine ⟨Keyed.ascending_drop h.ascending _, ?_⟩
    intro e he
    exact h.running e (Keyed.mem_of_mem_drop he)
  · rename_i positive
    refine ⟨Keyed.ascending_put h.ascending _, ?_⟩
    intro e he
    rcases Keyed.mem_put he with rfl | he
    · have clamped := Clamp.toNat_toUInt32 ticks.toInt
      simp only [Clamp.between] at clamped ⊢
      omega
    · exact h.running e he

end Cooldowns

namespace Cooldown

lemma tick?_eq_some {c d : Cooldown} (h : c.tick? = some d) :
    d.skill = c.skill ∧ d.remaining.toNat = c.remaining.toNat - 1 ∧ 1 < c.remaining.toNat := by
  have upper := c.remaining.toNat_lt
  rw [tick?] at h
  split at h
  · simp at h
  · cases h
    refine ⟨rfl, ?_, by omega⟩
    rw [UInt32.toNat_ofNat']
    omega

lemma key_tick? {c d : Cooldown} (h : c.tick? = some d) : Keyed.key d = Keyed.key c :=
  congrArg SkillId.index (tick?_eq_some h).1

end Cooldown

lemma Cooldowns.Sound.tick {c : Cooldowns} (h : c.Sound) : c.tick.Sound := by
  refine ⟨Keyed.ascending_filterMap h.ascending fun _ _ => Cooldown.key_tick?, ?_⟩
  intro e he
  obtain ⟨d, -, hd⟩ := List.mem_filterMap.1 he
  obtain ⟨-, counted, more⟩ := Cooldown.tick?_eq_some hd
  omega

/-! ### Threat -/

/-- Does the threat pass its check? -/
structure Threats.Sound (t : Threats) : Prop where
  ascending : Keyed.Ascending t.entries
  entries : ∀ e ∈ t.entries, e.Sound

namespace Threats

lemma sound_iff {t : Threats} : t.violation? = none ↔ t.Sound :=
  violation?_eq_none_iff.trans ⟨fun h => ⟨h.1, h.2⟩, fun h => ⟨h.1, h.2⟩⟩

lemma sound_empty : empty.Sound := ⟨.nil, by simp [empty]⟩

lemma Sound.add {t : Threats} (h : t.Sound) (source : EntityId) (amount : Int) (tick : Tick) :
    (t.add source amount tick).Sound := by
  rw [Threats.add]
  split
  · exact h
  · refine ⟨Keyed.ascending_put h.ascending _, ?_⟩
    intro e he
    rcases Keyed.mem_put he with rfl | he
    · simp only [Threat.Sound, Clamp.toInt_toInt32, Clamp.between, Rules.maxThreat]
      omega
    · exact h.entries e he

lemma Sound.drop {t : Threats} (h : t.Sound) (source : EntityId) : (t.drop source).Sound := by
  refine ⟨Keyed.ascending_drop h.ascending _, ?_⟩
  intro e he
  exact h.entries e (Keyed.mem_of_mem_drop he)

end Threats

/-! ### Standings -/

/-- Does the standing pass its check? -/
structure Standing.Sound (s : Standing) : Prop where
  cooldowns : s.cooldowns.Sound
  threats : s.threats.Sound

namespace Standing

lemma sound_iff {s : Standing} : s.violation? = none ↔ s.Sound := by
  rw [violation?_eq_none_iff, Cooldowns.sound_iff, Threats.sound_iff]
  exact ⟨fun h => ⟨h.1, h.2⟩, fun h => ⟨h.1, h.2⟩⟩

lemma sound_blank (entity : EntityId) : (blank entity).Sound :=
  ⟨Cooldowns.sound_empty, Threats.sound_empty⟩

lemma isIdle_eq_false {β : Type} {view : Standing → Option β}
    (idle : ∀ s : Standing, s.isIdle = true → view s = none) {s : Standing} {b : β}
    (h : view s = some b) : s.isIdle = false := by
  cases hs : s.isIdle with
  | true => simp [idle s hs] at h
  | false => rfl

lemma isIdle_eq_false_iff {s : Standing} :
    s.isIdle = false ↔ s.cooldowns.entries ≠ [] ∨ s.threats.entries ≠ [] := by
  rw [isIdle, Bool.and_eq_false_iff]
  simp [Cooldowns.isEmpty, Threats.isEmpty]

/-- Whether idle standings are kept makes no difference to what only the others show. -/
lemma bind_filter {β : Type} {view : Standing → Option β}
    (idle : ∀ s : Standing, s.isIdle = true → view s = none) (s : Option Standing) :
    (s.filter (!·.isIdle)).bind view = s.bind view := by
  cases s with
  | none => rfl
  | some s =>
    cases h : s.isIdle with
    | true => simp [Option.filter, h, idle s h]
    | false => simp [Option.filter, h]

end Standing

/-! ### Ledgers -/

/-- Does the ledger pass its check? -/
structure Ledger.Sound (l : Ledger) : Prop where
  ascending : Keyed.Ascending l.standings
  standings : ∀ s ∈ l.standings, s.Sound

namespace Ledger

lemma sound_iff {l : Ledger} : l.violation? = none ↔ l.Sound := by
  simp only [violation?_eq_none_iff, Standing.sound_iff]
  exact ⟨fun h => ⟨h.1, h.2⟩, fun h => ⟨h.1, h.2⟩⟩

lemma sound_empty : empty.Sound := ⟨.nil, by simp [empty]⟩

/-- The standing of an entity, blank if it has none. -/
def standing (l : Ledger) (entity : EntityId) : Standing :=
  (l.standing? entity).getD (.blank entity)

lemma entity_of_standing? {l : Ledger} {entity : EntityId} {s : Standing}
    (h : l.standing? entity = some s) : s.entity = entity :=
  EntityId.index_inj.1 (Keyed.key_of_find? h)

@[simp] lemma entity_standing (l : Ledger) (entity : EntityId) :
    (l.standing entity).entity = entity := by
  rw [standing]
  cases h : l.standing? entity with
  | none => rfl
  | some s => exact entity_of_standing? h

/-- An update changes the standing of one entity, which is not kept if it is idle, and no other. -/
lemma standing?_update {l : Ledger} (sound : l.Sound) {entity : EntityId}
    {change : Standing → Standing} (keeps : ∀ s, (change s).entity = s.entity) (other : EntityId) :
    (l.update entity change).standing? other =
      if entity = other then (some (change (l.standing entity))).filter (!·.isIdle)
      else l.standing? other := by
  have owner : Keyed.key (change (l.standing entity)) = entity.index :=
    congrArg EntityId.index ((keeps _).trans (l.entity_standing entity))
  change (if (change (l.standing entity)).isIdle then
    (⟨Keyed.drop entity.index l.standings⟩ : Ledger)
    else ⟨Keyed.put (change (l.standing entity)) l.standings⟩).standing? other = _
  unfold standing?
  by_cases same : entity = other
  · subst same
    rw [if_pos rfl]
    split
    · rename_i idle
      simpa [Option.filter, idle] using Keyed.find?_drop_self sound.ascending entity.index
    · rename_i busy
      simpa [Option.filter, busy, owner] using
        Keyed.find?_put_self (change (l.standing entity)) l.standings
  · have keys : entity.index ≠ other.index := fun keys => same (EntityId.index_inj.1 keys)
    rw [if_neg same]
    split
    · exact Keyed.find?_drop_of_ne keys.symm _
    · exact Keyed.find?_put_of_ne (owner ▸ keys) _

/-- What an update makes of anything that idle standings do not show. -/
lemma bind_standing?_update {l : Ledger} (sound : l.Sound) {entity : EntityId}
    {change : Standing → Standing} (keeps : ∀ s, (change s).entity = s.entity) {β : Type}
    {view : Standing → Option β} (idle : ∀ s : Standing, s.isIdle = true → view s = none)
    (other : EntityId) :
    ((l.update entity change).standing? other).bind view =
      if entity = other then view (change (l.standing entity))
      else (l.standing? other).bind view := by
  rw [standing?_update sound keeps]
  split
  · rw [Standing.bind_filter idle, Option.bind_some]
  · rfl

namespace Sound

variable {l : Ledger} (h : l.Sound)

include h

lemma standing (entity : EntityId) : (l.standing entity).Sound := by
  rw [Ledger.standing]
  cases hs : l.standing? entity with
  | none => exact Standing.sound_blank entity
  | some s => exact h.standings s (Keyed.mem_of_find? hs)

lemma update (entity : EntityId) {change : Standing → Standing}
    (sound : ∀ s, s.Sound → (change s).Sound) : (l.update entity change).Sound := by
  simp only [Ledger.update]
  split
  · refine ⟨Keyed.ascending_drop h.ascending _, ?_⟩
    intro s hs
    exact h.standings s (Keyed.mem_of_mem_drop hs)
  · refine ⟨Keyed.ascending_put h.ascending _, ?_⟩
    intro s hs
    rcases Keyed.mem_put hs with rfl | hs
    · exact sound _ (h.standing entity)
    · exact h.standings s hs

lemma recordCast (rules : Rules) (i : Intent) : (Ledger.recordCast rules l i).Sound := by
  rw [Ledger.recordCast]
  split
  · exact h
  · split
    · exact h.update _ fun s hs => ⟨hs.cooldowns.start _ _, hs.threats⟩
    · exact h

lemma recordEntry (rules : Rules) (tick : Tick) (x : LogEntry) :
    (Ledger.recordEntry rules tick l x).Sound := by
  simp only [Ledger.recordEntry]
  split
  · exact h.update _ fun s hs => ⟨hs.cooldowns, hs.threats.add _ _ _⟩
  · exact h

lemma forget (entity : EntityId) : (l.forget entity).Sound := by
  constructor
  · apply Keyed.ascending_filter
    apply Keyed.ascending_map
    · exact Keyed.ascending_drop h.ascending _
    · intro s
      rfl
  · intro s hs
    obtain ⟨s', hs', rfl⟩ := List.mem_map.1 (List.mem_filter.1 hs).1
    have sound := h.standings s' (Keyed.mem_of_mem_drop hs')
    exact ⟨sound.cooldowns, sound.threats.drop entity⟩

lemma tick : l.tick.Sound := by
  constructor
  · apply Keyed.ascending_filter
    apply Keyed.ascending_map h.ascending
    intro s
    rfl
  · intro s hs
    obtain ⟨s', hs', rfl⟩ := List.mem_map.1 (List.mem_filter.1 hs).1
    have sound := h.standings s' hs'
    exact ⟨sound.cooldowns.tick, sound.threats⟩

lemma record (rules : Rules) (tick : Tick) (casts : List Intent) (xs : List LogEntry) :
    (l.record rules tick casts xs).Sound := by
  apply List.foldlRecOn
  · exact List.foldlRecOn _ _ h fun l hl i _ => hl.recordCast rules i
  · intro l hl x _
    exact hl.recordEntry rules tick x

lemma bury (xs : List LogEntry) : (Encounter.bury l xs).Sound :=
  List.foldlRecOn _ _ h fun _ hl x _ => hl.forget x.target

lemma settle (rules : Rules) (tick : Tick) (r : Resolution) :
    (Encounter.settle rules tick l r).Sound :=
  ((h.record rules tick r.examined r.entries).bury r.entries).tick

end Sound

end Ledger

end Skirmish
