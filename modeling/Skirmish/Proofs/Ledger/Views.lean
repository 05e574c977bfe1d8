import Skirmish.Proofs.Ledger.Recording

/-!
# A ledger is what it shows

However a ledger came about, it holds a standing for just those who wait for a skill or have threat
drawn from them. So nothing is left in it of what has run out or was forgotten, and ledgers that show
the same are the same.
-/

namespace Skirmish

/-! ### Nothing to show -/

lemma Cooldowns.isEmpty_iff {c : Cooldowns} :
    c.isEmpty = true ↔ ∀ skill, c.remaining? skill = none := by
  constructor
  · exact fun empty => remaining?_of_isEmpty empty
  · intro ready
    obtain ⟨entries⟩ := c
    cases entries with
    | nil => rfl
    | cons e es =>
      have found : Keyed.find? e.skill.index (e :: es) = some e := Keyed.find?_key_cons e es
      simpa [remaining?, found] using ready e.skill

lemma Threats.isEmpty_iff {t : Threats} :
    t.isEmpty = true ↔ ∀ source, t.drawn? source = none := by
  obtain ⟨entries⟩ := t
  cases entries with
  | nil => exact ⟨fun _ _ => rfl, fun _ => rfl⟩
  | cons e es =>
    simp only [isEmpty, List.isEmpty_cons, Bool.false_eq_true, false_iff]
    intro nothing
    have found : Keyed.find? e.source.index (e :: es) = some e := Keyed.find?_key_cons e es
    simpa [drawn?, threat?, found] using nothing e.source

namespace Standing

lemma isIdle_iff {s : Standing} :
    s.isIdle = true ↔
      (∀ skill, s.remaining? skill = none) ∧ ∀ source, s.threats.drawn? source = none := by
  rw [isIdle, Bool.and_eq_true, Cooldowns.isEmpty_iff, Threats.isEmpty_iff]
  simp only [remaining?, Option.map_eq_none_iff]

end Standing

namespace Ledger

variable {l l' : Ledger} {entity : EntityId}

/-! ### Ledgers without idle standings -/

/-- Has every standing of the ledger something to show? -/
def Busy (l : Ledger) : Prop := ∀ s ∈ l.standings, s.isIdle = false

lemma Busy.record (busy : l.Busy) (rules : Rules) (tick : Tick) (casts : List Intent)
    (xs : List LogEntry) : (l.record rules tick casts xs).Busy := by
  intro s hs
  cases idle : s.isIdle with
  | false => rfl
  | true => exact idle.symm.trans (busy s (mem_record hs idle))

lemma busy_forget (l : Ledger) (entity : EntityId) : (l.forget entity).Busy := by
  intro s hs
  simpa using (List.mem_filter.1 hs).2

lemma busy_tick (l : Ledger) : l.tick.Busy := by
  intro s hs
  simpa using (List.mem_filter.1 hs).2

/-- Who has a standing is seen from what it shows. -/
lemma Busy.isSome_standing?_iff (busy : l.Busy) :
    (l.standing? entity).isSome = true ↔
      (∃ skill, l.remaining? entity skill ≠ none) ∨ ∃ source, l.drawn? entity source ≠ none := by
  simp only [remaining?, drawn?]
  cases hs : l.standing? entity with
  | none => simp
  | some s =>
    have shows : ¬s.isIdle = true := by simp [busy s (Keyed.mem_of_find? hs)]
    rw [Standing.isIdle_iff, not_and_or, not_forall, not_forall] at shows
    simpa using shows

/-- Without idle standings, a ledger is told by what anybody has to wait for and what threat anybody
has drawn. -/
lemma Busy.ext (busy : l.Busy) (busy' : l'.Busy) (sound : l.Sound) (sound' : l'.Sound)
    (waits : ∀ entity skill, l.remaining? entity skill = l'.remaining? entity skill)
    (draws : ∀ entity source, l.drawn? entity source = l'.drawn? entity source) : l = l' := by
  refine ext_views sound sound' ?_ waits draws
  intro entity
  rw [Bool.eq_iff_iff, busy.isSome_standing?_iff, busy'.isSome_standing?_iff]
  simp only [waits, draws]

/-! ### Whole histories -/

/-- What happens to a ledger: a tick is recorded, an entity is forgotten, or a tick passes. -/
inductive Change where
  | record (rules : Rules) (tick : Tick) (casts : List Intent) (entries : List LogEntry)
  | forget (entity : EntityId)
  | tick

/-- The ledger after a change. -/
def change (l : Ledger) : Change → Ledger
  | .record rules tick casts entries => l.record rules tick casts entries
  | .forget entity => l.forget entity
  | .tick => l.tick

/-- The ledger that a history leaves, which has its latest change in front. -/
def replay : List Change → Ledger
  | [] => empty
  | latest :: earlier => (replay earlier).change latest

lemma Sound.change (sound : l.Sound) (c : Change) : (l.change c).Sound := by
  cases c with
  | record rules tick casts entries => exact sound.record rules tick casts entries
  | forget entity => exact sound.forget entity
  | tick => exact sound.tick

lemma Busy.change (busy : l.Busy) (c : Change) : (l.change c).Busy := by
  cases c with
  | record rules tick casts entries => exact busy.record rules tick casts entries
  | forget entity => exact busy_forget l entity
  | tick => exact busy_tick l

lemma sound_replay (history : List Change) : (replay history).Sound := by
  induction history with
  | nil => exact sound_empty
  | cons latest earlier ih => exact ih.change latest

lemma busy_replay (history : List Change) : (replay history).Busy := by
  induction history with
  | nil => simp [Busy, replay, empty]
  | cons latest earlier ih => exact ih.change latest

/-- A ledger is what it shows. After any history it passes its check, each of its standings holds a
skill to wait for or threat drawn, and only those who wait for something or have threat drawn from
them have one. Histories after which everybody waits for the same and has drawn the same, last on the
same ticks, leave the same ledger. -/
theorem replay_shows_all (history : List Change) :
    let l := replay history
    l.violation? = none ∧
    (∀ s ∈ l.standings, s.cooldowns.entries ≠ [] ∨ s.threats.entries ≠ []) ∧
    (∀ entity, (l.standing? entity).isSome = true ↔
      (∃ skill, l.remaining? entity skill ≠ none) ∨ ∃ source, l.drawn? entity source ≠ none) ∧
    ∀ history',
      (∀ entity skill, (replay history').remaining? entity skill = l.remaining? entity skill) →
      (∀ entity source, (replay history').drawn? entity source = l.drawn? entity source) →
        replay history' = l := by
  intro l
  have sound : l.Sound := sound_replay history
  have busy : l.Busy := busy_replay history
  refine ⟨sound_iff.2 sound, fun s hs => Standing.isIdle_eq_false_iff.1 (busy s hs),
    fun entity => busy.isSome_standing?_iff, ?_⟩
  intro history' waits draws
  exact (busy_replay history').ext busy (sound_replay history') sound waits draws

/-- A cooldown of one tick has run out and an attacker was forgotten, together with the standing of
a defender whom nobody else has hit. What is left is what the other cast and the other hit leave. -/
theorem replay_shows_all_purged :
    let rules : Rules :=
      .ofSkills ⟨[(Skill.basic ⟨1⟩ 30 .one).withCooldown 3, (Skill.basic ⟨2⟩ 10 .one).withCooldown 1]⟩
    let cast (caster : EntityId) (skill : SkillId) : Intent :=
      ⟨⟨7⟩, caster, skill, .entity, ⟨2⟩, .zero⟩
    let hit (source target : EntityId) : LogEntry :=
      ⟨⟨7⟩, source, target, ⟨1⟩, .damage, 30, 20⟩
    let history : List Change :=
      [.tick, .forget ⟨5⟩, .record rules ⟨7⟩ [cast ⟨4⟩ ⟨1⟩, cast ⟨5⟩ ⟨1⟩, cast ⟨6⟩ ⟨2⟩]
        [hit ⟨5⟩ ⟨2⟩, hit ⟨4⟩ ⟨2⟩, hit ⟨5⟩ ⟨3⟩]]
    let history' : List Change :=
      [.record rules ⟨7⟩ [] [hit ⟨4⟩ ⟨2⟩], .tick, .record rules ⟨6⟩ [cast ⟨4⟩ ⟨1⟩] []]
    (replay history).violation? = none ∧ (replay history).standings.map (·.entity) = [⟨2⟩, ⟨4⟩] ∧
      replay history' = replay history := by
  intro rules cast hit history history'
  obtain ⟨passes, -, -, same⟩ := replay_shows_all history
  refine ⟨passes, by decide, same history' ?_ ?_⟩
  · intro entity skill
    unfold history history' hit cast rules
    rfl
  · intro entity source
    unfold history history' hit cast rules
    rfl

end Ledger

end Skirmish
