import Mathlib.Algebra.BigOperators.Group.List.Basic
import Skirmish.Proofs.Ledger.Drawn
import Skirmish.Proofs.Ledger.Remaining

/-!
# Recording a tick

What a ledger makes of the casts and the log entries of a tick depends on which they are, and not on
how they stand: a cast makes its caster wait for as long as the skill says, and every attacker draws
from each defender the threat of all damage it did to it, cut at the ceiling once. Nobody else is
touched.

A ledger is told by who has a standing in it, what anybody has to wait for and what threat anybody
has drawn (`ext_views`), so it suffices to follow these three through a tick.
-/

namespace Skirmish

/-! ### The threat of log entries -/

/-- The threat that a log entry draws, in whole points, out of the health it took: none if no health
was taken, or if the rules do not know the skill. -/
def Rules.threat (rules : Rules) (x : LogEntry) : Int :=
  match rules.skill? x.skill with
  | some s => max 0 (x.finalAmount.toInt * s.threatPercent.toNat / 100)
  | none => 0

/-- The threat that a log entry draws for an attacker against a defender: none unless it tells of
damage that the one did to the other. -/
def Rules.share (rules : Rules) (source defender : EntityId) (x : LogEntry) : Int :=
  if x.isDamage = true ∧ x.source = source ∧ x.target = defender then rules.threat x else 0

/-- The threat that all entries together draw for an attacker against a defender. -/
def Rules.drawn (rules : Rules) (xs : List LogEntry) (source defender : EntityId) : Int :=
  (xs.map (rules.share source defender)).sum

/-- Does any of the entries draw threat for the attacker against the defender? -/
def Rules.Draws (rules : Rules) (xs : List LogEntry) (source defender : EntityId) : Prop :=
  ∃ x ∈ xs, 0 < rules.share source defender x

instance (rules : Rules) (xs : List LogEntry) (source defender : EntityId) :
    Decidable (rules.Draws xs source defender) :=
  inferInstanceAs (Decidable (∃ x ∈ xs, _))

namespace Rules

variable {rules : Rules} {source defender : EntityId} {x : LogEntry} {xs ys : List LogEntry}

/-- Rounding toward zero and rounding down differ only below zero. -/
lemma threat_eq (rules : Rules) (x : LogEntry) :
    rules.threat x = max 0 (Ledger.threatOf rules x.skill x.finalAmount) := by
  rw [threat, Ledger.threatOf]
  cases rules.skill? x.skill with
  | none => simp
  | some s =>
    simp only [Option.map_some, Option.getD_some]
    rw [Int.tdiv_eq_ediv, show Int.sign 100 = 1 from rfl]
    split
    · rw [Int.add_zero]
    · rename_i inexact
      omega

lemma threat_nonneg (rules : Rules) (x : LogEntry) : 0 ≤ rules.threat x := by
  rw [threat_eq]
  exact le_max_left ..

lemma share_nonneg (rules : Rules) (source defender : EntityId) (x : LogEntry) :
    0 ≤ rules.share source defender x := by
  rw [share]
  split
  · exact rules.threat_nonneg x
  · exact le_refl 0

lemma drawn_nonneg (rules : Rules) (xs : List LogEntry) (source defender : EntityId) :
    0 ≤ rules.drawn xs source defender := by
  apply List.sum_nonneg
  intro a ha
  obtain ⟨x, -, rfl⟩ := List.mem_map.1 ha
  exact rules.share_nonneg source defender x

lemma drawn_cons : rules.drawn (x :: xs) source defender =
    rules.share source defender x + rules.drawn xs source defender := by
  rw [drawn, List.map_cons, List.sum_cons, drawn]

/-- Some entry draws threat exactly if all of them together do. -/
lemma draws_iff : rules.Draws xs source defender ↔ 0 < rules.drawn xs source defender := by
  induction xs with
  | nil => simp [Draws, drawn]
  | cons x xs ih =>
    have first := rules.share_nonneg source defender x
    have others := rules.drawn_nonneg xs source defender
    rw [drawn_cons, Draws, List.exists_mem_cons_iff, ← Draws, ih]
    omega

lemma drawn_perm (h : xs.Perm ys) :
    rules.drawn xs source defender = rules.drawn ys source defender :=
  (h.map _).sum_eq

lemma draws_perm (h : xs.Perm ys) :
    rules.Draws xs source defender ↔ rules.Draws ys source defender := by
  rw [draws_iff, draws_iff, drawn_perm h]

lemma starts_perm {is js : List Intent} (h : is.Perm js) {caster : EntityId} {skill : SkillId} :
    rules.Starts is caster skill ↔ rules.Starts js caster skill := by
  simp only [Starts, h.mem_iff]

end Rules

/-! ### What idle standings do not show -/

namespace Standing

lemma drawn?_of_isIdle {s : Standing} (h : s.isIdle = true) (source : EntityId) :
    s.threats.drawn? source = none := by
  rw [isIdle, Bool.and_eq_true] at h
  obtain ⟨entity, cooldowns, ⟨entries⟩⟩ := s
  obtain rfl : entries = [] := by simpa [Threats.isEmpty] using h.2
  rfl

end Standing

namespace Ledger

/-- The threat that an attacker has drawn from an entity, and the tick it last grew on. -/
def drawn? (l : Ledger) (entity source : EntityId) : Option (Int × Tick) :=
  (l.standing? entity).bind (·.threats.drawn? source)

/-- How much threat an attacker has drawn from an entity, zero if none. -/
def drawn (l : Ledger) (entity source : EntityId) : Int :=
  ((l.drawn? entity source).map (·.1)).getD 0

variable {l l' : Ledger} {entity other source : EntityId} {rules : Rules} {tick : Tick}

lemma drawn?_standing (l : Ledger) (entity source : EntityId) :
    (l.standing entity).threats.drawn? source = l.drawn? entity source := by
  rw [standing, drawn?]
  cases l.standing? entity <;> rfl

lemma drawn?_update (sound : l.Sound) {change : Standing → Standing}
    (keeps : ∀ s, (change s).entity = s.entity) :
    (l.update entity change).drawn? other source =
      if entity = other then (change (l.standing entity)).threats.drawn? source
      else l.drawn? other source :=
  bind_standing?_update sound keeps (fun _ idle => Standing.drawn?_of_isIdle idle source) other

lemma drawn?_recordCast (sound : l.Sound) (i : Intent) :
    (recordCast rules l i).drawn? entity source = l.drawn? entity source := by
  rw [recordCast]
  split
  · rfl
  · split
    · rw [drawn?_update sound]
      · split
        · rename_i owner
          rw [← owner]
          exact drawn?_standing l i.caster source
        · rfl
      · intro s
        rfl
    · rfl

/-- Casting draws no threat. -/
lemma drawn?_casts (sound : l.Sound) (is : List Intent) :
    (is.foldl (recordCast rules) l).drawn? entity source = l.drawn? entity source := by
  induction is generalizing l with
  | nil => rfl
  | cons i is ih => rw [List.foldl_cons, ih (sound.recordCast rules i), drawn?_recordCast sound]

lemma recordEntry_eq (rules : Rules) (tick : Tick) (l : Ledger) (x : LogEntry) :
    recordEntry rules tick l x =
      if x.isDamage = true ∧ 0 < rules.threat x then
        l.update x.target fun s =>
          { s with threats := s.threats.add x.source (rules.threat x) tick }
      else l := by
  have whole := rules.threat_eq x
  simp only [recordEntry, Bool.and_eq_true, decide_eq_true_eq]
  by_cases positive : 0 < threatOf rules x.skill x.finalAmount
  · rw [max_eq_right (le_of_lt positive)] at whole
    rw [whole]
  · rw [max_eq_left (not_lt.1 positive)] at whole
    simp [whole, positive]

lemma drawn?_recordEntry (sound : l.Sound) (rules : Rules) (tick : Tick) (x : LogEntry)
    (entity source : EntityId) :
    (recordEntry rules tick l x).drawn? entity source =
      if 0 < rules.share source entity x
      then some (min Rules.maxThreat (l.drawn entity source + rules.share source entity x), tick)
      else l.drawn? entity source := by
  rw [recordEntry_eq]
  by_cases recorded : x.isDamage = true ∧ 0 < rules.threat x
  · rw [if_pos recorded, drawn?_update sound (by intro s; rfl)]
    by_cases hit : x.source = source ∧ x.target = entity
    · obtain ⟨rfl, rfl⟩ := hit
      have share : rules.share x.source x.target x = rules.threat x :=
        if_pos ⟨recorded.1, rfl, rfl⟩
      have threats := (sound.standing x.target).threats
      rw [if_pos rfl, Threats.drawn?_add_self threats recorded.2, Threats.drawn, drawn?_standing,
        share, if_pos recorded.2, drawn]
    · have share : rules.share source entity x = 0 := if_neg fun all => hit all.2
      rw [share, if_neg (lt_irrefl 0)]
      split
      · rename_i owner
        have other : x.source ≠ source := fun same => hit ⟨same, owner⟩
        rw [Threats.drawn?_add_of_ne other, drawn?_standing, owner]
      · rfl
  · have share : ¬0 < rules.share source entity x := by
      rw [Rules.share]
      split
      · rename_i hit
        exact fun positive => recorded ⟨hit.1, positive⟩
      · exact lt_irrefl 0
    rw [if_neg recorded, if_neg share]

/-- Cutting the sum at the ceiling once is the same as cutting it after each entry. -/
lemma drawn?_entries (sound : l.Sound) (rules : Rules) (tick : Tick) (xs : List LogEntry)
    (entity source : EntityId) :
    (xs.foldl (recordEntry rules tick) l).drawn? entity source =
      if rules.Draws xs source entity
      then some (min Rules.maxThreat (l.drawn entity source + rules.drawn xs source entity), tick)
      else l.drawn? entity source := by
  simp only [Rules.draws_iff]
  induction xs generalizing l with
  | nil => rfl
  | cons x xs ih =>
    have first := rules.share_nonneg source entity x
    have others := rules.drawn_nonneg xs source entity
    rw [List.foldl_cons, ih (sound.recordEntry rules tick x), drawn, drawn?_recordEntry sound,
      Rules.drawn_cons]
    generalize rules.share source entity x = a at first ⊢
    generalize rules.drawn xs source entity = b at others ⊢
    by_cases draws : 0 < a
    · have all : 0 < a + b := by omega
      rw [if_pos draws, if_pos all, Option.map_some, Option.getD_some]
      split
      · congr 2
        omega
      · obtain rfl : b = 0 := by omega
        rw [Int.add_zero]
    · obtain rfl : a = 0 := by omega
      rw [if_neg draws, ← drawn, Int.zero_add]

lemma drawn?_record (sound : l.Sound) (rules : Rules) (tick : Tick) (is : List Intent)
    (xs : List LogEntry) (entity source : EntityId) :
    (l.record rules tick is xs).drawn? entity source =
      if rules.Draws xs source entity
      then some (min Rules.maxThreat (l.drawn entity source + rules.drawn xs source entity), tick)
      else l.drawn? entity source := by
  have recorded : (is.foldl (recordCast rules) l).Sound := sound.record rules tick is []
  rw [record, drawn?_entries recorded, drawn, drawn?_casts sound, drawn]

/-! ### Who has a standing -/

lemma isSome_standing?_update (sound : l.Sound) {change : Standing → Standing}
    (keeps : ∀ s, (change s).entity = s.entity)
    (busy : (change (l.standing entity)).isIdle = false) :
    ((l.update entity change).standing? other).isSome = true ↔
      entity = other ∨ (l.standing? other).isSome = true := by
  rw [standing?_update sound keeps]
  split
  · rename_i same
    simp [Option.filter, busy, ← same]
  · rename_i different
    simp [different]

/-- What each step adds makes up what a whole list of them adds. -/
lemma isSome_standing?_foldl {β : Type} {f : Ledger → β → Ledger} {named : β → Prop}
    (keeps : ∀ l x, l.Sound → (f l x).Sound)
    (step : ∀ l x, l.Sound → (((f l x).standing? entity).isSome = true ↔
      named x ∨ (l.standing? entity).isSome = true))
    (sound : l.Sound) (xs : List β) :
    ((xs.foldl f l).standing? entity).isSome = true ↔
      (∃ x ∈ xs, named x) ∨ (l.standing? entity).isSome = true := by
  induction xs generalizing l with
  | nil => simp
  | cons x xs ih =>
    rw [List.foldl_cons, ih (keeps l x sound), step l x sound, List.exists_mem_cons_iff]
    exact or_left_comm.trans or_assoc.symm

lemma isSome_standing?_recordCast (sound : l.Sound) (rules : Rules) (i : Intent) :
    ((recordCast rules l i).standing? entity).isSome = true ↔
      (i.caster = entity ∧ 0 < rules.wait i.skill) ∨ (l.standing? entity).isSome = true := by
  rw [recordCast]
  cases hs : rules.skill? i.skill with
  | none => simp [Rules.wait, hs]
  | some s =>
    rw [Rules.wait_of_skill? hs, Skill.wait_pos_iff]
    by_cases cools : s.hasCooldown = true
    · have positive : 0 < s.cooldown.toInt := by simpa [Skill.hasCooldown] using cools
      simp only [cools, if_true, and_true]
      apply isSome_standing?_update sound
      · intro st
        rfl
      · apply Standing.isIdle_eq_false fun _ idle => Standing.remaining?_of_isIdle idle s.id
        rw [Standing.remaining?, Cooldowns.remaining?_start _ positive, if_pos rfl, Option.map_some]
    · simp [cools]

lemma isSome_standing?_recordEntry (sound : l.Sound) (rules : Rules) (tick : Tick) (x : LogEntry) :
    ((recordEntry rules tick l x).standing? entity).isSome = true ↔
      (x.target = entity ∧ x.isDamage = true ∧ 0 < rules.threat x) ∨
        (l.standing? entity).isSome = true := by
  rw [recordEntry_eq]
  by_cases recorded : x.isDamage = true ∧ 0 < rules.threat x
  · simp only [recorded, and_self, if_true, and_true]
    apply isSome_standing?_update sound
    · intro s
      rfl
    · have threats := (sound.standing x.target).threats
      apply Standing.isIdle_eq_false fun _ idle => Standing.drawn?_of_isIdle idle x.source
      exact Threats.drawn?_add_self threats recorded.2 tick
  · simp [recorded]

/-- Recording a tick gives a standing to whoever has to wait or has threat drawn from it, and takes
none away. -/
lemma isSome_standing?_record (sound : l.Sound) (rules : Rules) (tick : Tick) (is : List Intent)
    (xs : List LogEntry) :
    ((l.record rules tick is xs).standing? entity).isSome = true ↔
      (∃ x ∈ xs, x.target = entity ∧ x.isDamage = true ∧ 0 < rules.threat x) ∨
      (∃ i ∈ is, i.caster = entity ∧ 0 < rules.wait i.skill) ∨
        (l.standing? entity).isSome = true := by
  have recorded : (is.foldl (recordCast rules) l).Sound := sound.record rules tick is []
  rw [record, isSome_standing?_foldl (fun _ x h => h.recordEntry rules tick x)
      (fun _ x h => isSome_standing?_recordEntry h rules tick x) recorded,
    isSome_standing?_foldl (fun _ i h => h.recordCast rules i)
      (fun _ i h => isSome_standing?_recordCast h rules i) sound]

/-! ### Telling ledgers apart -/

/-- A ledger is told by who has a standing, what they wait for and what threat is drawn from
them. -/
lemma ext_views (sound : l.Sound) (sound' : l'.Sound)
    (kept : ∀ entity, (l.standing? entity).isSome = (l'.standing? entity).isSome)
    (waits : ∀ entity skill, l.remaining? entity skill = l'.remaining? entity skill)
    (draws : ∀ entity source, l.drawn? entity source = l'.drawn? entity source) : l = l' := by
  have same (entity : EntityId) : l.standing? entity = l'.standing? entity := by
    have kept := kept entity
    have waits := waits entity
    have draws := draws entity
    simp only [remaining?, drawn?] at waits draws
    cases hs : l.standing? entity with
    | none =>
      cases hs' : l'.standing? entity with
      | none => rfl
      | some s' => simp [hs, hs'] at kept
    | some s =>
      cases hs' : l'.standing? entity with
      | none => simp [hs, hs'] at kept
      | some s' =>
        have owner : s.entity = s'.entity :=
          (entity_of_standing? hs).trans (entity_of_standing? hs').symm
        have standing := sound.standings s (Keyed.mem_of_find? hs)
        have standing' := sound'.standings s' (Keyed.mem_of_find? hs')
        have cooldowns : s.cooldowns = s'.cooldowns := by
          refine Cooldowns.ext_remaining? standing.cooldowns standing'.cooldowns fun skill => ?_
          apply Option.map_injective fun a b => UInt32.toNat_inj.1
          simpa [hs, hs', Standing.remaining?] using waits skill
        have threats : s.threats = s'.threats := by
          refine Threats.ext_drawn? standing.threats standing'.threats fun source => ?_
          simpa [hs, hs'] using draws source
        cases s
        cases s'
        congr
  have standings : l.standings = l'.standings := by
    refine Keyed.ext_find?_key sound.ascending sound'.ascending ?_
    intro s
    exact same s.entity
  cases l
  cases l'
  congr

/-! ### A whole tick -/

lemma mem_update {change : Standing → Standing} {s : Standing}
    (h : s ∈ (l.update entity change).standings) (idle : s.isIdle = true) : s ∈ l.standings := by
  simp only [update] at h
  split at h
  · exact Keyed.mem_of_mem_drop h
  · rename_i busy
    rcases Keyed.mem_put h with rfl | h
    · exact absurd idle busy
    · exact h

lemma mem_recordCast {i : Intent} {s : Standing} (h : s ∈ (recordCast rules l i).standings)
    (idle : s.isIdle = true) : s ∈ l.standings := by
  rw [recordCast] at h
  split at h
  · exact h
  · split at h
    · exact mem_update h idle
    · exact h

lemma mem_recordEntry {x : LogEntry} {s : Standing}
    (h : s ∈ (recordEntry rules tick l x).standings) (idle : s.isIdle = true) :
    s ∈ l.standings := by
  rw [recordEntry_eq] at h
  split at h
  · exact mem_update h idle
  · exact h

lemma mem_foldl {β : Type} {f : Ledger → β → Ledger} {s : Standing}
    (step : ∀ l x, s ∈ (f l x).standings → s ∈ l.standings) {xs : List β}
    (h : s ∈ (xs.foldl f l).standings) : s ∈ l.standings := by
  induction xs generalizing l with
  | nil => exact h
  | cons x xs ih => exact step l x (ih h)

/-- Recording a tick adds no idle standing. -/
lemma mem_record {is : List Intent} {xs : List LogEntry} {s : Standing}
    (h : s ∈ (l.record rules tick is xs).standings) (idle : s.isIdle = true) :
    s ∈ l.standings := by
  have casts : s ∈ (is.foldl (recordCast rules) l).standings :=
    mem_foldl (fun _ _ h => mem_recordEntry h idle) h
  exact mem_foldl (fun _ _ h => mem_recordCast h idle) casts

/-- Only damage is recorded. -/
lemma record_filter (rules : Rules) (tick : Tick) (l : Ledger) (is : List Intent)
    (xs : List LogEntry) :
    l.record rules tick is (xs.filter (·.isDamage)) = l.record rules tick is xs := by
  have skips : (fun l x => if x.isDamage = true then recordEntry rules tick l x else l) =
      recordEntry rules tick := by
    funext l x
    split
    · rfl
    · rename_i other
      rw [recordEntry_eq, if_neg fun both => other both.1]
  rw [record, List.foldl_filter, skips, record]

lemma record_perm (sound : l.Sound) (rules : Rules) (tick : Tick) {is js : List Intent}
    {xs ys : List LogEntry} (casts : is.Perm js) (entries : xs.Perm ys) :
    l.record rules tick is xs = l.record rules tick js ys := by
  refine ext_views (sound.record rules tick is xs) (sound.record rules tick js ys) ?_ ?_ ?_
  · intro entity
    rw [Bool.eq_iff_iff, isSome_standing?_record sound, isSome_standing?_record sound]
    simp only [casts.mem_iff, entries.mem_iff]
  · intro entity skill
    rw [remaining?_record sound, remaining?_record sound]
    exact if_congr (Rules.starts_perm casts) rfl rfl
  · intro entity source
    rw [drawn?_record sound, drawn?_record sound, Rules.drawn_perm entries]
    exact if_congr (Rules.draws_perm entries) rfl rfl

/-- Recording a tick is a single update of the whole ledger. Whoever cast a skill with a cooldown
waits for as long as the skill says, and whoever drew threat has drawn the sum of it and of what it
had before, up to the ceiling; everything else stays as it was. Kills make no difference, nor does
the order in which casts and entries stand. The ledger goes on passing its check, and gets no idle
standing. -/
theorem record_batch (rules : Rules) (tick : Tick) {l : Ledger} (passes : l.violation? = none)
    (casts : List Intent) (xs : List LogEntry) :
    let after := l.record rules tick casts xs
    (∀ entity skill, after.remaining? entity skill =
      if rules.Starts casts entity skill then some (rules.wait skill)
      else l.remaining? entity skill) ∧
    (∀ entity source, after.drawn? entity source =
      if rules.Draws xs source entity
      then some (min Rules.maxThreat (l.drawn entity source + rules.drawn xs source entity), tick)
      else l.drawn? entity source) ∧
    l.record rules tick casts (xs.filter (·.isDamage)) = after ∧
    after.violation? = none ∧
    (∀ s ∈ after.standings, s.isIdle = true → s ∈ l.standings) ∧
    ∀ casts' xs', casts.Perm casts' → xs.Perm xs' → l.record rules tick casts' xs' = after := by
  intro after
  have sound := sound_iff.1 passes
  refine ⟨fun _ _ => remaining?_record sound rules tick casts xs,
    drawn?_record sound rules tick casts xs, record_filter rules tick l casts xs,
    sound_iff.2 (sound.record rules tick casts xs), fun _ => mem_record, ?_⟩
  intro casts' xs' hcasts hxs
  exact (record_perm sound rules tick hcasts hxs).symm

/-- Two hits bring an attacker to the ceiling. A hit with an unknown skill draws nothing, nor does a
kill, and a cast of an unknown skill makes nobody wait. -/
theorem record_batch_ceiling :
    let rules : Rules :=
      .ofSkills ⟨[((Skill.basic ⟨1⟩ 30 .one).withCooldown 3).withThreatPercent 150]⟩
    let l : Ledger := ⟨[⟨⟨2⟩, .empty, ⟨[⟨⟨5⟩, 999999990, ⟨1⟩⟩]⟩⟩, .blank ⟨9⟩]⟩
    let cast (caster : EntityId) (skill : SkillId) : Intent :=
      ⟨⟨7⟩, caster, skill, .entity, ⟨2⟩, .zero⟩
    let casts : List Intent := [cast ⟨5⟩ ⟨1⟩, cast ⟨4⟩ ⟨8⟩]
    let hit (source : EntityId) (skill : SkillId) (amount : Int32) : LogEntry :=
      ⟨⟨7⟩, source, ⟨2⟩, skill, .damage, amount, amount⟩
    let xs : List LogEntry :=
      [hit ⟨5⟩ ⟨1⟩ 5, hit ⟨4⟩ ⟨8⟩ 30, hit ⟨5⟩ ⟨1⟩ 3, ⟨⟨7⟩, ⟨6⟩, ⟨2⟩, ⟨1⟩, .kill, 9, 9⟩]
    let after := l.record rules ⟨7⟩ casts xs
    l.violation? = none ∧ after.remaining? ⟨5⟩ ⟨1⟩ = some 3 ∧ after.remaining? ⟨4⟩ ⟨8⟩ = none ∧
      after.drawn? ⟨2⟩ ⟨5⟩ = some (1000000000, ⟨7⟩) ∧ after.drawn? ⟨2⟩ ⟨4⟩ = none ∧
      after.drawn? ⟨2⟩ ⟨6⟩ = none ∧ l.record rules ⟨7⟩ casts.reverse xs.reverse = after := by
  intro rules l cast casts hit xs after
  have passes : l.violation? = none := by decide
  obtain ⟨waits, draws, -, -, -, same⟩ := record_batch rules ⟨7⟩ passes casts xs
  refine ⟨passes, (waits _ _).trans (by decide), (waits _ _).trans (by decide),
    (draws _ _).trans (by decide), (draws _ _).trans (by decide), (draws _ _).trans (by decide), ?_⟩
  exact same _ _ (List.reverse_perm casts).symm (List.reverse_perm xs).symm

end Ledger

end Skirmish
