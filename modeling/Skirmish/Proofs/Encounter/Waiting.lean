import Skirmish.Proofs.Encounter.Account
import Skirmish.Proofs.Ledger.Remaining

/-!
# How long casters wait

After a cast that was looked at, its caster waits exactly as long as the skill says, counted from the
tick of the cast, unless killed before. The ledger shows at every tick what remains of the wait, and
no cast of the skill by the caster is accepted until the wait is over.
-/

namespace Skirmish

/-- Was a cast of the skill by the entity looked at in the round? -/
def Round.Examined (rules : Rules) (r : Round) (caster : EntityId) (skill : SkillId) : Prop :=
  ∃ i ∈ r.examined rules, i.Casts caster skill

namespace Encounter

variable {rules : Rules} {e : Encounter} {t : Turn} {a : EntityId} {skill : SkillId}

/-! ### One round -/

/-- What a round makes of anybody's waiting depends on the casts that were looked at, and on the
kills. -/
lemma remaining?_after_round (sound : e.ledger.Sound) :
    (e.round rules t).after.ledger.remaining? a skill =
      if LogEntry.Slain a (e.round rules t).entries then none
      else (if rules.Starts ((e.round rules t).examined rules) a skill then some (rules.wait skill)
        else e.ledger.remaining? a skill).bind oneLess? :=
  Ledger.remaining?_settle sound rules t.tick _

/-- Whoever waits and lives has waited one tick more after the round. -/
lemma remaining?_one_later (sound : e.Sound) {n : Nat}
    (waits : (if rules.Starts ((e.round rules t).examined rules) a skill
        then some (rules.wait skill) else e.ledger.remaining? a skill) =
      if n < rules.wait skill ∧ e.zone.Living a then some (rules.wait skill - n) else none) :
    (e.round rules t).after.ledger.remaining? a skill =
      if n + 1 < rules.wait skill ∧ (e.round rules t).after.zone.Living a
      then some (rules.wait skill - (n + 1)) else none := by
  have survives : (e.round rules t).after.zone.Living a ↔
      e.zone.Living a ∧ ¬LogEntry.Slain a (e.round rules t).entries :=
    (account_round sound.zone).living
  rw [remaining?_after_round sound.ledger, waits]
  by_cases slain : LogEntry.Slain a (e.round rules t).entries
  · rw [if_pos slain, if_neg]
    intro next
    exact (survives.1 next.2).2 slain
  · rw [if_neg slain]
    by_cases more : n < rules.wait skill ∧ e.zone.Living a
    · rw [if_pos more, Option.bind_some, oneLess?, Nat.sub_sub]
      by_cases last : rules.wait skill - n ≤ 1
      · rw [if_pos last, if_neg]
        omega
      · rw [if_neg last, if_pos]
        exact ⟨by omega, survives.2 ⟨more.2, slain⟩⟩
    · rw [if_neg more, Option.bind_none, if_neg]
      intro next
      exact more ⟨by omega, (survives.1 next.2).1⟩

/-- The tick of a cast is the first of the ticks that its caster waits. -/
lemma remaining?_of_examined (sound : e.Sound) (cools : 0 < rules.wait skill)
    (cast : (e.round rules t).Examined rules a skill) :
    (e.round rules t).after.ledger.remaining? a skill =
      if 1 < rules.wait skill ∧ (e.round rules t).after.zone.Living a
      then some (rules.wait skill - 1) else none := by
  have living : e.zone.Living a := by
    obtain ⟨i, hi, rfl, -⟩ := cast
    exact Round.living_of_mem_accepted (Round.accepted_of_mem_examined hi)
  apply remaining?_one_later sound (n := 0)
  rw [if_pos ⟨cast, cools⟩, if_pos ⟨cools, living⟩, Nat.sub_zero]

/-- A tick in which no cast was looked at is one more of the ticks that a caster waits. -/
lemma remaining?_of_not_examined (sound : e.Sound) {n : Nat}
    (waits : e.ledger.remaining? a skill =
      if n < rules.wait skill ∧ e.zone.Living a then some (rules.wait skill - n) else none)
    (quiet : ¬(e.round rules t).Examined rules a skill) :
    (e.round rules t).after.ledger.remaining? a skill =
      if n + 1 < rules.wait skill ∧ (e.round rules t).after.zone.Living a
      then some (rules.wait skill - (n + 1)) else none := by
  apply remaining?_one_later sound
  rw [if_neg fun starts => quiet starts.1]
  exact waits

/-- As long as a tick remains to wait, no cast is accepted. -/
lemma not_accepted_of_remaining? {r : Round} (sound : r.before.ledger.Sound) {n : Nat}
    (waits : r.before.ledger.remaining? a skill = some n) {x : Intent}
    (h : x ∈ r.accepted rules) : ¬x.Casts a skill := by
  rintro ⟨rfl, rfl⟩
  have ready := (Ledger.isReady_iff sound).1 (Gate.ready_of_mem_passed h).1
  rw [waits] at ready
  simp at ready

/-! ### Whole runs -/

/-- Is step `i` the last one before step `j` in which a cast of the skill by the entity was looked
at? -/
structure LastCast (rules : Rules) (rs : List Round) (caster : EntityId) (skill : SkillId)
    (i j : Nat) : Prop where
  before : i < j
  cast : ∃ r, rs[i]? = some r ∧ r.Examined rules caster skill
  since : ∀ k r, i < k → k < j → rs[k]? = some r → ¬r.Examined rules caster skill

variable {rs : List Round}

/-- What remains of the wait for a skill, at every step after its last cast. -/
lemma LastCast.remaining? (played : Played rules e rs) (sound : e.Sound)
    (cools : 0 < rules.wait skill) {i j : Nat} (last : LastCast rules rs a skill i j) {r : Round}
    (hr : rs[j]? = some r) :
    r.before.ledger.remaining? a skill =
      if j - i < rules.wait skill ∧ r.before.zone.Living a
      then some (rules.wait skill - (j - i)) else none := by
  induction j generalizing r with
  | zero => exact absurd last.before (Nat.not_lt_zero i)
  | succ j ih =>
    obtain ⟨r', hr'⟩ : ∃ r', rs[j]? = some r' := by
      have length := (List.getElem?_eq_some_iff.1 hr).1
      exact ⟨rs[j], List.getElem?_eq_getElem (Nat.lt_of_succ_lt length)⟩
    have mem := List.mem_of_getElem? hr'
    have sound' := played.sound_before sound r' mem
    have here := played.eq_round mem
    rw [played.before_next hr' hr, here]
    by_cases first : i = j
    · obtain ⟨r'', hr'', cast⟩ := last.cast
      obtain rfl : r' = r'' := by
        rw [first, hr'] at hr''
        exact Option.some.inj hr''
      rw [here] at cast
      rw [first, Nat.add_sub_cancel_left]
      exact remaining?_of_examined sound' cools cast
    · have before : i < j := Nat.lt_of_le_of_ne (Nat.le_of_lt_succ last.before) first
      have quiet := last.since j r' before (Nat.lt_succ_self j) hr'
      rw [here] at quiet
      rw [Nat.sub_add_comm (Nat.le_of_lt before)]
      refine remaining?_of_not_examined sound' (ih ⟨before, last.cast, ?_⟩ hr') quiet
      intro k r hik hkj
      exact last.since k r hik (Nat.lt_succ_of_lt hkj)

/-- From a cast on, no other is accepted as long as its caster has to wait. -/
lemma not_accepted_of_examined (played : Played rules e rs) (sound : e.Sound) {i k : Nat}
    {r r' : Round} (hr : rs[i]? = some r) (cast : r.Examined rules a skill)
    (hr' : rs[k]? = some r') (later : i < k) (soon : k < i + rules.wait skill) :
    ∀ x ∈ r'.accepted rules, ¬x.Casts a skill := by
  induction k using Nat.strongRecOn generalizing r' with
  | ind k ih =>
    -- nothing was accepted in between, so the cast is the last one before the step
    have last : LastCast rules rs a skill i k := by
      refine ⟨later, ⟨r, hr, cast⟩, ?_⟩
      rintro m q him hmk hq ⟨x, hx, casts⟩
      have accepted := Round.accepted_of_mem_examined hx
      exact ih m hmk hq him (by omega) x accepted casts
    intro x hx casts
    have living : r'.before.zone.Living a := casts.1 ▸ Round.living_of_mem_accepted hx
    have waits := last.remaining? played sound (by omega) hr'
    rw [if_pos ⟨by omega, living⟩] at waits
    have sound' := played.sound_before sound r' (List.mem_of_getElem? hr')
    exact not_accepted_of_remaining? sound'.ledger waits hx casts

/-- Cooldowns run exactly as long as the skill says, counted from the tick of the cast. After the
last cast of a skill that was looked at, the ledger shows what remains of the wait as long as the
caster lives. No cast of the skill is accepted until the wait is over, nor two in one tick. Apart
from time and kills, nothing but casts that were looked at changes what anybody waits for. -/
theorem cooldowns_exact (rules : Rules) (e : Encounter) (zone : e.zone.violation? = none)
    (ledger : e.ledger.violation? = none) (ts : List Turn) {a : EntityId} {skill : SkillId}
    {s : Skill} (known : rules.skill? skill = some s) (cools : 0 < s.cooldown.toInt) :
    (∀ i j r, LastCast rules (e.rounds rules ts) a skill i j → (e.rounds rules ts)[j]? = some r →
      r.before.ledger.remaining? a skill =
        if j - i < s.wait ∧ r.before.zone.Living a then some (s.wait - (j - i)) else none) ∧
    (∀ i k r r', (e.rounds rules ts)[i]? = some r → r.Examined rules a skill →
      (e.rounds rules ts)[k]? = some r' → i < k → k < i + s.wait →
        ∀ x ∈ r'.accepted rules, ¬x.Casts a skill) ∧
    (∀ r ∈ e.rounds rules ts, ((r.accepted rules).filter (·.Casts a skill)).length ≤ 1) ∧
    ∀ r ∈ e.rounds rules ts, ∀ b t, r.after.ledger.remaining? b t =
      if LogEntry.Slain b r.entries then none
      else (if rules.Starts (r.examined rules) b t then some (rules.wait t)
        else r.before.ledger.remaining? b t).bind oneLess? := by
  have sound : e.Sound := ⟨Zone.sound_iff.1 zone, Ledger.sound_iff.1 ledger⟩
  have played := played_rounds rules e ts
  have hasCooldown : s.hasCooldown = true := by simpa [Skill.hasCooldown] using cools
  have waits : 0 < rules.wait skill := by
    rw [Rules.wait_of_skill? known]
    exact Skill.wait_pos_iff.2 hasCooldown
  rw [← Rules.wait_of_skill? known]
  refine ⟨?_, ?_, ?_, ?_⟩
  · intro i j r last hr
    exact last.remaining? played sound waits hr
  · intro i k r r' hr cast hr' later soon
    exact not_accepted_of_examined played sound hr cast hr' later soon
  · intro r hr
    exact Gate.length_casts_le_one known hasCooldown a
  · intro r hr b t
    have sound' := (played.sound_before sound r hr).ledger
    have here := played.eq_round hr
    rw [here]
    exact remaining?_after_round sound'

/-- The first fighter jabs in the first turn and not again, so before the third its jab has one of
three ticks left. -/
theorem cooldowns_exact_brawl : ∃ r, (brawl.rounds brawlRules brawlTurns)[2]? = some r ∧
    r.before.ledger.remaining? ⟨1⟩ ⟨1⟩ = some 1 := by
  obtain ⟨r₀, r₁, r₂, rounds⟩ : ∃ r₀ r₁ r₂, brawl.rounds brawlRules brawlTurns = [r₀, r₁, r₂] :=
    List.length_eq_three.1 (by cbv)
  have facts : (brawl.rounds brawlRules brawlTurns).map (fun r =>
      ((r.examined brawlRules).any (·.Casts ⟨1⟩ ⟨1⟩), decide (r.before.zone.Living ⟨1⟩))) =
        [(true, true), (false, true), (false, true)] := by cbv
  simp only [rounds, List.map_cons, List.map_nil, List.cons.injEq, Prod.mk.injEq,
    decide_eq_true_eq, List.any_eq_true, List.any_eq_false] at facts
  obtain ⟨⟨cast, -⟩, ⟨quiet, -⟩, ⟨-, living⟩, -⟩ := facts
  have last : LastCast brawlRules (brawl.rounds brawlRules brawlTurns) ⟨1⟩ ⟨1⟩ 0 2 := by
    rw [rounds]
    refine ⟨by decide, ⟨r₀, rfl, cast⟩, ?_⟩
    rintro k r hik hkj hr ⟨x, hx, casts⟩
    obtain rfl : k = 1 := by omega
    cases hr
    exact quiet x hx casts
  have known : brawlRules.skill? ⟨1⟩ = some ((Skill.basic ⟨1⟩ 30 .one).withCooldown 3) := rfl
  have hr₂ : (brawl.rounds brawlRules brawlTurns)[2]? = some r₂ := by rw [rounds]; rfl
  have waits := (cooldowns_exact brawlRules brawl (by decide) (by decide) brawlTurns (a := ⟨1⟩)
    known (by decide)).1 0 2 r₂ last hr₂
  refine ⟨r₂, hr₂, ?_⟩
  rw [waits, if_pos ⟨by decide, living⟩]
  decide

end Encounter

end Skirmish
