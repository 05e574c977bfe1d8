import Skirmish.Proofs.Intake
import Skirmish.Proofs.Terrain.Sight

/-!
# Legal casts

Each reason of refusal stands for a rule about commands, and the rules can be told one by one,
without regard to the order in which they are looked at. A command is taken in exactly if it meets
all of them; otherwise it is refused for the first that it breaks.
-/

namespace Skirmish

namespace Command

/-! ### The rules -/

/-- The target that the command names; leaving it out is naming the absent one. -/
def named (c : Command) : EntityId := c.target.getD .none

/-- The point that the command names; leaving it out is naming the zero position. -/
def place (c : Command) : Position := c.point.getD .zero

/-- Do the target fields agree with the target number? -/
def Coherent (c : Command) : Prop :=
  (c.aimCode = 0 ∧ c.named = .none ∧ c.place = .zero) ∨
    (c.aimCode = 1 ∧ c.named ≠ .none ∧ c.place = .zero) ∨
    (c.aimCode = 2 ∧ c.named = .none)

/-- Does the command aim at the point? A target is aimed at where it stands, and a cast of the
caster on itself has no aim. -/
def AimsAt (z : Zone) (c : Command) (p : Position) : Prop :=
  (c.aimCode = 1 ∧ ∃ e ∈ z.entities, e.id = c.named ∧ e.position = p) ∨
    (c.aimCode = 2 ∧ c.place = p)

/-- The skill, the caster and the point that the command aims at, where there are such. -/
structure Involves (rules : Rules) (z : Zone) (c : Command) (skill : Skill) (caster : Entity)
    (aim : Position) : Prop where
  skill : ∃ id, c.skill = some id ∧ rules.skill? id = some skill
  here : caster ∈ z.entities
  caster : caster.id = c.actor
  aim : c.AimsAt z aim

/-- The rule that a reason of refusal stands for. Whether a skill is ready is not for the intake to
say. -/
def Meets (rules : Rules) (z : Zone) (c : Command) : Refusal → Prop
  | .notACast => c.kind = .castSkill ∧ ∃ id, c.skill = some id
  | .incoherentTarget => c.Coherent
  | .unknownSkill => ∃ id skill, c.skill = some id ∧ rules.skill? id = some skill
  | .casterMissing => ∃ e ∈ z.entities, e.id = c.actor
  | .casterDead => ∀ e ∈ z.entities, e.id = c.actor → e.alive = true
  | .targetMissing => c.aimCode = 1 → ∃ e ∈ z.entities, e.id = c.named
  | .outOfRange => ∀ skill caster aim, c.Involves rules z skill caster aim →
    caster.position.within aim skill.range = true
  | .noLineOfSight => ∀ skill caster aim, c.Involves rules z skill caster aim →
    skill.needsSight = true → caster.position.sees z.terrain.blocks aim = true
  | .onCooldown => True

/-- Does the command meet every rule? -/
def Legal (rules : Rules) (z : Zone) (c : Command) : Prop := ∀ r, c.Meets rules z r

/-- Are the rules in front of place `n` met, in the order in which they are looked at? -/
def MeetsBefore (rules : Rules) (z : Zone) (c : Command) (n : Nat) : Prop :=
  ∀ r : Refusal, r.rank.val < n → c.Meets rules z r

/-- Is this the first rule that the command breaks? -/
def Breaks (rules : Rules) (z : Zone) (c : Command) (r : Refusal) : Prop :=
  ¬c.Meets rules z r ∧ c.MeetsBefore rules z r.rank

/-- Does the command need a clear view along the line? -/
def LooksAlong (rules : Rules) (z : Zone) (c : Command) (line : Line) : Prop :=
  ∃ skill caster aim, c.Involves rules z skill caster aim ∧ skill.needsSight = true ∧
    caster.position.lineTo aim = line

variable {rules : Rules} {z : Zone} {c : Command} {tick : Tick} {n : Nat} {id : SkillId}

lemma MeetsBefore.next (before : c.MeetsBefore rules z n) (r : Refusal) (place : r.rank.val = n)
    (met : c.Meets rules z r) : c.MeetsBefore rules z (n + 1) := by
  intro r' earlier
  by_cases same : r' = r
  · exact same ▸ met
  · have ranks : r'.rank.val ≠ n := fun h =>
      same (Refusal.rank_inj.1 (Fin.ext (h.trans place.symm)))
    exact before r' (by omega)

/-- Only one rule is the first that is broken. -/
lemma Breaks.unique {r r' : Refusal} (h : c.Breaks rules z r) (h' : c.Breaks rules z r') :
    r = r' := by
  rcases Nat.lt_trichotomy r.rank r'.rank with lt | same | lt
  · exact absurd (h'.2 r lt) h.1
  · exact Refusal.rank_inj.1 (Fin.ext same)
  · exact absurd (h.2 r' lt) h'.1

/-! ### What the cast is made of -/

/-- The cast of a skill with the other fields of the command. -/
def cast (c : Command) (skill : SkillId) : Cast :=
  ⟨c.actor, skill, .ofCode c.aimCode, c.named, c.place⟩

lemma ofCommand?_eq_some_iff {cast : Cast} : Cast.ofCommand? c = some cast ↔
    c.kind = .castSkill ∧ ∃ id, c.skill = some id ∧ c.cast id = cast := by
  rw [Cast.ofCommand?]
  split
  · rename_i kind
    rw [Option.map_eq_some_iff]
    exact (and_iff_right kind).symm
  · rename_i other
    simp [other]

lemma isCoherent_cast_iff : (c.cast id).isCoherent = true ↔ c.Coherent := by
  by_cases code₀ : c.aimCode = 0
  · simp [Cast.isCoherent, Coherent, cast, Aim.ofCode, EntityId.isNone_iff, code₀]
  by_cases code₁ : c.aimCode = 1
  · simp [Cast.isCoherent, Coherent, cast, Aim.ofCode, EntityId.isNone, code₁]
  by_cases code₂ : c.aimCode = 2
  · simp [Cast.isCoherent, Coherent, cast, Aim.ofCode, EntityId.isNone_iff, code₂]
  · simp [Cast.isCoherent, Coherent, cast, Aim.ofCode, code₀, code₁, code₂]

lemma aimPoint?_cast (rules : Rules) (id : SkillId) (unique : (z.entities.map (·.id)).Nodup)
    (coherent : c.Coherent) :
    match (c.cast id).aimPoint? z with
    | .error r => r = .targetMissing ∧ ¬c.Meets rules z .targetMissing
    | .ok aim => c.Meets rules z .targetMissing ∧ ∀ p, c.AimsAt z p ↔ aim = some p := by
  rw [Cast.aimPoint?]
  rcases coherent with ⟨code, -⟩ | ⟨code, -⟩ | ⟨code, -⟩
  · simp [cast, Aim.ofCode, code, Meets, AimsAt]
  · simp only [cast, Aim.ofCode, code]
    cases found : z.entity? c.named with
    | none =>
      refine ⟨rfl, fun met => ?_⟩
      obtain ⟨e, here, target⟩ := met code
      exact Zone.entity?_eq_none_iff.1 found e here target
    | some e =>
      obtain ⟨here, target⟩ := (Zone.entity?_eq_some_iff unique).1 found
      refine ⟨fun _ => ⟨e, here, target⟩, fun p => ?_⟩
      simp [AimsAt, code, ← and_assoc, ← Zone.entity?_eq_some_iff unique, found]
  · simp [cast, Aim.ofCode, code, Meets, AimsAt]

lemma involves_iff (unique : (z.entities.map (·.id)).Nodup) {skill : Skill} {caster : Entity}
    {aim? : Option Position} (hid : c.skill = some id) (known : rules.skill? id = some skill)
    (found : z.entity? c.actor = some caster) (aims : ∀ p, c.AimsAt z p ↔ aim? = some p)
    (skill' : Skill) (caster' : Entity) (p : Position) :
    c.Involves rules z skill' caster' p ↔ skill = skill' ∧ caster = caster' ∧ aim? = some p := by
  rw [← aims p]
  constructor
  · rintro ⟨⟨id', hid', known'⟩, here, actor, aim⟩
    rw [hid, Option.some.injEq] at hid'
    rw [← hid', known, Option.some.injEq] at known'
    rw [(Zone.entity?_eq_some_iff unique).2 ⟨here, actor⟩, Option.some.injEq] at found
    exact ⟨known', found.symm, aim⟩
  · rintro ⟨rfl, rfl, aim⟩
    obtain ⟨here, actor⟩ := (Zone.entity?_eq_some_iff unique).1 found
    exact ⟨⟨id, hid, known⟩, here, actor, aim⟩

lemma meets_casterDead (unique : (z.entities.map (·.id)).Nodup) {caster : Entity}
    (found : z.entity? c.actor = some caster) (alive : caster.alive = true) :
    c.Meets rules z .casterDead := by
  intro e here actor
  have same := (Zone.entity?_eq_some_iff unique).2 ⟨here, actor⟩
  rw [Option.some.inj (same.symm.trans found), alive]

lemma meets_sight_iff : c.Meets rules z .noLineOfSight ↔
    ∀ line, c.LooksAlong rules z line → line.isClear z.terrain.blocks = true := by
  constructor
  · rintro met line ⟨skill, caster, aim, involves, needs, rfl⟩
    exact met skill caster aim involves needs
  · intro clear skill caster aim involves needs
    exact clear _ ⟨skill, caster, aim, involves, needs, rfl⟩

/-! ### What a reach tells -/

/-- Does the outcome say which rule is the first that is broken; or else that all in front of sight
are met, and which line has to be clear for that one? -/
def Tells (rules : Rules) (z : Zone) (c : Command) : Except Refusal (Skill × Option Line) → Prop
  | .error r => c.Breaks rules z r ∧ r.rank < Refusal.noLineOfSight.rank
  | .ok (_, line?) => c.MeetsBefore rules z Refusal.noLineOfSight.rank ∧
    ∀ line, c.LooksAlong rules z line ↔ line? = some line

lemma tells_of_living (unique : (z.entities.map (·.id)).Nodup) {skill : Skill} {caster : Entity}
    (hid : c.skill = some id) (known : rules.skill? id = some skill)
    (found : z.entity? c.actor = some caster) (alive : caster.alive = true) (coherent : c.Coherent)
    (before : c.MeetsBefore rules z 5) : c.Tells rules z ((c.cast id).reach rules z) := by
  have aimed := aimPoint?_cast rules id unique coherent
  have known' : rules.skill? (c.cast id).skill = some skill := known
  have found' : z.entity? (c.cast id).caster = some caster := found
  simp only [Cast.reach, known', found', alive, Bool.true_eq_false, if_false]
  cases aim : (c.cast id).aimPoint? z with
  | error r =>
    rw [aim] at aimed
    obtain ⟨rfl, broken⟩ := aimed
    exact ⟨⟨broken, before⟩, by decide⟩
  | ok aim? =>
    rw [aim] at aimed
    obtain ⟨met, aims⟩ := aimed
    replace before := before.next .targetMissing rfl met
    have involves := involves_iff unique hid known found aims
    have range : c.Meets rules z .outOfRange ↔
        ∀ p, aim? = some p → caster.position.within p skill.range = true := by
      simp only [Meets, involves]
      constructor
      · intro h p hp
        exact h skill caster p ⟨rfl, rfl, hp⟩
      · rintro h skill' caster' p ⟨rfl, rfl, hp⟩
        exact h p hp
    have looks (line : Line) : c.LooksAlong rules z line ↔
        ∃ p, aim? = some p ∧ skill.needsSight = true ∧ caster.position.lineTo p = line := by
      simp [LooksAlong, involves]
    cases aim? with
    | none =>
      refine ⟨before.next .outOfRange rfl (range.2 (by simp)), ?_⟩
      simp [looks]
    | some p =>
      dsimp only
      cases within : caster.position.within p skill.range with
      | false =>
        refine ⟨⟨?_, before⟩, by decide⟩
        intro met
        simp [range.1 met p rfl] at within
      | true =>
        replace before := before.next .outOfRange rfl (range.2 (by simp [within]))
        cases needs : skill.needsSight with
        | false => exact ⟨before, by simp [looks, needs]⟩
        | true => exact ⟨before, by simp [looks, needs]⟩

lemma tells_reach (unique : (z.entities.map (·.id)).Nodup) (hid : c.skill = some id)
    (coherent : c.Coherent) (before : c.MeetsBefore rules z 2) :
    c.Tells rules z ((c.cast id).reach rules z) := by
  cases known : rules.skill? (c.cast id).skill with
  | none =>
    rw [Cast.reach, known]
    refine ⟨⟨?_, before⟩, by decide⟩
    rintro ⟨id', skill, hid', known'⟩
    obtain rfl : id = id' := Option.some.inj (hid.symm.trans hid')
    exact Option.some_ne_none skill (known'.symm.trans known)
  | some skill =>
    replace before := before.next .unknownSkill rfl ⟨id, skill, hid, known⟩
    cases found : z.entity? (c.cast id).caster with
    | none =>
      rw [Cast.reach, known, found]
      refine ⟨⟨?_, before⟩, by decide⟩
      rintro ⟨e, here, actor⟩
      exact Zone.entity?_eq_none_iff.1 found e here actor
    | some caster =>
      have here := (Zone.entity?_eq_some_iff unique).1 found
      replace before := before.next .casterMissing rfl ⟨caster, here⟩
      cases alive : caster.alive with
      | false =>
        simp only [Cast.reach, known, found, alive, if_true]
        refine ⟨⟨?_, before⟩, by decide⟩
        intro met
        simp [met caster here.1 here.2] at alive
      | true =>
        have met : c.Meets rules z .casterDead := meets_casterDead unique found alive
        exact tells_of_living unique hid known found alive coherent (before.next .casterDead rfl met)

/-! ### What becomes of a command -/

lemma meetsBefore_zero (rules : Rules) (z : Zone) (c : Command) : c.MeetsBefore rules z 0 :=
  fun _ h => absurd h (Nat.not_lt_zero _)

lemma outcome_of_check (tells : c.Tells rules z ((c.cast id).reach rules z)) :
    match (c.cast id).check rules z with
    | .error r => c.Breaks rules z r
    | .ok _ => c.Legal rules z := by
  cases reach : (c.cast id).reach rules z with
  | error r =>
    rw [reach] at tells
    simpa only [Cast.check, reach] using tells.1
  | ok found =>
    obtain ⟨skill, line?⟩ := found
    rw [reach] at tells
    obtain ⟨before, looks⟩ := tells
    have legal (sight : c.Meets rules z .noLineOfSight) : c.Legal rules z := fun r =>
      (before.next .noLineOfSight rfl sight).next .onCooldown rfl trivial r r.rank.isLt
    cases line? with
    | none =>
      simp only [Cast.check, reach]
      exact legal (meets_sight_iff.2 fun line h => by simp [looks] at h)
    | some line =>
      cases clear : line.isClear z.terrain.blocks with
      | true =>
        simp only [Cast.check, reach, clear, if_true]
        refine legal (meets_sight_iff.2 fun line' h => ?_)
        obtain rfl : line = line' := Option.some.inj ((looks line').1 h)
        exact clear
      | false =>
        simp only [Cast.check, reach, clear, Bool.false_eq_true, if_false]
        refine ⟨fun met => ?_, before⟩
        simp [meets_sight_iff.1 met line ((looks line).2 rfl)] at clear

/-- A command is taken in only if it is legal, and refused only for the first rule that it
breaks. -/
lemma intake_outcome (rules : Rules) (unique : (z.entities.map (·.id)).Nodup) (tick : Tick)
    (c : Command) :
    match c.intake rules z tick with
    | .error r => c.Breaks rules z r
    | .ok i => c.Legal rules z ∧ ∃ id, c.skill = some id ∧ i = (c.cast id).stamp tick := by
  have start := meetsBefore_zero rules z c
  cases asked : Cast.ofCommand? c with
  | none =>
    simp only [intake, asked]
    refine ⟨?_, start⟩
    rintro ⟨kind, id, hid⟩
    exact Option.some_ne_none _ ((ofCommand?_eq_some_iff.2 ⟨kind, id, hid, rfl⟩).symm.trans asked)
  | some cast =>
    obtain ⟨kind, id, hid, rfl⟩ := ofCommand?_eq_some_iff.1 asked
    have before := start.next .notACast rfl ⟨kind, id, hid⟩
    cases coherent : (c.cast id).isCoherent with
    | false =>
      simp only [intake, asked, coherent, if_true]
      refine ⟨fun met => ?_, before⟩
      simp [isCoherent_cast_iff.2 met] at coherent
    | true =>
      have agrees := isCoherent_cast_iff.1 coherent
      have outcome := outcome_of_check
        (tells_reach unique hid agrees (before.next .incoherentTarget rfl agrees))
      simp only [intake, asked, coherent, Bool.true_eq_false, if_false]
      cases check : (c.cast id).check rules z with
      | error r =>
        rw [check] at outcome
        exact outcome
      | ok skill =>
        rw [check] at outcome
        exact ⟨outcome, id, hid, rfl⟩

lemma missingTile?_eq_some {missing : MissingTile} (h : c.missingTile? rules z = some missing) :
    ∃ id, c.kind = .castSkill ∧ c.skill = some id ∧ c.Coherent ∧
      ∃ skill line, (c.cast id).reach rules z = .ok (skill, some line) ∧
        z.terrain.missingAlong? line = some missing := by
  rw [missingTile?] at h
  cases asked : Cast.ofCommand? c with
  | none => simp [asked] at h
  | some cast =>
    obtain ⟨kind, id, hid, rfl⟩ := ofCommand?_eq_some_iff.1 asked
    simp only [asked, Option.ite_none_right_eq_some, Cast.missingTile?] at h
    obtain ⟨coherent, h⟩ := h
    refine ⟨id, kind, hid, isCoherent_cast_iff.1 coherent, ?_⟩
    split at h
    · rename_i skill line reach
      exact ⟨skill, line, reach, h⟩
    · simp at h

/-- The terrain lacks a tile exactly if the command meets every rule in front of sight, and the tile
is on the line that it looks along. -/
lemma missing_iff (unique : (z.entities.map (·.id)).Nodup) (missing : MissingTile) :
    c.missingTile? rules z = some missing ↔ c.MeetsBefore rules z Refusal.noLineOfSight.rank ∧
      ∃ line, c.LooksAlong rules z line ∧ z.terrain.missingAlong? line = some missing := by
  constructor
  · intro h
    obtain ⟨id, kind, hid, coherent, skill, line, reach, lacks⟩ := missingTile?_eq_some h
    have before := (meetsBefore_zero rules z c).next .notACast rfl ⟨kind, id, hid⟩
    have tells := tells_reach unique hid coherent (before.next .incoherentTarget rfl coherent)
    rw [reach] at tells
    exact ⟨tells.1, line, (tells.2 line).2 rfl, lacks⟩
  · rintro ⟨before, line, along, lacks⟩
    obtain ⟨kind, id, hid⟩ := before .notACast (by decide)
    have coherent : c.Coherent := before .incoherentTarget (by decide)
    have tells := tells_reach unique hid coherent fun r early =>
      before r (Nat.lt_trans early (by decide))
    cases reach : (c.cast id).reach rules z with
    | error r =>
      rw [reach] at tells
      exact absurd (before r tells.2) tells.1.1
    | ok found =>
      obtain ⟨skill, line?⟩ := found
      rw [reach] at tells
      obtain rfl : line? = some line := (tells.2 line).1 along
      rw [missingTile?, ofCommand?_eq_some_iff.2 ⟨kind, id, hid, rfl⟩]
      simp [isCoherent_cast_iff.2 coherent, Cast.missingTile?, reach, lacks]

lemma overflow?_cast_iff (unique : (z.entities.map (·.id)).Nodup) (hid : c.skill = some id)
    (coherent : c.Coherent) (before : c.MeetsBefore rules z 2) (operation : Overflow) :
    (c.cast id).overflow? rules z = some operation ↔
      c.MeetsBefore rules z Refusal.outOfRange.rank ∧ ∃ skill caster aim,
        c.Involves rules z skill caster aim ∧
          caster.position.withinChecked aim skill.range = .error operation := by
  have aimed := aimPoint?_cast rules id unique coherent
  constructor
  · intro overflows
    rw [Cast.overflow?] at overflows
    split at overflows
    · rename_i skill caster aim known found aims
      rw [Option.ite_none_right_eq_some] at overflows
      obtain ⟨alive, overflows⟩ := overflows
      rw [aims] at aimed
      obtain ⟨here, actor⟩ := (Zone.entity?_eq_some_iff unique).1 found
      replace before := before.next .unknownSkill rfl ⟨id, skill, hid, known⟩
      replace before := before.next .casterMissing rfl ⟨caster, here, actor⟩
      replace before := before.next .casterDead rfl (meets_casterDead unique found alive)
      replace before := before.next .targetMissing rfl aimed.1
      refine ⟨before, skill, caster, aim, ⟨⟨id, hid, known⟩, here, actor, ?_⟩, ?_⟩
      · exact (aimed.2 aim).2 rfl
      · split at overflows
        · rename_i cause failed
          rw [failed, Option.some.inj overflows]
        · simp at overflows
    · simp at overflows
  · rintro ⟨before, skill, caster, aim, ⟨⟨id', hid', known⟩, here, actor, aims⟩, failed⟩
    obtain rfl : id = id' := Option.some.inj (hid.symm.trans hid')
    have known' : rules.skill? (c.cast id).skill = some skill := known
    have found : z.entity? (c.cast id).caster = some caster :=
      (Zone.entity?_eq_some_iff unique).2 ⟨here, actor⟩
    have alive : caster.alive = true := before .casterDead (by decide) caster here actor
    cases point : (c.cast id).aimPoint? z with
    | error r =>
      rw [point] at aimed
      obtain ⟨rfl, broken⟩ := aimed
      exact absurd (before .targetMissing (by decide)) broken
    | ok aim? =>
      rw [point] at aimed
      obtain rfl : aim? = some aim := (aimed.2 aim).1 aims
      simp [Cast.overflow?, known', found, point, alive, failed]

/-- The distance overflows exactly if the command meets every rule in front of the range, and the
caster and the aim are too far apart for it to be worked out. -/
lemma overflow_iff (unique : (z.entities.map (·.id)).Nodup) (operation : Overflow) :
    c.breakdown? rules z = some (.overflow operation) ↔
      c.MeetsBefore rules z Refusal.outOfRange.rank ∧ ∃ skill caster aim,
        c.Involves rules z skill caster aim ∧
          caster.position.withinChecked aim skill.range = .error operation := by
  have start := meetsBefore_zero rules z c
  constructor
  · intro broken
    rw [breakdown?] at broken
    cases asked : Cast.ofCommand? c with
    | none => simp [asked] at broken
    | some cast =>
      obtain ⟨kind, id, hid, rfl⟩ := ofCommand?_eq_some_iff.1 asked
      simp only [asked, Option.ite_none_right_eq_some, isCoherent_cast_iff,
        Cast.breakdown?_eq_overflow_iff] at broken
      obtain ⟨coherent, overflows⟩ := broken
      have before := (start.next .notACast rfl ⟨kind, id, hid⟩).next .incoherentTarget rfl coherent
      exact (overflow?_cast_iff unique hid coherent before operation).1 overflows
  · rintro ⟨before, far⟩
    obtain ⟨kind, id, hid⟩ := before .notACast (by decide)
    have coherent : c.Coherent := before .incoherentTarget (by decide)
    have early : c.MeetsBefore rules z 2 := fun r first => before r (Nat.lt_trans first (by decide))
    have overflows := (overflow?_cast_iff unique hid coherent early operation).2 ⟨before, far⟩
    rw [breakdown?, ofCommand?_eq_some_iff.2 ⟨kind, id, hid, rfl⟩]
    simp [isCoherent_cast_iff.2 coherent, Cast.breakdown?_eq_overflow_iff, overflows]

/-- Where no two entities share an identifier, a command is taken in exactly if it is legal, and it
becomes the intent with its fields and the tick, an absent target filled in as the absent identifier
and an absent point as the zero position. Otherwise it is refused, for the first rule that it
breaks. A tile is missing only on the line that it looks along, once all rules in front of sight are
met; and a distance overflows only between its caster and its aim, once all rules in front of the
range are met. -/
theorem intake_first_broken (rules : Rules) (z : Zone) (unique : (z.entities.map (·.id)).Nodup)
    (tick : Tick) (c : Command) :
    (∀ i, c.intake rules z tick = .ok i ↔ c.Legal rules z ∧ ∃ skill, c.skill = some skill ∧
      i = ⟨tick, c.actor, skill, .ofCode c.aimCode, c.named, c.place⟩) ∧
    (∀ r, c.intake rules z tick = .error r ↔ c.Breaks rules z r) ∧
    (∀ missing, c.missingTile? rules z = some missing ↔
      c.MeetsBefore rules z Refusal.noLineOfSight.rank ∧
        ∃ line, c.LooksAlong rules z line ∧ z.terrain.missingAlong? line = some missing) ∧
    ∀ operation, c.breakdown? rules z = some (.overflow operation) ↔
      c.MeetsBefore rules z Refusal.outOfRange.rank ∧ ∃ skill caster aim,
        c.Involves rules z skill caster aim ∧
          caster.position.withinChecked aim skill.range = .error operation := by
  have outcome := intake_outcome rules unique tick c
  cases taken : c.intake rules z tick with
  | error r =>
    rw [taken] at outcome
    refine ⟨fun i => ⟨nofun, ?_⟩, fun r' => ⟨?_, ?_⟩, missing_iff unique, overflow_iff unique⟩
    · rintro ⟨legal, -⟩
      exact absurd (legal r) outcome.1
    · rintro ⟨⟩
      exact outcome
    · intro breaks
      rw [outcome.unique breaks]
  | ok i =>
    rw [taken] at outcome
    obtain ⟨legal, id, hid, rfl⟩ := outcome
    refine ⟨fun i => ⟨?_, ?_⟩, fun r => ⟨nofun, ?_⟩, missing_iff unique, overflow_iff unique⟩
    · rintro ⟨⟩
      exact ⟨legal, id, hid, rfl⟩
    · rintro ⟨-, id', hid', rfl⟩
      obtain rfl : id = id' := Option.some.inj (hid.symm.trans hid')
      rfl
    · intro breaks
      exact absurd (legal r) breaks.1

/-- A stab reaches two tiles, and a shot nine if the view is clear. -/
def galleryRules : Rules :=
  .ofSkills ⟨[Skill.basic ⟨1⟩ 10 (.ofWhole 2),
    (Skill.basic ⟨2⟩ 10 (.ofWhole 9)).withSight true]⟩

/-- Two stand at the ends of a row of four tiles, with a pillar between them. -/
def gallery : Zone :=
  ⟨⟨1⟩, [.fresh ⟨1⟩ 100 .zero, .fresh ⟨2⟩ 100 ⟨.ofWhole 3, .zero⟩],
    ⟨4, 1, #[false, false, true, false]⟩⟩

/-- The other is too far off for a stab and out of sight for a shot; a shot at the absent target is
as incoherent as one without a target, and a stab at oneself may name it. -/
theorem intake_first_broken_gallery :
    let shot := atEntity ⟨1⟩ ⟨2⟩ ⟨2⟩
    (gallery.entities.map (·.id)).Nodup ∧
      (atEntity ⟨1⟩ ⟨1⟩ ⟨2⟩).Breaks galleryRules gallery .outOfRange ∧
      shot.Breaks galleryRules gallery .noLineOfSight ∧
      { shot with target := none }.Breaks galleryRules gallery .incoherentTarget ∧
      { shot with target := some .none }.Breaks galleryRules gallery .incoherentTarget ∧
      { onSelf ⟨1⟩ ⟨1⟩ with target := some .none }.Legal galleryRules gallery := by
  intro shot
  have unique : (gallery.entities.map (·.id)).Nodup := by decide
  have law := intake_first_broken galleryRules gallery unique ⟨0⟩
  have touched : (Line.mk ⟨0, 0⟩ ⟨3, 0⟩).Touches ⟨2, 0⟩ := by decide
  have barred : (Line.mk ⟨0, 0⟩ ⟨3, 0⟩).isClear gallery.terrain.blocks = false :=
    Line.isClear_eq_false_of_touches (by decide) touched (by decide) rfl
  have reach : (shot.cast ⟨2⟩).reach galleryRules gallery = .ok (_, some ⟨⟨0, 0⟩, ⟨3, 0⟩⟩) := rfl
  have check : (shot.cast ⟨2⟩).check galleryRules gallery = .error .noLineOfSight := by
    simp only [Cast.check, reach, barred, Bool.false_eq_true, if_false]
  have hidden : shot.intake galleryRules gallery ⟨0⟩ = .error .noLineOfSight := by
    rw [intake, ofCommand?_eq_some_iff.2 ⟨rfl, ⟨2⟩, rfl, rfl⟩]
    simp only [check]
    rfl
  exact ⟨unique, ((law _).2.1 _).1 rfl, ((law _).2.1 _).1 hidden, ((law _).2.1 _).1 rfl,
    ((law _).2.1 _).1 rfl, (((law _).1 _).1 rfl).1⟩

end Command

end Skirmish
