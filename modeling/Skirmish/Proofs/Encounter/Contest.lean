import Skirmish.Proofs.Encounter.Refused

/-!
# Contested casts

Which candidates pass the cooldowns is said here by their places in the canonical order, without the
pairs that the gate keeps on its way. A candidate passes if the ledger has its skill ready, and if the
skill has no cooldown or no candidate in front of it is the same cast. All others are held back, and
these are the commands that are refused for their cooldown.
-/

namespace Skirmish

/-- Do the rules know the skill of the intent, without a cooldown? -/
def Intent.Recurs (rules : Rules) (i : Intent) : Prop :=
  ∃ skill, rules.skill? i.skill = some skill ∧ skill.cooldown.toInt ≤ 0

instance (rules : Rules) (i : Intent) : Decidable (i.Recurs rules) :=
  decidable_of_iff ((rules.skill? i.skill).any (·.cooldown.toInt ≤ 0))
    (by simp [Intent.Recurs, Option.any_eq_true])

namespace Gate

/-- Does the gate let the intent pass which is at place `k` of the candidates? The ledger has to have
the skill ready. If the skill has a cooldown, the intent has to be its first cast by the caster. -/
def Admits (rules : Rules) (l : Ledger) (candidates : List Intent) (i : Intent) (k : Nat) : Prop :=
  l.isReady i.caster i.skill = true ∧
    (i.Recurs rules ∨ ∀ j ∈ candidates.take k, ¬j.Casts i.caster i.skill)

instance (rules : Rules) (l : Ledger) (candidates : List Intent) (i : Intent) (k : Nat) :
    Decidable (Admits rules l candidates i k) :=
  inferInstanceAs (Decidable (_ ∧ _))

/-- Do the pairs kept on the way name exactly the casts in front that have passed and start a
cooldown? -/
def Keeps (rules : Rules) (l : Ledger) (front : List Intent) (started : List (EntityId × SkillId)) :
    Prop :=
  ∀ i : Intent, (i.caster, i.skill) ∈ started ↔
    l.isReady i.caster i.skill = true ∧ startsCooldown rules i = true ∧
      ∃ j ∈ front, j.Casts i.caster i.skill

variable {rules : Rules} {l : Ledger} {front is : List Intent}
  {started : List (EntityId × SkillId)} {i : Intent}

lemma startsCooldown_eq_false_iff (known : ∃ skill, rules.skill? i.skill = some skill) :
    startsCooldown rules i = false ↔ i.Recurs rules := by
  obtain ⟨skill, hskill⟩ := known
  simp [startsCooldown, Intent.Recurs, hskill, Skill.hasCooldown]

/-! ### One intent -/

lemma Keeps.nil (rules : Rules) (l : Ledger) : Keeps rules l [] [] := by
  intro i
  simp

/-- An intent that is held back makes no difference to the pairs: it is not ready, or its pair is
kept already. -/
lemma Keeps.hold (keeps : Keeps rules l front started)
    (held : l.isReady i.caster i.skill = true → (i.caster, i.skill) ∈ started) :
    Keeps rules l (front ++ [i]) started := by
  intro i'
  rw [keeps]
  refine and_congr_right fun ready => and_congr_right fun starts => ?_
  constructor
  · rintro ⟨j, hj, casts⟩
    exact ⟨j, List.mem_append_left _ hj, casts⟩
  · rintro ⟨j, hj, casts⟩
    rcases List.mem_append.1 hj with hj | hj
    · exact ⟨j, hj, casts⟩
    · obtain rfl := List.mem_singleton.1 hj
      obtain ⟨caster, skill⟩ := casts
      rw [caster, skill] at held
      exact ((keeps i').1 (held ready)).2.2

/-- An intent that passes has its pair kept from then on, if it starts a cooldown. -/
lemma Keeps.pass (keeps : Keeps rules l front started)
    (ready : l.isReady i.caster i.skill = true) :
    Keeps rules l (front ++ [i])
      (if startsCooldown rules i then (i.caster, i.skill) :: started else started) := by
  intro i'
  by_cases same : i.Casts i'.caster i'.skill
  · have ⟨caster, skill⟩ := same
    have starts : startsCooldown rules i = startsCooldown rules i' := by
      rw [startsCooldown, startsCooldown, skill]
    rw [starts, caster, skill]
    rw [caster, skill] at ready
    cases cools : startsCooldown rules i' with
    | true => simp [ready, same]
    | false => simp [keeps i', cools]
  · have before : (∃ j ∈ front ++ [i], j.Casts i'.caster i'.skill) ↔
        ∃ j ∈ front, j.Casts i'.caster i'.skill := by
      simp [or_and_right, exists_or, same]
    have other : (i'.caster, i'.skill) ≠ (i.caster, i.skill) := by
      intro h
      obtain ⟨caster, skill⟩ := Prod.mk.inj h
      exact same ⟨caster.symm, skill.symm⟩
    rw [before, ← keeps i']
    split <;> simp [other]

/-- What the gate looks at decides as the places do. -/
lemma Keeps.admits_iff (keeps : Keeps rules l front started)
    (known : ∃ skill, rules.skill? i.skill = some skill) :
    Admits rules l (front ++ i :: is) i front.length ↔
      l.isReady i.caster i.skill = true ∧ (i.caster, i.skill) ∉ started := by
  rw [Admits, List.take_left, ← startsCooldown_eq_false_iff known, keeps i]
  refine and_congr_right fun ready => ?_
  cases startsCooldown rules i <;> simp [ready]

/-! ### All candidates -/

/-- The gate lets the admitted candidates pass in their order, and holds the others back. -/
lemma run_eq_of_keeps (known : ∀ i ∈ is, ∃ skill, rules.skill? i.skill = some skill)
    (keeps : Keeps rules l front started) :
    let admits : Intent × Nat → Bool := fun x => Admits rules l (front ++ is) x.1 x.2
    run rules l started is =
      ⟨((is.zipIdx front.length).filter admits).map (·.1),
        ((is.zipIdx front.length).filter (!admits ·)).map (·.1)⟩ := by
  intro admits
  induction is generalizing front started with
  | nil => rfl
  | cons i is ih =>
    obtain ⟨here, later⟩ := List.forall_mem_cons.1 known
    have next (started' : List (EntityId × SkillId)) (h : Keeps rules l (front ++ [i]) started') :
        run rules l started' is =
          ⟨((is.zipIdx (front.length + 1)).filter admits).map (·.1),
            ((is.zipIdx (front.length + 1)).filter (!admits ·)).map (·.1)⟩ := by
      simpa [admits] using ih later h
    have decides : Admits rules l (front ++ i :: is) i front.length ↔
        l.isReady i.caster i.skill = true ∧ (i.caster, i.skill) ∉ started := keeps.admits_iff here
    rw [run, List.zipIdx_cons]
    split
    · rename_i waits
      have held : l.isReady i.caster i.skill = true → (i.caster, i.skill) ∈ started := by
        simpa [or_iff_not_imp_left] using waits
      have out : admits (i, front.length) = false := by
        simp only [admits, decides, decide_eq_false_iff_not, not_and, not_not]
        exact held
      simp [next started (keeps.hold held), out]
    · rename_i goes
      have passes : l.isReady i.caster i.skill = true ∧ (i.caster, i.skill) ∉ started := by
        simpa using goes
      have out : admits (i, front.length) = true := by
        simpa only [admits, decides, decide_eq_true_eq] using passes
      simp [next _ (keeps.pass passes.1), out]

end Gate

namespace Encounter

/-- Of the candidates of a tick, in canonical order, those are accepted and resolved, in this order,
whose skill the ledger has ready for their caster, and which are casts of a skill without a cooldown
or else the first candidate that casts the skill for the caster. Every other candidate, and nothing
else, is counted as refused for its cooldown. -/
theorem gate_first_casts (rules : Rules) (tick : Tick) (e : Encounter) (cs : List Command) :
    let candidates := Canonical.arrange (Command.accepted rules e.zone tick cs)
    let admits : Intent × Nat → Bool := fun x => Gate.Admits rules e.ledger candidates x.1 x.2
    let accepted := (candidates.zipIdx.filter admits).map (·.1)
    let o := e.step rules tick cs
    (e.gate rules tick cs).passed = accepted ∧
    e.resolution rules tick cs = e.zone.resolve rules tick accepted ∧
    o.tally.accepted = accepted.length ∧
    o.tally.refusals.count .onCooldown = candidates.zipIdx.countP (!admits ·) := by
  intro candidates admits accepted o
  have known : ∀ i ∈ candidates, ∃ skill, rules.skill? i.skill = some skill := by
    intro i hi
    exact Command.known_of_mem_accepted (Canonical.mem_arrange.1 hi)
  have gate : e.gate rules tick cs =
      ⟨accepted, (candidates.zipIdx.filter (!admits ·)).map (·.1)⟩ :=
    Gate.run_eq_of_keeps known (.nil rules e.ledger)
  refine ⟨by rw [gate], by rw [resolution, gate], ?_, ?_⟩
  · exact congrArg (fun g : Gate => g.passed.length) gate
  · have none : (Command.refused rules e.zone tick cs).count .onCooldown = 0 :=
      List.count_eq_zero_of_not_mem (Command.onCooldown_notMem_refused rules e.zone tick cs)
    rw [count_refusals, List.count_append, none, List.count_replicate_self, Nat.zero_add, gate,
      List.length_map, List.countP_eq_length_filter]

/-- Of two jabs and two swings of a fighter in one tick, only the second jab has to wait. -/
example :
    let o := brawl.step brawlRules ⟨0⟩ [.atEntity ⟨1⟩ ⟨2⟩ ⟨2⟩, .atEntity ⟨1⟩ ⟨1⟩ ⟨1⟩,
      .atEntity ⟨1⟩ ⟨2⟩ ⟨2⟩, .atEntity ⟨1⟩ ⟨1⟩ ⟨2⟩]
    o.tally.accepted = 3 ∧ o.tally.refusals.count .onCooldown = 1 := by cbv

end Encounter

end Skirmish
