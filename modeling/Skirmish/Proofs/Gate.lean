import Mathlib.Tactic.Lemma
import Skirmish.Encounter
import Skirmish.Proofs.Order.Separation

/-!
# What passes the gate

An intent passes only if the ledger has its skill ready, and no two intents of one tick pass that
have the same caster and the same skill, if that skill has a cooldown.
-/

namespace Skirmish

/-- Is the intent a cast of the skill by the entity? -/
def Intent.Casts (i : Intent) (caster : EntityId) (skill : SkillId) : Prop :=
  i.caster = caster ∧ i.skill = skill

instance (i : Intent) (caster : EntityId) (skill : SkillId) : Decidable (i.Casts caster skill) :=
  inferInstanceAs (Decidable (_ ∧ _))

namespace Gate

variable {rules : Rules} {l : Ledger} {started : List (EntityId × SkillId)} {is : List Intent}

lemma mem_of_mem_passed {i : Intent} (h : i ∈ (run rules l started is).passed) : i ∈ is := by
  fun_induction run rules l started is with
  | case1 => simp at h
  | case2 started j is wait rest ih => exact List.mem_cons_of_mem j (ih h)
  | case3 started j is pass started' rest ih =>
    rcases List.mem_cons.1 h with rfl | h
    · exact List.mem_cons_self ..
    · exact List.mem_cons_of_mem j (ih h)

lemma ready_of_mem_passed {i : Intent} (h : i ∈ (run rules l started is).passed) :
    l.isReady i.caster i.skill = true ∧ (i.caster, i.skill) ∉ started := by
  fun_induction run rules l started is with
  | case1 => simp at h
  | case2 started j is wait rest ih => exact ih h
  | case3 started j is pass started' rest ih =>
    rcases List.mem_cons.1 h with rfl | h
    · simpa using pass
    · obtain ⟨ready, fresh⟩ := ih h
      refine ⟨ready, fun old => fresh ?_⟩
      by_cases starts : startsCooldown rules j = true
      · simpa [started', starts] using .inr old
      · simpa [started', starts] using old

/-- Intents that the ledger has not ready make no difference to what passes. -/
lemma passed_filter_ready :
    (run rules l started (is.filter fun i => l.isReady i.caster i.skill)).passed =
      (run rules l started is).passed := by
  induction is generalizing started with
  | nil => rfl
  | cons i is ih =>
    cases ready : l.isReady i.caster i.skill with
    | false => simp [run, ready, ih]
    | true =>
      cases repeated : started.contains (i.caster, i.skill) <;>
        simp only [List.filter_cons, ready, if_true, run, repeated, ih] <;> simp

/-- Whatever passes and starts a cooldown keeps the same cast from passing again. -/
lemma passed_pairwise :
    (run rules l started is).passed.Pairwise fun i j =>
      startsCooldown rules i = true → ¬j.Casts i.caster i.skill := by
  fun_induction run rules l started is with
  | case1 => exact .nil
  | case2 started i is wait rest ih => exact ih
  | case3 started i is pass started' rest ih =>
    refine List.pairwise_cons.2 ⟨?_, ih⟩
    rintro j hj starts ⟨caster, skill⟩
    have fresh := (ready_of_mem_passed hj).2
    simp [started', starts, caster, skill] at fresh

/-- Of the casts of a skill with a cooldown by one caster, at most one passes. -/
lemma length_casts_le_one {skill : SkillId} {s : Skill} (known : rules.skill? skill = some s)
    (cools : s.hasCooldown = true) (caster : EntityId) :
    ((run rules l started is).passed.filter (·.Casts caster skill)).length ≤ 1 := by
  apply length_filter_le_one passed_pairwise
  intro i j hi hj never
  obtain ⟨rfl, rfl⟩ := of_decide_eq_true hi
  refine never ?_ (of_decide_eq_true hj)
  rw [startsCooldown, known]
  exact cools

end Gate

end Skirmish
