import Mathlib.Tactic.Lemma
import Skirmish.Intake
import Skirmish.Proofs.Order.Separation
import Skirmish.Proofs.Zone.Living

/-!
# What is taken in

A command becomes an intent only if its actor lives in the zone and the rules know its skill, and the
aim of the intent is always the one that the number in the command stands for. Whether the skill is
ready is not looked at here.
-/

namespace Skirmish

namespace Cast

/-- Only the living cast. -/
lemma living_of_reach {rules : Rules} {z : Zone} {c : Cast} {r : Skill × Option Line}
    (h : c.reach rules z = .ok r) : z.Living c.caster := by
  rw [reach] at h
  cases hskill : rules.skill? c.skill with
  | none => simp [hskill] at h
  | some skill =>
    cases hcaster : z.entity? c.caster with
    | none => simp [hskill, hcaster] at h
    | some caster =>
      cases halive : caster.alive with
      | false => simp [hskill, hcaster, halive] at h
      | true => exact ⟨caster, hcaster, halive⟩

lemma living_of_check {rules : Rules} {z : Zone} {c : Cast} {skill : Skill}
    (h : c.check rules z = .ok skill) : z.Living c.caster := by
  rw [check] at h
  cases hreach : c.reach rules z with
  | error refusal => simp [hreach] at h
  | ok r => exact living_of_reach hreach

/-- Only known skills are cast. -/
lemma known_of_check {rules : Rules} {z : Zone} {c : Cast} {skill : Skill}
    (h : c.check rules z = .ok skill) : ∃ skill, rules.skill? c.skill = some skill := by
  cases hskill : rules.skill? c.skill with
  | none => simp [check, reach, hskill] at h
  | some skill => exact ⟨skill, rfl⟩

lemma aimPoint?_ne_onCooldown (z : Zone) (c : Cast) : c.aimPoint? z ≠ .error .onCooldown := by
  unfold aimPoint?
  split
  · simp
  · split <;> simp
  · simp
  · simp

lemma reach_ne_onCooldown (rules : Rules) (z : Zone) (c : Cast) :
    c.reach rules z ≠ .error .onCooldown := by
  have aim := c.aimPoint?_ne_onCooldown z
  intro h
  rw [reach] at h
  grind

lemma check_ne_onCooldown (rules : Rules) (z : Zone) (c : Cast) :
    c.check rules z ≠ .error .onCooldown := by
  have reach := c.reach_ne_onCooldown rules z
  intro h
  rw [check] at h
  grind

end Cast

namespace Command

/-- What becomes of a command that is taken in: the cast it asks for, stamped with the tick. -/
lemma intake_eq_ok {rules : Rules} {z : Zone} {tick : Tick} {c : Command} {i : Intent}
    (h : c.intake rules z tick = .ok i) :
    ∃ cast skill, Cast.ofCommand? c = some cast ∧ cast.isCoherent = true ∧
      cast.check rules z = .ok skill ∧ i = cast.stamp tick := by
  rw [intake] at h
  cases hcast : Cast.ofCommand? c with
  | none => simp [hcast] at h
  | some cast =>
    cases hcoherent : cast.isCoherent with
    | false => simp [hcast, hcoherent] at h
    | true =>
      cases hcheck : cast.check rules z with
      | error refusal => simp [hcast, hcoherent, hcheck] at h
      | ok skill =>
        simp only [hcast, hcoherent, hcheck] at h
        cases h
        exact ⟨cast, skill, rfl, hcoherent, hcheck, rfl⟩

lemma faithful_of_ofCommand? {c : Command} {cast : Cast} (h : Cast.ofCommand? c = some cast) :
    cast.aim.Faithful := by
  rw [Cast.ofCommand?] at h
  split at h
  · obtain ⟨skill, -, rfl⟩ := Option.map_eq_some_iff.1 h
    exact Aim.faithful_ofCode c.aimCode
  · simp at h

lemma mem_accepted {rules : Rules} {z : Zone} {tick : Tick} {cs : List Command} {i : Intent} :
    i ∈ accepted rules z tick cs ↔ ∃ c ∈ cs, c.intake rules z tick = .ok i := by
  simp only [accepted, List.mem_filterMap]
  refine exists_congr fun c => and_congr_right fun _ => ?_
  cases c.intake rules z tick <;> simp

lemma living_of_mem_accepted {rules : Rules} {z : Zone} {tick : Tick} {cs : List Command}
    {i : Intent} (h : i ∈ accepted rules z tick cs) : z.Living i.caster := by
  obtain ⟨c, -, hc⟩ := mem_accepted.1 h
  obtain ⟨cast, skill, -, -, hcheck, rfl⟩ := intake_eq_ok hc
  exact Cast.living_of_check hcheck

lemma faithful_of_mem_accepted {rules : Rules} {z : Zone} {tick : Tick} {cs : List Command}
    {i : Intent} (h : i ∈ accepted rules z tick cs) : i.aim.Faithful := by
  obtain ⟨c, -, hc⟩ := mem_accepted.1 h
  obtain ⟨cast, skill, hcast, -, -, rfl⟩ := intake_eq_ok hc
  exact faithful_of_ofCommand? hcast

lemma known_of_mem_accepted {rules : Rules} {z : Zone} {tick : Tick} {cs : List Command}
    {i : Intent} (h : i ∈ accepted rules z tick cs) : ∃ skill, rules.skill? i.skill = some skill := by
  obtain ⟨c, -, hc⟩ := mem_accepted.1 h
  obtain ⟨cast, skill, -, -, hcheck, rfl⟩ := intake_eq_ok hc
  exact Cast.known_of_check hcheck

/-- The intake refuses no command for its cooldown. -/
lemma onCooldown_notMem_refused (rules : Rules) (z : Zone) (tick : Tick) (cs : List Command) :
    .onCooldown ∉ refused rules z tick cs := by
  intro h
  obtain ⟨c, -, hc⟩ := List.mem_filterMap.1 h
  rw [intake] at hc
  cases hcast : Cast.ofCommand? c with
  | none => simp [hcast] at hc
  | some cast =>
    have check := cast.check_ne_onCooldown rules z
    grind

end Command

end Skirmish
