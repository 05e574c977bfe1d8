import Skirmish.Proofs.Encounter.Arrival
import Skirmish.Proofs.Gate

/-!
# Refused commands leave no trace

A command that is not taken in, or whose skill is not ready when the tick begins, is refused
whatever else arrives. A tick comes out the same without such commands, but for their count and the
counts of the reasons for which they are refused.
-/

namespace Skirmish

namespace Command

variable {rules : Rules} {z : Zone} {tick : Tick}

lemma accepted_append (cs ds : List Command) :
    accepted rules z tick (cs ++ ds) = accepted rules z tick cs ++ accepted rules z tick ds :=
  List.filterMap_append

lemma refused_append (cs ds : List Command) :
    refused rules z tick (cs ++ ds) = refused rules z tick cs ++ refused rules z tick ds :=
  List.filterMap_append

/-- A command that is taken in becomes an intent of its actor, with its skill. -/
lemma skill_of_intake {c : Command} {i : Intent} (h : c.intake rules z tick = .ok i) :
    i.caster = c.actor ∧ c.skill = some i.skill := by
  obtain ⟨cast, skill, hcast, -, -, rfl⟩ := intake_eq_ok h
  rw [Cast.ofCommand?] at hcast
  split at hcast
  · obtain ⟨s, hs, rfl⟩ := Option.map_eq_some_iff.1 hcast
    exact ⟨rfl, hs⟩
  · simp at hcast

end Command

namespace Encounter

variable {rules : Rules} {tick : Tick} {e : Encounter} {cs ds gone : List Command}

/-- Is the command refused at intake, or not ready when the tick begins? -/
def Futile (rules : Rules) (tick : Tick) (e : Encounter) (c : Command) : Prop :=
  (∃ refusal, c.intake rules e.zone tick = .error refusal) ∨
    ∃ skill, c.skill = some skill ∧ e.ledger.isReady c.actor skill = false

/-- The reason for which the command is refused whatever else arrives. -/
def refusal? (rules : Rules) (tick : Tick) (e : Encounter) (c : Command) : Option Refusal :=
  match c.intake rules e.zone tick with
  | .error refusal => some refusal
  | .ok i => if e.ledger.isReady i.caster i.skill then none else some .onCooldown

/-- What is taken in of a futile command is not ready. -/
lemma Futile.not_ready {c : Command} (h : e.Futile rules tick c) {i : Intent}
    (hi : c.intake rules e.zone tick = .ok i) : e.ledger.isReady i.caster i.skill = false := by
  obtain ⟨caster, known⟩ := Command.skill_of_intake hi
  rcases h with ⟨refusal, herror⟩ | ⟨skill, hskill, waits⟩
  · simp [hi] at herror
  · obtain rfl : skill = i.skill := by simpa [known] using hskill.symm
    rwa [caster]

/-! ### What passes -/

/-- Futile commands make no difference to what passes the gate. -/
lemma passed_append_futile (futile : ∀ c ∈ gone, e.Futile rules tick c) :
    (e.gate rules tick (ds ++ gone)).passed = (e.gate rules tick ds).passed := by
  have separates (cs : List Command) : Canonical.Separates
      ((Command.accepted rules e.zone tick cs).filter fun i => e.ledger.isReady i.caster i.skill) :=
    (Intent.separates_of_faithful fun i hi => Command.faithful_of_mem_accepted hi).filter _
  have none_ready : (Command.accepted rules e.zone tick gone).filter
      (fun i => e.ledger.isReady i.caster i.skill) = [] := by
    rw [List.filter_eq_nil_iff]
    intro i hi
    obtain ⟨c, hc, taken⟩ := Command.mem_accepted.1 hi
    simp [(futile c hc).not_ready taken]
  rw [gate, gate, ← Gate.passed_filter_ready, candidates, Canonical.filter_arrange (separates _),
    Command.accepted_append, List.filter_append, none_ready, List.append_nil,
    ← Canonical.filter_arrange (separates _), ← candidates, Gate.passed_filter_ready]

lemma resolution_append_futile (futile : ∀ c ∈ gone, e.Futile rules tick c) :
    e.resolution rules tick (ds ++ gone) = e.resolution rules tick ds := by
  rw [resolution, resolution, passed_append_futile futile]

/-! ### What is counted -/

/-- Intents that pass and intents held back make up all those taken in. -/
lemma length_gate (rules : Rules) (tick : Tick) (e : Encounter) (cs : List Command) :
    (e.gate rules tick cs).passed.length + (e.gate rules tick cs).held.length =
      (Command.accepted rules e.zone tick cs).length := by
  rw [gate, Gate.length_passed_add_held, candidates, Canonical.length_arrange]

/-- What is taken in of futile commands is held back. -/
lemma length_held_append_futile (futile : ∀ c ∈ gone, e.Futile rules tick c) :
    (e.gate rules tick (ds ++ gone)).held.length =
      (e.gate rules tick ds).held.length + (Command.accepted rules e.zone tick gone).length := by
  have all := length_gate rules tick e (ds ++ gone)
  have kept := length_gate rules tick e ds
  rw [Command.accepted_append, List.length_append, passed_append_futile futile] at all
  omega

/-- The reasons for which futile commands are refused: those of the intake, and for what is taken in
that its skill is not ready. -/
lemma filterMap_refusal?_perm (futile : ∀ c ∈ gone, e.Futile rules tick c) :
    (gone.filterMap (e.refusal? rules tick)).Perm (Command.refused rules e.zone tick gone ++
      List.replicate (Command.accepted rules e.zone tick gone).length .onCooldown) := by
  induction gone with
  | nil => exact .nil
  | cons c gone ih =>
    obtain ⟨hc, rest⟩ := List.forall_mem_cons.1 futile
    cases taken : c.intake rules e.zone tick with
    | error refusal =>
      have reason : e.refusal? rules tick c = some refusal := by rw [refusal?, taken]
      simpa [Command.refused, Command.accepted, taken, reason] using ih rest
    | ok i =>
      have reason : e.refusal? rules tick c = some .onCooldown := by
        rw [refusal?, taken]
        simp [hc.not_ready taken]
      simp only [Command.refused, Command.accepted, List.filterMap_cons, taken, reason,
        List.length_cons, List.replicate_succ]
      exact ((ih rest).cons _).trans List.perm_middle.symm

/-- A tick counts its reasons of refusal. -/
lemma count_refusals (cs : List Command) (r : Refusal) :
    (e.step rules tick cs).tally.refusals.count r =
      (Command.refused rules e.zone tick cs ++
        List.replicate (e.gate rules tick cs).held.length Refusal.onCooldown).count r := by
  rw [← List.map_const']
  exact RefusalCounts.count_ofList ..

/-- Futile commands add the reasons for which they are refused, and nothing else. -/
lemma count_refusals_append_futile (futile : ∀ c ∈ gone, e.Futile rules tick c) (r : Refusal) :
    (e.step rules tick (ds ++ gone)).tally.refusals.count r =
      (e.step rules tick ds).tally.refusals.count r +
        gone.countP fun c => e.refusal? rules tick c = some r := by
  have reasons : (gone.countP fun c => e.refusal? rules tick c = some r) =
      (gone.filterMap (e.refusal? rules tick)).count r := by
    rw [List.count_filterMap]
    simp only [beq_eq_decide]
  rw [reasons, (filterMap_refusal?_perm futile).count_eq, count_refusals, count_refusals,
    length_held_append_futile futile, Command.refused_append, ← List.replicate_append_replicate]
  simp only [List.count_append]
  omega

/-! ### One tick -/

/-- A tick with some futile commands among the others comes out like the tick without them. It
leaves the same encounter and the same entries, and counts the same intents that pass, do nothing or
are dropped, and the same events over budget. Only the commands are more by the futile ones, and
each reason of refusal was given to as many more as are refused for it. No tile is missing in the tick
without them if none was missing before, and nothing breaks down if nothing did. -/
theorem step_without_futile (rules : Rules) (tick : Tick) (e : Encounter)
    {cs ds gone : List Command} (h : cs.Perm (ds ++ gone))
    (futile : ∀ c ∈ gone, e.Futile rules tick c) :
    let o := e.step rules tick cs
    let o' := e.step rules tick ds
    o'.next = o.next ∧ o'.entries = o.entries ∧
    o'.tally.accepted = o.tally.accepted ∧
    o'.tally.skipped = o.tally.skipped ∧
    o'.tally.dropped = o.tally.dropped ∧
    o'.tally.overBudget = o.tally.overBudget ∧
    o.tally.commands = o'.tally.commands + gone.length ∧
    (∀ r, o.tally.refusals.count r = o'.tally.refusals.count r +
      gone.countP fun c => e.refusal? rules tick c = some r) ∧
    (e.missingTile? rules cs = none → e.missingTile? rules ds = none) ∧
    (e.breakdown? rules cs = none → e.breakdown? rules ds = none) := by
  have resolved : e.resolution rules tick cs = e.resolution rules tick ds := by
    rw [resolution_perm h, resolution_append_futile futile]
  have passed : (e.gate rules tick cs).passed = (e.gate rules tick ds).passed := by
    rw [gate_perm h, passed_append_futile futile]
  have fewer : ds ⊆ cs := fun c hc => h.mem_iff.2 (List.mem_append_left gone hc)
  refine ⟨?_, ?_, ?_, ?_, ?_, ?_, ?_, ?_, ?_, ?_⟩
  · simp only [step, resolved]
  · simp only [step, resolved]
  · simp only [step, passed]
  · simp only [step, resolved]
  · simp only [step, resolved]
  · simp only [step, resolved]
  · exact h.length_eq.trans List.length_append
  · intro r
    rw [step_perm h, count_refusals_append_futile futile]
  · intro nothing
    rw [missingTile?, List.findSome?_eq_none_iff] at nothing ⊢
    exact fun c hc => nothing c (fewer hc)
  · intro nothing
    rw [breakdown?, List.findSome?_eq_none_iff] at nothing ⊢
    exact fun c hc => nothing c (fewer hc)

/-- In the second tick of the brawl the first fighter's jab is not ready, a stranger casts, and
somebody moves. The swing comes out as if it had been the only command. -/
theorem step_without_futile_brawl :
    let e := brawl.after brawlRules (brawlTurns.take 1)
    let swing := Command.atEntity ⟨1⟩ ⟨2⟩ ⟨2⟩
    let jab := Command.atEntity ⟨1⟩ ⟨1⟩ ⟨2⟩
    let stranger := Command.onSelf ⟨9⟩ ⟨2⟩
    let move : Command := { swing with kind := .move }
    let all := e.step brawlRules ⟨1⟩ [jab, stranger, swing, move]
    let alone := e.step brawlRules ⟨1⟩ [swing]
    alone.next = all.next ∧ alone.entries = all.entries ∧
      all.tally.commands = alone.tally.commands + 3 ∧
      all.tally.refusals.count .onCooldown = alone.tally.refusals.count .onCooldown + 1 ∧
      all.tally.refusals.count .casterMissing = alone.tally.refusals.count .casterMissing + 1 ∧
      alone.entries.length = 2 := by
  intro e swing jab stranger move all alone
  have order : [jab, stranger, swing, move].Perm ([swing] ++ [jab, stranger, move]) := by decide
  have futile : ∀ c ∈ [jab, stranger, move], e.Futile brawlRules ⟨1⟩ c := by
    intro c hc
    simp only [List.mem_cons, List.not_mem_nil, or_false] at hc
    rcases hc with rfl | rfl | rfl
    · exact .inr ⟨⟨1⟩, rfl, by cbv⟩
    · exact .inl ⟨.casterMissing, by cbv⟩
    · exact .inl ⟨.notACast, by cbv⟩
  obtain ⟨next, entries, -, -, -, -, commands, counts, -⟩ :=
    step_without_futile brawlRules ⟨1⟩ e order futile
  refine ⟨next, entries, commands, ?_, ?_, ?_⟩
  · exact (counts .onCooldown).trans (congrArg _ (by cbv))
  · exact (counts .casterMissing).trans (congrArg _ (by cbv))
  · cbv

end Encounter

end Skirmish
