import Skirmish.Proofs.Encounter.Account
import Skirmish.Proofs.History.Retention

/-!
# Nothing is lost or counted twice

The tally of a tick balances. Each command is accepted or refused, each intent accepted is dropped,
skipped or does damage once, and each kill among the entries is the death of one entity.
-/

namespace Skirmish

/-! ### Counting refusals -/

namespace RefusalCounts

lemma total_add (c : RefusalCounts) (r : Refusal) : (c.add r).total = c.total + 1 := by
  simp only [total, Refusal.all, List.foldr_cons, List.foldr_nil, count_add]
  cases r <;> simp <;> omega

lemma total_ofList (rs : List Refusal) : (ofList rs).total = rs.length := by
  suffices h : ∀ c : RefusalCounts, (rs.foldl add c).total = c.total + rs.length by
    have := h zero
    simpa [ofList, total] using this
  induction rs with
  | nil => simp
  | cons r rs ih =>
    intro c
    rw [List.foldl_cons, ih, total_add, List.length_cons]
    omega

end RefusalCounts

/-! ### Counting entries -/

namespace LogEntry

/-- Every entry tells of damage or of a kill. -/
lemma length_eq_damages_add_kills (xs : List LogEntry) :
    xs.length = (xs.filter (·.isDamage)).length + (xs.filter (·.isKill)).length := by
  have other (x : LogEntry) : x.isKill = !x.isDamage := by
    cases h : x.kind <;> simp [isKill, isDamage, h]
  simp only [other]
  exact List.length_eq_length_filter_add isDamage

lemma count_targets_kills (id : EntityId) (xs : List LogEntry) :
    ((xs.filter (·.isKill)).map (·.target)).count id = (kills id xs).length := by
  rw [List.count, List.countP_map, List.countP_eq_length_filter, List.filter_filter, kills]
  congr 2
  funext x
  rw [Bool.and_comm]
  rfl

end LogEntry

lemma Intent.length_damages_hit (i : Intent) (tick : Tick) (skill : Skill) (target : Entity) :
    ((i.hit tick skill target).entries.filter (·.isDamage)).length = 1 := by
  rw [hit]
  split <;> simp [LogEntry.isDamage, damageEntry]

/-- Every intent is dropped or skipped, or does damage once. -/
lemma Resolution.length_run (rules : Rules) (tick : Tick) (z : Zone) (out : Nat)
    (is : List Intent) :
    is.length = (run rules tick z out is).dropped + (run rules tick z out is).skipped +
      ((run rules tick z out is).entries.filter (·.isDamage)).length := by
  fun_induction run rules tick z out is with
  | case1 => rfl
  | case2 z out i is full => simp
  | case3 z out i is room miss rest ih =>
    rw [List.length_cons, ih]
    simp only [rest]
    omega
  | case4 z out i is room hit found rest ih =>
    obtain ⟨skill, target, -, -, -, rfl⟩ := Intent.hit?_eq_some found
    simp only [List.length_cons, List.filter_append, List.length_append,
      Intent.length_damages_hit, rest] at ih ⊢
    omega

/-! ### Counting the fallen -/

namespace Zone

/-- The entities of a zone that were alive, and live no more. -/
def fallen (z z' : Zone) : List Entity := z.entities.filter fun e => e.alive && ¬z'.Living e.id

lemma mem_ids_fallen {z z' : Zone} (sound : z.Sound) {id : EntityId} :
    id ∈ (z.fallen z').map (·.id) ↔ z.Living id ∧ ¬z'.Living id := by
  constructor
  · intro h
    obtain ⟨e, he, rfl⟩ := List.mem_map.1 h
    obtain ⟨mem, fell⟩ := List.mem_filter.1 he
    simp only [Bool.and_eq_true, decide_eq_true_eq] at fell
    exact ⟨⟨e, Keyed.find?_of_mem sound.ascending mem, fell.1⟩, fell.2⟩
  · rintro ⟨⟨e, he, alive⟩, gone⟩
    obtain rfl := id_of_entity? he
    refine List.mem_map.2 ⟨e, List.mem_filter.2 ⟨Keyed.mem_of_find? he, ?_⟩, rfl⟩
    simp [alive, gone]

lemma nodup_ids_fallen {z : Zone} (sound : z.Sound) (z' : Zone) :
    ((z.fallen z').map (·.id)).Nodup := by
  refine List.Nodup.sublist (List.filter_sublist.map _) (List.pairwise_map.2 ?_)
  refine sound.ascending.imp ?_
  intro a b hab same
  exact Nat.ne_of_lt hab (congrArg EntityId.index same)

/-- Nobody is killed twice. -/
lemma Account.nodup_targets_kills {z z' : Zone} {xs : List LogEntry} (account : z.Account xs z')
    (named : ∀ x ∈ xs, z.Living x.target) :
    ((xs.filter (·.isKill)).map (·.target)).Nodup := by
  rw [List.nodup_iff_count_le_one]
  intro id
  by_cases living : z.Living id
  · obtain ⟨e, he, -⟩ := living
    obtain ⟨e', -, accounte⟩ := account.entity id e he
    rw [LogEntry.count_targets_kills, ← id_of_entity? he]
    exact LogEntry.length_kills_le_one accounte.silent
  · have none : id ∉ (xs.filter (·.isKill)).map (·.target) := by
      intro h
      obtain ⟨x, hx, rfl⟩ := List.mem_map.1 h
      exact living (named x (List.mem_filter.1 hx).1)
    rw [List.count_eq_zero_of_not_mem none]
    exact Nat.zero_le 1

/-- Each kill is the death of one entity. -/
lemma Account.length_kills {z z' : Zone} {xs : List LogEntry} (account : z.Account xs z')
    (sound : z.Sound) (named : ∀ x ∈ xs, z.Living x.target) :
    (xs.filter (·.isKill)).length = (z.fallen z').length := by
  have same : ((xs.filter (·.isKill)).map (·.target)).Perm ((z.fallen z').map (·.id)) := by
    rw [List.perm_ext_iff_of_nodup (account.nodup_targets_kills named)
      (nodup_ids_fallen sound z')]
    intro id
    rw [mem_ids_fallen sound, account.living]
    constructor
    · intro h
      obtain ⟨x, hx, rfl⟩ := List.mem_map.1 h
      obtain ⟨mem, kill⟩ := List.mem_filter.1 hx
      exact ⟨named x mem, fun survived => survived.2 ⟨x, mem, kill, rfl⟩⟩
    · rintro ⟨living, gone⟩
      obtain ⟨x, hx, kill, rfl⟩ := not_not.1 fun survived => gone ⟨living, survived⟩
      exact List.mem_map.2 ⟨x, List.mem_filter.2 ⟨hx, kill⟩, rfl⟩
  simpa using same.length_eq

end Zone

namespace Encounter

/-- The tally of a tick balances. All commands given are counted, and each is accepted or refused;
each intent accepted is dropped or skipped, or does damage once. The entries tell of damage or of
kills, of one kill for each entity that was alive before the tick and is not so after it. Over budget
are the events beyond the bound of the history that the tick found, if it has one. -/
theorem tally_balances (rules : Rules) (tick : Tick) (e : Encounter)
    (sound : e.zone.violation? = none) (cs : List Command) :
    let o := e.step rules tick cs
    let damages := o.entries.filter (·.isDamage)
    let kills := o.entries.filter (·.isKill)
    let perTick := e.history.budgets.perTick.toNat
    o.tally.commands = cs.length ∧
    cs.length = o.tally.accepted + o.tally.refusals.total ∧
    o.tally.accepted = o.tally.dropped + o.tally.skipped + damages.length ∧
    o.entries.length = damages.length + kills.length ∧
    kills.length = (e.zone.fallen o.next.zone).length ∧
    o.tally.overBudget = if perTick ≠ 0 ∧ perTick < o.entries.length
      then o.entries.length - perTick else 0 := by
  intro o damages kills perTick
  rw [Zone.sound_iff] at sound
  refine ⟨rfl, ?_, ?_, LogEntry.length_eq_damages_add_kills _, ?_, ?_⟩
  · have taken := Command.length_accepted_add_refused rules e.zone tick cs
    have gated := Gate.length_passed_add_held rules e.ledger [] (e.candidates rules tick cs)
    have candidates : (e.candidates rules tick cs).length =
      (Command.accepted rules e.zone tick cs).length := Canonical.length_arrange _
    have refused : o.tally.refusals.total = (Command.refused rules e.zone tick cs).length +
        (e.gate rules tick cs).held.length := by
      refine (RefusalCounts.total_ofList _).trans ?_
      rw [List.length_append, List.length_map]
    rw [refused]
    change _ = (e.gate rules tick cs).passed.length + _
    rw [gate]
    omega
  · have split := Resolution.length_run rules tick e.zone 0
      (Canonical.arrange (e.gate rules tick cs).passed)
    rw [Canonical.length_arrange] at split
    exact split
  · have account : e.zone.Account o.entries o.next.zone := account_round (t := ⟨tick, cs⟩) sound
    exact account.length_kills sound fun x hx =>
      Resolution.living_of_mem_entries rules tick sound hx
  · have beyond := e.history.overBudget_eq (o.entries.map (·.event))
    rw [List.length_map] at beyond
    exact beyond

/-- Of three commands in the last turn of the brawl a jab is refused, and both fighters fall by the
swings. -/
theorem tally_balances_brawl :
    let o := (brawl.after brawlRules (brawlTurns.take 2)).step brawlRules ⟨2⟩
      [.atEntity ⟨1⟩ ⟨2⟩ ⟨2⟩, .onSelf ⟨1⟩ ⟨1⟩, .atEntity ⟨2⟩ ⟨2⟩ ⟨1⟩]
    (brawl.after brawlRules (brawlTurns.take 2)).zone.violation? = none ∧
      o.tally.accepted + o.tally.refusals.total = 3 ∧
      ((brawl.after brawlRules (brawlTurns.take 2)).zone.fallen o.next.zone).length = 2 := by
  have sound : (brawl.after brawlRules (brawlTurns.take 2)).zone.violation? = none := by cbv
  obtain ⟨-, judged, -, -, kills, -⟩ := tally_balances brawlRules ⟨2⟩ _ sound
    [.atEntity ⟨1⟩ ⟨2⟩ ⟨2⟩, .onSelf ⟨1⟩ ⟨1⟩, .atEntity ⟨2⟩ ⟨2⟩ ⟨1⟩]
  refine ⟨sound, judged.symm, kills.symm.trans ?_⟩
  cbv

end Encounter

end Skirmish
