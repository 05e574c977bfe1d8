import Mathlib.Algebra.Order.BigOperators.Group.List
import Mathlib.Algebra.Order.Ring.Int
import Mathlib.Tactic.Lemma
import Skirmish.Proofs.Ledger.Soundness

/-!
# Threat adds up

Whatever happens to threat, each attacker has drawn the sum of what it was credited with since it
was last taken out, up to the ceiling. The ceiling is applied after each addition, which comes to
the same as applying it once to the whole sum. An attacker is taken out by its place among all of
them, which moves with those in front; nobody else is touched.
-/

namespace Skirmish.Threats

/-- How much threat an attacker has drawn, and the tick it last grew on. -/
def drawn? (t : Threats) (source : EntityId) : Option (Int × Tick) :=
  (t.threat? source).map fun e => (e.amount.toInt, e.lastTick)

/-- How much threat an attacker has drawn, zero if it has drawn none. -/
def drawn (t : Threats) (source : EntityId) : Int := ((t.drawn? source).map (·.1)).getD 0

/-- What happens to threat: an attacker is credited with an amount, or the one at a place is taken
out. -/
inductive Change where
  | add (source : EntityId) (amount : Int) (tick : Tick)
  | removeAt (index : Nat)
  deriving DecidableEq

/-- The threat after a change. -/
def change (t : Threats) : Change → Threats
  | .add source amount tick => t.add source amount tick
  | .removeAt index => t.removeAt index

/-- The threat that a history leaves, which has its latest change in front. -/
def replay : List Change → Threats
  | [] => empty
  | latest :: earlier => (replay earlier).change latest

/-- The attacker at a place among all of them. -/
def sourceAt? (t : Threats) (index : Nat) : Option EntityId := (t.entries[index]?).map (·.source)

/-- The positive amounts that an attacker was credited with since it was last taken out, each with
its tick, the latest in front. -/
def credits (source : EntityId) : List Change → List (Int × Tick)
  | [] => []
  | .add other amount tick :: earlier =>
    if other = source ∧ 0 < amount then (amount, tick) :: credits source earlier
    else credits source earlier
  | .removeAt index :: earlier =>
    if (replay earlier).sourceAt? index = some source then [] else credits source earlier

/-- The sum of some credits up to the ceiling, with the tick of the latest; nothing if there are
none. -/
def total? : List (Int × Tick) → Option (Int × Tick)
  | [] => none
  | latest :: earlier =>
    some (min Rules.maxThreat (((latest :: earlier).map (·.1)).sum), latest.2)

variable {t : Threats} {source other : EntityId}

/-! ### Crediting -/

lemma add_of_nonpos {amount : Int} (none : amount ≤ 0) (tick : Tick) :
    t.add source amount tick = t :=
  if_pos none

lemma threat?_add_of_ne (different : source ≠ other) (amount : Int) (tick : Tick) :
    (t.add source amount tick).threat? other = t.threat? other := by
  rw [add]
  split
  · rfl
  · exact Keyed.find?_put_of_ne (fun keys => different (EntityId.index_inj.1 keys)) t.entries

lemma drawn?_add_of_ne (different : source ≠ other) (amount : Int) (tick : Tick) :
    (t.add source amount tick).drawn? other = t.drawn? other := by
  rw [drawn?, threat?_add_of_ne different, drawn?]

lemma drawn_eq (t : Threats) (source : EntityId) :
    t.drawn source = ((t.threat? source).map (·.amount.toInt)).getD 0 := by
  rw [drawn, drawn?, Option.map_map]
  rfl

lemma Sound.drawn_nonneg (sound : t.Sound) (source : EntityId) : 0 ≤ t.drawn source := by
  rw [drawn_eq]
  cases found : t.threat? source with
  | none => exact Int.le_refl 0
  | some e => exact (sound.entries e (Keyed.mem_of_find? found)).1

lemma drawn?_add_self (sound : t.Sound) {amount : Int} (positive : 0 < amount) (tick : Tick) :
    (t.add source amount tick).drawn? source =
      some (min Rules.maxThreat (t.drawn source + amount), tick) := by
  have before := sound.drawn_nonneg source
  let sum := Clamp.toInt32 (Clamp.between 0 Rules.maxThreat (t.drawn source + amount))
  have put : t.add source amount tick = ⟨Keyed.put ⟨source, sum, tick⟩ t.entries⟩ := by
    rw [add, if_neg (Int.not_le.2 positive), ← drawn_eq]
  have found : (t.add source amount tick).threat? source = some ⟨source, sum, tick⟩ := by
    rw [put]
    exact Keyed.find?_put_self (⟨source, sum, tick⟩ : Threat) t.entries
  have kept : sum.toInt = min Rules.maxThreat (t.drawn source + amount) := by
    simp only [sum, Clamp.toInt_toInt32, Clamp.between, Rules.maxThreat]
    omega
  rw [drawn?, found, Option.map_some, kept]

lemma drawn?_add (sound : t.Sound) (source other : EntityId) (amount : Int) (tick : Tick) :
    (t.add source amount tick).drawn? other =
      if source = other ∧ 0 < amount
      then some (min Rules.maxThreat (t.drawn other + amount), tick) else t.drawn? other := by
  by_cases same : source = other
  · subst same
    by_cases positive : 0 < amount
    · rw [if_pos ⟨rfl, positive⟩, drawn?_add_self sound positive]
    · rw [if_neg fun both => positive both.2, add_of_nonpos (Int.not_lt.1 positive)]
  · rw [if_neg fun both => same both.1, drawn?_add_of_ne same]

/-- Threat is no more than what each attacker has drawn, and when. -/
lemma ext_drawn? {u : Threats} (ht : t.Sound) (hu : u.Sound)
    (same : ∀ source, t.drawn? source = u.drawn? source) : t = u := by
  have entry (v : Threats) (source : EntityId) :
      v.threat? source = (v.drawn? source).map fun d => ⟨source, Int32.ofInt d.1, d.2⟩ := by
    rw [drawn?]
    cases found : v.threat? source with
    | none => rfl
    | some e =>
      obtain rfl : e.source = source := EntityId.index_inj.1 (Keyed.key_of_find? found)
      simp
  have entries : t.entries = u.entries := by
    refine Keyed.ext_find?_key ht.ascending hu.ascending ?_
    intro e
    change t.threat? e.source = u.threat? e.source
    rw [entry, entry, same]
  cases t
  cases u
  congr

/-! ### Taking out -/

lemma removeAt_of_size_le {index : Nat} (beyond : t.size ≤ index) : t.removeAt index = t := by
  rw [removeAt, List.eraseIdx_of_length_le beyond]

lemma sourceAt?_eq_some_iff {index : Nat} :
    t.sourceAt? index = some source ↔ ∃ e, t.entries[index]? = some e ∧ e.source = source :=
  Option.map_eq_some_iff

lemma removeAt_eq_drop (sound : t.Sound) {index : Nat} (here : t.sourceAt? index = some source) :
    t.removeAt index = t.drop source := by
  obtain ⟨e, he, rfl⟩ := sourceAt?_eq_some_iff.1 here
  rw [removeAt, Keyed.eraseIdx_eq_drop sound.ascending he]
  rfl

lemma removeAt_of_sourceAt?_eq_none {index : Nat} (nobody : t.sourceAt? index = none) :
    t.removeAt index = t := by
  rw [sourceAt?, Option.map_eq_none_iff, List.getElem?_eq_none_iff] at nobody
  exact removeAt_of_size_le nobody

lemma threat?_drop (sound : t.Sound) (source other : EntityId) :
    (t.drop source).threat? other = if source = other then none else t.threat? other := by
  split
  · rename_i same
    rw [← same]
    exact Keyed.find?_drop_self sound.ascending _
  · rename_i different
    exact Keyed.find?_drop_of_ne (fun keys => different (EntityId.index_inj.1 keys).symm) _

lemma threat?_removeAt (sound : t.Sound) (index : Nat) (other : EntityId) :
    (t.removeAt index).threat? other =
      if t.sourceAt? index = some other then none else t.threat? other := by
  cases here : t.sourceAt? index with
  | none => simp [removeAt_of_sourceAt?_eq_none here]
  | some source => simp [removeAt_eq_drop sound here, threat?_drop sound]

lemma drawn?_removeAt (sound : t.Sound) (index : Nat) (other : EntityId) :
    (t.removeAt index).drawn? other =
      if t.sourceAt? index = some other then none else t.drawn? other := by
  rw [drawn?, threat?_removeAt sound]
  split <;> rfl

lemma Sound.change (sound : t.Sound) (c : Change) : (t.change c).Sound := by
  cases c with
  | add source amount tick => exact sound.add source amount tick
  | removeAt index =>
    cases here : t.sourceAt? index with
    | none =>
      rw [Threats.change, removeAt_of_sourceAt?_eq_none here]
      exact sound
    | some source =>
      rw [Threats.change, removeAt_eq_drop sound here]
      exact sound.drop source

/-! ### Whole histories -/

lemma fst_total? (cs : List (Int × Tick)) :
    ((total? cs).map (·.1)).getD 0 = min Rules.maxThreat ((cs.map (·.1)).sum) := by
  cases cs <;> rfl

/-- Cutting a sum at the ceiling once is the same as cutting it after each addition. -/
lemma total?_cons {amount : Int} (positive : 0 < amount) (tick : Tick) (cs : List (Int × Tick)) :
    total? ((amount, tick) :: cs) =
      some (min Rules.maxThreat (((total? cs).map (·.1)).getD 0 + amount), tick) := by
  rw [fst_total?, total?, List.map_cons, List.sum_cons]
  congr 2
  omega

lemma total?_bounds {cs : List (Int × Tick)} (positive : ∀ c ∈ cs, 0 < c.1) {amount : Int}
    {tick : Tick} (h : total? cs = some (amount, tick)) :
    1 ≤ amount ∧ amount ≤ Rules.maxThreat := by
  cases cs with
  | nil => simp [total?] at h
  | cons latest earlier =>
    have sum : 0 < ((latest :: earlier).map (·.1)).sum :=
      List.sum_pos _ (List.forall_mem_map.2 positive) (by simp)
    obtain ⟨rfl, -⟩ := Prod.mk.inj (Option.some.inj h)
    simp only [Rules.maxThreat]
    omega

lemma sound_replay (history : List Change) : (replay history).Sound := by
  induction history with
  | nil => exact sound_empty
  | cons latest earlier ih => exact ih.change latest

lemma drawn?_replay (history : List Change) (source : EntityId) :
    (replay history).drawn? source = total? (credits source history) := by
  induction history with
  | nil => rfl
  | cons latest earlier ih =>
    have sound := sound_replay earlier
    cases latest with
    | add other amount tick =>
      rw [replay, change, drawn?_add sound, credits]
      split
      · rename_i credited
        rw [total?_cons credited.2, drawn, ih]
      · exact ih
    | removeAt index =>
      rw [replay, change, drawn?_removeAt sound, credits]
      split
      · rfl
      · exact ih

lemma credit_pos (source : EntityId) (history : List Change) :
    ∀ c ∈ credits source history, 0 < c.1 := by
  induction history with
  | nil => simp [credits]
  | cons latest earlier ih =>
    cases latest with
    | add other amount tick =>
      rw [credits]
      split
      · rename_i credited
        exact List.forall_mem_cons.2 ⟨credited.2, ih⟩
      · exact ih
    | removeAt index =>
      rw [credits]
      split
      · simp
      · exact ih

/-- Threat is a sum for each attacker, cut at the ceiling. After any history it passes its check,
and each attacker has drawn what it was credited with since it was last taken out, up to the
ceiling, growing last on the tick of the latest credit; whoever was not credited has no entry.
Amounts that are not positive and places that nobody has change nothing, and no change touches
another attacker. -/
theorem replay_adds_up (history : List Change) :
    let t := replay history
    Keyed.Ascending t.entries ∧
    (∀ e ∈ t.entries, 1 ≤ e.amount.toInt ∧ e.amount.toInt ≤ Rules.maxThreat) ∧
    t.violation? = none ∧
    (∀ source, t.drawn? source = total? (credits source history)) ∧
    (∀ source amount tick, amount ≤ 0 → t.add source amount tick = t) ∧
    (∀ index, t.size ≤ index → t.removeAt index = t) ∧
    (∀ source amount tick other, source ≠ other →
      (t.add source amount tick).threat? other = t.threat? other) ∧
    ∀ index other, t.sourceAt? index ≠ some other →
      (t.removeAt index).threat? other = t.threat? other := by
  intro t
  have sound : t.Sound := sound_replay history
  refine ⟨sound.ascending, ?_, sound_iff.2 sound, drawn?_replay history,
    fun _ _ tick none => add_of_nonpos none tick, fun _ => removeAt_of_size_le,
    fun _ amount tick _ different => threat?_add_of_ne different amount tick, ?_⟩
  · intro e he
    have found : t.drawn? e.source = some (e.amount.toInt, e.lastTick) :=
      congrArg _ (Keyed.find?_of_mem sound.ascending he)
    rw [drawn?_replay] at found
    exact total?_bounds (credit_pos e.source history) found
  · intro index other elsewhere
    rw [threat?_removeAt sound, if_neg elsewhere]

/-- The second of three attackers is taken out and starts anew, and the third passes the ceiling. -/
theorem replay_adds_up_anew :
    let history : List Change :=
      [.removeAt 3, .add ⟨5⟩ (-7) ⟨7⟩, .add ⟨3⟩ 2 ⟨6⟩, .add ⟨5⟩ 600000000 ⟨5⟩, .removeAt 1,
        .add ⟨1⟩ 4 ⟨3⟩, .add ⟨3⟩ 8 ⟨2⟩, .add ⟨5⟩ 600000000 ⟨1⟩]
    let t := replay history
    t.drawn? ⟨3⟩ = some (2, ⟨6⟩) ∧ t.drawn? ⟨5⟩ = some (1000000000, ⟨5⟩) ∧
      t.add ⟨8⟩ 0 ⟨9⟩ = t ∧ t.removeAt 3 = t ∧
      (t.removeAt 1).threat? ⟨5⟩ = t.threat? ⟨5⟩ := by
  intro history t
  obtain ⟨-, -, -, drawn, none, beyond, -, others⟩ := replay_adds_up history
  refine ⟨drawn ⟨3⟩, drawn ⟨5⟩, none _ _ _ (by decide), beyond 3 (by decide), ?_⟩
  exact others 1 ⟨5⟩ (by decide)

end Skirmish.Threats
