import Mathlib.Data.Int.Order.Basic
import Mathlib.Data.List.Lex
import Mathlib.Tactic.Lemma
import Skirmish.Event
import Skirmish.Proofs.Order.Separation

/-!
# The canonical order is a canonical form

Keys are compared as lists of integers. To put a list in canonical order is to choose one list among
all that have the same elements, and the check of neighbours recognises just the lists that are
chosen. Of any other list it reports the first place where the keys go down.
-/

namespace Skirmish

/-! ### Keys -/

/-- Keys are compared as lists are: by the first integers in which they differ. -/
lemma lexLe_iff {a b : List Int} : lexLe a b = true ↔ a ≤ b := by
  rw [← not_lt]
  induction a generalizing b with
  | nil => simp [lexLe]
  | cons i a ih =>
    cases b with
    | nil => simp [lexLe]
    | cons j b =>
      simp only [lexLe, Bool.or_eq_true, Bool.and_eq_true, decide_eq_true_eq, ih,
        List.cons_lt_cons_iff]
      rcases lt_trichotomy i j with less | rfl | more
      · simp [less, not_lt_of_gt less, ne_of_gt less]
      · simp
      · simp [more, not_lt_of_gt more, ne_of_gt more]

namespace Canonical

variable {α : Type} [Canonical α] {xs ys : List α}

lemma precedes_iff {a b : α} : precedes a b = true ↔ key a ≤ key b := lexLe_iff

lemma precedes_eq_false_iff {a b : α} : precedes a b = false ↔ key b < key a := by
  rw [← Bool.not_eq_true, precedes_iff, not_le]

/-- Is the key of the element behind place `i` smaller than that of the one at it? -/
def StepsBack (xs : List α) (i : Nat) : Prop :=
  ∃ h : i + 1 < xs.length, key xs[i + 1] < key xs[i]

instance (xs : List α) (i : Nat) : Decidable (StepsBack xs i) :=
  inferInstanceAs (Decidable (∃ _ : _, _))

lemma breaksAt_iff {i : Nat} : Order.BreaksAt precedes xs i ↔ StepsBack xs i := by
  simp only [Order.BreaksAt, precedes_eq_false_iff, StepsBack, List.getElem?_eq_some_iff]
  constructor
  · rintro ⟨a, b, ⟨_, rfl⟩, ⟨inside, rfl⟩, back⟩
    exact ⟨inside, back⟩
  · rintro ⟨inside, back⟩
    exact ⟨_, _, ⟨Nat.lt_of_succ_lt inside, rfl⟩, ⟨inside, rfl⟩, back⟩

/-! ### Arranging and checking -/

lemma isArranged_iff_arrange_eq : isArranged xs = true ↔ arrange xs = xs := by
  rw [isArranged_iff]
  constructor
  · exact arrange_of_pairwise
  · intro same
    rw [← same]
    exact pairwise_arrange xs

/-- The check reports the first step back, with the tick of the element it leads to. -/
lemma violation?_eq_some_iff {v : Violation} :
    violation? xs = some v ↔
      ∃ i, ∃ h : i + 1 < xs.length, key xs[i + 1] < key xs[i] ∧ (∀ k < i, ¬StepsBack xs k) ∧
        v = .eventOrder (i + 1) (tick xs[i + 1]) := by
  rw [violation?, Option.map_eq_some_iff]
  constructor
  · rintro ⟨⟨j, b⟩, found, rfl⟩
    obtain ⟨i, breaks, first, rfl, hb⟩ := Order.firstBreak?_eq_some_iff.1 found
    simp only [breaksAt_iff] at breaks first
    obtain ⟨inside, back⟩ := breaks
    obtain rfl : xs[i + 1] = b := by simpa [inside] using hb
    exact ⟨i, inside, back, first, rfl⟩
  · rintro ⟨i, inside, back, first, rfl⟩
    refine ⟨(i + 1, xs[i + 1]), Order.firstBreak?_eq_some_iff.2 ?_, rfl⟩
    simp only [breaksAt_iff]
    exact ⟨i, ⟨inside, back⟩, first, rfl, List.getElem?_eq_getElem inside⟩

/-- Lists that the key tells apart have the same canonical order just if they have the same
elements. -/
lemma arrange_eq_arrange_iff (separates : Separates xs) : arrange xs = arrange ys ↔ xs.Perm ys := by
  constructor
  · intro same
    exact (arrange_perm xs).symm.trans (same ▸ arrange_perm ys)
  · intro perm
    exact arrange_eq_of_perm perm separates

/-- The canonical order is a canonical form. It has the elements of the list, with no key above a
later one, and a list is in canonical order just if putting it in order changes nothing, which is what
both checks find out; otherwise the second reports the first element with a smaller key than the one
before it, and its tick. Two lists of events, of log entries, or of intents whose aims come from target
numbers have the same canonical order just if they have the same elements. -/
theorem arrange_canonical_form :
    (∀ (α : Type) [Canonical α] (xs : List α),
      (arrange xs).Perm xs ∧ (arrange xs).Pairwise (fun a b => key a ≤ key b) ∧
      (isArranged xs = true ↔ arrange xs = xs) ∧
      (isArranged xs = true ↔ violation? xs = none) ∧
      ∀ v, violation? xs = some v ↔
        ∃ i, ∃ h : i + 1 < xs.length, key xs[i + 1] < key xs[i] ∧ (∀ k < i, ¬StepsBack xs k) ∧
          v = .eventOrder (i + 1) (tick xs[i + 1])) ∧
    (∀ xs ys : List Event, arrange xs = arrange ys ↔ xs.Perm ys) ∧
    (∀ xs ys : List LogEntry, arrange xs = arrange ys ↔ xs.Perm ys) ∧
    ∀ xs ys : List Intent, (∀ i ∈ xs, ∃ code, i.aim = .ofCode code) →
      (∀ i ∈ ys, ∃ code, i.aim = .ofCode code) → (arrange xs = arrange ys ↔ xs.Perm ys) := by
  refine ⟨?_, ?_, ?_, ?_⟩
  · intro α _ xs
    refine ⟨arrange_perm xs, ?_, isArranged_iff_arrange_eq, violation?_eq_none_iff.symm,
      fun v => violation?_eq_some_iff⟩
    exact (pairwise_arrange xs).imp precedes_iff.1
  · intro xs ys
    exact arrange_eq_arrange_iff fun _ _ _ _ same => Event.key_inj.1 same
  · intro xs ys
    exact arrange_eq_arrange_iff fun _ _ _ _ same => LogEntry.key_inj.1 same
  · intro xs ys named _
    apply arrange_eq_arrange_iff
    apply Intent.separates_of_faithful
    intro i hi
    obtain ⟨code, aim⟩ := named i hi
    rw [aim]
    exact Aim.faithful_ofCode code

/-- Four casts at the ground. The third aims farther west than the second, and the fourth was made
before the others. -/
theorem arrange_canonical_form_ground :
    let cast (tick : Tick) (x : Int64) : Intent := ⟨tick, ⟨1⟩, ⟨1⟩, .point, .none, ⟨⟨x⟩, .zero⟩⟩
    let is : List Intent := [cast ⟨4⟩ 3, cast ⟨4⟩ 5, cast ⟨4⟩ (-7), cast ⟨3⟩ 9]
    let sorted : List Intent := [cast ⟨3⟩ 9, cast ⟨4⟩ (-7), cast ⟨4⟩ 3, cast ⟨4⟩ 5]
    violation? is = some (.eventOrder 2 ⟨4⟩) ∧ arrange is = sorted := by
  intro cast is sorted
  obtain ⟨form, -, -, intents⟩ := arrange_canonical_form
  obtain ⟨-, -, -, -, report⟩ := form Intent is
  obtain ⟨-, -, stays, -⟩ := form Intent sorted
  have aims : ∀ i ∈ is, i.aim = .ofCode 2 := by decide
  have aims' : ∀ i ∈ sorted, i.aim = .ofCode 2 := by decide
  refine ⟨(report _).2 ⟨1, by decide, by decide, by decide, rfl⟩, ?_⟩
  rw [(intents is sorted (fun i hi => ⟨2, aims i hi⟩) fun i hi => ⟨2, aims' i hi⟩).2 (by decide)]
  exact stays.1 (by decide)

end Canonical

end Skirmish
