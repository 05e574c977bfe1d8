import Skirmish.Proofs.Order.Separation

/-!
# Selections

A selection keeps elements from one end of the canonical order, as many as its bound allows. Where
the key tells elements apart, selecting the last ones again and again, each time together with some
new elements, comes to the same as selecting once from all of them: what was not selected has enough
elements above it already.
-/

namespace Skirmish

/-! ### Both ends of a list -/

section Ends

variable {α : Type} {max : Nat} {xs ys : List α}

/-- The front of a list, as far as the bound allows. -/
def firstWithin (max : Nat) (xs : List α) : List α := if max = 0 then xs else xs.take max

/-- What a bound cuts off behind the front of a list. -/
def beyondFirst (max : Nat) (xs : List α) : List α := if max = 0 then [] else xs.drop max

/-- The end of a list, as far as the bound allows. -/
def lastWithin (max : Nat) (xs : List α) : List α :=
  if max = 0 then xs else xs.drop (xs.length - max)

lemma firstWithin_append_beyondFirst (max : Nat) (xs : List α) :
    firstWithin max xs ++ beyondFirst max xs = xs := by
  unfold firstWithin beyondFirst
  split
  · exact List.append_nil xs
  · exact List.take_append_drop max xs

lemma length_beyondFirst (max : Nat) (xs : List α) :
    (beyondFirst max xs).length = if max = 0 then 0 else xs.length - max := by
  unfold beyondFirst
  split
  · rfl
  · exact List.length_drop

lemma length_lastWithin_le (bounded : max ≠ 0) : (lastWithin max xs).length ≤ max := by
  rw [lastWithin, if_neg bounded, List.length_drop]
  omega

/-- What stands before an end that is long enough does not matter. -/
lemma lastWithin_append (bounded : max ≠ 0) (long : max ≤ ys.length) :
    lastWithin max (xs ++ ys) = lastWithin max ys := by
  rw [lastWithin, lastWithin, if_neg bounded, if_neg bounded, List.length_append,
    Nat.add_sub_assoc long, List.drop_length_add_append]

/-- A bound that leaves room for the whole list cuts nothing off. -/
lemma firstWithin_of_room (room : max = 0 ∨ xs.length ≤ max) : firstWithin max xs = xs := by
  unfold firstWithin
  split
  · rfl
  · rename_i bounded
    exact List.take_of_length_le (room.resolve_left bounded)

lemma map_lastWithin {β : Type} (f : α → β) (max : Nat) (xs : List α) :
    (lastWithin max xs).map f = lastWithin max (xs.map f) := by
  unfold lastWithin
  split
  · rfl
  · rw [List.map_drop, List.length_map]

end Ends

/-! ### Both ends of the canonical order -/

namespace Canonical

variable {α : Type} [Canonical α] {max : Nat} {xs ys : List α}

lemma earliest_eq (max : Nat) (xs : List α) : earliest max xs = firstWithin max (arrange xs) := rfl

lemma latest_eq (max : Nat) (xs : List α) : latest max xs = lastWithin max (arrange xs) := rfl

@[simp] lemma latest_nil (max : Nat) : latest max ([] : List α) = [] := by
  rw [← List.sublist_nil]
  exact (latest_sublist max []).trans (by simp [arrange])

lemma isArranged_latest (max : Nat) (xs : List α) : isArranged (latest max xs) = true :=
  isArranged_iff.2 ((pairwise_arrange xs).sublist (latest_sublist max xs))

lemma violation?_latest (max : Nat) (xs : List α) : violation? (latest max xs) = none :=
  violation?_eq_none_iff.2 (isArranged_latest max xs)

lemma length_latest_le (bounded : max ≠ 0) : (latest max xs).length ≤ max :=
  length_lastWithin_le bounded

lemma earliest_of_room (room : max = 0 ∨ xs.length ≤ max) : earliest max xs = arrange xs := by
  rw [← length_arrange xs] at room
  exact firstWithin_of_room room

/-- What a map keeps in order may be selected before or after it. -/
lemma map_latest {β : Type} [Canonical β] {f : α → β} (max : Nat)
    (keeps : ∀ a ∈ xs, ∀ b ∈ xs, precedes a b = precedes (f a) (f b)) :
    (latest max xs).map f = latest max (xs.map f) := by
  rw [latest_eq, latest_eq, map_lastWithin, arrange, List.map_mergeSort keeps, ← arrange]

/-! ### Selecting again -/

/-- An element with enough others above it is not selected. -/
lemma latest_cons (bounded : max ≠ 0) {x : α} (enough : max ≤ xs.countP (precedes x)) :
    latest max (x :: xs) = latest max xs := by
  obtain ⟨below, above, hcons, hxs, hbelow⟩ :=
    List.mergeSort_cons precedes_trans precedes_total x xs
  have none_below : below.countP (precedes x) = 0 := by
    rw [List.countP_eq_zero]
    intro b hb
    simpa using hbelow b hb
  have long : max ≤ above.length := by
    calc max ≤ xs.countP (precedes x) := enough
      _ = (below ++ above).countP (precedes x) := by
        rw [← hxs]
        exact ((arrange_perm xs).countP_eq _).symm
      _ = above.countP (precedes x) := by rw [List.countP_append, none_below, Nat.zero_add]
      _ ≤ above.length := List.countP_le_length
  calc latest max (x :: xs) = lastWithin max ((below ++ [x]) ++ above) := by
        rw [latest_eq, arrange, hcons, List.append_assoc, List.singleton_append]
    _ = lastWithin max above := lastWithin_append bounded long
    _ = lastWithin max (below ++ above) := (lastWithin_append bounded long).symm
    _ = latest max xs := by rw [latest_eq, arrange, hxs]

/-- Elements below others that are enough are not selected. -/
lemma latest_append_of_below (bounded : max ≠ 0) {low high : List α} (enough : max ≤ high.length)
    (below : ∀ a ∈ low, ∀ b ∈ high, precedes a b = true) (ys : List α) :
    latest max (low ++ (high ++ ys)) = latest max (high ++ ys) := by
  induction low with
  | nil => rfl
  | cons a low ih =>
    rw [List.cons_append, latest_cons bounded, ih]
    · intro a ha
      exact below a (List.mem_cons_of_mem _ ha)
    · have all : high.countP (precedes a) = high.length :=
        List.countP_eq_length.2 (below a (List.mem_cons_self ..))
      rw [List.countP_append, List.countP_append, all]
      omega

section Injective

variable (inj : Function.Injective (key : α → List Int))

include inj

lemma arrange_perm_eq (h : xs.Perm ys) : arrange xs = arrange ys :=
  arrange_eq_of_perm h fun _ _ _ _ same => inj same

lemma latest_perm (max : Nat) (h : xs.Perm ys) : latest max xs = latest max ys := by
  rw [latest_eq, latest_eq, arrange_perm_eq inj h]

/-- A selection from what was selected before and some new elements is a selection from all. -/
theorem latest_latest_append (max : Nat) (xs ys : List α) :
    latest max (latest max xs ++ ys) = latest max (xs ++ ys) := by
  have arranged : latest max (xs ++ ys) = latest max (arrange xs ++ ys) :=
    latest_perm inj max ((arrange_perm xs).symm.append_right ys)
  rw [arranged]
  by_cases bounded : max = 0
  · rw [latest_eq max xs, lastWithin, if_pos bounded]
  · by_cases few : xs.length ≤ max
    · rw [latest_eq max xs, lastWithin, if_neg bounded, length_arrange,
        Nat.sub_eq_zero_of_le few, List.drop_zero]
    · have split : arrange xs = (arrange xs).take (xs.length - max) ++ latest max xs := by
        rw [latest_eq, lastWithin, if_neg bounded, length_arrange, List.take_append_drop]
      have enough : max ≤ (latest max xs).length := by
        rw [latest_eq, lastWithin, if_neg bounded, List.length_drop, length_arrange]
        omega
      have ordered := pairwise_arrange xs
      rw [split] at ordered
      rw [split, List.append_assoc]
      exact (latest_append_of_below bounded enough (List.pairwise_append.1 ordered).2.2 ys).symm

end Injective

end Canonical

end Skirmish
