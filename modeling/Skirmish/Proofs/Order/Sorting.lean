import Mathlib
import Skirmish.Order.Keyed

/-!
# Sorting keeps ties in their order

What sorting makes of a list is told by two things: no key is above one that follows it, and the
elements of each key are those of the list, in its order. Nothing else has both. Where no key
repeats there are no ties, and the order of the list does not matter. Otherwise neighbours of the
sorted list share a key, and the first of them share the smallest that repeats.
-/

namespace Skirmish.Keyed

variable {α : Type} [Keyed α] {xs ys : List α}

/-- Is the second list the first one in the order of its keys, with elements of one key in the order
of the first? -/
structure Sorts (xs ys : List α) : Prop where
  sorted : Sorted ys
  ties : ∀ k, ys.filter (key · = k) = xs.filter (key · = k)

/-- Sorting keeps the elements of each key in their order. -/
lemma filter_key_sort (xs : List α) (k : Nat) :
    (sort xs).filter (key · = k) = xs.filter (key · = k) := by
  have tied : (xs.filter (key · = k)).Pairwise fun a b => decide (key a ≤ key b) = true := by
    rw [List.pairwise_filter]
    refine List.pairwise_of_forall fun a b ha hb => ?_
    simp only [decide_eq_true_eq] at ha hb ⊢
    rw [ha, hb]
  have kept : (xs.filter (key · = k)).Sublist (sort xs) :=
    List.sublist_mergeSort (by simpa using fun a b c => Nat.le_trans)
      (by simpa using fun a b => Nat.le_total _ _) tied List.filter_sublist
  have same : (xs.filter (key · = k)).Sublist ((sort xs).filter (key · = k)) := by
    simpa using kept.filter (key · = k)
  exact (same.eq_of_length ((sort_perm xs).filter _).length_eq.symm).symm

lemma sorts_sort (xs : List α) : Sorts xs (sort xs) := ⟨sorted_sort xs, filter_key_sort xs⟩

/-- What is found first in a list in order has the smallest key. -/
lemma Sorted.key_le_of_find? (h : Sorted xs) {p : α → Bool} {x y : α} (found : xs.find? p = some x)
    (hy : y ∈ xs) (hp : p y = true) : key x ≤ key y := by
  obtain ⟨-, front, back, rfl, passed⟩ := List.find?_eq_some_iff_append.1 found
  rcases List.mem_append.1 hy with hy | hy
  · have not_here := passed y hy
    simp [hp] at not_here
  · exact Sorted.key_le_of_mem (List.pairwise_append.1 h).2.1 hy

/-- Lists in order are equal if they have the same elements of each key, in the same order. -/
lemma Sorted.ext (hx : Sorted xs) (hy : Sorted ys)
    (same : ∀ k, xs.filter (key · = k) = ys.filter (key · = k)) : xs = ys := by
  induction xs generalizing ys with
  | nil =>
    cases ys with
    | nil => rfl
    | cons y ys => simpa using same (key y)
  | cons x xs ih =>
    cases ys with
    | nil => simpa using same (key x)
    | cons y ys =>
      have mem (z : α) : z ∈ x :: xs ↔ z ∈ y :: ys := by
        simpa using congrArg (z ∈ ·) (same (key z))
      have least : key x = key y := by
        apply Nat.le_antisymm
        · exact hx.key_le_of_mem ((mem y).2 (List.mem_cons_self ..))
        · exact hy.key_le_of_mem ((mem x).1 (List.mem_cons_self ..))
      obtain rfl : x = y := by
        have heads := same (key x)
        simp only [List.filter_cons, least, decide_true, if_true] at heads
        exact (List.cons.inj heads).1
      congr 1
      refine ih hx.of_cons hy.of_cons fun k => ?_
      by_cases hk : key x = k
      · simpa [hk] using same k
      · simpa [hk] using same k

/-- What is asked of a sorted list leaves no choice. -/
theorem sorts_iff : Sorts xs ys ↔ ys = sort xs := by
  constructor
  · intro h
    exact h.sorted.ext (sorted_sort xs) fun k => (h.ties k).trans (filter_key_sort xs k).symm
  · rintro rfl
    exact sorts_sort xs

/-- Sorting does not change which element of a key comes first. -/
lemma find?_sort (xs : List α) (k : Nat) : find? k (sort xs) = find? k xs := by
  rw [find?, find?, ← List.head?_filter, ← List.head?_filter, filter_key_sort]

/-! ### Lists in which no key repeats -/

/-- Sorted keys ascend just if none repeats. -/
lemma ascending_sort_iff : Ascending (sort xs) ↔ (xs.map key).Nodup := by
  rw [← ((sort_perm xs).map key).nodup_iff, List.Nodup, List.pairwise_map]
  constructor
  · exact List.Pairwise.imp Nat.ne_of_lt
  · intro unique
    exact ((sorted_sort xs).and unique).imp fun ⟨le, ne⟩ => Nat.lt_of_le_of_ne le ne

lemma mem_sort {x : α} : x ∈ sort xs ↔ x ∈ xs := (sort_perm xs).mem_iff

/-- Where no key repeats, a look-up in the sorted list finds whatever has the key. -/
lemma find?_sort_eq_some_iff (unique : (xs.map key).Nodup) {k : Nat} {x : α} :
    find? k (sort xs) = some x ↔ x ∈ xs ∧ key x = k := by
  constructor
  · intro found
    exact ⟨mem_sort.1 (mem_of_find? found), key_of_find? found⟩
  · rintro ⟨hx, rfl⟩
    exact find?_of_mem (ascending_sort_iff.2 unique) (mem_sort.2 hx)

/-- Where no key repeats, the sorted list depends on the elements alone. -/
lemma sort_eq_of_perm (unique : (xs.map key).Nodup) (perm : xs.Perm ys) : sort xs = sort ys := by
  have unique' : (ys.map key).Nodup := (perm.map key).nodup_iff.1 unique
  refine ext_find? (ascending_sort_iff.2 unique) (ascending_sort_iff.2 unique') fun k => ?_
  ext x
  rw [find?_sort_eq_some_iff unique, find?_sort_eq_some_iff unique', perm.mem_iff]

/-! ### Keys that repeat -/

/-- Does more than one element of the list have the key? -/
def Repeats (xs : List α) (k : Nat) : Prop := 2 ≤ (xs.map key).count k

lemma repeats_congr (perm : xs.Perm ys) (k : Nat) : Repeats xs k ↔ Repeats ys k := by
  rw [Repeats, Repeats, (perm.map key).count_eq]

lemma nodup_keys_iff : (xs.map key).Nodup ↔ ∀ k, ¬Repeats xs k := by
  simp only [List.nodup_iff_count_le_one, Repeats]
  exact forall_congr' fun k => by omega

/-- A key that is below all others of a list repeats no key of it. -/
lemma repeats_cons_of_lt {x : α} (below : ∀ y ∈ xs, key x < key y) (k : Nat) :
    Repeats (x :: xs) k ↔ Repeats xs k := by
  rw [Repeats, Repeats, List.map_cons, List.count_cons]
  split
  · rename_i same
    have absent : (xs.map key).count k = 0 := by
      rw [List.count_eq_zero, List.mem_map]
      rintro ⟨y, hy, hk⟩
      have := below y hy
      simp at same
      omega
    omega
  · rfl

lemma Sorted.lt_of_ne {x y : α} {zs : List α} (h : Sorted (x :: y :: zs)) (ne : key x ≠ key y) :
    ∀ z ∈ y :: zs, key x < key z := by
  intro z hz
  obtain ⟨hx, hys⟩ := List.pairwise_cons.1 h
  have head : key x < key y := Nat.lt_of_le_of_ne (hx y (List.mem_cons_self ..)) ne
  exact Nat.lt_of_lt_of_le head (Sorted.key_le_of_mem hys hz)

/-- If neighbours of a sorted list share a key, it has one that repeats, and the first of them have
the smallest. -/
lemma Sorted.isLeast_of_breakFrom {n j : Nat} {b : α} (h : Sorted xs)
    (found : Order.breakFrom (fun a b => decide (key a ≠ key b)) n xs = some (j, b)) :
    IsLeast {k | Repeats xs k} (key b) := by
  fun_induction Order.breakFrom (fun a b : α => decide (key a ≠ key b)) n xs with
  | case1 n x y zs ne ih =>
    have below := h.lt_of_ne (by simpa using ne)
    simpa only [repeats_cons_of_lt below] using ih h.of_cons found
  | case2 n x y zs same =>
    obtain ⟨-, rfl⟩ : n = j ∧ y = b := by simpa using found
    have same : key x = key y := by simpa using same
    refine ⟨?_, ?_⟩
    · simp [Repeats, same]
    · intro k hk
      have some : 0 < ((x :: y :: zs).map key).count k := Nat.lt_of_lt_of_le Nat.zero_lt_two hk
      obtain ⟨z, hz, rfl⟩ := List.mem_map.1 (List.count_pos_iff.1 some)
      exact same ▸ h.key_le_of_mem hz
  | case3 => simp at found

/-- If neighbours of a sorted list never share a key, no key repeats. -/
lemma Sorted.nodup_of_breakFrom {n : Nat} (h : Sorted xs)
    (whole : Order.breakFrom (fun a b => decide (key a ≠ key b)) n xs = none) :
    (xs.map key).Nodup := by
  rw [nodup_keys_iff]
  fun_induction Order.breakFrom (fun a b : α => decide (key a ≠ key b)) n xs with
  | case1 n x y zs ne ih =>
    have below := h.lt_of_ne (by simpa using ne)
    simpa only [repeats_cons_of_lt below] using ih h.of_cons whole
  | case2 => simp at whole
  | case3 zs n short =>
    rcases zs with - | ⟨x, - | ⟨y, zs⟩⟩
    · simp [Repeats]
    · simp only [Repeats, List.map_cons, List.map_nil, List.count_cons, List.count_nil]
      intro k
      split <;> omega
    · exact absurd rfl (short x y zs)

end Skirmish.Keyed
