import Skirmish.Order.Keyed

/-!
# Search by halving

Where a key is in a list in order, or where it belongs, found by halving the stretch of places that
are left. Either way the place is the number of elements with smaller keys, so one search tells what
a look-up finds, what an update replaces, and where it makes room for a new element.
-/

namespace Skirmish.Keyed

variable {α : Type} [Keyed α]

/-- The place of a key: an element has taken it, or it is free for one. -/
inductive Place where
  | taken (i : Nat)
  | free (i : Nat)
  deriving DecidableEq

/-- The position, if an element has taken it. -/
def Place.taken? : Place → Option Nat
  | taken i => some i
  | free _ => none

theorem Place.taken?_eq_some_iff {p : Place} {i : Nat} : p.taken? = some i ↔ p = taken i := by
  cases p <;> simp [taken?]

/-- The first of the positions `lo … hi - 1` whose key is not below `k`, or else `hi`. -/
def bisect (k : Nat) (xs : List α) (lo hi : Nat) : Nat :=
  if lo < hi then
    let mid := lo + (hi - lo) / 2
    if xs[mid]?.any (key · < k) then bisect k xs (mid + 1) hi else bisect k xs lo mid
  else lo
termination_by hi - lo

/-- The place of the key `k`. -/
def search (k : Nat) (xs : List α) : Place :=
  let i := bisect k xs 0 xs.length
  if xs[i]?.any (key · = k) then .taken i else .free i

/-- How many keys are below `k`. -/
def below (k : Nat) (xs : List α) : Nat := xs.countP (key · < k)

/-! ### Smaller keys come first -/

@[simp] theorem below_nil (k : Nat) : below k ([] : List α) = 0 := rfl

theorem below_cons_of_lt {k : Nat} {x : α} (h : key x < k) (xs : List α) :
    below k (x :: xs) = below k xs + 1 :=
  List.countP_cons_of_pos (by simpa using h)

theorem below_le_length (k : Nat) (xs : List α) : below k xs ≤ xs.length :=
  List.countP_le_length

theorem Sorted.below_eq_zero {k : Nat} {x : α} {xs : List α} (h : Sorted (x :: xs))
    (hx : k ≤ key x) : below k (x :: xs) = 0 := by
  rw [below, List.countP_eq_zero]
  intro y hy
  simpa using Nat.le_trans hx (h.key_le_of_mem hy)

/-- An element of a list in order has a smaller key just if it is one of the first, as many as there
are smaller keys. -/
theorem Sorted.any_key_lt_iff {xs : List α} (h : Sorted xs) {k i : Nat} :
    xs[i]?.any (key · < k) = true ↔ i < below k xs := by
  induction xs generalizing i with
  | nil => simp
  | cons x xs ih =>
    by_cases hx : key x < k
    · rw [below_cons_of_lt hx]
      cases i with
      | zero => simp [hx]
      | succ i => simpa using ih (List.pairwise_cons.1 h).2
    · rw [h.below_eq_zero (Nat.not_lt.1 hx), Option.any_eq_true]
      constructor
      · rintro ⟨y, hy, lt⟩
        have least := h.key_le_of_mem (List.mem_of_getElem? hy)
        have smaller : key y < k := by simpa using lt
        omega
      · omega

/-! ### Halving -/

/-- Halving keeps the number of smaller keys between its ends until they meet there. -/
theorem Sorted.bisect_eq {xs : List α} (h : Sorted xs) {k lo hi : Nat} (hlo : lo ≤ below k xs)
    (hhi : below k xs ≤ hi) : bisect k xs lo hi = below k xs := by
  fun_induction bisect k xs lo hi with
  | case1 lo hi _ mid hmid ih => exact ih (h.any_key_lt_iff.1 hmid) hhi
  | case2 lo hi _ mid hmid ih => exact ih hlo (Nat.not_lt.1 (mt h.any_key_lt_iff.2 hmid))
  | case3 lo hi met => omega

/-- A list in order holds a key, if at all, at the position of the number of smaller ones. -/
theorem Sorted.find?_eq {xs : List α} (h : Sorted xs) (k : Nat) :
    find? k xs = xs[below k xs]?.filter (key · = k) := by
  induction xs with
  | nil => rfl
  | cons x xs ih =>
    by_cases hx : key x < k
    · rw [find?_cons, if_neg (Nat.ne_of_lt hx), below_cons_of_lt hx, List.getElem?_cons_succ]
      exact ih (List.pairwise_cons.1 h).2
    · rw [h.below_eq_zero (Nat.not_lt.1 hx), List.getElem?_cons_zero, find?_cons]
      by_cases hk : key x = k
      · simp [Option.filter, hk]
      · have absent : find? k xs = none := by
          refine find?_eq_none_iff.2 fun y hy => ?_
          have least := h.key_le_of_mem (List.mem_cons_of_mem x hy)
          omega
        simp [Option.filter, hk, absent]

/-- What halving finds is what a walk through the whole list finds. -/
theorem Sorted.search_eq {xs : List α} (h : Sorted xs) (k : Nat) :
    search k xs = if (find? k xs).isSome then .taken (below k xs) else .free (below k xs) := by
  rw [search, h.bisect_eq (Nat.zero_le _) (below_le_length k xs), h.find?_eq]
  cases xs[below k xs]? with
  | none => rfl
  | some x => by_cases hk : key x = k <;> simp [Option.filter, hk]

/-- A look-up finds what has taken the place of the key. -/
theorem Sorted.find?_eq_search {xs : List α} (h : Sorted xs) (k : Nat) :
    find? k xs = (search k xs).taken?.bind fun i => xs[i]? := by
  rw [h.search_eq, h.find?_eq]
  cases hx : xs[below k xs]? with
  | none => rfl
  | some x => by_cases hk : key x = k <;> simp [Option.filter, hk, hx, Place.taken?]

/-- Putting an element replaces the one that has taken its place, or makes room for it there. -/
theorem Sorted.put_eq_search {xs : List α} (h : Sorted xs) (x : α) :
    put x xs = match search (key x) xs with
      | .taken i => xs.set i x
      | .free i => xs.insertIdx i x := by
  rw [h.search_eq]
  fun_induction put x xs with
  | case1 => rfl
  | case2 y ys hlt =>
    have absent : find? (key x) (y :: ys) = none := by
      refine find?_eq_none_iff.2 fun z hz => ?_
      exact Nat.ne_of_gt (Nat.lt_of_lt_of_le hlt (h.key_le_of_mem hz))
    simp [absent, h.below_eq_zero (Nat.le_of_lt hlt)]
  | case3 y ys hlt heq =>
    simp [find?_cons, heq.symm, h.below_eq_zero (Nat.le_of_eq heq)]
  | case4 y ys hlt hne ih =>
    have hy : key y < key x := by omega
    rw [find?_cons, if_neg (Nat.ne_of_lt hy), below_cons_of_lt hy, ih (List.pairwise_cons.1 h).2]
    cases find? (key x) ys <;> simp

end Skirmish.Keyed
