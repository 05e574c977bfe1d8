import Skirmish.Order.Break

/-!
# Lists kept in the order of a key

A finite map as a list whose keys ascend. Operations are written for any list, also for one that
is not in order; on an ascending list they keep the order, and a look-up after an update finds what
was put or dropped and nothing else changed.

On an ascending list an element of a key is the only one. Where keys repeat the operations take the
first element of the key, and a search by halving may as well end at another: what is said of them
there is said of the first. That the list stays in order holds for any (`Sorted.set`).
-/

namespace Skirmish

/-- Elements of `α` are filed under a number. -/
class Keyed (α : Type) where
  key : α → Nat

namespace Keyed

variable {α : Type} [Keyed α]

/-- The element filed under `k`, the first if there are several. -/
def find? (k : Nat) (xs : List α) : Option α := xs.find? (key · = k)

/-- The position of the element filed under `k`, the first if there are several. -/
def position? (k : Nat) (xs : List α) : Option Nat := xs.findIdx? (key · = k)

/-- Puts `x` in the place of the element with its key, the first if there are several, or else before
the first larger key. -/
def put (x : α) : List α → List α
  | [] => [x]
  | y :: ys =>
    if key x < key y then x :: y :: ys
    else if key x = key y then x :: ys
    else y :: put x ys

/-- Takes out the element filed under `k`, the first if there are several. -/
def drop (k : Nat) (xs : List α) : List α := xs.eraseP (key · = k)

/-- The list in the order of its keys; elements of one key stay in their order. -/
def sort (xs : List α) : List α := xs.mergeSort fun a b => key a ≤ key b

/-- Each key is below all that follow it. -/
def Ascending (xs : List α) : Prop := xs.Pairwise fun a b => key a < key b

/-- No key is above one that follows it. -/
def Sorted (xs : List α) : Prop := xs.Pairwise fun a b => key a ≤ key b

/-- The first element whose key is not above that of its predecessor, with its position. -/
def disorder? (xs : List α) : Option (Nat × α) := Order.firstBreak? (key · < key ·) xs

/-- A check of the order, and then of one element after another: what it says of the first element
that is out of order, or else of the first that has a fault of its own. -/
def check {β : Type} (disorder : Nat → α → β) (fault? : α → Option β) (xs : List α) : Option β :=
  match disorder? xs with
  | some (index, x) => some (disorder index x)
  | none => xs.findSome? fault?

/-! ### Looking up -/

@[simp] theorem find?_nil (k : Nat) : find? k ([] : List α) = none := rfl

theorem find?_cons (k : Nat) (x : α) (xs : List α) :
    find? k (x :: xs) = if key x = k then some x else find? k xs := by
  by_cases h : key x = k <;> simp [find?, h]

theorem key_of_find? {k : Nat} {xs : List α} {x : α} (h : find? k xs = some x) : key x = k := by
  simpa using List.find?_some h

theorem mem_of_find? {k : Nat} {xs : List α} {x : α} (h : find? k xs = some x) : x ∈ xs :=
  List.mem_of_find?_eq_some h

theorem find?_eq_none_iff {k : Nat} {xs : List α} : find? k xs = none ↔ ∀ x ∈ xs, key x ≠ k := by
  simp [find?]

theorem find?_of_mem {xs : List α} (h : Ascending xs) {x : α} (hx : x ∈ xs) :
    find? (key x) xs = some x := by
  induction xs with
  | nil => simp at hx
  | cons y ys ih =>
    obtain ⟨hy, hys⟩ := List.pairwise_cons.1 h
    rw [find?_cons]
    cases hx with
    | head => simp
    | tail _ hx =>
      have : key y ≠ key x := Nat.ne_of_lt (hy x hx)
      simp [this, ih hys hx]

/-! ### Order -/

theorem Ascending.sorted {xs : List α} (h : Ascending xs) : Sorted xs :=
  h.imp fun hab => Nat.le_of_lt hab

theorem Sorted.key_le_of_mem {x y : α} {xs : List α} (h : Sorted (x :: xs)) (hy : y ∈ x :: xs) :
    key x ≤ key y := by
  cases hy with
  | head => exact Nat.le_refl _
  | tail _ hy => exact (List.pairwise_cons.1 h).1 y hy

theorem disorder?_eq_none_iff {xs : List α} : disorder? xs = none ↔ Ascending xs := by
  rw [disorder?, Order.firstBreak?_eq_none_iff]
  · simp [Ascending]
  · simpa using fun a b c => Nat.lt_trans

/-- A check finds nothing just if the keys ascend and no element has a fault. -/
theorem check_eq_none_iff {β : Type} {disorder : Nat → α → β} {fault? : α → Option β}
    {xs : List α} :
    check disorder fault? xs = none ↔ Ascending xs ∧ ∀ x ∈ xs, fault? x = none := by
  rw [← disorder?_eq_none_iff, check]
  cases disorder? xs <;> simp

theorem sorted_sort (xs : List α) : Sorted (sort xs) := by
  have := @List.pairwise_mergeSort α (fun a b => decide (key a ≤ key b))
    (by simpa using fun a b c => Nat.le_trans) (by simpa using fun a b => Nat.le_total _ _) xs
  simpa [Sorted, sort] using this

theorem sort_of_sorted {xs : List α} (h : Sorted xs) : sort xs = xs :=
  List.mergeSort_of_pairwise (by simpa [Sorted] using h)

theorem sort_perm (xs : List α) : (sort xs).Perm xs := List.mergeSort_perm ..

@[simp] theorem sort_sort (xs : List α) : sort (sort xs) = sort xs :=
  sort_of_sorted (sorted_sort xs)

/-! ### Putting -/

theorem mem_put {x y : α} {xs : List α} (h : y ∈ put x xs) : y = x ∨ y ∈ xs := by
  fun_induction put x xs with
  | case1 => simpa using h
  | case2 z zs hlt => simpa using h
  | case3 z zs hlt heq => simp at h; grind
  | case4 z zs hlt hne ih => simp at h; grind

theorem find?_put_self (x : α) (xs : List α) : find? (key x) (put x xs) = some x := by
  fun_induction put x xs with
  | case1 => simp [find?_cons]
  | case2 y ys hlt => simp [find?_cons]
  | case3 y ys hlt heq => simp [find?_cons]
  | case4 y ys hlt hne ih =>
    have : key y ≠ key x := fun h => hne h.symm
    simp [find?_cons, this, ih]

theorem find?_put_of_ne {x : α} {k : Nat} (h : key x ≠ k) (xs : List α) :
    find? k (put x xs) = find? k xs := by
  fun_induction put x xs with
  | case1 => simp [find?_cons, h]
  | case2 y ys hlt => simp [find?_cons, h]
  | case3 y ys hlt heq => simp [find?_cons, h, ← heq]
  | case4 y ys hlt hne ih => simp [find?_cons, ih]

theorem ascending_put {xs : List α} (h : Ascending xs) (x : α) : Ascending (put x xs) := by
  fun_induction put x xs with
  | case1 => exact List.pairwise_singleton ..
  | case2 y ys hlt =>
    refine List.pairwise_cons.2 ⟨fun z hz => ?_, h⟩
    cases hz with
    | head => exact hlt
    | tail _ hz => exact Nat.lt_trans hlt ((List.pairwise_cons.1 h).1 z hz)
  | case3 y ys hlt heq =>
    obtain ⟨hy, hys⟩ := List.pairwise_cons.1 h
    exact List.pairwise_cons.2 ⟨fun z hz => heq ▸ hy z hz, hys⟩
  | case4 y ys hlt hne ih =>
    obtain ⟨hy, hys⟩ := List.pairwise_cons.1 h
    refine List.pairwise_cons.2 ⟨fun z hz => ?_, ih hys⟩
    cases mem_put hz with
    | inl hzx => subst hzx; omega
    | inr hz => exact hy z hz

theorem sorted_put {xs : List α} (h : Sorted xs) (x : α) : Sorted (put x xs) := by
  fun_induction put x xs with
  | case1 => exact List.pairwise_singleton ..
  | case2 y ys hlt =>
    refine List.pairwise_cons.2 ⟨fun z hz => ?_, h⟩
    cases hz with
    | head => exact Nat.le_of_lt hlt
    | tail _ hz => exact Nat.le_trans (Nat.le_of_lt hlt) ((List.pairwise_cons.1 h).1 z hz)
  | case3 y ys hlt heq =>
    obtain ⟨hy, hys⟩ := List.pairwise_cons.1 h
    exact List.pairwise_cons.2 ⟨fun z hz => heq ▸ hy z hz, hys⟩
  | case4 y ys hlt hne ih =>
    obtain ⟨hy, hys⟩ := List.pairwise_cons.1 h
    refine List.pairwise_cons.2 ⟨fun z hz => ?_, ih hys⟩
    cases mem_put hz with
    | inl hzx => subst hzx; omega
    | inr hz => exact hy z hz

/-- Exchanging an element for another of its key keeps the order, whichever of several it is. -/
theorem Sorted.set {xs : List α} (h : Sorted xs) {i : Nat} {x y : α} (there : xs[i]? = some x)
    (same : key y = key x) : Sorted (xs.set i y) := by
  obtain ⟨hi, rfl⟩ := List.getElem?_eq_some_iff.1 there
  have keys : (xs.set i y).map key = xs.map key := by
    rw [List.map_set, same, ← List.getElem_map key (h := by simpa), List.set_getElem_self]
  rw [Sorted, ← List.pairwise_map (R := (· ≤ ·)), keys, List.pairwise_map]
  exact h

/-! ### Dropping -/

theorem drop_sublist (k : Nat) (xs : List α) : (drop k xs).Sublist xs := List.eraseP_sublist

theorem ascending_drop {xs : List α} (h : Ascending xs) (k : Nat) : Ascending (drop k xs) :=
  List.Pairwise.sublist (drop_sublist k xs) h

theorem find?_drop_of_ne {j k : Nat} (h : j ≠ k) (xs : List α) :
    find? j (drop k xs) = find? j xs := by
  induction xs with
  | nil => rfl
  | cons x xs ih =>
    by_cases hx : key x = k
    · have hj : key x ≠ j := fun hj => h (hj.symm.trans hx)
      simp [drop, hx, find?_cons, Ne.symm h]
    · rw [drop, List.eraseP_cons_of_neg (by simpa using hx), find?_cons, find?_cons]
      exact congrArg _ ih

theorem find?_drop_self {xs : List α} (h : Ascending xs) (k : Nat) :
    find? k (drop k xs) = none := by
  induction xs with
  | nil => rfl
  | cons x xs ih =>
    obtain ⟨hx, hxs⟩ := List.pairwise_cons.1 h
    by_cases hk : key x = k
    · rw [drop, List.eraseP_cons_of_pos (by simpa using hk), find?_eq_none_iff]
      exact fun y hy => Nat.ne_of_gt (hk ▸ hx y hy)
    · rw [drop, List.eraseP_cons_of_neg (by simpa using hk), find?_cons, if_neg hk]
      exact ih hxs

/-! ### Equality -/

/-- Ascending lists in which every look-up has the same answer are equal. -/
theorem ext_find? {xs ys : List α} (hx : Ascending xs) (hy : Ascending ys)
    (h : ∀ k, find? k xs = find? k ys) : xs = ys := by
  induction xs generalizing ys with
  | nil =>
    cases ys with
    | nil => rfl
    | cons y ys => simpa [find?_cons] using h (key y)
  | cons x xs ih =>
    cases ys with
    | nil => simpa [find?_cons] using h (key x)
    | cons y ys =>
      obtain ⟨hxx, hxs⟩ := List.pairwise_cons.1 hx
      obtain ⟨hyy, hys⟩ := List.pairwise_cons.1 hy
      have same : key x = key y := by
        have memx : x ∈ y :: ys := mem_of_find? ((h (key x)).symm.trans (by simp [find?_cons]))
        have memy : y ∈ x :: xs := mem_of_find? ((h (key y)).trans (by simp [find?_cons]))
        cases memx with
        | head => rfl
        | tail _ memx =>
          cases memy with
          | head => rfl
          | tail _ memy => exact absurd (hyy x memx) (Nat.lt_asymm (hxx y memy))
      have head : x = y := by
        have := h (key x)
        simpa [find?_cons, same] using this
      subst head
      congr 1
      refine ih hxs hys fun k => ?_
      by_cases hk : key x = k
      · have left : find? k xs = none :=
          find?_eq_none_iff.2 fun z hz => Nat.ne_of_gt (hk ▸ hxx z hz)
        have right : find? k ys = none :=
          find?_eq_none_iff.2 fun z hz => Nat.ne_of_gt (hk ▸ hyy z hz)
        rw [left, right]
      · simpa [find?_cons, hk] using h k

end Keyed

end Skirmish
