import Mathlib.Tactic.Lemma
import Skirmish.Order.Keyed

/-!
# Ascending lists, element by element

A change that keeps the key of each element it does not drop keeps a list ascending, and a look-up
afterwards finds the changed element. Putting an element in the place of another leaves everything
that the two agree on as it was.
-/

namespace Skirmish.Keyed

variable {α : Type} [Keyed α]

lemma find?_key_cons (x : α) (xs : List α) : find? (key x) (x :: xs) = some x := by
  rw [find?_cons, if_pos rfl]

/-! ### Changing and dropping elements -/

lemma ascending_filterMap {xs : List α} (h : Ascending xs) {f : α → Option α}
    (keeps : ∀ a b, f a = some b → key b = key a) : Ascending (xs.filterMap f) := by
  refine List.pairwise_filterMap.2 (h.imp ?_)
  intro a b hab a' ha b' hb
  rw [keeps a a' ha, keeps b b' hb]
  exact hab

lemma find?_filterMap {xs : List α} (h : Ascending xs) {f : α → Option α}
    (keeps : ∀ a b, f a = some b → key b = key a) (k : Nat) :
    find? k (xs.filterMap f) = (find? k xs).bind f := by
  induction xs with
  | nil => rfl
  | cons x xs ih =>
    obtain ⟨hx, hxs⟩ := List.pairwise_cons.1 h
    rw [find?_cons, List.filterMap_cons]
    by_cases hk : key x = k
    · -- the rest of the list holds larger keys only, so a dropped element is not replaced
      have rest : find? k xs = none :=
        find?_eq_none_iff.2 fun y hy => Nat.ne_of_gt (hk ▸ hx y hy)
      cases hf : f x with
      | none => simp [hk, ih hxs, rest, hf]
      | some y => simp [find?_cons, keeps x y hf, hk, hf]
    · cases hf : f x with
      | none => simp [hk, ih hxs]
      | some y => simp [find?_cons, keeps x y hf, hk, ih hxs]

lemma ascending_map {xs : List α} (h : Ascending xs) {f : α → α}
    (keeps : ∀ a, key (f a) = key a) : Ascending (xs.map f) := by
  rw [← List.filterMap_eq_map]
  refine ascending_filterMap h ?_
  rintro a _ ⟨⟩
  exact keeps a

lemma ascending_filter {xs : List α} (h : Ascending xs) (p : α → Bool) :
    Ascending (xs.filter p) :=
  h.sublist List.filter_sublist

lemma find?_map {xs : List α} (h : Ascending xs) {f : α → α} (keeps : ∀ a, key (f a) = key a)
    (k : Nat) : find? k (xs.map f) = (find? k xs).map f := by
  rw [← List.filterMap_eq_map, find?_filterMap h]
  · cases find? k xs <;> rfl
  · rintro a _ ⟨⟩
    exact keeps a

lemma find?_filter {xs : List α} (h : Ascending xs) (p : α → Bool) (k : Nat) :
    find? k (xs.filter p) = (find? k xs).filter p := by
  rw [← List.filterMap_eq_filter, find?_filterMap h]
  · cases find? k xs with
    | none => rfl
    | some x => by_cases hp : p x = true <;> simp [Option.guard, Option.filter, hp]
  · intro a b hab
    rw [← (Option.guard_eq_some_iff.1 hab).1]

/-! ### Looking up what is there -/

/-- Ascending lists are equal if every look-up of the key of an element has the same answer in
both. -/
lemma ext_find?_key {xs ys : List α} (hx : Ascending xs) (hy : Ascending ys)
    (h : ∀ x : α, find? (key x) xs = find? (key x) ys) : xs = ys := by
  refine ext_find? hx hy ?_
  intro k
  cases left : find? k xs with
  | some x => rw [← left, ← key_of_find? left, h]
  | none =>
    cases right : find? k ys with
    | some y => rw [← left, ← right, ← key_of_find? right, h]
    | none => rfl

/-! ### Dropping one key, and replacing one element -/

lemma key_ne_of_mem_drop {xs : List α} (h : Ascending xs) {k : Nat} {x : α}
    (hx : x ∈ drop k xs) : key x ≠ k :=
  find?_eq_none_iff.1 (find?_drop_self h k) x hx

lemma mem_of_mem_drop {xs : List α} {k : Nat} {x : α} (hx : x ∈ drop k xs) : x ∈ xs :=
  (drop_sublist k xs).mem hx

/-- Dropping a key leaves the elements of all other keys. -/
lemma drop_eq_filter {xs : List α} (h : Ascending xs) (k : Nat) :
    drop k xs = xs.filter (key · ≠ k) := by
  induction xs with
  | nil => rfl
  | cons x xs ih =>
    obtain ⟨hx, hxs⟩ := List.pairwise_cons.1 h
    by_cases hk : key x = k
    · have others : ∀ y ∈ xs, key y ≠ k := fun y hy => Nat.ne_of_gt (hk ▸ hx y hy)
      have rest : xs.filter (key · ≠ k) = xs := by simpa using others
      rw [drop, List.eraseP_cons_of_pos (by simpa using hk),
        List.filter_cons_of_neg (by simpa using hk), rest]
    · rw [drop, List.eraseP_cons_of_neg (by simpa using hk),
        List.filter_cons_of_pos (by simpa using hk), ← ih hxs, drop]

/-- Taking out the element at a place is dropping its key. -/
lemma eraseIdx_eq_drop {xs : List α} (h : Ascending xs) {i : Nat} {x : α} (hi : xs[i]? = some x) :
    xs.eraseIdx i = drop (key x) xs := by
  induction xs generalizing i with
  | nil => simp at hi
  | cons y ys ih =>
    obtain ⟨hy, hys⟩ := List.pairwise_cons.1 h
    cases i with
    | zero =>
      obtain rfl : y = x := by simpa using hi
      simp [drop]
    | succ i =>
      have hi' : ys[i]? = some x := by simpa using hi
      have hne : key y ≠ key x := Nat.ne_of_lt (hy x (List.mem_of_getElem? hi'))
      rw [List.eraseIdx_cons_succ, ih hys hi', drop, drop,
        List.eraseP_cons_of_neg (by simpa using hne)]

/-- What an element agrees on with the one whose place it takes stays as it is in the list. -/
lemma map_put {β : Type} {xs : List α} (h : Ascending xs) {x y : α}
    (hy : find? (key x) xs = some y) {f : α → β} (same : f x = f y) :
    (put x xs).map f = xs.map f := by
  fun_induction put x xs with
  | case1 => simp at hy
  | case2 z zs hlt =>
    -- all keys of the list are larger, so nothing has its place taken
    have below : ∀ w ∈ z :: zs, key x < key w := by
      intro w hw
      rcases List.mem_cons.1 hw with rfl | hw
      · exact hlt
      · exact Nat.lt_trans hlt ((List.pairwise_cons.1 h).1 w hw)
    exact absurd (key_of_find? hy) (Nat.ne_of_gt (below y (mem_of_find? hy)))
  | case3 z zs hlt heq =>
    obtain rfl : z = y := by simpa [find?_cons, heq] using hy
    simp [same]
  | case4 z zs hlt hne ih =>
    have hzs := (List.pairwise_cons.1 h).2
    have hz : key z ≠ key x := fun hz => hne hz.symm
    rw [find?_cons, if_neg hz] at hy
    rw [List.map_cons, List.map_cons, ih hzs hy]

/-- Putting an element in the place of another changes that one and no other. -/
lemma put_eq_map {xs : List α} (h : Ascending xs) {x y : α} (hy : find? (key x) xs = some y)
    {f : α → α} (keeps : ∀ a, key (f a) = key a) (here : f y = x)
    (elsewhere : ∀ a, key a ≠ key x → f a = a) : put x xs = xs.map f := by
  refine ext_find? (ascending_put h x) (ascending_map h keeps) ?_
  intro k
  rw [find?_map h keeps]
  by_cases hk : key x = k
  · rw [← hk, find?_put_self, hy, Option.map_some, here]
  · rw [find?_put_of_ne hk]
    cases ha : find? k xs with
    | none => rfl
    | some a => rw [Option.map_some, elsewhere a (key_of_find? ha ▸ Ne.symm hk)]

/-- Elements of different keys can be put in either order. -/
lemma put_comm {xs : List α} (h : Ascending xs) {x y : α} (ne : key x ≠ key y) :
    put y (put x xs) = put x (put y xs) := by
  refine ext_find? (ascending_put (ascending_put h x) y) (ascending_put (ascending_put h y) x) ?_
  intro k
  by_cases hx : key x = k
  · subst hx
    rw [find?_put_of_ne ne.symm, find?_put_self, find?_put_self]
  · rw [find?_put_of_ne hx (put y xs)]
    by_cases hy : key y = k
    · subst hy
      rw [find?_put_self, find?_put_self]
    · rw [find?_put_of_ne hy, find?_put_of_ne hx, find?_put_of_ne hy]

end Skirmish.Keyed
