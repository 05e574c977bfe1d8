/-!
# Where a sequence breaks

A check of neighbours: the first element that does not follow on from the one before it. For a
transitive relation, a sequence without such an element is in order as a whole.
-/

namespace Skirmish.Order

variable {α : Type}

/-- The first element that does not follow its predecessor, counting positions from `i`. -/
def breakFrom (follows : α → α → Bool) (i : Nat) : List α → Option (Nat × α)
  | a :: b :: rest => if follows a b then breakFrom follows (i + 1) (b :: rest) else some (i, b)
  | _ => none

/-- The first element that does not follow its predecessor, with its position. -/
def firstBreak? (follows : α → α → Bool) (xs : List α) : Option (Nat × α) :=
  breakFrom follows 1 xs

/-- Does each element follow its predecessor? -/
def unbroken (follows : α → α → Bool) : List α → Bool
  | a :: b :: rest => follows a b && unbroken follows (b :: rest)
  | _ => true

theorem unbroken_iff (follows : α → α → Bool) (xs : List α) :
    unbroken follows xs = true ↔ firstBreak? follows xs = none := by
  unfold firstBreak?
  generalize 1 = i
  fun_induction breakFrom follows i xs with
  | case1 i a b rest h ih => simpa [unbroken, h] using ih
  | case2 i a b rest h => simp [unbroken, h]
  | case3 xs i short =>
    match xs, short with
    | [], _ => simp [unbroken]
    | [_], _ => simp [unbroken]
    | a :: b :: rest, short => exact absurd rfl (short a b rest)

theorem breakFrom_eq_none_iff {follows : α → α → Bool}
    (trans : ∀ a b c, follows a b → follows b c → follows a c) (i : Nat) (xs : List α) :
    breakFrom follows i xs = none ↔ xs.Pairwise fun a b => follows a b := by
  fun_induction breakFrom follows i xs with
  | case1 i a b rest h ih =>
    rw [ih, List.pairwise_cons (a := a)]
    constructor
    · intro hb
      refine ⟨fun c hc => ?_, hb⟩
      cases hc with
      | head => exact h
      | tail _ hc => exact trans a b c h ((List.pairwise_cons.1 hb).1 c hc)
    · exact fun hb => hb.2
  | case2 i a b rest h =>
    simp only [reduceCtorEq, false_iff]
    exact fun hb => h ((List.pairwise_cons.1 hb).1 b (List.mem_cons_self ..))
  | case3 xs i short =>
    match xs, short with
    | [], _ => simp
    | [_], _ => simp
    | a :: b :: rest, short => exact absurd rfl (short a b rest)

/-- No element breaks the sequence exactly when all of it is in order. -/
theorem firstBreak?_eq_none_iff {follows : α → α → Bool}
    (trans : ∀ a b c, follows a b → follows b c → follows a c) (xs : List α) :
    firstBreak? follows xs = none ↔ xs.Pairwise fun a b => follows a b :=
  breakFrom_eq_none_iff trans 1 xs

/-! ### The first place where a sequence breaks -/

variable {follows : α → α → Bool}

/-- Is there an element behind place `i` that does not follow the one at it? -/
def BreaksAt (follows : α → α → Bool) (xs : List α) (i : Nat) : Prop :=
  ∃ a b, xs[i]? = some a ∧ xs[i + 1]? = some b ∧ follows a b = false

@[simp] theorem breaksAt_zero {a b : α} {rest : List α} :
    BreaksAt follows (a :: b :: rest) 0 ↔ follows a b = false := by
  simp [BreaksAt]

@[simp] theorem breaksAt_succ {a : α} {xs : List α} {i : Nat} :
    BreaksAt follows (a :: xs) (i + 1) ↔ BreaksAt follows xs i := by
  simp [BreaksAt]

theorem breakFrom_eq_some_iff {n j : Nat} {xs : List α} {b : α} :
    breakFrom follows n xs = some (j, b) ↔
      ∃ i, BreaksAt follows xs i ∧ (∀ k < i, ¬BreaksAt follows xs k) ∧ j = n + i ∧
        xs[i + 1]? = some b := by
  fun_induction breakFrom follows n xs with
  | case1 n a c rest hac ih =>
    rw [ih]
    constructor
    · rintro ⟨i, breaks, first, hj, hb⟩
      refine ⟨i + 1, by simpa using breaks, ?_, by omega, by simpa using hb⟩
      intro k hk
      cases k with
      | zero => simp [hac]
      | succ k => simpa using first k (by omega)
    · rintro ⟨i, breaks, first, hj, hb⟩
      cases i with
      | zero => simp [hac] at breaks
      | succ i =>
        refine ⟨i, by simpa using breaks, ?_, by omega, by simpa using hb⟩
        intro k hk
        simpa using first (k + 1) (by omega)
  | case2 n a c rest hac =>
    have here : BreaksAt follows (a :: c :: rest) 0 := by simpa using hac
    constructor
    · intro found
      obtain ⟨rfl, rfl⟩ : n = j ∧ c = b := by simpa using found
      exact ⟨0, here, by simp, rfl, rfl⟩
    · rintro ⟨i, -, first, rfl, hb⟩
      cases i with
      | zero => simpa using hb
      | succ i => exact absurd here (first 0 (Nat.zero_lt_succ i))
  | case3 xs n short =>
    have whole : ∀ i, ¬BreaksAt follows xs i := by
      rintro i ⟨a, b, -, hb, -⟩
      rcases xs with - | ⟨a, - | ⟨c, rest⟩⟩
      · simp at hb
      · simp at hb
      · exact short a c rest rfl
    simp [whole]

/-- The break that is reported is the first one. -/
theorem firstBreak?_eq_some_iff {j : Nat} {xs : List α} {b : α} :
    firstBreak? follows xs = some (j, b) ↔
      ∃ i, BreaksAt follows xs i ∧ (∀ k < i, ¬BreaksAt follows xs k) ∧ j = i + 1 ∧
        xs[i + 1]? = some b := by
  rw [firstBreak?, breakFrom_eq_some_iff]
  simp only [Nat.add_comm]

end Skirmish.Order
