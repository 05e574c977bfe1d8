import Skirmish.Order.Break
import Skirmish.Violation

/-!
# The canonical order

Everything that happens in a tick is put in the order of a key, a list of integers compared from
the front. Sorting is stable, and where a key tells its elements apart the sorted list depends on
the elements alone, not on the order in which they arrived.

A bound on the length of a selection is a number; the bound `0` stands for no bound.
-/

namespace Skirmish

/-- Comparison of two keys from the front. -/
def lexLe : List Int → List Int → Bool
  | [], _ => true
  | _ :: _, [] => false
  | a :: as, b :: bs => a < b || a = b && lexLe as bs

theorem lexLe_total (a b : List Int) : (lexLe a b || lexLe b a) = true := by
  induction a generalizing b with
  | nil => rfl
  | cons i a ih =>
    cases b with
    | nil => simp [lexLe]
    | cons j b =>
      have := ih b
      simp only [lexLe, Bool.or_eq_true, Bool.and_eq_true, decide_eq_true_eq] at this ⊢
      rcases Int.lt_trichotomy i j with h | h | h
      · simp [h]
      · simpa [h, Int.lt_irrefl] using this
      · simp [h]

theorem lexLe_trans (a b c : List Int) (hab : lexLe a b = true) (hbc : lexLe b c = true) :
    lexLe a c = true := by
  induction a generalizing b c with
  | nil => rfl
  | cons i a ih =>
    match b, c, hab, hbc with
    | j :: b, k :: c, hab, hbc =>
      simp only [lexLe, Bool.or_eq_true, Bool.and_eq_true, decide_eq_true_eq] at hab hbc ⊢
      rcases hab with hij | ⟨rfl, hab⟩ <;> rcases hbc with hjk | ⟨rfl, hbc⟩
      · exact .inl (Int.lt_trans hij hjk)
      · exact .inl hij
      · exact .inl hjk
      · exact .inr ⟨rfl, ih b c hab hbc⟩

theorem lexLe_antisymm (a b : List Int) (hab : lexLe a b = true) (hba : lexLe b a = true) :
    a = b := by
  induction a generalizing b with
  | nil => cases b with
    | nil => rfl
    | cons j b => simp [lexLe] at hba
  | cons i a ih => cases b with
    | nil => simp [lexLe] at hab
    | cons j b =>
      simp only [lexLe, Bool.or_eq_true, Bool.and_eq_true, decide_eq_true_eq] at hab hba
      rcases hab with hij | ⟨rfl, hab⟩
      · rcases hba with hji | ⟨rfl, _⟩
        · exact absurd hji (Int.lt_asymm hij)
        · exact absurd hij (Int.lt_irrefl _)
      · rcases hba with hji | ⟨_, hba⟩
        · exact absurd hji (Int.lt_irrefl _)
        · rw [ih b hab hba]

/-- Things that happen on a tick and have a place in the canonical order. -/
class Canonical (α : Type) where
  key : α → List Int
  tick : α → Tick

namespace Canonical

variable {α : Type} [Canonical α]

/-- Is the key of `a` at most that of `b`? -/
def precedes (a b : α) : Bool := lexLe (key a) (key b)

/-- The list in canonical order; elements of one key stay in their order. -/
def arrange (xs : List α) : List α := xs.mergeSort precedes

/-- The first element whose key is below that of its predecessor. -/
def violation? (xs : List α) : Option Violation :=
  (Order.firstBreak? precedes xs).map fun (index, x) => .eventOrder index (tick x)

/-- Is the list in canonical order? -/
def isArranged (xs : List α) : Bool := Order.unbroken precedes xs

/-- The canonically first `max` elements. -/
def earliest (max : Nat) (xs : List α) : List α :=
  if max = 0 then arrange xs else (arrange xs).take max

/-- The canonically last `max` elements. -/
def latest (max : Nat) (xs : List α) : List α :=
  if max = 0 then arrange xs else (arrange xs).drop ((arrange xs).length - max)

theorem precedes_trans (a b c : α) (hab : precedes a b = true) (hbc : precedes b c = true) :
    precedes a c = true :=
  lexLe_trans _ _ _ hab hbc

theorem precedes_total (a b : α) : (precedes a b || precedes b a) = true := lexLe_total _ _

theorem arrange_perm (xs : List α) : (arrange xs).Perm xs := List.mergeSort_perm ..

@[simp] theorem length_arrange (xs : List α) : (arrange xs).length = xs.length :=
  (arrange_perm xs).length_eq

@[simp] theorem mem_arrange {x : α} {xs : List α} : x ∈ arrange xs ↔ x ∈ xs :=
  (arrange_perm xs).mem_iff

theorem pairwise_arrange (xs : List α) : (arrange xs).Pairwise fun a b => precedes a b :=
  List.pairwise_mergeSort precedes_trans precedes_total xs

theorem arrange_of_pairwise {xs : List α} (h : xs.Pairwise fun a b => precedes a b) :
    arrange xs = xs :=
  List.mergeSort_of_pairwise h

@[simp] theorem arrange_arrange (xs : List α) : arrange (arrange xs) = arrange xs :=
  arrange_of_pairwise (pairwise_arrange xs)

theorem violation?_eq_none_iff {xs : List α} : violation? xs = none ↔ isArranged xs = true := by
  rw [violation?, Option.map_eq_none_iff, isArranged, Order.unbroken_iff]

theorem isArranged_iff {xs : List α} :
    isArranged xs = true ↔ xs.Pairwise fun a b => precedes a b := by
  rw [isArranged, Order.unbroken_iff]
  exact Order.firstBreak?_eq_none_iff precedes_trans xs

theorem latest_sublist (max : Nat) (xs : List α) : (latest max xs).Sublist (arrange xs) := by
  unfold latest
  split
  · exact List.Sublist.refl _
  · exact List.drop_sublist ..

end Canonical

end Skirmish
