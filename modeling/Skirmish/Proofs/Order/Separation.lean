import Mathlib.Tactic.Lemma
import Skirmish.Cast

/-!
# Telling elements apart

At most one element of a list can be chosen if no two choices may stand in a relation in which all
elements stand. Where no two different elements of a list share a key, its canonical order does not
depend on the order in which the elements stand. The key of an intent holds the number of its aim,
so it tells intents apart as long as each aim is the one that its number stands for.
-/

namespace Skirmish

lemma length_filter_le_one {α : Type} {R : α → α → Prop} {xs : List α} (h : xs.Pairwise R)
    {p : α → Bool} (never : ∀ a b, p a = true → p b = true → ¬R a b) :
    (xs.filter p).length ≤ 1 := by
  have chosen : ∀ a ∈ xs.filter p, p a = true := fun a ha => (List.mem_filter.1 ha).2
  have related := h.filter p
  match hxs : xs.filter p with
  | [] => simp
  | [_] => simp
  | a :: b :: rest =>
    rw [hxs] at chosen related
    have hab := (List.pairwise_cons.1 related).1 b (List.mem_cons_self ..)
    have ha := chosen a (List.mem_cons_self ..)
    have hb := chosen b (List.mem_cons_of_mem a (List.mem_cons_self ..))
    exact absurd hab (never a b ha hb)

/-! ### Sorting by a key -/

namespace Canonical

variable {α : Type} [Canonical α]

/-- No two different elements of the list share a key. -/
def Separates (xs : List α) : Prop := ∀ a ∈ xs, ∀ b ∈ xs, key a = key b → a = b

lemma key_eq_of_precedes {a b : α} (hab : precedes a b = true) (hba : precedes b a = true) :
    key a = key b :=
  lexLe_antisymm (key a) (key b) hab hba

/-- The canonical order of separated elements depends on which elements there are, not on how they
stand. -/
theorem arrange_eq_of_perm {xs ys : List α} (h : xs.Perm ys) (separates : Separates xs) :
    arrange xs = arrange ys := by
  have same : (arrange xs).Perm (arrange ys) :=
    (arrange_perm xs).trans (h.trans (arrange_perm ys).symm)
  refine same.eq_of_pairwise ?_ (pairwise_arrange xs) (pairwise_arrange ys)
  intro a b ha hb hab hba
  rw [mem_arrange] at ha hb
  exact separates a ha b (h.mem_iff.2 hb) (key_eq_of_precedes hab hba)

lemma Separates.filter {xs : List α} (h : Separates xs) (p : α → Bool) :
    Separates (xs.filter p) := by
  intro a ha b hb
  exact h a (List.mem_filter.1 ha).1 b (List.mem_filter.1 hb).1

/-- Elements that the key tells apart among those chosen may be chosen before or after all are put
in canonical order. -/
lemma filter_arrange {xs : List α} {p : α → Bool} (separates : Separates (xs.filter p)) :
    (arrange xs).filter p = arrange (xs.filter p) := by
  have chosen : (arrange xs).filter p = arrange ((arrange xs).filter p) :=
    (arrange_of_pairwise ((pairwise_arrange xs).filter p)).symm
  have same : ((arrange xs).filter p).Perm (xs.filter p) := (arrange_perm xs).filter p
  rw [chosen]
  apply arrange_eq_of_perm same
  intro a ha b hb
  exact separates a (same.mem_iff.1 ha) b (same.mem_iff.1 hb)

end Canonical

/-! ### Intents -/

/-- Is the aim the one that its number stands for? -/
def Aim.Faithful (a : Aim) : Prop := ofCode a.code = a

lemma Aim.faithful_ofCode (code : UInt8) : (ofCode code).Faithful := by
  rw [Faithful, code_ofCode]

lemma Intent.separates_of_faithful {is : List Intent} (h : ∀ i ∈ is, i.aim.Faithful) :
    Canonical.Separates is := by
  intro a ha b hb hab
  obtain ⟨codes, rest⟩ := key_eq_iff.1 hab
  have aims : a.aim = b.aim := by
    rw [← h a ha, ← h b hb, codes]
  rw [← rest, ← aims]

end Skirmish
