import Mathlib.Algebra.Group.Nat.Defs
import Mathlib.Tactic.Lemma
import Skirmish.Digest
import Skirmish.Proofs.History.Retention

/-!
# What a layout tells apart

The bytes that are hashed for a zone and its events can be read back from the front: numbers have a
fixed width, and a list comes behind its length. So two layouts are the same bytes only if they lay
out one zone, terrain apart, and the same events in some order.
-/

namespace Skirmish

/-! ### Reading back -/

/-- What was laid out, and what follows it, can be told from the bytes of both. -/
def SelfDelimiting {α : Type} (code : α → List UInt8) : Prop :=
  ∀ ⦃a b : α⦄ ⦃xs ys : List UInt8⦄, code a ++ xs = code b ++ ys → a = b ∧ xs = ys

namespace SelfDelimiting

variable {α β : Type} {code : α → List UInt8} (h : SelfDelimiting code)

include h

lemma comp {f : β → α} (inj : Function.Injective f) : SelfDelimiting fun b => code (f b) := by
  intro a b xs ys bytes
  obtain ⟨same, rest⟩ := h bytes
  exact ⟨inj same, rest⟩

lemma flatMap {as bs : List α} {xs ys : List UInt8} (length : as.length = bs.length)
    (bytes : as.flatMap code ++ xs = bs.flatMap code ++ ys) : as = bs ∧ xs = ys := by
  induction as generalizing bs with
  | nil =>
    obtain rfl := List.length_eq_zero_iff.1 length.symm
    exact ⟨rfl, bytes⟩
  | cons a as ih =>
    cases bs with
    | nil => simp at length
    | cons b bs =>
      simp only [List.flatMap_cons, List.append_assoc] at bytes
      obtain ⟨rfl, rest⟩ := h bytes
      obtain ⟨rfl, tail⟩ := ih (Nat.succ.inj length) rest
      exact ⟨rfl, tail⟩

end SelfDelimiting

/-! ### Numbers -/

lemma littleEndian_append_inj {n v w : Nat} (hv : v < 256 ^ n) (hw : w < 256 ^ n)
    {xs ys : List UInt8} (h : littleEndian n v ++ xs = littleEndian n w ++ ys) :
    v = w ∧ xs = ys := by
  induction n generalizing v w with
  | zero =>
    simp only [Nat.pow_zero, Nat.lt_one_iff] at hv hw
    subst hv hw
    exact ⟨rfl, h⟩
  | succ n ih =>
    rw [Nat.pow_succ'] at hv hw
    obtain ⟨low, rest⟩ := List.cons_eq_cons.1 h
    obtain ⟨high, tail⟩ := ih (Nat.div_lt_of_lt_mul hv) (Nat.div_lt_of_lt_mul hw) rest
    have digit : v % 256 = w % 256 := by simpa using congrArg UInt8.toNat low
    refine ⟨?_, tail⟩
    rw [← Nat.mod_add_div v 256, digit, high, Nat.mod_add_div]

/-- A list can be read back from behind its length. -/
lemma SelfDelimiting.counted {α : Type} {code : α → List UInt8} (h : SelfDelimiting code)
    {as bs : List α} {xs ys : List UInt8} (has : as.length < 2 ^ 64) (hbs : bs.length < 2 ^ 64)
    (bytes : littleEndian 8 as.length ++ (as.flatMap code ++ xs) =
      littleEndian 8 bs.length ++ (bs.flatMap code ++ ys)) : as = bs ∧ xs = ys := by
  obtain ⟨length, rest⟩ := littleEndian_append_inj has hbs bytes
  exact h.flatMap length rest

lemma selfDelimiting_byte : SelfDelimiting fun b : UInt8 => [b] := by
  intro a b xs ys h
  exact List.cons_eq_cons.1 h

lemma selfDelimiting_uint32 : SelfDelimiting fun w : UInt32 => littleEndian 4 w.toNat := by
  intro a b xs ys h
  obtain ⟨same, rest⟩ := littleEndian_append_inj a.toNat_lt b.toNat_lt h
  exact ⟨UInt32.toNat_inj.1 same, rest⟩

lemma selfDelimiting_uint64 : SelfDelimiting fun w : UInt64 => littleEndian 8 w.toNat := by
  intro a b xs ys h
  obtain ⟨same, rest⟩ := littleEndian_append_inj a.toNat_lt b.toNat_lt h
  exact ⟨UInt64.toNat_inj.1 same, rest⟩

lemma selfDelimiting_int32 : SelfDelimiting fun i : Int32 => littleEndian 4 i.toUInt32.toNat :=
  selfDelimiting_uint32.comp (Function.LeftInverse.injective Int32.toInt32_toUInt32)

lemma selfDelimiting_int64 : SelfDelimiting fun i : Int64 => littleEndian 8 i.toUInt64.toNat :=
  selfDelimiting_uint64.comp (Function.LeftInverse.injective Int64.toInt64_toUInt64)

lemma Fixed.selfDelimiting_raw :
    SelfDelimiting fun a : Fixed => littleEndian 8 a.raw.toUInt64.toNat :=
  selfDelimiting_int64.comp fun _ _ h => congrArg Fixed.mk h

lemma EntityId.selfDelimiting_index :
    SelfDelimiting fun e : EntityId => littleEndian 4 e.index :=
  selfDelimiting_uint32.comp fun _ _ h => congrArg EntityId.mk h

lemma SkillId.selfDelimiting_index :
    SelfDelimiting fun s : SkillId => littleEndian 4 s.index :=
  selfDelimiting_uint32.comp fun _ _ h => congrArg SkillId.mk h

lemma Tick.selfDelimiting_index : SelfDelimiting fun t : Tick => littleEndian 8 t.index :=
  selfDelimiting_uint64.comp fun _ _ h => congrArg Tick.mk h

/-! ### Entities and events -/

lemma Entity.selfDelimiting_layout : SelfDelimiting layout := by
  intro a b xs ys h
  simp only [layout, List.append_assoc] at h
  obtain ⟨id, h⟩ := EntityId.selfDelimiting_index h
  obtain ⟨health, h⟩ := selfDelimiting_int32 h
  obtain ⟨maxHealth, h⟩ := selfDelimiting_int32 h
  obtain ⟨alive, h⟩ := selfDelimiting_byte h
  obtain ⟨x, h⟩ := Fixed.selfDelimiting_raw h
  obtain ⟨y, h⟩ := Fixed.selfDelimiting_raw h
  refine ⟨?_, h⟩
  have flag : a.alive = b.alive := by
    cases ha : a.alive <;> cases hb : b.alive <;> simp [ha, hb] at alive ⊢
  change (⟨a.id, a.health, a.maxHealth, a.alive, ⟨a.position.x, a.position.y⟩⟩ : Entity) = b
  rw [id, health, maxHealth, flag, x, y]

lemma Event.selfDelimiting_layout : SelfDelimiting layout := by
  intro a b xs ys h
  simp only [layout, List.append_assoc] at h
  obtain ⟨tick, h⟩ := Tick.selfDelimiting_index h
  obtain ⟨source, h⟩ := EntityId.selfDelimiting_index h
  obtain ⟨target, h⟩ := EntityId.selfDelimiting_index h
  obtain ⟨skill, h⟩ := SkillId.selfDelimiting_index h
  obtain ⟨kind, h⟩ := selfDelimiting_byte h
  obtain ⟨amount, h⟩ := selfDelimiting_int32 h
  refine ⟨?_, h⟩
  rw [← key_inj, key, key, tick, source, target, skill, kind, amount]

/-! ### Zones -/

/-- Two lists of events have one canonical order exactly if they are the same events in some
order. -/
lemma Event.arrange_eq_iff {es es' : List Event} :
    Canonical.arrange es = Canonical.arrange es' ↔ es.Perm es' := by
  constructor
  · intro h
    exact (Canonical.arrange_perm es).symm.trans (h ▸ Canonical.arrange_perm es')
  · exact Canonical.arrange_perm_eq key_injective

/-- The bytes that are hashed are the same exactly for one identifier of the zone, the same entities
in all of their fields, and the same events in some order. -/
theorem Zone.layout_eq_iff {z z' : Zone} {es es' : List Event}
    (hz : z.entities.length < 2 ^ 64) (hz' : z'.entities.length < 2 ^ 64)
    (hes : es.length < 2 ^ 64) (hes' : es'.length < 2 ^ 64) :
    z.layout es = z'.layout es' ↔ z.id = z'.id ∧ z.entities = z'.entities ∧ es.Perm es' := by
  rw [← Canonical.length_arrange] at hes hes'
  rw [← Event.arrange_eq_iff]
  constructor
  · intro h
    simp only [layout, List.append_assoc, ← Canonical.length_arrange es,
      ← Canonical.length_arrange es'] at h
    obtain ⟨id, h⟩ := selfDelimiting_uint32 h
    obtain ⟨entities, h⟩ := Entity.selfDelimiting_layout.counted hz hz' h
    rw [← List.append_nil (List.flatMap _ (Canonical.arrange es)),
      ← List.append_nil (List.flatMap _ (Canonical.arrange es'))] at h
    obtain ⟨events, -⟩ := Event.selfDelimiting_layout.counted hes hes' h
    exact ⟨congrArg ZoneId.mk id, entities, events⟩
  · rintro ⟨id, entities, events⟩
    rw [layout, layout, ← Canonical.length_arrange es, ← Canonical.length_arrange es', id, entities,
      events]

/-- The order of two events does not show in the layout, and which events they are does. -/
theorem Zone.layout_eq_iff_reordered :
    let z : Zone := ⟨⟨1⟩, [.fresh ⟨1⟩ 100 .zero, .fresh ⟨2⟩ 100 .zero], .field⟩
    let jab : Event := ⟨⟨0⟩, ⟨1⟩, ⟨2⟩, ⟨1⟩, .damage, 30⟩
    let swing : Event := ⟨⟨0⟩, ⟨2⟩, ⟨1⟩, ⟨2⟩, .damage, 80⟩
    z.layout [swing, jab] = z.layout [jab, swing] ∧
      z.layout [swing, jab] ≠ z.layout [jab, jab] := by
  intro z jab swing
  have entities : z.entities.length < 2 ^ 64 := by decide
  have pair (a b : Event) : [a, b].length < 2 ^ 64 := by simp
  refine ⟨(layout_eq_iff entities entities (pair _ _) (pair _ _)).2 ⟨rfl, rfl, .swap ..⟩, ?_⟩
  intro same
  have events := ((layout_eq_iff entities entities (pair _ _) (pair _ _)).1 same).2.2
  exact absurd (events.mem_iff.1 (List.mem_cons_self ..)) (by decide)

end Skirmish
