import Mathlib.Algebra.BigOperators.Group.List.Basic
import Mathlib.Algebra.Ring.Int.Defs
import Skirmish.Event
import Skirmish.Proofs.Order.Separation
import Skirmish.Proofs.Zone.Living

/-!
# Accounts

Log entries account for what became of an entity if its health fell by what they say it lost, if it
died exactly when they tell of a kill, and if they are silent about it once it is dead. They account
for what became of a zone if they do so for each of its entities, and nothing else changed. Accounts
of two stretches of time, one after the other, make up an account of both.
-/

namespace Skirmish

namespace LogEntry

/-- How much health the entity lost by the entries. -/
def lost (id : EntityId) (xs : List LogEntry) : Int :=
  ((xs.filter fun x => x.isDamage && x.target = id).map (·.finalAmount.toInt)).sum

/-- The kills of the entity among the entries. -/
def kills (id : EntityId) (xs : List LogEntry) : List LogEntry :=
  xs.filter fun x => x.isKill && x.target = id

/-- Do the entries tell of a kill of the entity? -/
def Slain (id : EntityId) (xs : List LogEntry) : Prop :=
  ∃ x ∈ xs, x.isKill = true ∧ x.target = id

instance (id : EntityId) (xs : List LogEntry) : Decidable (Slain id xs) :=
  inferInstanceAs (Decidable (∃ x ∈ xs, _ ∧ _))

/-- Once the entries have told of a kill of the entity, they are silent about it. -/
def SilentOnceSlain (id : EntityId) (xs : List LogEntry) : Prop :=
  xs.Pairwise fun k x => k.isKill = true → k.target = id → x.target ≠ id

lemma lost_append (id : EntityId) (xs ys : List LogEntry) :
    lost id (xs ++ ys) = lost id xs + lost id ys := by
  simp [lost]

lemma slain_append {id : EntityId} {xs ys : List LogEntry} :
    Slain id (xs ++ ys) ↔ Slain id xs ∨ Slain id ys := by
  simp [Slain, or_and_right, exists_or]

lemma lost_of_forall_ne {id : EntityId} {xs : List LogEntry} (h : ∀ x ∈ xs, x.target ≠ id) :
    lost id xs = 0 := by
  have none : (xs.filter fun x => x.isDamage && x.target = id) = [] := by
    rw [List.filter_eq_nil_iff]
    intro x hx
    simp [h x hx]
  rw [lost, none, List.map_nil, List.sum_nil]

lemma not_slain_of_forall_ne {id : EntityId} {xs : List LogEntry}
    (h : ∀ x ∈ xs, x.target ≠ id) : ¬Slain id xs := by
  rintro ⟨x, hx, -, target⟩
  exact h x hx target

/-- Where entries are silent about the slain, nobody is killed twice. -/
lemma length_kills_le_one {id : EntityId} {xs : List LogEntry} (h : SilentOnceSlain id xs) :
    (kills id xs).length ≤ 1 := by
  apply length_filter_le_one h
  intro k x hk hx silent
  simp only [Bool.and_eq_true, decide_eq_true_eq] at hk hx
  exact silent hk.1 hk.2 hx.2

end LogEntry

open LogEntry

/-! ### One entity -/

/-- The entries account for what became of the entity. -/
structure Entity.Account (e : Entity) (xs : List LogEntry) (e' : Entity) : Prop where
  id : e'.id = e.id
  position : e'.position = e.position
  maxHealth : e'.maxHealth = e.maxHealth
  health : e'.health.toInt = e.health.toInt - lost e.id xs
  alive : e'.alive = true ↔ e.alive = true ∧ ¬Slain e.id xs
  silent : SilentOnceSlain e.id xs
  dead : e.alive = false → ∀ x ∈ xs, x.target ≠ e.id

namespace Entity.Account

/-- Entries that are silent about an entity account for its staying as it is. -/
lemma of_forall_ne {e : Entity} {xs : List LogEntry} (h : ∀ x ∈ xs, x.target ≠ e.id) :
    e.Account xs e where
  id := rfl
  position := rfl
  maxHealth := rfl
  health := by simp [lost_of_forall_ne h]
  alive := by simp [not_slain_of_forall_ne h]
  silent := List.pairwise_of_forall_mem_list fun _ _ x hx _ _ => h x hx
  dead := fun _ => h

lemma trans {e e' e'' : Entity} {xs ys : List LogEntry} (h : e.Account xs e')
    (h' : e'.Account ys e'') : e.Account (xs ++ ys) e'' where
  id := h'.id.trans h.id
  position := h'.position.trans h.position
  maxHealth := h'.maxHealth.trans h.maxHealth
  health := by
    have first := h.health
    have second := h'.health
    rw [h.id] at second
    rw [lost_append]
    omega
  alive := by
    rw [h'.alive, h.alive, h.id, slain_append, not_or, and_assoc]
  silent := by
    refine List.pairwise_append.2 ⟨h.silent, h.id ▸ h'.silent, ?_⟩
    intro k hk x hx kill target
    -- killed in the first stretch, the entity is dead throughout the second
    have dead : e'.alive = false := by
      rw [Bool.eq_false_iff, ne_eq, h.alive]
      intro alive
      exact alive.2 ⟨k, hk, kill, target⟩
    exact h.id ▸ h'.dead dead x hx
  dead := by
    intro dead x hx
    have dead' : e'.alive = false := by
      rw [Bool.eq_false_iff, ne_eq, h.alive, dead]
      simp
    rcases List.mem_append.1 hx with hx | hx
    · exact h.dead dead x hx
    · exact h.id ▸ h'.dead dead' x hx

end Entity.Account

/-! ### A whole zone -/

/-- The entries account for what became of the zone. -/
structure Zone.Account (z : Zone) (xs : List LogEntry) (z' : Zone) : Prop where
  id : z'.id = z.id
  terrain : z'.terrain = z.terrain
  ids : z'.entities.map (·.id) = z.entities.map (·.id)
  entity : ∀ id e, z.entity? id = some e → ∃ e', z'.entity? id = some e' ∧ e.Account xs e'

namespace Zone.Account

/-- Nothing happened, and nothing is told. -/
lemma refl (z : Zone) : z.Account [] z where
  id := rfl
  terrain := rfl
  ids := rfl
  entity := fun _ e he => ⟨e, he, .of_forall_ne (by simp)⟩

lemma trans {z z' z'' : Zone} {xs ys : List LogEntry} (h : z.Account xs z')
    (h' : z'.Account ys z'') : z.Account (xs ++ ys) z'' where
  id := h'.id.trans h.id
  terrain := h'.terrain.trans h.terrain
  ids := h'.ids.trans h.ids
  entity := by
    intro id e he
    obtain ⟨e', he', account⟩ := h.entity id e he
    obtain ⟨e'', he'', account'⟩ := h'.entity id e' he'
    exact ⟨e'', he'', account.trans account'⟩

/-- Nobody comes back to life, and only those die of whose kill the entries tell. -/
lemma living {z z' : Zone} {xs : List LogEntry} (h : z.Account xs z') {id : EntityId} :
    z'.Living id ↔ z.Living id ∧ ¬Slain id xs := by
  constructor
  · rintro ⟨e', he', alive⟩
    have mem : id ∈ z'.entities.map (·.id) := mem_ids_iff.2 ⟨e', he'⟩
    rw [h.ids] at mem
    obtain ⟨e, he⟩ := mem_ids_iff.1 mem
    obtain ⟨e'', he'', account⟩ := h.entity id e he
    obtain rfl : e' = e'' := Option.some.inj (he'.symm.trans he'')
    rw [account.alive, id_of_entity? he] at alive
    exact ⟨⟨e, he, alive.1⟩, alive.2⟩
  · rintro ⟨⟨e, he, alive⟩, survived⟩
    obtain ⟨e', he', account⟩ := h.entity id e he
    refine ⟨e', he', account.alive.2 ⟨alive, ?_⟩⟩
    rwa [id_of_entity? he]

end Zone.Account

end Skirmish
