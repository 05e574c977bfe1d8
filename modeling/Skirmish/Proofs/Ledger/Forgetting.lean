import Skirmish.Proofs.Ledger.Soundness

/-!
# Forgetting is filtering

To forget an entity, its standing and its entry in each table of threat are looked for and taken out.
This leaves what filters leave that name nobody but the entity: everything else is kept, in its
order, except for standings that end up idle. So entities may be forgotten in any order, and more than
once.
-/

namespace Skirmish

/-! ### What stays when some are gone -/

/-- The threat that others than those gone have drawn. -/
def Threats.without (gone : EntityId → Bool) (t : Threats) : Threats :=
  ⟨t.entries.filter fun e => !gone e.source⟩

/-- The standing without the threat of those gone. -/
def Standing.without (gone : EntityId → Bool) (s : Standing) : Standing :=
  { s with threats := s.threats.without gone }

/-- The standings of others than those gone, without the threat of those gone, as far as that leaves
them a skill to wait for or threat drawn. -/
def Ledger.without (gone : EntityId → Bool) (l : Ledger) : Ledger :=
  ⟨((l.standings.filter fun s => !gone s.entity).map (·.without gone)).filter (!·.isIdle)⟩

namespace Standing

variable (gone gone' : EntityId → Bool) (s : Standing)

@[simp] lemma entity_without : (s.without gone).entity = s.entity := rfl

lemma without_without :
    (s.without gone).without gone' = s.without fun id => gone id || gone' id := by
  simp [without, Threats.without, List.filter_filter, Bool.and_comm]

/-- A standing that has nothing left does not get anything back when more are gone. -/
lemma isIdle_without {s : Standing} (idle : s.isIdle = true) :
    (s.without gone).isIdle = true := by
  rw [isIdle, Bool.and_eq_true] at idle ⊢
  refine ⟨idle.1, ?_⟩
  have nobody : s.threats.entries = [] := by simpa [Threats.isEmpty] using idle.2
  simp [without, Threats.without, Threats.isEmpty, nobody]

end Standing

/-- Taking out some entities and then others is taking out all of them at once. -/
lemma Ledger.without_without (l : Ledger) (gone gone' : EntityId → Bool) :
    (l.without gone).without gone' = l.without fun id => gone id || gone' id := by
  simp only [without, List.filter_map, List.filter_filter, List.map_map, Function.comp_def,
    Standing.without_without, Standing.entity_without]
  congr 2
  apply List.filter_congr
  intro s _
  cases idle : (s.without gone).isIdle with
  | false => simp [Bool.and_comm]
  | true => simp [← Standing.without_without, Standing.isIdle_without gone' idle]

/-! ### One entity -/

namespace Threats

variable {t : Threats} {source : EntityId}

/-- An attacker is taken out at its place among all of them. -/
lemma drop_eq_removeAt (t : Threats) (source : EntityId) :
    t.drop source = match t.position? source with
      | some index => t.removeAt index
      | none => t := by
  rw [drop, Keyed.drop, List.eraseP_eq_eraseIdx, position?, Keyed.position?]
  cases t.entries.findIdx? (Keyed.key · = source.index) <;> rfl

lemma drop_eq_without (sound : t.Sound) : t.drop source = t.without (· = source) := by
  rw [drop, Keyed.drop_eq_filter sound.ascending]
  simp [without, Keyed.key, EntityId.index_inj]

end Threats

namespace Ledger

variable {l : Ledger}

lemma forget_eq_without (sound : l.Sound) (entity : EntityId) :
    l.forget entity = l.without (· = entity) := by
  have others : Keyed.drop entity.index l.standings =
      l.standings.filter fun s => !decide (s.entity = entity) := by
    rw [Keyed.drop_eq_filter sound.ascending]
    simp [Keyed.key, EntityId.index_inj]
  rw [forget, without, others]
  congr 2
  apply List.map_congr_left
  intro s hs
  have threats := (sound.standings s (List.mem_filter.1 hs).1).threats
  rw [Threats.drop_eq_without threats]
  rfl

/-! ### Any number of entities -/

lemma foldl_forget_eq_without (sound : l.Sound) {ids : List EntityId} (somebody : ids ≠ []) :
    ids.foldl forget l = l.without (· ∈ ids) := by
  induction ids generalizing l with
  | nil => exact absurd rfl somebody
  | cons id ids ih =>
    cases ids with
    | nil => simp [forget_eq_without sound]
    | cons next ids =>
      rw [List.foldl_cons, ih (sound.forget id) (List.cons_ne_nil next ids), forget_eq_without sound,
        without_without]
      simp [Bool.decide_or]

/-- It matters who is forgotten, but not in which order, nor how often. -/
lemma foldl_forget_congr (sound : l.Sound) {ids ids' : List EntityId}
    (same : ∀ id, id ∈ ids ↔ id ∈ ids') : ids.foldl forget l = ids'.foldl forget l := by
  by_cases nobody : ids = []
  · have nobody' : ids' = [] := by
      rw [List.eq_nil_iff_forall_not_mem]
      intro id hid
      simpa [nobody] using (same id).2 hid
    rw [nobody, nobody']
  · have somebody : ids' ≠ [] := by
      rintro rfl
      exact nobody (List.eq_nil_iff_forall_not_mem.2 fun id hid => by simpa using (same id).1 hid)
    rw [foldl_forget_eq_without sound nobody, foldl_forget_eq_without sound somebody]
    simp only [same]

/-- Forgetting an entity takes out every trace of it, and nothing else. The standings of all others
stay in their order with the same cooldowns and without the entity's threat, except for those that
this leaves idle; the threat is found and taken out by its place. The ledger goes on passing its
check. Forgetting the entity again changes nothing, and forgetting several takes out the traces of all
of them, in whatever order and however often each is forgotten. -/
theorem forget_traceless {l : Ledger} (passes : l.violation? = none) (entity : EntityId) :
    l.forget entity = l.without (· = entity) ∧
    (∀ s ∈ l.standings, s.threats.without (· = entity) = match s.threats.position? entity with
      | some index => s.threats.removeAt index
      | none => s.threats) ∧
    (l.forget entity).violation? = none ∧
    (l.forget entity).forget entity = l.forget entity ∧
    (∀ ids, ids ≠ [] → ids.foldl forget l = l.without (· ∈ ids)) ∧
    ∀ ids ids' : List EntityId, (∀ id, id ∈ ids ↔ id ∈ ids') →
      ids.foldl forget l = ids'.foldl forget l := by
  have sound := sound_iff.1 passes
  refine ⟨forget_eq_without sound entity, ?_, sound_iff.2 (sound.forget entity), ?_,
    fun _ => foldl_forget_eq_without sound, fun _ _ => foldl_forget_congr sound⟩
  · intro s hs
    rw [← Threats.drop_eq_without (sound.standings s hs).threats, Threats.drop_eq_removeAt]
  · have twice : [entity, entity].foldl forget l = [entity].foldl forget l :=
      foldl_forget_congr sound (by simp)
    exact twice

/-- A defender has nothing left once both of its attackers are gone, another keeps the one in
between, and an attacker waits for its skill no more. -/
theorem forget_traceless_pair :
    let l : Ledger :=
      ⟨[⟨⟨2⟩, .empty, ⟨[⟨⟨5⟩, 10, ⟨1⟩⟩, ⟨⟨7⟩, 20, ⟨1⟩⟩]⟩⟩,
        ⟨⟨3⟩, ⟨[⟨⟨1⟩, 4⟩]⟩, ⟨[⟨⟨5⟩, 30, ⟨1⟩⟩, ⟨⟨6⟩, 40, ⟨2⟩⟩, ⟨⟨7⟩, 50, ⟨3⟩⟩]⟩⟩,
        ⟨⟨5⟩, ⟨[⟨⟨1⟩, 2⟩]⟩, .empty⟩, .blank ⟨8⟩]⟩
    l.violation? = none ∧
      (l.forget ⟨5⟩).standings = [⟨⟨2⟩, .empty, ⟨[⟨⟨7⟩, 20, ⟨1⟩⟩]⟩⟩,
        ⟨⟨3⟩, ⟨[⟨⟨1⟩, 4⟩]⟩, ⟨[⟨⟨6⟩, 40, ⟨2⟩⟩, ⟨⟨7⟩, 50, ⟨3⟩⟩]⟩⟩] ∧
      ((l.forget ⟨7⟩).forget ⟨5⟩).standings = [⟨⟨3⟩, ⟨[⟨⟨1⟩, 4⟩]⟩, ⟨[⟨⟨6⟩, 40, ⟨2⟩⟩]⟩⟩] ∧
      ((l.forget ⟨5⟩).forget ⟨7⟩).forget ⟨5⟩ = (l.forget ⟨7⟩).forget ⟨5⟩ := by
  intro l
  have passes : l.violation? = none := by decide
  obtain ⟨one, -, -, -, several, any⟩ := forget_traceless passes ⟨5⟩
  refine ⟨passes, ?_, ?_, any [⟨5⟩, ⟨7⟩, ⟨5⟩] [⟨7⟩, ⟨5⟩] (by simp [or_comm])⟩
  · rw [one]
    rfl
  · change ([⟨7⟩, ⟨5⟩].foldl forget l).standings = _
    rw [several [⟨7⟩, ⟨5⟩] (by simp)]
    rfl

end Ledger

end Skirmish
