import Skirmish.Proofs.Ledger.Soundness
import Skirmish.Proofs.Zone.Account

/-!
# Whom a ledger mentions

A ledger mentions the owners of its standings and the sources of threat against them. Recording a
tick adds the casters and those whom entries name; forgetting an entity takes out every mention of
it, and of nobody else; time passing adds none.
-/

namespace Skirmish

/-- Does the standing mention the entity, as its owner or as a source of threat? -/
def Standing.Mentions (s : Standing) (id : EntityId) : Prop :=
  s.entity = id ∨ ∃ t ∈ s.threats.entries, t.source = id

namespace Ledger

/-- Does a standing of the ledger mention the entity? -/
def Mentions (l : Ledger) (id : EntityId) : Prop := ∃ s ∈ l.standings, s.Mentions id

variable {l : Ledger} {id : EntityId}

lemma not_mentions_empty : ¬empty.Mentions id := by simp [Mentions, empty]

/-! ### Recording -/

lemma mentions_standing {entity : EntityId} (h : (l.standing entity).Mentions id) :
    id = entity ∨ l.Mentions id := by
  rw [standing] at h
  cases hs : l.standing? entity with
  | none =>
    rw [hs] at h
    rcases h with owner | ⟨t, ht, -⟩
    · exact .inl owner.symm
    · simp [Standing.blank, Threats.empty] at ht
  | some s =>
    rw [hs] at h
    exact .inr ⟨s, Keyed.mem_of_find? hs, h⟩

lemma mentions_update {entity : EntityId} {change : Standing → Standing}
    (h : (l.update entity change).Mentions id) :
    l.Mentions id ∨ (change (l.standing entity)).Mentions id := by
  obtain ⟨s, hs, mentions⟩ := h
  simp only [update] at hs
  split at hs
  · exact .inl ⟨s, Keyed.mem_of_mem_drop hs, mentions⟩
  · rcases Keyed.mem_put hs with rfl | hs
    · exact .inr mentions
    · exact .inl ⟨s, hs, mentions⟩

lemma mentions_recordCast {rules : Rules} {i : Intent}
    (h : (recordCast rules l i).Mentions id) : l.Mentions id ∨ id = i.caster := by
  rw [recordCast] at h
  split at h
  · exact .inl h
  · split at h
    · rcases mentions_update h with old | new
      · exact .inl old
      · -- starting a cooldown leaves the owner and the threat of a standing alone
        have same : (l.standing i.caster).Mentions id := new
        exact (mentions_standing same).symm
    · exact .inl h

lemma source_of_mem_add {t : Threats} {source : EntityId} {amount : Int} {tick : Tick} {e : Threat}
    (h : e ∈ (t.add source amount tick).entries) : e.source = source ∨ e ∈ t.entries := by
  rw [Threats.add] at h
  split at h
  · exact .inr h
  · rcases Keyed.mem_put h with rfl | h
    · exact .inl rfl
    · exact .inr h

lemma mentions_recordEntry {rules : Rules} {tick : Tick} {x : LogEntry}
    (h : (recordEntry rules tick l x).Mentions id) :
    l.Mentions id ∨ id = x.target ∨ id = x.source := by
  simp only [recordEntry] at h
  split at h
  · rcases mentions_update h with old | owner | ⟨t, ht, source⟩
    · exact .inl old
    · exact .inr (.inl (owner.symm.trans (entity_standing l x.target)))
    · rcases source_of_mem_add ht with new | ht
      · exact .inr (.inr (source.symm.trans new))
      · have drawn : (l.standing x.target).Mentions id := .inr ⟨t, ht, source⟩
        rcases mentions_standing drawn with owner | old
        · exact .inr (.inl owner)
        · exact .inl old
  · exact .inl h

/-- What each step brings in makes up what a whole list of them brings in. -/
lemma mentions_foldl {β : Type} {f : Ledger → β → Ledger} {named : β → Prop}
    (step : ∀ l x, (f l x).Mentions id → l.Mentions id ∨ named x) {xs : List β}
    (h : (xs.foldl f l).Mentions id) : l.Mentions id ∨ ∃ x ∈ xs, named x := by
  induction xs generalizing l with
  | nil => exact .inl h
  | cons x xs ih =>
    rcases ih h with before | ⟨y, hy, later⟩
    · rcases step l x before with old | new
      · exact .inl old
      · exact .inr ⟨x, List.mem_cons_self .., new⟩
    · exact .inr ⟨y, List.mem_cons_of_mem x hy, later⟩

/-- Recording a tick brings in the casters, and those whom the entries name. -/
lemma mentions_record {rules : Rules} {tick : Tick} {casts : List Intent} {xs : List LogEntry}
    (h : (l.record rules tick casts xs).Mentions id) :
    l.Mentions id ∨ (∃ i ∈ casts, id = i.caster) ∨
      ∃ x ∈ xs, id = x.target ∨ id = x.source := by
  have entries : ∀ l x, (recordEntry rules tick l x).Mentions id →
      l.Mentions id ∨ id = x.target ∨ id = x.source := fun _ _ => mentions_recordEntry
  have recorded : ∀ l i, (recordCast rules l i).Mentions id → l.Mentions id ∨ id = i.caster :=
    fun _ _ => mentions_recordCast
  rcases mentions_foldl entries h with before | named
  · rcases mentions_foldl recorded before with old | cast
    · exact .inl old
    · exact .inr (.inl cast)
  · exact .inr (.inr named)

/-! ### Forgetting -/

/-- Nobody mentioned after an entity was forgotten is that entity, or was not mentioned before. -/
lemma mentions_forget (sound : l.Sound) {entity : EntityId} (h : (l.forget entity).Mentions id) :
    l.Mentions id ∧ id ≠ entity := by
  obtain ⟨s, hs, mentions⟩ := h
  obtain ⟨s', hs', rfl⟩ := List.mem_map.1 (List.mem_filter.1 hs).1
  have threats := (sound.standings s' (Keyed.mem_of_mem_drop hs')).threats
  rcases mentions with owner | ⟨t, ht, source⟩
  · refine ⟨⟨s', Keyed.mem_of_mem_drop hs', .inl owner⟩, ?_⟩
    rintro rfl
    exact Keyed.key_ne_of_mem_drop sound.ascending hs' (congrArg EntityId.index owner)
  · refine ⟨⟨s', Keyed.mem_of_mem_drop hs', .inr ⟨t, Keyed.mem_of_mem_drop ht, source⟩⟩, ?_⟩
    rintro rfl
    exact Keyed.key_ne_of_mem_drop threats.ascending ht (congrArg EntityId.index source)

lemma mentions_forget_targets (sound : l.Sound) {ks : List LogEntry}
    (h : (ks.foldl (fun l k => l.forget k.target) l).Mentions id) :
    l.Mentions id ∧ ∀ k ∈ ks, id ≠ k.target := by
  induction ks generalizing l with
  | nil => exact ⟨h, by simp⟩
  | cons k ks ih =>
    obtain ⟨left, others⟩ := ih (sound.forget k.target) h
    obtain ⟨before, other⟩ := mentions_forget sound left
    refine ⟨before, ?_⟩
    intro k' hk'
    rcases List.mem_cons.1 hk' with rfl | hk'
    · exact other
    · exact others k' hk'

/-- Nobody mentioned after the burial of the killed is among them. -/
lemma mentions_bury (sound : l.Sound) {xs : List LogEntry}
    (h : (Encounter.bury l xs).Mentions id) : l.Mentions id ∧ ¬LogEntry.Slain id xs := by
  obtain ⟨before, others⟩ := mentions_forget_targets sound h
  refine ⟨before, ?_⟩
  rintro ⟨x, hx, kill, rfl⟩
  exact others x (List.mem_filter.2 ⟨hx, kill⟩) rfl

/-! ### Time -/

lemma mentions_tick (h : l.tick.Mentions id) : l.Mentions id := by
  obtain ⟨s, hs, mentions⟩ := h
  obtain ⟨s', hs', rfl⟩ := List.mem_map.1 (List.mem_filter.1 hs).1
  exact ⟨s', hs', mentions⟩

end Ledger

end Skirmish
