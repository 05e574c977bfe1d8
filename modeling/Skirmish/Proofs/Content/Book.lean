import Skirmish.Proofs.Content.Range
import Skirmish.Proofs.Order.Sorting

/-!
# Books of skills

Skills make a book that can be used if no two of them share an identifier and none has a negative
range. Such a book has each of them under its identifier, in whatever order they came. Of any other
book the check names the smallest identifier at fault, and one that repeats before one with a
negative range.
-/

namespace Skirmish

/-- Is this the smallest of the identifiers for which something holds? -/
def SkillId.Least (p : SkillId → Prop) (id : SkillId) : Prop :=
  p id ∧ ∀ id', p id' → id.index ≤ id'.index

lemma SkillId.Least.unique {p : SkillId → Prop} {a b : SkillId} (ha : Least p a) (hb : Least p b) :
    a = b :=
  SkillId.index_inj.1 (Nat.le_antisymm (ha.2 b hb.1) (hb.2 a ha.1))

namespace Skillbook

open SkillId (Least)

variable {ss : List Skill} {id : SkillId}

/-- Does more than one of the skills have the identifier? -/
def Repeats (ss : List Skill) (id : SkillId) : Prop := 2 ≤ (ss.map (·.id)).count id

/-- Does a skill of this identifier have a negative range? -/
def Negative (ss : List Skill) (id : SkillId) : Prop := ∃ s ∈ ss, s.id = id ∧ s.range.units < 0

instance (ss : List Skill) (id : SkillId) : Decidable (Repeats ss id) :=
  inferInstanceAs (Decidable (2 ≤ _))

/-! ### Identifiers as keys -/

lemma index_injective : Function.Injective SkillId.index := fun _ _ => SkillId.index_inj.1

lemma map_key (ss : List Skill) : ss.map Keyed.key = (ss.map (·.id)).map SkillId.index := by
  rw [List.map_map]
  rfl

lemma nodup_keys_iff : (ss.map Keyed.key).Nodup ↔ (ss.map (·.id)).Nodup := by
  rw [map_key, List.nodup_map_iff index_injective]

lemma repeats_iff : Keyed.Repeats (Keyed.sort ss) id.index ↔ Repeats ss id := by
  rw [Keyed.repeats_congr (Keyed.sort_perm ss), Keyed.Repeats, map_key,
    List.count_map_of_injective _ _ index_injective, Repeats]

lemma ids_differ_eq :
    (fun s t : Skill => decide (s.id ≠ t.id)) = fun s t => decide (Keyed.key s ≠ Keyed.key t) := by
  funext s t
  simp [Keyed.key, SkillId.index_inj]

/-! ### What the check finds -/

lemma least_of_firstBreak? {j : Nat} {s : Skill}
    (found : Order.firstBreak? (fun s t : Skill => s.id ≠ t.id) (ofList ss).skills = some (j, s)) :
    Least (Repeats ss) s.id := by
  rw [ids_differ_eq] at found
  obtain ⟨repeats, least⟩ := (Keyed.sorted_sort ss).isLeast_of_breakFrom found
  exact ⟨repeats_iff.1 repeats, fun id h => least (repeats_iff.2 h)⟩

lemma nodup_of_firstBreak?
    (whole : Order.firstBreak? (fun s t : Skill => s.id ≠ t.id) (ofList ss).skills = none) :
    (ss.map (·.id)).Nodup := by
  rw [ids_differ_eq] at whole
  have unique := (Keyed.sorted_sort ss).nodup_of_breakFrom whole
  rwa [((Keyed.sort_perm ss).map _).nodup_iff, nodup_keys_iff] at unique

lemma least_of_find? {s : Skill}
    (found : ((ofList ss).skills.find? fun s => s.range.units < 0) = some s) :
    Least (Negative ss) s.id := by
  have here := Keyed.mem_sort.1 (List.mem_of_find?_eq_some found)
  refine ⟨⟨s, here, rfl, by simpa using List.find?_some found⟩, ?_⟩
  rintro _ ⟨t, ht, rfl, negative⟩
  exact (Keyed.sorted_sort ss).key_le_of_find? found (Keyed.mem_sort.2 ht) (by simpa using negative)

/-- What a check of the skills has to find: the smallest identifier that repeats, or else the
smallest with a negative range, or else nothing. -/
def Finds (ss : List Skill) : Option RulesFault → Prop
  | some (.duplicateSkill id) => Least (Repeats ss) id
  | some (.negativeRange id) => (ss.map (·.id)).Nodup ∧ Least (Negative ss) id
  | none => (ss.map (·.id)).Nodup ∧ ∀ s ∈ ss, 0 ≤ s.range.units

lemma finds_fault? (ss : List Skill) : Finds ss (ofList ss).fault? := by
  rw [fault?]
  cases twins : Order.firstBreak? (fun s t : Skill => s.id ≠ t.id) (ofList ss).skills with
  | some found => exact least_of_firstBreak? twins
  | none =>
    have unique := nodup_of_firstBreak? twins
    cases found : (ofList ss).skills.find? fun s => s.range.units < 0 with
    | some s => exact ⟨unique, least_of_find? found⟩
    | none =>
      refine ⟨unique, fun s hs => ?_⟩
      simpa using List.find?_eq_none.1 found s (Keyed.mem_sort.2 hs)

lemma not_repeats_of_nodup (unique : (ss.map (·.id)).Nodup) : ¬Repeats ss id :=
  Nat.not_le_of_lt (Nat.lt_succ_of_le (List.nodup_iff_count_le_one.1 unique id))

lemma not_negative_of_nonneg (nonneg : ∀ s ∈ ss, 0 ≤ s.range.units) : ¬Negative ss id := by
  rintro ⟨s, hs, -, negative⟩
  exact Int.not_lt.2 (nonneg s hs) negative

/-- There is only one thing to find. -/
lemma Finds.unique {f g : Option RulesFault} (hf : Finds ss f) (hg : Finds ss g) : f = g := by
  rcases f with - | ⟨a⟩ | ⟨a⟩ <;> rcases g with - | ⟨b⟩ | ⟨b⟩
  · rfl
  · exact absurd hg.1 (not_repeats_of_nodup hf.1)
  · exact absurd hg.2.1 (not_negative_of_nonneg hf.2)
  · exact absurd hf.1 (not_repeats_of_nodup hg.1)
  · rw [Least.unique hf hg]
  · exact absurd hf.1 (not_repeats_of_nodup hg.1)
  · exact absurd hf.2.1 (not_negative_of_nonneg hg.2)
  · exact absurd hg.1 (not_repeats_of_nodup hf.1)
  · rw [Least.unique hf.2 hg.2]

lemma fault?_eq_iff {f : Option RulesFault} : (ofList ss).fault? = f ↔ Finds ss f := by
  constructor
  · rintro rfl
    exact finds_fault? ss
  · exact (finds_fault? ss).unique

/-! ### Looking skills up -/

lemma skill?_ofList_eq_some_iff (unique : (ss.map (·.id)).Nodup) {s : Skill} :
    (ofList ss).skill? id = some s ↔ s ∈ ss ∧ s.id = id := by
  rw [skill?, ofList, Keyed.find?_sort_eq_some_iff (nodup_keys_iff.2 unique)]
  exact and_congr_right fun _ => SkillId.index_inj

lemma skill?_ofList_eq_none_iff : (ofList ss).skill? id = none ↔ ∀ s ∈ ss, s.id ≠ id := by
  rw [skill?, ofList, Keyed.find?_eq_none_iff]
  exact forall_congr' fun s => imp_congr Keyed.mem_sort (not_congr SkillId.index_inj)

lemma ofList_eq_of_perm {ts : List Skill} (unique : (ss.map (·.id)).Nodup) (perm : ss.Perm ts) :
    ofList ts = ofList ss := by
  rw [ofList, ofList, Keyed.sort_eq_of_perm (nodup_keys_iff.2 unique) perm]

end Skillbook

namespace SkillDraft

variable {d : SkillDraft} {ds : List SkillDraft} {ss : List Skill}

/-! ### Books of drafts -/

lemma skills_cons_eq_ok_iff : skills (d :: ds) = .ok ss ↔
    ∃ s rest, d.skill = .ok s ∧ skills ds = .ok rest ∧ s :: rest = ss := by
  rw [skills]
  cases d.skill with
  | error e => simp [bind, Except.bind]
  | ok s => cases skills ds <;> simp [bind, Except.bind, pure, Except.pure]

/-- Drafts have skills just if none has a fraction over zero. -/
lemma exists_skills_iff : (∃ ss, skills ds = .ok ss) ↔
    ∀ d ∈ ds, ∀ r, d.fraction = some r → r.denominator.toInt ≠ 0 := by
  induction ds with
  | nil => simp [skills]
  | cons d ds ih =>
    have here : (∃ s, d.skill = .ok s) ↔ ∀ r, d.fraction = some r → r.denominator.toInt ≠ 0 := by
      cases found : d.skill with
      | ok s =>
        refine iff_of_true ⟨s, rfl⟩ fun r hr zero => ?_
        simp [skill_eq_error_iff.2 ⟨rfl, r, hr, zero⟩] at found
      | error e =>
        obtain ⟨-, r, hr, zero⟩ := skill_eq_error_iff.1 found
        exact iff_of_false (by simp) fun h => h r hr zero
    rw [List.forall_mem_cons, ← here, ← ih]
    constructor
    · rintro ⟨ss, h⟩
      obtain ⟨s, rest, hs, hrest, -⟩ := skills_cons_eq_ok_iff.1 h
      exact ⟨⟨s, hs⟩, rest, hrest⟩
    · rintro ⟨⟨s, hs⟩, rest, hrest⟩
      exact ⟨s :: rest, skills_cons_eq_ok_iff.2 ⟨s, rest, hs, hrest, rfl⟩⟩

/-- Skills have the identifiers of their drafts. -/
lemma ids_of_skills (h : skills ds = .ok ss) : ss.map (·.id) = ds.map fun d => ⟨d.id⟩ := by
  induction ds generalizing ss with
  | nil =>
    obtain rfl : [] = ss := by simpa [skills] using h
    rfl
  | cons d ds ih =>
    obtain ⟨s, rest, hs, hrest, rfl⟩ := skills_cons_eq_ok_iff.1 h
    obtain ⟨range, -, rfl⟩ := skill_eq_ok_iff.1 hs
    rw [List.map_cons, List.map_cons, ih hrest]

lemma nonneg_of_skills (h : skills ds = .ok ss) :
    (∀ s ∈ ss, 0 ≤ s.range.units) ↔ ∀ d ∈ ds, 0 ≤ d.intended := by
  induction ds generalizing ss with
  | nil =>
    obtain rfl : [] = ss := by simpa [skills] using h
    simp
  | cons d ds ih =>
    obtain ⟨s, rest, hs, hrest, rfl⟩ := skills_cons_eq_ok_iff.1 h
    obtain ⟨range, hrange, rfl⟩ := skill_eq_ok_iff.1 hs
    rw [List.forall_mem_cons, List.forall_mem_cons, ih hrest, units_nonneg_iff hrange]

lemma book_eq_ok_iff {b : Skillbook} : book ds = .ok b ↔
    ∃ ss, skills ds = .ok ss ∧ (Skillbook.ofList ss).fault? = none ∧ Skillbook.ofList ss = b := by
  rw [book]
  cases skills ds with
  | error e => simp [bind, Except.bind]
  | ok ss =>
    cases found : (Skillbook.ofList ss).fault? <;> simp [bind, Except.bind, found]

/-- Drafts make a book just if no fraction is over zero, no identifier repeats and no author means a
negative range. -/
lemma exists_book_iff : (∃ b, book ds = .ok b) ↔
    (∀ d ∈ ds, ∀ r, d.fraction = some r → r.denominator.toInt ≠ 0) ∧ (ds.map (·.id)).Nodup ∧
      ∀ d ∈ ds, 0 ≤ d.intended := by
  have usable {ss : List Skill} (h : skills ds = .ok ss) :
      (Skillbook.ofList ss).fault? = none ↔
        (ds.map (·.id)).Nodup ∧ ∀ d ∈ ds, 0 ≤ d.intended := by
    have apart : Function.Injective SkillId.mk := fun _ _ => SkillId.mk.inj
    rw [Skillbook.fault?_eq_iff, Skillbook.Finds, ids_of_skills h, nonneg_of_skills h,
      ← List.nodup_map_iff apart, List.map_map]
    rfl
  rw [← exists_skills_iff]
  constructor
  · rintro ⟨b, hb⟩
    obtain ⟨ss, h, passed, -⟩ := book_eq_ok_iff.1 hb
    exact ⟨⟨ss, h⟩, (usable h).1 passed⟩
  · rintro ⟨⟨ss, h⟩, sound⟩
    exact ⟨_, book_eq_ok_iff.2 ⟨ss, h, (usable h).2 sound, rfl⟩⟩

end SkillDraft

namespace Skillbook

open SkillId (Least)

/-- Skills make a book without fault just if no identifier repeats and no range is negative.
Otherwise the fault is the smallest identifier that repeats or, if there is none, the smallest with
a negative range. In a book without repeats a look-up finds each of the skills under its identifier
and nothing else, and the order in which they came does not matter. So drafts make a book just if no
fraction is over zero, no identifier repeats and no range is negative. -/
theorem ofList_names_smallest :
    (∀ ss : List Skill,
      ((ofList ss).fault? = none ↔ (ss.map (·.id)).Nodup ∧ ∀ s ∈ ss, 0 ≤ s.range.units) ∧
      (∀ id, (ofList ss).fault? = some (.duplicateSkill id) ↔ Least (Repeats ss) id) ∧
      (∀ id, (ofList ss).fault? = some (.negativeRange id) ↔
        (ss.map (·.id)).Nodup ∧ Least (Negative ss) id) ∧
      ((ss.map (·.id)).Nodup →
        (∀ id s, (ofList ss).skill? id = some s ↔ s ∈ ss ∧ s.id = id) ∧
        (∀ id, (ofList ss).skill? id = none ↔ ∀ s ∈ ss, s.id ≠ id) ∧
        ∀ ts, ss.Perm ts → ofList ts = ofList ss)) ∧
    ∀ ds : List SkillDraft, (∃ b, SkillDraft.book ds = .ok b) ↔
      (∀ d ∈ ds, ∀ r, d.fraction = some r → r.denominator.toInt ≠ 0) ∧ (ds.map (·.id)).Nodup ∧
        ∀ d ∈ ds, 0 ≤ d.intended := by
  refine ⟨fun ss => ⟨fault?_eq_iff, fun id => fault?_eq_iff, fun id => fault?_eq_iff, ?_⟩,
    fun ds => SkillDraft.exists_book_iff⟩
  intro unique
  exact ⟨fun id s => skill?_ofList_eq_some_iff unique, fun id => skill?_ofList_eq_none_iff,
    fun ts => ofList_eq_of_perm unique⟩

/-- Five skills of which two identifiers repeat and two have negative ranges, and three of them that
make a book. -/
theorem ofList_names_smallest_five :
    let skill (id : UInt32) (tiles : Int32) := Skill.basic ⟨id⟩ 10 (.ofWhole tiles)
    let five : List Skill := [skill 9 (-1), skill 4 5, skill 9 2, skill 2 (-3), skill 4 1]
    let three : List Skill := [skill 9 2, skill 4 5, skill 6 0]
    (ofList five).fault? = some (.duplicateSkill ⟨4⟩) ∧ (ofList three).fault? = none ∧
      (ofList three).skill? ⟨4⟩ = some (skill 4 5) ∧ (ofList three).skill? ⟨5⟩ = none ∧
      ofList three.reverse = ofList three := by
  intro skill five three
  obtain ⟨books, -⟩ := ofList_names_smallest
  obtain ⟨-, repeated, -, -⟩ := books five
  obtain ⟨usable, -, -, lookups⟩ := books three
  have unique : (three.map (·.id)).Nodup := by decide
  obtain ⟨found, missing, reordered⟩ := lookups unique
  refine ⟨(repeated ⟨4⟩).2 ⟨by decide, ?_⟩, usable.2 ⟨unique, by decide⟩,
    (found _ _).2 ⟨by decide, rfl⟩, (missing _).2 (by decide), reordered _ three.reverse_perm.symm⟩
  intro id repeats
  have here : id ∈ five.map (·.id) :=
    List.count_pos_iff.1 (Nat.lt_of_lt_of_le Nat.zero_lt_two repeats)
  have all : ∀ id ∈ five.map (·.id), Repeats five id → 4 ≤ id.index := by decide
  exact all id here repeats

end Skillbook

end Skirmish
