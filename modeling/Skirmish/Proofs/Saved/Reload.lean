import Skirmish.Proofs.Encounter.Unbroken
import Skirmish.Proofs.Order.Sorting
import Skirmish.Saved.Encounter

/-!
# Reading back

Whatever the codec, reading puts the entities of a zone and the skills of a book in order, so what
was written comes back exactly if it was in order before. Ticks keep the entities in order, also where
several have one identifier: a hit puts an entity in the place of one with its identifier. So rules
and encounters can be written and read back before any tick of a run.

Of the codec no more is asked than that plain values come back as they were written, and that records
are read field by field.
-/

namespace Skirmish

variable {Data : Type} {c : Codec Data}

/-! ### What is written, and what is read -/

section

variable {α β : Type} [Keyed β] {plain? read? : Data → Option α} {write : α → Data}
  {inOrder : α → α} {kept : α → List β}

/-- Does reading put what stands in the data in order, and is nothing left to put in order when the
outcome is written and read again? -/
structure Settles (plain? read? : Data → Option α) (write : α → Data) (inOrder : α → α)
    (kept : α → List β) : Prop where
  sorts : ∀ {d : Data} {a : α}, read? d = some a →
    ∃ p, plain? d = some p ∧ a = inOrder p ∧ Keyed.Sorts (kept p) (kept a)
  again : ∀ {d : Data} {a : α}, read? d = some a → read? (write a) = some a

/-- What is in order comes back as it was written. -/
lemma read?_write (reads : ∀ d, read? d = (plain? d).map inOrder)
    (returns : ∀ a, plain? (write a) = some a)
    (settled : ∀ {a}, Keyed.Sorted (kept a) → inOrder a = a) {a : α}
    (sorted : Keyed.Sorted (kept a)) : read? (write a) = some a := by
  rw [reads, returns, Option.map_some, settled sorted]

lemma Settles.of_map (reads : ∀ d, read? d = (plain? d).map inOrder)
    (returns : ∀ a, plain? (write a) = some a)
    (settled : ∀ {a}, Keyed.Sorted (kept a) → inOrder a = a)
    (kept_inOrder : ∀ a, kept (inOrder a) = Keyed.sort (kept a)) :
    Settles plain? read? write inOrder kept where
  sorts := by
    intro d a h
    rw [reads] at h
    obtain ⟨p, plain, rfl⟩ := Option.map_eq_some_iff.1 h
    exact ⟨p, plain, rfl, Keyed.sorts_iff.2 (kept_inOrder p)⟩
  again := by
    intro d a h
    rw [reads] at h
    obtain ⟨p, -, rfl⟩ := Option.map_eq_some_iff.1 h
    apply read?_write reads returns settled
    rw [kept_inOrder]
    exact Keyed.sorted_sort _

end

/-! ### Zones, books, encounters and rules -/

lemma Zone.inOrder_eq_self {z : Zone} (sorted : Keyed.Sorted z.entities) : z.inOrder = z := by
  rw [inOrder, ofEntities, Keyed.sort_of_sorted sorted]

lemma Skillbook.inOrder_eq_self {b : Skillbook} (sorted : Keyed.Sorted b.skills) :
    b.inOrder = b := by
  rw [inOrder, ofList, Keyed.sort_of_sorted sorted]

lemma Encounter.inOrder_eq_self {e : Encounter} (sorted : Keyed.Sorted e.zone.entities) :
    e.inOrder = e := by
  rw [inOrder, Zone.inOrder_eq_self sorted]

lemma Rules.inOrder_eq_self {r : Rules} (sorted : Keyed.Sorted r.skills.skills) :
    r.inOrder = r := by
  rw [inOrder, Skillbook.inOrder_eq_self sorted]

namespace Codec

lemma readBook?_eq (d : Data) : c.readBook? d = (c.loadBook? d).map Skillbook.inOrder := by
  rw [readBook?, loadBook?, Option.map_map]
  rfl

lemma FieldWise.readEncounter?_eq (fieldWise : c.FieldWise) (d : Data) :
    c.readEncounter? d = (c.loadPlainEncounter? d).map Encounter.inOrder :=
  fieldWise.encounter c.loadZone? Zone.inOrder d

/-- A book that is missing is empty, which is in order. -/
lemma FieldWise.readRules?_eq (fieldWise : c.FieldWise) (d : Data) :
    c.readRules? d = (c.loadPlainRules? d).map Rules.inOrder := by
  have reads : c.readBook? = fun d => (c.loadBook? d).map Skillbook.inOrder :=
    funext readBook?_eq
  have empty : Skillbook.empty.inOrder = .empty := Skillbook.inOrder_eq_self .nil
  have read := fieldWise.rules c.loadBook? Skillbook.inOrder .empty d
  rwa [empty, ← reads] at read

lemma RoundTrips.book (returns : c.RoundTrips) (b : Skillbook) :
    c.loadBook? (c.saveBook b) = some b := by
  rw [loadBook?, saveBook, returns.skills, Option.map_some]

variable (returns : c.RoundTrips) (fieldWise : c.FieldWise)

include returns

lemma settles_zone :
    Settles c.loadZone? c.readZone? c.saveZone Zone.inOrder Zone.entities :=
  .of_map (fun _ => rfl) returns.zone Zone.inOrder_eq_self fun _ => rfl

lemma settles_book :
    Settles c.loadBook? c.readBook? c.saveBook Skillbook.inOrder Skillbook.skills :=
  .of_map readBook?_eq returns.book Skillbook.inOrder_eq_self fun _ => rfl

include fieldWise

lemma settles_encounter :
    Settles c.loadPlainEncounter? c.readEncounter? c.writeEncounter Encounter.inOrder
      (fun e : Encounter => e.zone.entities) :=
  .of_map fieldWise.readEncounter?_eq returns.encounter Encounter.inOrder_eq_self fun _ => rfl

lemma settles_rules :
    Settles c.loadPlainRules? c.readRules? c.writeRules Rules.inOrder
      (fun r : Rules => r.skills.skills) :=
  .of_map fieldWise.readRules?_eq returns.rules Rules.inOrder_eq_self fun _ => rfl

lemma readEncounter?_write {e : Encounter} (sorted : Keyed.Sorted e.zone.entities) :
    c.readEncounter? (c.writeEncounter e) = some e :=
  read?_write fieldWise.readEncounter?_eq returns.encounter Encounter.inOrder_eq_self sorted

lemma readRules?_write {r : Rules} (sorted : Keyed.Sorted r.skills.skills) :
    c.readRules? (c.writeRules r) = some r :=
  read?_write fieldWise.readRules?_eq returns.rules Rules.inOrder_eq_self sorted

end Codec

/-! ### Ticks keep the entities in order -/

lemma Resolution.sorted_run (rules : Rules) (tick : Tick) {z : Zone}
    (sorted : Keyed.Sorted z.entities) (out : Nat) (is : List Intent) :
    Keyed.Sorted (run rules tick z out is).zone.entities := by
  refine invariant rules tick (P := fun z => Keyed.Sorted z.entities) ?_ sorted out is
  intro z i hit sorted _
  exact Keyed.sorted_put sorted hit.target

namespace Encounter

/-- The encounters that ticks lead to, by any rules, from entities given in any order, also several
with one identifier, with nothing in the ledger and in the history. Of several entities with one
identifier a hit may be taken by any. -/
inductive Arises : Encounter → Prop where
  | new (id : ZoneId) (entities : List Entity) (terrain : Terrain) (b : Budgets) :
      Arises (.new (.ofEntities id entities terrain) (.new b))
  | step {e : Encounter} (h : Arises e) (rules : Rules) (tick : Tick) (cs : List Command) :
      Arises (e.step rules tick cs).next
  | exchange {e : Encounter} (h : Arises e) {i : Nat} {x y : Entity}
      (there : e.zone.entities[i]? = some x) (same : y.id = x.id) (ledger : Ledger)
      (history : History) :
      Arises ⟨{ e.zone with entities := e.zone.entities.set i y }, ledger, history⟩

lemma Arises.sorted {e : Encounter} (h : e.Arises) : Keyed.Sorted e.zone.entities := by
  induction h with
  | new id entities terrain b => exact Keyed.sorted_sort entities
  | step h rules tick cs ih => exact Resolution.sorted_run rules tick ih 0 _
  | exchange h there same ledger history ih => exact ih.set there (congrArg EntityId.index same)

/-! ### Runs with interruptions -/

/-- What comes out of a run that writes down the rules and the encounter before each tick, and goes
on with what it reads back. -/
def runReloading (c : Codec Data) (rules : Rules) (e : Encounter) :
    List Turn → Option (List Outcome)
  | [] => some []
  | t :: ts => do
    let rules ← c.readRules? (c.writeRules rules)
    let e ← c.readEncounter? (c.writeEncounter e)
    match e.stepChecked rules t.tick t.commands with
    | .error _ => some []
    | .ok o => (o.next.runReloading c rules ts).map (o :: ·)

lemma runReloading_eq (returns : c.RoundTrips) (fieldWise : c.FieldWise) {rules : Rules}
    (known : Keyed.Sorted rules.skills.skills) {e : Encounter} (arises : e.Arises)
    (ts : List Turn) : e.runReloading c rules ts = some (e.run rules ts) := by
  induction ts generalizing e with
  | nil => rfl
  | cons t ts ih =>
    simp only [runReloading, Codec.readRules?_write returns fieldWise known,
      Codec.readEncounter?_write returns fieldWise arises.sorted, Option.bind_eq_bind,
      Option.bind_some, run, rounds]
    cases hstep : e.stepChecked rules t.tick t.commands with
    | error cause => rfl
    | ok o =>
      obtain rfl := eq_step_of_stepChecked hstep
      simp [ih (arises.step rules t.tick t.commands), run]

/-- Encounters that ticks lead to, and rules with a book made of any skills, are read back as they
were written, so a run comes out the same if they are written and read back before each tick.
Whatever can be read, its entities and its skills are in order, those of one identifier in the
order in which they stood in the data, and it is read back as it is from then on. All this holds of
any codec by which plain values come back and records are read field by field. -/
theorem reload_transparent (c : Codec Data) (returns : c.RoundTrips) (fieldWise : c.FieldWise) :
    (∀ e : Encounter, e.Arises → c.readEncounter? (c.writeEncounter e) = some e) ∧
    (∀ (skills : List Skill) (b : Budgets),
      c.readRules? (c.writeRules ⟨.ofList skills, b⟩) = some ⟨.ofList skills, b⟩) ∧
    (∀ (skills : List Skill) (b : Budgets) (e : Encounter), e.Arises → ∀ ts,
      e.runReloading c ⟨.ofList skills, b⟩ ts = some (e.run ⟨.ofList skills, b⟩ ts)) ∧
    Settles c.loadZone? c.readZone? c.saveZone Zone.inOrder Zone.entities ∧
    Settles c.loadPlainEncounter? c.readEncounter? c.writeEncounter Encounter.inOrder
      (fun e : Encounter => e.zone.entities) ∧
    Settles c.loadBook? c.readBook? c.saveBook Skillbook.inOrder Skillbook.skills ∧
    Settles c.loadPlainRules? c.readRules? c.writeRules Rules.inOrder
      (fun r : Rules => r.skills.skills) := by
  refine ⟨?_, ?_, ?_, Codec.settles_zone returns, Codec.settles_encounter returns fieldWise,
    Codec.settles_book returns, Codec.settles_rules returns fieldWise⟩
  · intro e arises
    exact Codec.readEncounter?_write returns fieldWise arises.sorted
  · intro skills b
    exact Codec.readRules?_write returns fieldWise (Keyed.sorted_sort skills)
  · intro skills b e arises ts
    exact runReloading_eq returns fieldWise (Keyed.sorted_sort skills) arises ts

end Encounter

/-! ### Trees of saved data -/

namespace Codec

lemma roundTrips_values : values.RoundTrips where
  zone := Zone.ofRecord?_toRecord
  skills := LawfulSaved.load?_save
  encounter e := Encounter.ofRecord?_toRecord (Zone.ofRecord?_toRecord e.zone)
  rules r := Rules.ofRecord?_toRecord (by simp [loadBook?, saveBook, values]) .empty

lemma fieldWise_values : values.FieldWise where
  encounter := by
    intro read? f v
    simp only [values, Encounter.ofRecord?, Option.bind_eq_bind, Option.map_bind,
      Function.comp_def]
    refine congrArg _ (funext fun fields => ?_)
    cases fields.field? "zone" with
    | none => rfl
    | some w => cases read : read? w <;> simp [read]
  rules := by
    intro read? f dflt v
    simp only [values, Rules.ofRecord?, Option.bind_eq_bind, Option.map_bind, Function.comp_def]
    refine congrArg _ (funext fun fields => ?_)
    rw [Fields.readOr?, Fields.readOr?]
    cases fields.field? "skills" with
    | none => simp
    | some w => cases read : read? w <;> simp [read]

end Codec

namespace Encounter

/-- Each fighter is there twice, and neither fighters nor skills are given in order. -/
theorem reload_transparent_crowd :
    let c := Codec.values
    let skills := brawlRules.skills.skills.reverse
    let rules : Rules := ⟨.ofList skills, .default⟩
    let fighters := brawl.zone.entities.reverse
    let e : Encounter := .new (.ofEntities ⟨1⟩ (fighters ++ fighters) .field) (.new .default)
    c.RoundTrips ∧ c.FieldWise ∧
      e.runReloading c rules brawlTurns = some (e.run rules brawlTurns) ∧
      (e.run rules brawlTurns).length = 3 ∧
      c.readBook? (c.saveSkills skills) = some brawlRules.skills ∧
      c.readBook? (c.saveBook brawlRules.skills) = some brawlRules.skills := by
  intro c skills rules fighters e
  have returns : c.RoundTrips := Codec.roundTrips_values
  have fieldWise : c.FieldWise := Codec.fieldWise_values
  have tame : e.zone.Tame := by
    have central : ∀ x ∈ fighters ++ fighters, x.position.Central := by decide
    exact ⟨Nat.zero_le 0, fun x hx => central x (Keyed.mem_sort.1 hx)⟩
  have played : (e.run rules brawlTurns).length = 3 := by
    rw [run, List.length_map, length_rounds tame (by decide)]
    rfl
  obtain ⟨-, -, runs, -, -, books, -⟩ := reload_transparent c returns fieldWise
  have sorted : Skillbook.ofList skills = brawlRules.skills := by
    have unique : (skills.map Keyed.key).Nodup := by decide
    rw [Skillbook.ofList, Keyed.sort_eq_of_perm unique (List.reverse_perm _),
      Keyed.sort_of_sorted (by unfold Keyed.Sorted; decide)]
  have read : c.readBook? (c.saveSkills skills) = some brawlRules.skills := by
    rw [Codec.readBook?, returns.skills, Option.map_some, sorted]
  exact ⟨returns, fieldWise, runs skills .default e (.new ..) brawlTurns, played, read,
    books.again read⟩

end Encounter

end Skirmish
