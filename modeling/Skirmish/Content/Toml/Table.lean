import Skirmish.Saved.Value

/-!
# Tables of TOML while they are filled

A table is begun by a header of its own, by the header of a table inside it, or by a key with dots.
How it was begun says what may still be added to it: no key is set twice, a table has one header at
most, and a table that keys with dots began gets no header. A list of tables grows by headers; what
is said of it afterwards goes to its last table.

`Table.nodup_alter?` says that the names of a table stay different from each other.
-/

namespace Skirmish.Toml

/-- How a table was begun. -/
inductive Origin where
  /-- By a header of its own. -/
  | header
  /-- By the header of a table inside it. -/
  | implied
  /-- By a key with dots. -/
  | dotted
  deriving DecidableEq

/-- What a name in a table stands for. -/
inductive Entry where
  | value (v : Value)
  | table (origin : Origin) (inner : List (String × Entry))
  /-- A list of tables, of which the last may still grow. -/
  | tables (earlier : List Value) (last : List (String × Entry))

abbrev Table := List (String × Entry)

/-- A key: a name, behind the names of the tables that it lies in. -/
structure Key where
  path : List String
  name : String

mutual

/-- The value of an entry when nothing is added any more. -/
def Entry.toValue : Entry → Value
  | .value v => v
  | .table _ inner => .record (Table.toFields inner)
  | .tables earlier last => .list (earlier ++ [.record (Table.toFields last)])

/-- The fields of a table when nothing is added any more. -/
def Table.toFields : Table → Fields
  | [] => []
  | (name, e) :: t => (name, e.toValue) :: Table.toFields t

end

namespace Table

/-- Sets the entry of a name by what it was. -/
def alter? (name : String) (f : Option Entry → Option Entry) : Table → Option Table
  | [] => (f none).map fun e => [(name, e)]
  | (other, e) :: t =>
    if name = other then (f (some e)).map fun e => (other, e) :: t
    else (alter? name f t).map ((other, e) :: ·)

/-- The names stay as they are, or one that was not there is added to them. -/
theorem names_alter? {name : String} {f : Option Entry → Option Entry} {t u : Table}
    (h : t.alter? name f = some u) :
    u.map (·.1) = t.map (·.1) ∨ name ∉ t.map (·.1) ∧ u.map (·.1) = t.map (·.1) ++ [name] := by
  induction t generalizing u with
  | nil =>
    obtain ⟨e, -, rfl⟩ := Option.map_eq_some_iff.1 h
    exact .inr ⟨by simp, rfl⟩
  | cons first t ih =>
    obtain ⟨other, e⟩ := first
    by_cases same : name = other
    · simp only [alter?, if_pos same] at h
      obtain ⟨e', -, rfl⟩ := Option.map_eq_some_iff.1 h
      exact .inl rfl
    · simp only [alter?, if_neg same] at h
      obtain ⟨u, hu, rfl⟩ := Option.map_eq_some_iff.1 h
      rcases ih hu with keep | ⟨absent, added⟩
      · exact .inl (by simp [keep])
      · exact .inr ⟨by simpa [same] using absent, by simp [added]⟩

/-- A name is never given twice. -/
theorem nodup_alter? {name : String} {f : Option Entry → Option Entry} {t u : Table}
    (h : t.alter? name f = some u) (distinct : (t.map (·.1)).Nodup) : (u.map (·.1)).Nodup := by
  rcases names_alter? h with keep | ⟨absent, added⟩
  · rwa [keep]
  · rw [added, List.nodup_append]
    refine ⟨distinct, by simp, ?_⟩
    rintro a inside b last rfl
    exact absent (List.mem_singleton.1 last ▸ inside)

/-- Changes the table at the end of a path of headers. -/
def inside? (f : Table → Option Table) : List String → Table → Option Table
  | [], t => f t
  | name :: path, t => t.alter? name fun
    | none => (inside? f path []).map (.table .implied)
    | some (.table origin inner) => (inside? f path inner).map (.table origin)
    | some (.tables earlier last) => (inside? f path last).map (.tables earlier)
    | some (.value _) => none

/-- Begins a table under its header, which may have been implied before. -/
def begin? (key : Key) : Table → Option Table :=
  inside? (alter? key.name fun
    | none => some (.table .header [])
    | some (.table .implied inner) => some (.table .header inner)
    | _ => none) key.path

/-- Begins another table of a list. -/
def beginNext? (key : Key) : Table → Option Table :=
  inside? (alter? key.name fun
    | none => some (.tables [] [])
    | some (.tables earlier last) => some (.tables (earlier ++ [.record (toFields last)]) [])
    | _ => none) key.path

/-- Sets a key, in a table that only keys with dots began if there are any. -/
def set? (name : String) (v : Value) : List String → Table → Option Table
  | [], t => t.alter? name fun
    | none => some (.value v)
    | some _ => none
  | part :: path, t => t.alter? part fun
    | none => (set? name v path []).map (.table .dotted)
    | some (.table .dotted inner) => (set? name v path inner).map (.table .dotted)
    | some (.table .implied inner) =>
      if path = [] then none else (set? name v path inner).map (.table .implied)
    | some (.tables earlier last) =>
      if path = [] then none else (set? name v path last).map (.tables earlier)
    | some _ => none

end Table

end Skirmish.Toml
