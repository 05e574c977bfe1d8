/-!
# Values of saved data

Saved data is a tree of plain values: numbers, texts, lists, and records of named fields. Reading
looks fields up by name and passes over those it does not know. A record that has a field twice is not
read, and a list may stand for a record, with the values in the places of the fields. A number that is
not whole can be part of the data but is never read as an integer.

`LawfulSaved` says of a type that reading what was written gives the same value back.
-/

namespace Skirmish

/-- A tree of saved data. -/
inductive Value where
  | null
  | bool (b : Bool)
  | int (i : Int)
  /-- A number that is not written as an integer. -/
  | fraction
  /-- What is written like a number but is none, or too large to be read as any. -/
  | unreadable
  | text (s : String)
  | list (items : List Value)
  | record (fields : List (String × Value))
  deriving Inhabited

/-- Types whose values can be written as saved data and read back. -/
class Saved (α : Type) where
  save : α → Value
  load? : Value → Option α

/-- Reading gives back what was written. -/
class LawfulSaved (α : Type) [Saved α] : Prop where
  load?_save : ∀ a : α, Saved.load? (Saved.save a) = some a

export Saved (save load?)

attribute [simp] LawfulSaved.load?_save

/-- A type around another is saved as that one is. -/
theorem LawfulSaved.ofWrapper {α β : Type} [Saved α] [LawfulSaved α] [Saved β] (wrap : α → β)
    (content : β → α) (hs : ∀ b, Saved.save b = Saved.save (content b))
    (hl : ∀ v, (Saved.load? v : Option β) = (Saved.load? v).map wrap)
    (hw : ∀ b, wrap (content b) = b) : LawfulSaved β :=
  ⟨fun b => by rw [hs, hl, load?_save, Option.map_some, hw]⟩

/-! ### Fields of a record -/

/-- The fields of a record. -/
abbrev Fields := List (String × Value)

namespace Value

/-- The fields of a value that is a record. -/
def fields? : Value → Option Fields
  | record fields => some fields
  | _ => none

/-- The fields of a record with some names, none of which it may have twice. A list stands for a
record too, if it has no more values than there are names, and no less than have to be there. -/
def fieldsOf? (names : List String) (least : Nat) : Value → Option Fields
  | record fields =>
    if ((fields.map (·.1)).filter (names.contains ·)).Nodup then some fields else none
  | list items =>
    if least ≤ items.length ∧ items.length ≤ names.length then some (names.zip items) else none
  | _ => none

theorem fieldsOf?_record {names : List String} (distinct : names.Nodup) {items : List Value}
    (length : items.length = names.length) (least : Nat) :
    (record (names.zip items)).fieldsOf? names least = some (names.zip items) := by
  rw [fieldsOf?, List.map_fst_zip (Nat.le_of_eq length.symm), if_pos]
  exact distinct.sublist List.filter_sublist

mutual

/-- Every number in a value can be read. -/
def isReadable : Value → Bool
  | unreadable => false
  | list items => areReadable items
  | record fields => fieldsReadable fields
  | _ => true

def areReadable : List Value → Bool
  | [] => true
  | v :: vs => v.isReadable && areReadable vs

def fieldsReadable : Fields → Bool
  | [] => true
  | (_, v) :: fields => v.isReadable && fieldsReadable fields

end

end Value

namespace Fields

/-- The field of a name. -/
def field? (name : String) (fields : Fields) : Option Value := fields.lookup name

@[simp] theorem field?_nil (name : String) : field? name [] = none := rfl

@[simp] theorem field?_cons (name other : String) (v : Value) (fields : Fields) :
    field? name ((other, v) :: fields) = if name = other then some v else field? name fields := by
  by_cases h : name = other
  · simp [field?, h]
  · have : (name == other) = false := by simpa using h
    simp [field?, List.lookup_cons, h, this]

/-- A field that has to be there. -/
@[simp] def need? {α : Type} [Saved α] (name : String) (fields : Fields) : Option α :=
  (field? name fields).bind load?

/-- A field, read in some way, with a value to use when it is not there. -/
@[simp] def readOr? {α : Type} (read? : Value → Option α) (name : String) (dflt : α) (fields : Fields) :
    Option α :=
  match field? name fields with
  | some v => read? v
  | none => some dflt

/-- A field with a value to use when it is not there. -/
@[simp] def needOr? {α : Type} [Saved α] (name : String) (dflt : α) (fields : Fields) : Option α :=
  readOr? load? name dflt fields

/-- A field that may be missing or null. -/
def optional? {α : Type} [Saved α] (name : String) (fields : Fields) : Option (Option α) :=
  match field? name fields with
  | none | some .null => some none
  | some v => (load? v).map some

end Fields

/-- The names of the fields are different from each other. -/
abbrev Fields.Distinct (fields : Fields) : Prop := (fields.map (·.1)).Nodup

/-- A value that may be absent is written as null when it is. -/
def saveOptional {α : Type} [Saved α] : Option α → Value
  | some a => save a
  | none => .null

/-- Types that are saved as a record of their fields. -/
class SavedRecord (α : Type) where
  /-- The names of the fields, in their places. -/
  names : List String
  values : α → List Value
  ofFields? : Fields → Option α
  /-- How many values a list has to have that stands for a record. -/
  least : Nat := names.length
  distinct : names.Nodup := by decide
  length_values : ∀ a, (values a).length = names.length := by intro; rfl

export SavedRecord (names values ofFields?)

attribute [simp] SavedRecord.names SavedRecord.values SavedRecord.ofFields?

/-- The fields of a value, each with its name. -/
@[simp] def fields {α : Type} [SavedRecord α] (a : α) : Fields := (names α).zip (values a)

instance {α : Type} [SavedRecord α] : Saved α where
  save a := .record (fields a)
  load? v := (v.fieldsOf? (names α) (SavedRecord.least α)).bind ofFields?

/-- Records are read back when their fields are. -/
theorem LawfulSaved.ofRecord {α : Type} [SavedRecord α]
    (h : ∀ a : α, ofFields? (fields a) = some a) : LawfulSaved α where
  load?_save a := by
    have known : (Value.record (fields a)).fieldsOf? (names α) (SavedRecord.least α) =
        some (fields a) :=
      Value.fieldsOf?_record SavedRecord.distinct (SavedRecord.length_values a) _
    simp only [save, load?, known, Option.bind_some, h]

/-! ### Plain values -/

/-- An integer within bounds. -/
def Value.within? (lo hi : Int) : Value → Option Int
  | .int i => if lo ≤ i ∧ i ≤ hi then some i else none
  | _ => none

theorem Value.within?_int {lo hi i : Int} (hl : lo ≤ i) (hh : i ≤ hi) :
    (Value.int i).within? lo hi = some i := by
  simp [within?, hl, hh]

instance : Saved Bool where
  save b := .bool b
  load?
    | .bool b => some b
    | _ => none

instance : Saved String where
  save s := .text s
  load?
    | .text s => some s
    | _ => none

/-- A count is saved as it is and read if it has at most sixty-four bits. -/
instance : Saved Nat where
  save n := .int n
  load? v := (v.within? 0 0xffffffffffffffff).map Int.toNat

instance : Saved UInt8 where
  save n := .int n.toNat
  load? v := (v.within? 0 0xff).map fun i => .ofNat i.toNat

instance : Saved UInt32 where
  save n := .int n.toNat
  load? v := (v.within? 0 0xffffffff).map fun i => .ofNat i.toNat

instance : Saved UInt64 where
  save n := .int n.toNat
  load? v := (v.within? 0 0xffffffffffffffff).map fun i => .ofNat i.toNat

instance : Saved Int32 where
  save i := .int i.toInt
  load? v := (v.within? (-0x80000000) 0x7fffffff).map .ofInt

instance : Saved Int64 where
  save i := .int i.toInt
  load? v := (v.within? (-0x8000000000000000) 0x7fffffffffffffff).map .ofInt

instance : LawfulSaved Bool := ⟨fun _ => rfl⟩

instance : LawfulSaved String := ⟨fun _ => rfl⟩

instance : LawfulSaved UInt8 where
  load?_save n := by
    have := n.toNat_lt
    simp only [save, load?]
    rw [Value.within?_int (by omega) (by omega)]
    simp

instance : LawfulSaved UInt32 where
  load?_save n := by
    have := n.toNat_lt
    simp only [save, load?]
    rw [Value.within?_int (by omega) (by omega)]
    simp

instance : LawfulSaved UInt64 where
  load?_save n := by
    have := n.toNat_lt
    simp only [save, load?]
    rw [Value.within?_int (by omega) (by omega)]
    simp

instance : LawfulSaved Int32 where
  load?_save i := by
    have lower := i.le_toInt
    have upper := i.toInt_lt
    simp only [save, load?]
    rw [Value.within?_int (by omega) (by omega)]
    simp

instance : LawfulSaved Int64 where
  load?_save i := by
    have lower := i.le_toInt
    have upper := i.toInt_lt
    simp only [save, load?]
    rw [Value.within?_int (by omega) (by omega)]
    simp

/-! ### Lists -/

/-- Reads every element of a list. -/
def loadAll? {α : Type} [Saved α] : List Value → Option (List α)
  | [] => some []
  | v :: vs => do
    let a ← load? v
    let as ← loadAll? vs
    return a :: as

instance {α : Type} [Saved α] : Saved (List α) where
  save as := .list (as.map save)
  load?
    | .list vs => loadAll? vs
    | _ => none

theorem loadAll?_map_save {α : Type} [Saved α] [LawfulSaved α] (as : List α) :
    loadAll? (as.map save) = some as := by
  induction as with
  | nil => rfl
  | cons a as ih => simp [loadAll?, ih]

instance {α : Type} [Saved α] [LawfulSaved α] : LawfulSaved (List α) :=
  ⟨fun as => loadAll?_map_save as⟩

end Skirmish
