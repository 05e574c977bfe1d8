import Skirmish.Encounter

/-!
# Codecs

A codec writes plain values as data and reads them as they stand there: numbers, lists, and records
field by field. A zone and a book of skills are not plain, since they are kept in order. What the
codec reads for one is put in order, also where it is a field of a record.

Nothing is said here of what data is.
-/

namespace Skirmish

/-- How plain values become data, and data plain values. A record with a field that is not plain is
written and read with whatever writes and reads this field. -/
structure Codec (Data : Type) where
  saveZone : Zone → Data
  /-- The fields of a zone, its entities as they stand in the data. -/
  loadZone? : Data → Option Zone
  saveSkills : List Skill → Data
  loadSkills? : Data → Option (List Skill)
  saveEncounter : (Zone → Data) → Encounter → Data
  loadEncounter? : (Data → Option Zone) → Data → Option Encounter
  saveRules : (Skillbook → Data) → Rules → Data
  /-- The fields of rules, with a book to use where the data has none. -/
  loadRules? : (Data → Option Skillbook) → Skillbook → Data → Option Rules

/-- The zone with its entities put in the order of their identifiers. -/
def Zone.inOrder (z : Zone) : Zone := .ofEntities z.id z.entities z.terrain

/-- The book with its skills put in the order of their identifiers. -/
def Skillbook.inOrder (b : Skillbook) : Skillbook := .ofList b.skills

/-- The encounter with the entities of its zone put in order. -/
def Encounter.inOrder (e : Encounter) : Encounter := { e with zone := e.zone.inOrder }

/-- The rules with their skills put in order. -/
def Rules.inOrder (r : Rules) : Rules := { r with skills := r.skills.inOrder }

namespace Codec

variable {Data : Type} (c : Codec Data)

/-! ### Plain values -/

def saveBook (b : Skillbook) : Data := c.saveSkills b.skills

/-- A book with its skills as they stand in the data. -/
def loadBook? (d : Data) : Option Skillbook := (c.loadSkills? d).map Skillbook.mk

/-- An encounter with the entities of its zone as they stand in the data. -/
def loadPlainEncounter? : Data → Option Encounter := c.loadEncounter? c.loadZone?

/-- Rules with their skills as they stand in the data. -/
def loadPlainRules? : Data → Option Rules := c.loadRules? c.loadBook? .empty

/-! ### Values in order -/

def readZone? (d : Data) : Option Zone := (c.loadZone? d).map Zone.inOrder

def readBook? (d : Data) : Option Skillbook := (c.loadSkills? d).map Skillbook.ofList

def writeEncounter : Encounter → Data := c.saveEncounter c.saveZone

def readEncounter? : Data → Option Encounter := c.loadEncounter? c.readZone?

def writeRules : Rules → Data := c.saveRules c.saveBook

def readRules? : Data → Option Rules := c.loadRules? c.readBook? .empty

/-! ### What is expected of a codec -/

/-- Plain values are read back as they were written. -/
structure RoundTrips : Prop where
  zone : ∀ z, c.loadZone? (c.saveZone z) = some z
  skills : ∀ ss, c.loadSkills? (c.saveSkills ss) = some ss
  encounter : ∀ e, c.loadPlainEncounter? (c.writeEncounter e) = some e
  rules : ∀ r, c.loadPlainRules? (c.writeRules r) = some r

/-- Records are read field by field: what is made of a field once it is read, and of the value to use
where it is missing, can as well be made of it in the record. -/
structure FieldWise : Prop where
  encounter : ∀ (load? : Data → Option Zone) (f : Zone → Zone) (d : Data),
    c.loadEncounter? (fun d => (load? d).map f) d =
      (c.loadEncounter? load? d).map fun e => { e with zone := f e.zone }
  rules : ∀ (load? : Data → Option Skillbook) (f : Skillbook → Skillbook) (dflt : Skillbook)
      (d : Data), c.loadRules? (fun d => (load? d).map f) (f dflt) d =
    (c.loadRules? load? dflt d).map fun r => { r with skills := f r.skills }

end Codec

end Skirmish
