import Skirmish.Digest.Sha256
import Skirmish.Event
import Skirmish.Zone

/-!
# Digests

A digest sums up a zone and its events, so that two runs can be compared. What is hashed is a fixed
layout of bytes, each number with its lowest byte first: the zone and its entities as they stand,
then the events in canonical order. Terrain is not part of it.
-/

namespace Skirmish

namespace Entity

/-- The entity in twenty-nine bytes. -/
def layout (e : Entity) : List UInt8 :=
  littleEndian 4 e.id.index ++ littleEndian 4 e.health.toUInt32.toNat ++
    littleEndian 4 e.maxHealth.toUInt32.toNat ++ [if e.alive then 1 else 0] ++
    littleEndian 8 e.position.x.raw.toUInt64.toNat ++
    littleEndian 8 e.position.y.raw.toUInt64.toNat

@[simp] theorem length_layout (e : Entity) : e.layout.length = 29 := by
  simp [layout]

end Entity

namespace Event

/-- The event in twenty-five bytes. -/
def layout (e : Event) : List UInt8 :=
  littleEndian 8 e.tick.index ++ littleEndian 4 e.source.index ++ littleEndian 4 e.target.index ++
    littleEndian 4 e.skill.index ++ [e.kind.code] ++ littleEndian 4 e.amount.toUInt32.toNat

@[simp] theorem length_layout (e : Event) : e.layout.length = 25 := by
  simp [layout]

end Event

/-- The bytes that stand for a zone and a list of events. -/
def Zone.layout (z : Zone) (events : List Event) : List UInt8 :=
  littleEndian 4 z.id.val.toNat ++
    (littleEndian 8 z.entities.length ++ z.entities.flatMap Entity.layout) ++
    (littleEndian 8 events.length ++ (Canonical.arrange events).flatMap Event.layout)

/-- A hash of thirty-two bytes. -/
structure Digest where
  bytes : List UInt8
  deriving DecidableEq

namespace Digest

/-- The digest of a zone and a list of events by some hash, in whatever order the events come. -/
def under (hash : List UInt8 → List UInt8) (z : Zone) (events : List Event) : Digest :=
  ⟨hash (z.layout events)⟩

/-- The digest by the hash that is in use. -/
def ofZone (z : Zone) (events : List Event) : Digest := under Sha256.hash z events

def hexDigit (n : Nat) : Char := Char.ofNat (if n < 10 then 48 + n else 87 + n)

/-- A digest is written in hexadecimal, two small digits for each byte. -/
def text (d : Digest) : String :=
  String.ofList (d.bytes.flatMap fun b => [hexDigit (b.toNat / 16), hexDigit (b.toNat % 16)])

/-- The first byte. -/
def first (d : Digest) : UInt8 := d.bytes.headD 0

end Digest

end Skirmish
