/-!
# Numbers in bytes

A number in a fixed count of bytes, with its lowest byte first or last; what does not fit is cut
off.
-/

namespace Skirmish

/-- The `n` lowest bytes of a number, the lowest of them first. -/
def littleEndian : Nat → Nat → List UInt8
  | 0, _ => []
  | n + 1, value => UInt8.ofNat value :: littleEndian n (value / 256)

/-- The `n` lowest bytes of a number, the highest of them first. -/
def bigEndian (n value : Nat) : List UInt8 := (littleEndian n value).reverse

@[simp] theorem length_littleEndian (n value : Nat) : (littleEndian n value).length = n := by
  induction n generalizing value with
  | zero => rfl
  | succ n ih => simp [littleEndian, ih]

@[simp] theorem length_bigEndian (n value : Nat) : (bigEndian n value).length = n := by
  simp [bigEndian]

end Skirmish
