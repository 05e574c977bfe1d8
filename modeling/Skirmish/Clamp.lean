/-!
# Fixed widths

A quantity is worked out in the integers and then brought back to the width it is kept in: clamped,
at the nearest bound when it lies outside; wrapped, when only its low bits are kept; or checked, when
it is an error that it lies outside. Each lemma says which integer the kept value stands for.
-/

/-! ### Clamping -/

namespace Skirmish.Clamp

/-- The integer of `lo … hi` nearest to `i`. -/
def between (lo hi i : Int) : Int := max lo (min i hi)

/-- The nearest signed number of thirty-two bits. -/
def toInt32 (i : Int) : Int32 := Int32.ofInt (between (-0x80000000) 0x7fffffff i)

/-- The nearest signed number of sixty-four bits. -/
def toInt64 (i : Int) : Int64 := Int64.ofInt (between (-0x8000000000000000) 0x7fffffffffffffff i)

/-- The nearest unsigned number of thirty-two bits. -/
def toUInt32 (i : Int) : UInt32 := UInt32.ofNat (between 0 0xffffffff i).toNat

theorem between_of_mem {lo hi i : Int} (hl : lo ≤ i) (hh : i ≤ hi) : between lo hi i = i := by
  simp only [between]
  omega

@[simp] theorem toInt_toInt32 (i : Int) :
    (toInt32 i).toInt = between (-0x80000000) 0x7fffffff i := by
  apply Int32.toInt_ofInt_of_le
  · simp only [between]; omega
  · simp only [between]; omega

@[simp] theorem toInt_toInt64 (i : Int) :
    (toInt64 i).toInt = between (-0x8000000000000000) 0x7fffffffffffffff i := by
  apply Int64.toInt_ofInt_of_le
  · simp only [between]; omega
  · simp only [between]; omega

@[simp] theorem toNat_toUInt32 (i : Int) :
    ((toUInt32 i).toNat : Int) = between 0 0xffffffff i := by
  simp only [toUInt32, UInt32.toNat_ofNat', between]
  omega

end Skirmish.Clamp

/-! ### Wrapping -/

namespace Skirmish.Wrap

/-- The signed number of 128 bits that has the low bits of `i`. -/
def int128 (i : Int) : Int := i.bmod 0x100000000000000000000000000000000

theorem int128_of_mem {i : Int} (hl : -0x80000000000000000000000000000000 ≤ i)
    (hh : i ≤ 0x7fffffffffffffffffffffffffffffff) : int128 i = i := by
  apply Int.bmod_eq_of_le <;> omega

/-- What goes beyond the width before a sum does not matter after it. -/
theorem int128_add (i j : Int) : int128 (int128 i + int128 j) = int128 (i + j) := by
  simp [int128]

/-- Whole turns of the width do not matter. -/
theorem int128_sub_turns (i k : Int) :
    int128 (i - k * 0x100000000000000000000000000000000) = int128 i := by
  simp only [int128, Int.bmod]
  omega

end Skirmish.Wrap

/-! ### Checking -/

namespace Skirmish

/-- An operation on signed numbers of 128 bits whose outcome they do not hold. -/
inductive Overflow where
  | add
  | multiply
  deriving DecidableEq, Inhabited

def Overflow.message : Overflow → String
  | add => "attempt to add with overflow"
  | multiply => "attempt to multiply with overflow"

namespace Checked

/-- The outcome `i` of an operation, unless 128 bits do not hold it. -/
def int128 (operation : Overflow) (i : Int) : Except Overflow Int :=
  if -0x80000000000000000000000000000000 ≤ i ∧ i ≤ 0x7fffffffffffffffffffffffffffffff then .ok i
  else .error operation

theorem int128_of_le {operation : Overflow} {i : Int} (nonneg : 0 ≤ i)
    (h : i ≤ 0x7fffffffffffffffffffffffffffffff) : int128 operation i = .ok i := by
  rw [int128, if_pos ⟨by omega, h⟩]

theorem int128_of_lt {operation : Overflow} {i : Int}
    (h : 0x7fffffffffffffffffffffffffffffff < i) : int128 operation i = .error operation := by
  rw [int128, if_neg (by omega)]

end Checked

end Skirmish
