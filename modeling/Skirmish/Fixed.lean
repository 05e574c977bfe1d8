import Skirmish.Clamp

/-!
# Fixed-point numbers

A number with sixteen fractional bits, kept as a signed number of `2 ^ -16` units in sixty-four
bits. Sums and differences stop at the ends of that range. Nothing here rounds to nearest: whole
parts and quotients go to the floor.
-/

namespace Skirmish

/-- A number counted in units of `2 ^ -16`. -/
structure Fixed where
  raw : Int64
  deriving DecidableEq, Inhabited

namespace Fixed

/-- How many bits stand behind the point. -/
def fracBits : Nat := 16

/-- How many units make one: a one in front of all the bits behind the point. -/
def unit : Int := 0x10000

/-- The number of units, as an integer. -/
def units (a : Fixed) : Int := a.raw.toInt

/-- The number of `i` units, or the nearest one there is. -/
def ofUnits (i : Int) : Fixed := ⟨Clamp.toInt64 i⟩

def zero : Fixed := ⟨0⟩

def one : Fixed := ofUnits unit

/-- The word moved in front of the point, as far as there is room for it. -/
def raise (i : Int64) : Int64 := i <<< Int64.ofNat fracBits

/-- Numerator and denominator of a quotient as words, the sign with the numerator. -/
def upright (n d : Int32) : Int64 × Int64 :=
  if d.toInt < 0 then (-n.toInt64, -d.toInt64) else (n.toInt64, d.toInt64)

/-- The quotient of two words at the floor, if the second is positive. -/
def quotient (n d : Int64) : Int64 := Int64.ofInt (n.toInt / d.toInt)

/-- A whole number. -/
def ofWhole (n : Int32) : Fixed := ⟨raise n.toInt64⟩

/-- The quotient `n / d` at the floor; a zero denominator has none. -/
def ofRatio? (n d : Int32) : Option Fixed :=
  if d.toInt = 0 then none
  else
    let (n, d) := upright n d
    some ⟨quotient (raise n) d⟩

/-- The largest whole number not above `a`, at the nearest end of the thirty-two bit range when it
lies outside. -/
def floor (a : Fixed) : Int32 := Clamp.toInt32 (a.units.fdiv unit)

def isZero (a : Fixed) : Bool := a = zero

instance : Add Fixed := ⟨fun a b => ofUnits (a.units + b.units)⟩

instance : Sub Fixed := ⟨fun a b => ofUnits (a.units - b.units)⟩

instance : Neg Fixed := ⟨fun a => ofUnits (-a.units)⟩

/-- The whole part at the floor, then the units that are left, as a fraction. -/
def text (a : Fixed) : String :=
  let whole := a.units.fdiv unit
  let rest := a.units.fmod unit
  s!"{whole}+{rest}/{unit}"

/-! ### What the operations stand for -/

theorem units_inj {a b : Fixed} : a.units = b.units ↔ a = b := by
  cases a; cases b; simp [units, Int64.toInt_inj]

theorem units_lower (a : Fixed) : -0x8000000000000000 ≤ a.units := Int64.le_toInt a.raw

theorem units_upper (a : Fixed) : a.units ≤ 0x7fffffffffffffff := by
  have := Int64.toInt_lt a.raw
  simp only [units]
  omega

@[simp] theorem units_ofUnits (i : Int) :
    (ofUnits i).units = Clamp.between (-0x8000000000000000) 0x7fffffffffffffff i := by
  simp [ofUnits, units]

@[simp] theorem units_zero : zero.units = 0 := rfl

@[simp] theorem isZero_iff {a : Fixed} : a.isZero = true ↔ a = zero := by simp [isZero]

theorem units_add (a b : Fixed) :
    (a + b).units = Clamp.between (-0x8000000000000000) 0x7fffffffffffffff (a.units + b.units) :=
  units_ofUnits _

/-- In front of the point there is room for a word of half the width. -/
theorem toInt_raise {i : Int64} (lower : -0x80000000 ≤ i.toInt) (upper : i.toInt ≤ 0x80000000) :
    (raise i).toInt = i.toInt * unit := by
  have amount : ((Int64.ofNat fracBits).toBitVec.smod 64).toNat = 16 := by decide
  have factor : (BitVec.twoPow 64 16).toInt = unit := by decide
  rw [← Int64.toInt_toBitVec] at lower upper ⊢
  rw [raise, Int64.toBitVec_shiftLeft, BitVec.shiftLeft_eq', amount,
    BitVec.shiftLeft_eq_mul_twoPow, BitVec.toInt_mul, factor]
  apply Int.bmod_eq_of_le <;> simp only [unit] <;> omega

theorem toInt_neg_toInt64 (n : Int32) : (-n.toInt64).toInt = -n.toInt := by
  have lower := Int32.le_toInt n
  have upper := Int32.toInt_lt n
  rw [Int64.toInt_neg, Int32.toInt_toInt64]
  apply Int.bmod_eq_of_le <;> omega

theorem toInt_quotient {n d : Int64} (positive : 0 < d.toInt) :
    (quotient n d).toInt = n.toInt / d.toInt := by
  have lower := Int64.le_toInt n
  have upper := Int64.toInt_lt n
  have small := Int.natAbs_ediv_le_natAbs n.toInt d.toInt
  have sign : n.toInt < 0 → n.toInt / d.toInt < 0 := fun negative =>
    Int.ediv_neg_of_neg_of_pos negative positive
  exact Int64.toInt_ofInt_of_le (by omega) (by omega)

/-- A whole number never meets the ends of the range. -/
theorem units_ofWhole (n : Int32) : (ofWhole n).units = n.toInt * unit := by
  have lower := Int32.le_toInt n
  have upper := Int32.toInt_lt n
  rw [units, ofWhole, toInt_raise, Int32.toInt_toInt64] <;> rw [Int32.toInt_toInt64] <;> omega

@[simp] theorem ofRatio?_eq_none_iff {n d : Int32} : ofRatio? n d = none ↔ d.toInt = 0 := by
  simp [ofRatio?]

end Fixed

end Skirmish
