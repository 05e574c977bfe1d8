/-!
# Integers in content files

Decimal digits behind an optional sign, or digits of another base. Underscores may stand among the
digits to group them; each file format has a rule of its own on where.
-/

namespace Skirmish.Numeral

/-- The digit that a character is in a base up to sixteen. -/
def digit? (base : Nat) (c : Char) : Option Nat :=
  let d :=
    if c.isDigit then c.toNat - '0'.toNat
    else if 'a' ≤ c && c ≤ 'f' then c.toNat - 'a'.toNat + 10
    else if 'A' ≤ c && c ≤ 'F' then c.toNat - 'A'.toNat + 10
    else base
  if d < base then some d else none

def isDigit (base : Nat) (c : Char) : Bool := (digit? base c).isSome

/-- The value of digits, passing over what groups them. -/
def ofDigits (base : Nat) (cs : List Char) : Nat :=
  cs.foldl (fun n c => match digit? base c with
    | some d => base * n + d
    | none => n) 0

/-- A sign, if there is one, and what follows it. -/
def splitSign : List Char → Bool × List Char
  | '-' :: cs => (true, cs)
  | '+' :: cs => (false, cs)
  | cs => (false, cs)

/-- The integer of a text whose part after the sign obeys a rule. -/
def read? (rule : List Char → Bool) (cs : List Char) : Option Int :=
  let (negative, digits) := splitSign cs
  if rule digits then
    some (if negative then -(ofDigits 10 digits : Int) else (ofDigits 10 digits : Int))
  else none

/-- A digit, then digits and underscores in any order. -/
def isLoose : List Char → Bool
  | [] => false
  | c :: cs => c.isDigit && cs.all fun c => c.isDigit || c = '_'

/-- Digits in groups, each underscore between two of them. -/
def isGrouped (base : Nat) : List Char → Bool
  | [] => false
  | [c] => isDigit base c
  | c :: '_' :: cs => isDigit base c && isGrouped base cs
  | c :: d :: cs => isDigit base c && isGrouped base (d :: cs)

/-- Decimal digits in groups, without a zero in front of others. -/
def isStrict (cs : List Char) : Bool := isGrouped 10 cs && (cs.head? ≠ some '0' || cs = ['0'])

end Skirmish.Numeral
