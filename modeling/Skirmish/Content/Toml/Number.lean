import Skirmish.Content.Numeral
import Skirmish.Saved.Value

/-!
# Numbers and truth values in TOML

Integers are decimal, with a sign if need be, or hexadecimal, octal or binary without one. Of other
numbers only the size matters.

A text is refused for a number whose parts are not in place. Of an integer that counts what stands
beside the underscores and in front of them; whether the rest are digits, and not too many, is left
to whoever reads the value.
-/

namespace Skirmish.Toml

/-! ### Words -/

/-- The characters of numbers and truth values, and of what could be mistaken for them. -/
def isWordChar (c : Char) : Bool :=
  not (['=', ',', '[', ']', '{', '}', ' ', '\t', '#', '\r', '\n'].contains c)

/-- Whether a word goes on behind some tabs. -/
def goesOn (cs : List Char) : Bool :=
  match cs.dropWhile (· = '\t') with
  | [] => false
  | c :: _ => isWordChar c && c ≠ '"' && c ≠ '\x27'

/-- The word at the front of a text, which may have tabs inside, and what follows it. -/
def word : List Char → List Char × List Char
  | [] => ([], [])
  | c :: cs =>
    if isWordChar c || c = '\t' && goesOn cs then
      let (w, rest) := word cs
      (c :: w, rest)
    else ([], c :: cs)

/-! ### Integers -/

/-- The integer of some digits behind a sign. It can have up to a hundred and twenty-eight bits,
with a sign or without. -/
def ofDigits (base : Nat) (negative : Bool) (cs : List Char) : Value :=
  let n : Int := Numeral.ofDigits base cs
  let i := if negative then -n else n
  if !cs.isEmpty && cs.all (fun c => Numeral.isDigit base c || c = '_') &&
      -0x80000000000000000000000000000000 ≤ i && i ≤ 0xffffffffffffffffffffffffffffffff then
    .int i
  else .unreadable

/-- An integer in another base than ten. -/
def based? (base : Nat) (cs : List Char) : Option Value :=
  if cs = [] || Numeral.isGrouped base cs then some (ofDigits base false cs) else none

/-- Each underscore stands between two digits of any base. -/
def isSeparated : List Char → Bool
  | [] => true
  | [c] => c ≠ '_'
  | c :: '_' :: cs => Numeral.isDigit 16 c && cs.head?.any (Numeral.isDigit 16) && isSeparated cs
  | c :: d :: cs => c ≠ '_' && isSeparated (d :: cs)

/-- An integer in base ten. An underscore may have `parted` it from its sign; else it begins with
digits, of which a zero stands alone, and an underscore follows them if anything does. -/
def integer? (negative parted : Bool) (cs : List Char) : Option Value :=
  let inPlace :=
    if parted then cs.head?.any (Numeral.isDigit 16)
    else
      cs.head?.any Char.isDigit && (cs.head? ≠ some '0' || cs = ['0']) &&
        ((cs.dropWhile Char.isDigit).head?.all (· = '_'))
  if inPlace && isSeparated cs then some (ofDigits 10 negative cs) else none

/-! ### Other numbers -/

/-- The least size that is rounded to infinity in sixty-four bits. -/
def infinite : Nat := Nat.pow 2 1024 - Nat.pow 2 970

/-- Whether the number that some digits say, times a power of ten, is infinite. The places that it
has before the point tell, except for one count of them, where the exponent is moderate. -/
def isInfinite (digits : List Char) (exponent : Int) : Bool :=
  let n := Numeral.ofDigits 10 digits
  let places := ((digits.filter Char.isDigit).dropWhile (· = '0')).length + exponent
  if n = 0 || places < 309 then false
  else if 309 < places then true
  else if 0 ≤ exponent then infinite ≤ n * Nat.pow 10 exponent.toNat
  else infinite * Nat.pow 10 (-exponent).toNat ≤ n

/-- An exponent behind its letter; nothing stands for zero. -/
def exponent? : List Char → Option Int
  | [] => some 0
  | c :: cs =>
    if c = 'e' || c = 'E' then Numeral.read? (Numeral.isGrouped 10) cs else none

/-- A number that some digits say, times a power of ten. -/
def scaled (digits : List Char) (exponent : Int) : Value :=
  if isInfinite digits exponent then .unreadable else .fraction

/-- A number, without its sign, that has a fractional part or an exponent. A zero comes in front of
other digits only where an underscore `parted` the number from its sign. -/
def decimal? (parted : Bool) (cs : List Char) : Option Value :=
  let inWhole (c : Char) := c.isDigit || c = '_'
  let whole := cs.takeWhile inWhole
  let inPlace := if parted then Numeral.isGrouped 10 whole else Numeral.isStrict whole
  if inPlace then
    match cs.dropWhile inWhole with
    | '.' :: part =>
      let digits := part.takeWhile inWhole
      if Numeral.isGrouped 10 digits then
        (exponent? (part.dropWhile inWhole)).map fun e =>
          scaled (whole ++ digits) (e - (digits.filter Char.isDigit).length)
      else none
    | part => (exponent? part).map (scaled whole)
  else none

/-! ### Values of words -/

/-- A number in base ten behind a sign, from which an underscore may have `parted` it. -/
def unsigned? (negative parted : Bool) (cs : List Char) : Option Value :=
  if cs.any ['.', 'e', 'E'].contains then decimal? parted cs else integer? negative parted cs

/-- A number in base ten. -/
def number? (cs : List Char) : Option Value :=
  let (negative, size) := Numeral.splitSign cs
  if size = "inf".toList || size = "nan".toList then some .fraction
  else
    match size with
    | '_' :: digits => if size = cs then none else unsigned? negative true digits
    | _ => unsigned? negative false size

/-- A number or a truth value. -/
def word? (cs : List Char) : Option Value :=
  if cs = "true".toList then some (.bool true)
  else if cs = "false".toList then some (.bool false)
  else
    match cs with
    | '0' :: 'x' :: digits => based? 16 digits
    | '0' :: 'o' :: digits => based? 8 digits
    | '0' :: 'b' :: digits => based? 2 digits
    | _ => number? cs

end Skirmish.Toml
