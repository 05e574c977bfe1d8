import Skirmish.Content.Numeral

/-!
# Dates and times in TOML

A date, a time of day, or both, and behind both how far the clock is from universal time. Seconds
may be left out. No field has a moment for its value, so that reading one only says what follows it.
-/

namespace Skirmish.Toml

/-- The number in the first `n` characters, all digits. -/
def digits? (n : Nat) (cs : List Char) : Option (Nat × List Char) :=
  let ds := cs.take n
  if ds.length = n ∧ ds.all Char.isDigit then some (Numeral.ofDigits 10 ds, cs.drop n) else none

/-- What follows a character that has to come next. -/
def after? (c : Char) : List Char → Option (List Char)
  | d :: cs => if d = c then some cs else none
  | [] => none

def isLeap (year : Nat) : Bool := year % 4 = 0 && (year % 100 ≠ 0 || year % 400 = 0)

def daysIn (year month : Nat) : Nat :=
  if month = 2 then (if isLeap year then 29 else 28)
  else if [4, 6, 9, 11].contains month then 30
  else 31

/-- What follows a date. -/
def date? (cs : List Char) : Option (List Char) := do
  let (year, cs) ← digits? 4 cs
  let (month, cs) ← digits? 2 (← after? '-' cs)
  let (day, cs) ← digits? 2 (← after? '-' cs)
  if 1 ≤ month ∧ month ≤ 12 ∧ 1 ≤ day ∧ day ≤ daysIn year month then some cs else none

/-- What follows hours and minutes. -/
def clock? (cs : List Char) : Option (List Char) := do
  let (hour, cs) ← digits? 2 cs
  let (minute, cs) ← digits? 2 (← after? ':' cs)
  if hour ≤ 23 ∧ minute ≤ 59 then some cs else none

/-- What follows the digits behind a point, if the point comes next. -/
def part? : List Char → Option (List Char)
  | '.' :: cs => (digits? 1 cs).map fun (_, cs) => cs.dropWhile Char.isDigit
  | cs => some cs

/-- What follows a time of day, which may be in a leap second. -/
def time? (cs : List Char) : Option (List Char) := do
  match ← clock? cs with
  | ':' :: cs =>
    let (second, cs) ← digits? 2 cs
    if second ≤ 60 then part? cs else none
  | cs => some cs

/-- What follows a time of day and how far the clock is from universal time, if that is said. -/
def zonedTime? (cs : List Char) : Option (List Char) := do
  match ← time? cs with
  | 'Z' :: cs => some cs
  | 'z' :: cs => some cs
  | '+' :: cs => clock? cs
  | '-' :: cs => clock? cs
  | cs => some cs

/-- What follows a date, a time of day or both. A blank after a date belongs to them only where a
digit follows it. -/
def moment? (cs : List Char) : Option (List Char) :=
  match date? cs with
  | none => time? cs
  | some rest =>
    match rest with
    | 'T' :: cs => zonedTime? cs
    | 't' :: cs => zonedTime? cs
    | ' ' :: c :: cs => if c.isDigit then zonedTime? (c :: cs) else some rest
    | _ => some rest

end Skirmish.Toml
