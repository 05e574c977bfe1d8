import Skirmish.Content.Numeral
import Skirmish.Content.Toml.Spacing

/-!
# Strings in TOML

A string stands in quotes or in apostrophes. One of each side keeps it on one line; three of each
side make it a block, which may have many lines and does not begin with the end of the line that
opens it. A backslash escapes what follows it in quotes, and means itself in apostrophes.
-/

namespace Skirmish.Toml

/-! ### Escapes -/

/-- The character that a letter behind a backslash stands for. -/
def escaped? : Char → Option Char
  | 'b' => some '\x08'
  | 't' => some '\t'
  | 'n' => some '\n'
  | 'f' => some '\x0c'
  | 'r' => some '\r'
  | 'e' => some '\x1b'
  | '"' => some '"'
  | '\\' => some '\\'
  | _ => none

/-- The character whose number is written in hexadecimal digits. -/
def numbered? (digits : List Char) : Option Char :=
  let n := Numeral.ofDigits 16 digits
  if digits.all (Numeral.isDigit 16) ∧ n.isValidChar then some (.ofNat n) else none

/-- What a string in quotes says. A backslash at the end of a line joins the next line, without the
blanks and ends of lines between; `joining` says that those are being passed over. -/
def unescape? (joining : Bool) : List Char → Option (List Char)
  | [] => some []
  | ['\\'] => none
  | '\\' :: 'x' :: c₁ :: c₂ :: cs => do
    let c ← numbered? [c₁, c₂]
    return c :: (← unescape? false cs)
  | '\\' :: 'u' :: c₁ :: c₂ :: c₃ :: c₄ :: cs => do
    let c ← numbered? [c₁, c₂, c₃, c₄]
    return c :: (← unescape? false cs)
  | '\\' :: 'U' :: c₁ :: c₂ :: c₃ :: c₄ :: c₅ :: c₆ :: c₇ :: c₈ :: cs => do
    let c ← numbered? [c₁, c₂, c₃, c₄, c₅, c₆, c₇, c₈]
    return c :: (← unescape? false cs)
  | '\\' :: c :: cs =>
    if (lineEnd? (skipBlanks (c :: cs))).isSome then unescape? true (c :: cs)
    else do
      let c ← escaped? c
      return c :: (← unescape? false cs)
  | c :: cs =>
    if joining && (isBlank c || c = '\n' || c = '\r') then unescape? true cs
    else (unescape? false cs).map (c :: ·)

/-! ### Quotes -/

/-- What closes a string, if it comes next, and what follows. A block is closed by three quotes, and
up to two more in front of them belong to it. -/
def closing? (q : Char) (block : Bool) (cs : List Char) : Option (List Char × List Char) :=
  match (cs.takeWhile (· = q)).length with
  | 0 => none
  | n + 1 =>
    if block then
      if n < 2 then none else some (cs.take (min (n - 2) 2), cs.drop (min (n + 1) 5))
    else some ([], cs.drop 1)

/-- What stands in a string up to the quote that closes it, and what follows that. Where a backslash
escapes, a quote behind it does not close the string. -/
def body? (q : Char) (block : Bool) : List Char → Option (List Char × List Char)
  | [] => none
  | [c] => closing? q block [c]
  | c :: d :: cs =>
    match closing? q block (c :: d :: cs) with
    | some found => some found
    | none =>
      if isPlain c || block && (lineEnd? (c :: d :: cs)).isSome then
        if c = '\\' && q = '"' && isPlain d then
          (body? q block cs).map fun (s, rest) => (c :: d :: s, rest)
        else (body? q block (d :: cs)).map fun (s, rest) => (c :: s, rest)
      else none

/-- The string whose opening quotes were just read, and what follows it. -/
def quoted? (q : Char) (block : Bool) (cs : List Char) : Option (String × List Char) := do
  let (s, rest) ← body? q block cs
  let s ← if q = '"' then unescape? false s else some s
  return (.ofList s, rest)

/-- A string on one line. -/
def lineString? : List Char → Option (String × List Char)
  | '"' :: '"' :: '"' :: _ => none
  | '\x27' :: '\x27' :: '\x27' :: _ => none
  | '"' :: cs => quoted? '"' false cs
  | '\x27' :: cs => quoted? '\x27' false cs
  | _ => none

/-- A string on one line or in a block. -/
def string? : List Char → Option (String × List Char)
  | '"' :: '"' :: '"' :: cs => quoted? '"' true ((lineEnd? cs).getD cs)
  | '\x27' :: '\x27' :: '\x27' :: cs => quoted? '\x27' true ((lineEnd? cs).getD cs)
  | cs => lineString? cs

end Skirmish.Toml
