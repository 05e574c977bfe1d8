import Skirmish.Content.Toml.Moment
import Skirmish.Content.Toml.Number
import Skirmish.Content.Toml.Quoted
import Skirmish.Content.Toml.Table

/-!
# Records in TOML

The values of the format are integers, other numbers, truth values, strings, moments, lists and
records in braces. A text sets keys, one a line, and puts tables and lists of tables under headers.
A number that cannot be read is part of the record and left to its reader.

Reading takes two steps. The text is first read as lines, each a field or a header; the lines then
fill one table.
-/

namespace Skirmish.Toml

/-! ### Keys -/

/-- How many names a key may have, and how deep lists and records in braces may be nested. -/
def deepest : Nat := 80

/-- The characters of names without quotes. -/
def isNameChar (c : Char) : Bool := c.isAlphanum || c = '_' || c = '-'

/-- A name, with quotes or without. -/
def name? (cs : List Char) : Option (String × List Char) :=
  match cs.takeWhile isNameChar with
  | [] => lineString? cs
  | s => some (.ofList s, cs.dropWhile isNameChar)

/-- A key of at most `n` names, and what follows it and blanks. -/
def keyOf? : Nat → List Char → Option (Key × List Char)
  | 0, _ => none
  | n + 1, cs => do
    let (name, cs) ← name? cs
    match skipBlanks cs with
    | '.' :: cs =>
      let (key, rest) ← keyOf? n (skipBlanks cs)
      return (⟨name :: key.path, key.name⟩, rest)
    | rest => return (⟨[], name⟩, rest)

/-- A key, and what follows it and blanks. -/
def key? (cs : List Char) : Option (Key × List Char) := keyOf? deepest cs

/-! ### Values -/

/-- A date or a time is a record that has nothing but its kind. -/
def moment : Value := .record [("moment", .null)]

/-- A value that is no list and no record in braces, and what follows it. -/
def scalar? (cs : List Char) : Option (Value × List Char) :=
  match moment? cs with
  | some rest => some (moment, rest)
  | none =>
    match string? cs with
    | some (s, rest) => some (.text s, rest)
    | none =>
      let (w, rest) := word cs
      (word? w).map fun v => (v, rest)

mutual

/-- A value and what follows it. Lists and records lie in it at most `room` deep; fuel above the
length of the text is enough. -/
def value? : Nat → Nat → List Char → Option (Value × List Char)
  | 0, _, _ => none
  | fuel + 1, room + 1, '[' :: cs =>
    (items? fuel room (skipGaps false cs)).map fun (vs, rest) => (.list vs, rest)
  | fuel + 1, room + 1, '{' :: cs =>
    (braced? fuel room [] (skipGaps false cs)).map fun (t, rest) => (.record t.toFields, rest)
  | _ + 1, _, cs => scalar? cs

/-- The values of a list up to its closing bracket; a comma may follow the last. -/
def items? : Nat → Nat → List Char → Option (List Value × List Char)
  | 0, _, _ => none
  | _ + 1, _, ']' :: rest => some ([], rest)
  | fuel + 1, room, cs => do
    let (v, cs) ← value? fuel room cs
    match skipGaps false cs with
    | ']' :: rest => return ([v], rest)
    | ',' :: cs =>
      let (vs, rest) ← items? fuel room (skipGaps false cs)
      return (v :: vs, rest)
    | _ => none

/-- The table that the fields of a record make of another, up to the closing brace; a comma may
follow the last. -/
def braced? : Nat → Nat → Table → List Char → Option (Table × List Char)
  | 0, _, _, _ => none
  | _ + 1, _, t, '}' :: rest => some (t, rest)
  | fuel + 1, room, t, cs => do
    let (key, cs) ← key? cs
    let cs ← after? '=' (skipGaps false cs)
    let (v, cs) ← value? fuel room (skipGaps false cs)
    let t ← t.set? key.name v key.path
    match skipGaps false cs with
    | '}' :: rest => return (t, rest)
    | ',' :: cs => braced? fuel room t (skipGaps false cs)
    | _ => none

end

/-! ### Lines -/

/-- A line with something on it. -/
inductive Line where
  | field (key : Key) (v : Value)
  /-- The header of a table; `listed` says that the table is one of a list. -/
  | header (key : Key) (listed : Bool)

/-- The key in a header and what follows it, up to the closing bracket. -/
def headed? (cs : List Char) : Option (Key × List Char) := do
  let (key, cs) ← key? (skipBlanks cs)
  return (key, ← after? ']' cs)

/-- A line up to its end. -/
def Line.read? (fuel : Nat) : List Char → Option (Line × List Char)
  | '[' :: '[' :: cs => do
    let (key, cs) ← headed? cs
    return (header key true, ← after? ']' cs)
  | '[' :: cs => (headed? cs).map fun (key, rest) => (header key false, rest)
  | cs => do
    let (key, cs) ← key? cs
    let cs ← after? '=' cs
    let (v, rest) ← value? fuel deepest (skipBlanks cs)
    return (field key v, rest)

/-- The lines of a text that is shorter than the fuel. -/
def lines? : Nat → List Char → Option (List Line)
  | 0, _ => none
  | fuel + 1, cs =>
    match skipGaps false cs with
    | [] => some []
    | cs => do
      let (line, cs) ← Line.read? fuel cs
      let rest ← lines? fuel (← afterLine? cs)
      return line :: rest

/-! ### Records -/

/-- A table filled by some lines, the first of which stand under the header of a path. -/
def Table.fill? (path : List String) (t : Table) : List Line → Option Table
  | [] => some t
  | .field key v :: ls => do
    let t ← t.inside? (Table.set? key.name v key.path) path
    t.fill? path ls
  | .header key listed :: ls => do
    let t ← if listed then t.beginNext? key else t.begin? key
    t.fill? (key.path ++ [key.name]) ls

/-- The fields of a text. -/
def read? (text : String) : Option Fields := do
  let cs := skipMark text.toList
  let t ← Table.fill? [] [] (← lines? (cs.length + 1) cs)
  return t.toFields

end Skirmish.Toml
