import Skirmish.Content.Draft
import Skirmish.Content.Numeral

/-!
# Sheets of skills

A sheet is a list of drafts in RON, each in parentheses with its fields by name. Fields come in any
order, a comma may follow the last of anything, and comments may stand wherever blanks may. A text
is first cut into tokens.
-/

namespace Skirmish.Sheet

/-- A token of a sheet. -/
inductive Token where
  /-- A bracket, a comma or a colon. -/
  | mark (c : Char)
  | word (s : String)
  | int (i : Int)
  deriving DecidableEq

/-- Blanks between tokens: spaces, line breaks, and the marks of writing direction. -/
def isBlank (c : Char) : Bool :=
  c = ' ' || '\t' ≤ c && c ≤ '\x0d' || c = '\u0085' || c = '\u200e' || c = '\u200f' ||
    c = '\u2028' || c = '\u2029'

def isMark (c : Char) : Bool := ['[', ']', '(', ')', ',', ':'].contains c

/-- The characters of words and numbers. -/
def isWordChar (c : Char) : Bool := c.isAlphanum || ['_', '+', '-', '.'].contains c

def isName : List Char → Bool
  | [] => false
  | c :: cs => (c.isAlpha || c = '_') && cs.all fun c => c.isAlphanum || c = '_'

/-- The token of a run of word characters. -/
def Token.ofRun? (cs : List Char) : Option Token :=
  if isName cs then some (.word (String.ofList cs))
  else (Numeral.read? Numeral.isLoose cs).map .int

/-- What follows a block comment, inside of which `depth` more were opened. -/
def afterBlock? (depth : Nat) : List Char → Option (List Char)
  | [] => none
  | '*' :: '/' :: cs =>
    match depth with
    | 0 => some cs
    | depth + 1 => afterBlock? depth cs
  | '/' :: '*' :: cs => afterBlock? (depth + 1) cs
  | _ :: cs => afterBlock? depth cs

theorem length_afterBlock? {depth : Nat} {cs rest : List Char}
    (h : afterBlock? depth cs = some rest) : rest.length ≤ cs.length := by
  fun_induction afterBlock? depth cs with
  | case1 => simp at h
  | case2 cs => simp at h; simp [h]; omega
  | case3 cs depth ih => have := ih h; simp only [List.length_cons]; omega
  | case4 depth cs ih => have := ih h; simp only [List.length_cons]; omega
  | case5 depth c cs _ _ ih => have := ih h; simp only [List.length_cons]; omega

theorem length_dropWhile_le (p : Char → Bool) (cs : List Char) :
    (cs.dropWhile p).length ≤ cs.length :=
  (List.dropWhile_sublist p).length_le

/-- The tokens of a text. -/
def tokens? : List Char → Option (List Token)
  | [] => some []
  | '/' :: '/' :: cs => tokens? (cs.dropWhile (· ≠ '\n'))
  | '/' :: '*' :: cs =>
    match _ : afterBlock? 0 cs with
    | some rest => tokens? rest
    | none => none
  | c :: cs =>
    if isBlank c then tokens? cs
    else if isMark c then (tokens? cs).map (.mark c :: ·)
    else if isWordChar c then do
      let token ← Token.ofRun? (c :: cs.takeWhile isWordChar)
      let rest ← tokens? (cs.dropWhile isWordChar)
      return token :: rest
    else none
termination_by cs => cs.length
decreasing_by
  · have := length_dropWhile_le (· ≠ '\n') cs
    simp only [List.length_cons]
    omega
  · have := length_afterBlock? ‹_›
    simp only [List.length_cons]
    omega
  · simp
  · simp
  · have := length_dropWhile_le isWordChar cs
    simp only [List.length_cons]
    omega

/-- What is left of some tokens after reading a part of them. -/
abbrev Rest (ts : List Token) := { rest : List Token // rest.length < ts.length }

/-- A closing parenthesis, behind a comma or not. -/
def close? : (ts : List Token) → Option (Rest ts)
  | .mark ',' :: .mark ')' :: rest => some ⟨rest, by simp only [List.length_cons]; omega⟩
  | .mark ')' :: rest => some ⟨rest, by simp⟩
  | _ => none

/-- A value of a field: an integer, a truth value, `None`, or `Some` around a pair. -/
def value? : (ts : List Token) → Option (Value × Rest ts)
  | .int i :: rest => some (.int i, ⟨rest, by simp⟩)
  | .word "true" :: rest => some (.bool true, ⟨rest, by simp⟩)
  | .word "false" :: rest => some (.bool false, ⟨rest, by simp⟩)
  | .word "None" :: rest => some (.null, ⟨rest, by simp⟩)
  | .word "Some" :: .mark '(' :: .mark '(' :: .int n :: .mark ',' :: .int d :: ts => do
    let ⟨ts', inner⟩ ← close? ts
    let ⟨rest, outer⟩ ← close? ts'
    return (.list [.int n, .int d], ⟨rest, by simp only [List.length_cons]; omega⟩)
  | _ => none

/-- The fields of a draft, up to its closing parenthesis. -/
def fields? : (ts : List Token) → Option (Fields × Rest ts)
  | .mark ')' :: rest => some ([], ⟨rest, by simp⟩)
  | .word name :: .mark ':' :: ts => do
    let (v, left) ← value? ts
    have shorter := left.property
    match h : left.val with
    | .mark ',' :: ts' =>
      let (fs, rest) ← fields? ts'
      have inner := rest.property
      return ((name, v) :: fs, ⟨rest.val, by simp only [h, List.length_cons] at *; omega⟩)
    | .mark ')' :: rest =>
      return ([(name, v)], ⟨rest, by simp only [h, List.length_cons] at *; omega⟩)
    | _ => none
  | _ => none
termination_by ts => ts.length
decreasing_by
  simp only [h, List.length_cons] at *
  omega

/-- A draft of the given fields, each of which may be there only once. -/
def draft? (f : Fields) : Option SkillDraft :=
  if f.Distinct then ofFields? f else none

/-- The drafts of a sheet, up to the closing bracket at its end. -/
def drafts? : List Token → Option (List SkillDraft)
  | [.mark ']'] => some []
  | .mark '(' :: ts => do
    let (f, left) ← fields? ts
    let d ← draft? f
    match _ : left.val with
    | .mark ',' :: rest => return d :: (← drafts? rest)
    | [.mark ']'] => return [d]
    | _ => none
  | _ => none
termination_by ts => ts.length
decreasing_by
  have shorter := left.property
  simp only [*, List.length_cons] at *
  omega

/-- The drafts of a text. -/
def read? (text : String) : Option (List SkillDraft) := do
  match ← tokens? text.toList with
  | .mark '[' :: ts => drafts? ts
  | _ => none

/-- The book of a sheet. -/
def book (text : String) : Except ContentError Skillbook :=
  match read? text with
  | none => .error .badSheet
  | some ds => SkillDraft.book ds

end Skirmish.Sheet
