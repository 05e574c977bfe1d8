/-!
# Blanks, comments and ends of lines in TOML
-/

namespace Skirmish.Toml

def isBlank (c : Char) : Bool := c = ' ' || c = '\t'

/-- The characters of comments and of strings on one line. -/
def isPlain (c : Char) : Bool := c = '\t' || ' ' ≤ c && c ≠ '\x7f'

def skipBlanks (cs : List Char) : List Char := cs.dropWhile isBlank

/-- Passes over blanks, comments and ends of lines, beginning inside a comment or outside. -/
def skipGaps (inComment : Bool) : List Char → List Char
  | [] => []
  | '\n' :: cs => skipGaps false cs
  | '\r' :: '\n' :: cs => skipGaps false cs
  | c :: cs =>
    if inComment && isPlain c then skipGaps true cs
    else if isBlank c then skipGaps inComment cs
    else if c = '#' then skipGaps true cs
    else c :: cs

/-- What follows the end of a line, if that comes next. -/
def lineEnd? : List Char → Option (List Char)
  | '\n' :: cs => some cs
  | '\r' :: '\n' :: cs => some cs
  | _ => none

/-- What follows a line of which only blanks and a comment may be left. -/
def afterLine? (cs : List Char) : Option (List Char) :=
  let rest := match skipBlanks cs with
    | '#' :: cs => cs.dropWhile isPlain
    | cs => cs
  if rest = [] then some [] else lineEnd? rest

/-- A text without the mark of its encoding in front. -/
def skipMark : List Char → List Char
  | '\ufeff' :: cs => cs
  | cs => cs

end Skirmish.Toml
