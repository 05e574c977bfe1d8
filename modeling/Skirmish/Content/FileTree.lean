/-!
# Trees of files

A folder with the files below it. A path begins with the name of the folder and is followed one
segment after the other: through folders that are there, up and down, to a file.
-/

namespace Skirmish

/-- A folder and what is below it. -/
structure FileTree where
  /-- The name of the folder, one segment of a path. -/
  root : String
  /-- The paths of the files from the folder on, with their texts. -/
  files : List (String × String)

namespace FileTree

/-! ### Paths -/

/-- Segments that lead nowhere. -/
def isIdle (segment : String) : Bool := segment = "" || segment = "."

/-- The folder that a path ends in. -/
def parent (path : String) : String :=
  let above := ((path.splitOn "/").reverse.dropWhile isIdle).tail.dropWhile isIdle
  if above.isEmpty && path.startsWith "/" then "/" else "/".intercalate above.reverse

/-- The path to what stands at a path from a folder on. -/
def join (folder path : String) : String :=
  if path.startsWith "/" then path
  else if folder.endsWith "/" then folder ++ path
  else folder ++ "/" ++ path

/-! ### Files -/

variable (t : FileTree)

/-- The files by the segments of their paths. -/
def places : List (List String × String) :=
  t.files.map fun (path, text) => ((path.splitOn "/").filter (!isIdle ·), text)

/-- There are files below a place. -/
def isFolder (place : List String) : Bool :=
  t.places.any fun (file, _) => place.isPrefixOf file && place ≠ file

/-- Where segments lead from a place. -/
def walk? : List String → List String → Option (List String)
  | place, [] => some place
  | place, segment :: rest =>
    if isIdle segment then walk? place rest
    else if segment = ".." then
      if place.isEmpty then none else walk? place.dropLast rest
    else
      let next := place ++ [segment]
      if rest.isEmpty || t.isFolder next then walk? next rest else none

/-- The text of the file at a path. -/
def text? (path : String) : Option String :=
  match path.splitOn "/" with
  | root :: segments =>
    if root = t.root then do t.places.lookup (← t.walk? [] segments) else none
  | [] => none

end FileTree

end Skirmish
