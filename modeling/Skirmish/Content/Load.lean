import Skirmish.Content.Config
import Skirmish.Content.FileTree
import Skirmish.Content.Sheet

/-!
# Loading of content

Books of skills are loaded from sheets, and rules from configurations. A configuration that names a
sheet may not have skills of its own; the path to the sheet begins in its folder.
-/

namespace Skirmish.FileTree

variable (t : FileTree)

/-- The text of the file at a path, unless there is none. -/
def read (path : String) : Except ContentError String :=
  match t.text? path with
  | some text => .ok text
  | none => .error (.unreadable path)

/-- The book of the sheet at a path. -/
def loadBook (path : String) : Except ContentError Skillbook := do
  let text ← t.read path
  (Sheet.book text).mapError (.inSheet path)

/-- The book of the configuration at a path, from itself or from its sheet. -/
def bookOf (path : String) (c : ConfigDraft) : Except ContentError Skillbook := do
  let own ← SkillDraft.book c.skills
  match c.sheet with
  | none => return own
  | some sheet =>
    if own.skills.isEmpty then t.loadBook (join (parent path) sheet)
    else .error (.skillsTwice path sheet)

/-- The rules of the configuration at a path. -/
def loadRules (path : String) : Except ContentError Rules := do
  let c ← ConfigDraft.read (← t.read path)
  let rules : Rules := ⟨← t.bookOf path c, c.budgets⟩
  match rules.fault? with
  | some fault => .error (.unusableConfig path fault)
  | none => .ok rules

end Skirmish.FileTree
