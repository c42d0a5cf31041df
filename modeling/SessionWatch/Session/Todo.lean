/-
# Todo lists

An agent reports its todo list as items with a content and a status. A session
keeps each item as one line that starts with a marker, and a todo counts as
pending until its line carries the marker of a completed one.

Key definitions: `TodoItem`, `TodoItem.line`, `TodoItem.ofHook`, `isPending`,
`pendingCount`.
Key theorems: `isPending_line`, `pendingCount_lines`.
-/
import SessionWatch.Schema.FromValue
import SessionWatch.Session.Basic
import SessionWatch.Text.Blank

namespace SessionWatch

/-- A todo as the agent reports it. -/
structure TodoItem where
  content : String
  status : String
  deriving DecidableEq

namespace TodoItem

/-- The marker in front of a completed todo. -/
def doneMarker : String := "[✓]"

/-- The marker of a status; every status but the two with a marker of their own is pending. -/
def marker (status : String) : String :=
  if status = "completed" then doneMarker
  else if status = "in_progress" then "[→]"
  else "[ ]"

/-- The line that a session keeps for a todo. -/
def line (t : TodoItem) : String := marker t.status ++ " " ++ t.content

def shape : Shape TodoItem :=
  (Shape.record "struct TodoItem"
    (.orElse "content" textShape "" (.orElse "status" textShape "" .nil))).via
    (fun (content, status, ()) => ⟨content, status⟩) (fun t => (t.content, t.status, ()))

def listShape : Shape (List TodoItem) :=
  (Shape.record "struct TodoWriteInput" (.orElse "todos" (.list shape) [] .nil)).via
    (fun (todos, ()) => todos) (fun todos => (todos, ()))

/-- The items that a hook reports: those of its tool input, if it has one, or its own. -/
def ofHook (v : Json) : Except Json.Mismatch (List TodoItem) :=
  listShape.ofJson .parsed ((v.get? "tool_input").getD v)

/-- The complaint about a report without a todo list. -/
def complaint (m : Json.Mismatch) : String := "Malformed todo payload: " ++ m.message

end TodoItem

/-- A todo is pending unless its line has the marker of a completed one, blanks before it aside. -/
def isPending (todo : String) : Bool :=
  !TodoItem.doneMarker.toList.isPrefixOf (Text.dropBlanks todo.toList)

/-- How many todos are pending. -/
def pendingCount (todos : List String) : Nat := todos.countP isPending

/-- An item is pending on its line exactly if its status is not that of a completed one. -/
theorem isPending_line (t : TodoItem) : isPending t.line = true ↔ t.status ≠ "completed" := by
  unfold isPending TodoItem.line TodoItem.marker
  split
  · next h => simp [h, TodoItem.doneMarker, Text.dropBlanks, Text.isBlank, Text.blankRanges]
  · next h =>
    split <;> simp [h, TodoItem.doneMarker, Text.dropBlanks, Text.isBlank, Text.blankRanges,
      List.isPrefixOf]

theorem pendingCount_lines (items : List TodoItem) :
    pendingCount (items.map TodoItem.line) = items.countP (fun t => t.status ≠ "completed") := by
  rw [pendingCount, List.countP_map]
  refine List.countP_congr fun t _ => ?_
  simp [isPending_line]

end SessionWatch
