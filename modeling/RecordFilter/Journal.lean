/-!
# The journal

Editing, validating and compiling leave notes about what was skipped and what came out.

* `Note` — a line of the journal with its level.
* `Noted` — a result together with the notes that led to it, in the order in which they were made.
-/

set_option autoImplicit false

namespace RecordFilter

/-- How important a note is. -/
inductive Level where
  | debug
  | trace
  deriving DecidableEq

/-- A line of the journal. -/
structure Note where
  level : Level
  text : String
  deriving DecidableEq

/-- A result and the notes that were made on the way to it. -/
structure Noted (α : Type) where
  value : α
  notes : List Note := []

/-- The name of a level, in capitals. -/
def Level.name : Level → String
  | debug => "DEBUG"
  | trace => "TRACE"

/-- The level and the text of a note. -/
def Note.line (n : Note) : String := n.level.name ++ " " ++ n.text

namespace Noted

/-- Another result with the same notes. -/
def map {α β : Type} (f : α → β) (x : Noted α) : Noted β := ⟨f x.value, x.notes⟩

/-- A result that leaves one note of the level debug. -/
def debug {α : Type} (text : String) (value : α) : Noted α := ⟨value, [⟨.debug, text⟩]⟩

end Noted
end RecordFilter
