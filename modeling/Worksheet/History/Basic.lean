import Worksheet.History.Command

/-!
The stacks of what to undo and what to redo. Only the first is limited.
-/

namespace Worksheet

/-- Both stacks start with their newest command. -/
structure History where
  undo : List Command
  redo : List Command
  limit : Option Nat
deriving DecidableEq, Repr

namespace History

def empty (limit : Option Nat) : History := ⟨[], [], limit⟩

def keep (limit : Option Nat) (commands : List Command) : List Command :=
  match limit with
  | none => commands
  | some limit => commands.take limit

def pushUndo (history : History) (command : Command) : History :=
  { history with undo := keep history.limit (command :: history.undo) }

def pushRedo (history : History) (command : Command) : History :=
  { history with redo := command :: history.redo }

def record (history : History) (command : Command) : History :=
  { history.pushUndo command with redo := [] }

def popUndo (history : History) : Option Command × History :=
  (history.undo.head?, { history with undo := history.undo.tail })

def popRedo (history : History) : Option Command × History :=
  (history.redo.head?, { history with redo := history.redo.tail })

def undoCount (history : History) : Nat := history.undo.length

def redoCount (history : History) : Nat := history.redo.length

end History

end Worksheet
