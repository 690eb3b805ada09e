import ReplyScript.Disk.Content
import ReplyScript.Edit.Position

/-! # Faults

What the workspace and the other services of a session report when they fail.
-/

namespace ReplyScript

open Edit (Position)

/-- Why a service fails. -/
inductive Fault where
  | notFound (path : String)
  | outOfRange (path : String) (position : Position) (lineCount : Nat)
  | io (text : String)
  | invalidInput (text : String)
  | unsupported (text : String)
  | internal (text : String)
  deriving Repr, DecidableEq, BEq, Inhabited

namespace Fault

def message : Fault → String
  | notFound path => "file not found: " ++ path
  | outOfRange path position lineCount =>
      "position " ++ position.display ++ " is outside " ++ path ++ " (" ++ toString lineCount
        ++ " lines)"
  | io text => "I/O error: " ++ text
  | invalidInput text => "invalid input: " ++ text
  | unsupported text => "unsupported operation: " ++ text
  | internal text => "internal error: " ++ text

/-- Whether the fault lies in the program or its environment, not in what was asked for. -/
def isInternal : Fault → Bool
  | internal _ => true
  | _ => false

def ofFileError (path : String) : Disk.FileError → Fault
  | .notFound => notFound path
  | e => io (path ++ ": " ++ e.message)

end Fault

end ReplyScript
