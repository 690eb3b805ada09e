import ReplyScript.Edit.Position
import ReplyScript.Instruction.Binding

/-! # Actions

An action is an instruction together with typed arguments. `Action.ofFillings?` reads it off the
fillings of the instruction's slots.
-/

namespace ReplyScript

open Edit (Position Range)
open Script (Argument)

/-- An instruction with its arguments. -/
inductive Action where
  | readFile (path : String) (start stop : Option Nat)
  | listFiles (path : String)
  | createFile (path : String)
  | undo
  | redo
  | input (path : String) (position : Position) (text : String)
  | select (range : Range)
  | replace (path : String) (range : Range) (text : String)
  | copy (path : String) (range : Range)
  | cut (path : String) (range : Range)
  | paste (path : String) (position : Position)
  | getSyntaxErrors
  | search (query : String)
  | runInTerminal (command : String)
  | memoryWrite (text : String)
  | readMemory
  | clearMemory
  | clearConversation
  deriving Repr, DecidableEq, BEq, Inhabited

def Action.ofFillings? : Instruction → List Filling → Option Action
  | .readFile, [.text path, .index start, .index stop] => some (.readFile path start stop)
  | .listFiles, [.text path] => some (.listFiles path)
  | .createFile, [.text path] => some (.createFile path)
  | .undo, [] => some .undo
  | .redo, [] => some .redo
  | .input, [.text path, .index (some line), .index (some column), .text text] =>
      some (.input path ⟨line, column⟩ text)
  | .select, [.index (some a), .index (some b), .index (some c), .index (some d)] =>
      some (.select (.ofCoordinates a b c d))
  | .replace, [.text path, .index (some a), .index (some b), .index (some c), .index (some d),
      .text text] => some (.replace path (.ofCoordinates a b c d) text)
  | .copy, [.text path, .index (some a), .index (some b), .index (some c), .index (some d)] =>
      some (.copy path (.ofCoordinates a b c d))
  | .cut, [.text path, .index (some a), .index (some b), .index (some c), .index (some d)] =>
      some (.cut path (.ofCoordinates a b c d))
  | .paste, [.text path, .index (some line), .index (some column)] =>
      some (.paste path ⟨line, column⟩)
  | .getSyntaxErrors, [] => some .getSyntaxErrors
  | .search, [.text query] => some (.search query)
  | .runInTerminal, [.text command] => some (.runInTerminal command)
  | .memoryWrite, [.text text] => some (.memoryWrite text)
  | .readMemory, [] => some .readMemory
  | .clearMemory, [] => some .clearMemory
  | .clearConversation, [] => some .clearConversation
  | _, _ => none

end ReplyScript
