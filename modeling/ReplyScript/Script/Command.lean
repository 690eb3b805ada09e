import ReplyScript.Script.Argument
import ReplyScript.Text.Blank
import ReplyScript.Text.Quoted

/-! # Commands

A command has a name, arguments and the place in the reply it came from.
-/

namespace ReplyScript.Script

/-- A range of bytes of a reply: `start` belongs to it, `stop` does not. -/
structure Span where
  start : Nat
  stop : Nat
  deriving Repr, DecidableEq, BEq, Inhabited

def Span.shift (n : Nat) (span : Span) : Span :=
  ⟨span.start + n, span.stop + n⟩

/-- A named command with its arguments in order. -/
structure Command where
  name : String
  arguments : List Argument
  span : Span := ⟨0, 0⟩
  deriving Repr, DecidableEq, BEq, Inhabited

/-- An argument as shown in a command line: texts of several lines by their size, empty texts and
texts with blanks between quotes. -/
def Argument.shown : Argument → String
  | .text s =>
      if '\n' ∈ s.toList then "<" ++ toString s.utf8ByteSize ++ " bytes>"
      else if s.toList = [] ∨ s.toList.any Text.isBlank then Text.quote s
      else s
  | other => other.display

def Command.display (c : Command) : String :=
  "@" ++ " ".intercalate (c.name :: c.arguments.map Argument.shown)

end ReplyScript.Script
