import ReplyScript.Script.Command

/-! # Blocks and findings

Three commands take a body of several lines between an opening and a closing directive. What a
reader has to say about a reply are findings: each has a cause and the span it is about. Only a
malformed argument is an error; all other causes are warnings.
-/

namespace ReplyScript.Script

/-! ## Blocks -/

inductive BlockKind where
  | input
  | replace
  | memoryWrite
  deriving Repr, DecidableEq, BEq, Inhabited

namespace BlockKind

def all : List BlockKind := [input, replace, memoryWrite]

/-- The directive that opens a block. -/
def opener : BlockKind → String
  | input => "startInput"
  | replace => "startReplace"
  | memoryWrite => "startMemoryWrite"

/-- The directive that closes a block. -/
def closer : BlockKind → String
  | input => "endInput"
  | replace => "endReplace"
  | memoryWrite => "endMemoryWrite"

/-- The command that a closed block becomes. -/
def command : BlockKind → String
  | input => "input"
  | replace => "replace"
  | memoryWrite => "memoryWrite"

/-- The block opened by a directive. -/
def ofOpener? (name : String) : Option BlockKind :=
  all.find? fun kind => kind.opener == name

/-- The block closed by a directive. -/
def ofCloser? (name : String) : Option BlockKind :=
  all.find? fun kind => kind.closer == name

end BlockKind

/-! ## Findings -/

/-- How bad a finding is. -/
inductive Severity where
  | warning
  | error
  deriving Repr, DecidableEq, BEq, Inhabited

/-- Where an unclosed block was given up. -/
inductive BlockEnd where
  | scriptEnd
  | replyEnd
  deriving Repr, DecidableEq, BEq, Inhabited

/-- The causes of findings. -/
inductive Cause where
  /-- A block was still open at the end of its script or reply. -/
  | unclosed (kind : BlockKind) (at_ : BlockEnd)
  /-- An opener inside an open block. -/
  | nestedOpener (inner outer : BlockKind)
  /-- Any other directive inside an open block. -/
  | directiveInBlock (name : String) (kind : BlockKind)
  /-- A closer while no block is open. -/
  | strayCloser (name : String)
  /-- An argument that is no JSON scalar where one is asked for. -/
  | invalidArgument (name token : String)
  deriving Repr, DecidableEq, BEq, Inhabited

namespace Cause

/-- Whether a cause stops the script or only deserves a warning. -/
def severity : Cause → Severity
  | invalidArgument .. => .error
  | _ => .warning

def message : Cause → String
  | unclosed kind .scriptEnd =>
      "@" ++ kind.opener ++ " was never closed before the script ended"
  | unclosed kind .replyEnd =>
      "@" ++ kind.opener ++ " was never closed before the end of the reply"
  | nestedOpener inner outer =>
      "@" ++ inner.opener ++ " while @" ++ outer.opener ++ " is still open"
  | directiveInBlock name kind => "@" ++ name ++ " inside @" ++ kind.opener
  | strayCloser name => "@" ++ name ++ " without a matching opener"
  | invalidArgument name token => "invalid @" ++ name ++ " argument: " ++ token

/-- The lines of advice below the headline. -/
def notes : Cause → List String
  | unclosed kind _ =>
      ["expected @" ++ kind.closer ++ "; the " ++ kind.command ++ " command was dropped"]
  | nestedOpener .. => ["blocks cannot be nested; the inner opener was ignored"]
  | directiveInBlock .. =>
      ["directive lines are not part of a block body; the line was dropped"]
  | strayCloser _ => ["the directive was ignored"]
  | invalidArgument .. => ["arguments must be JSON literals, e.g. \"path/to/file\" 10 0"]

end Cause

/-- A cause and the span it is about. -/
structure Finding where
  cause : Cause
  span : Span
  deriving Repr, DecidableEq, BEq, Inhabited

namespace Finding

def severity (f : Finding) : Severity := f.cause.severity
def message (f : Finding) : String := f.cause.message
def notes (f : Finding) : List String := f.cause.notes

/-- The message followed by the notes in parentheses. -/
def display (f : Finding) : String :=
  f.notes.foldl (fun shown note => shown ++ " (" ++ note ++ ")") f.message

end Finding

end ReplyScript.Script
