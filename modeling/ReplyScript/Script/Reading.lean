import ReplyScript.Script.Directive
import ReplyScript.Script.Finding
import ReplyScript.Text.Lines

/-! # Reading replies

A reply is prose with scripts in it. Between `@startCommand` and `@endCommand` every directive line
is a command, or opens or closes a block. `Scan.step` reads one line and says what it yields; a
script is what all lines together yield. Reading fails only on malformed arguments of `@input`.
-/

namespace ReplyScript.Script

/-- One line of a reply, without its line end, and the bytes it takes up. -/
structure SourceLine where
  text : String
  span : Span
  deriving Repr, DecidableEq, BEq, Inhabited

/-- Number lines by bytes, each followed by a newline. -/
def placeLines (offset : Nat) : List String → List SourceLine
  | [] => []
  | l :: ls =>
      let stop := offset + l.utf8ByteSize
      ⟨Text.dropCarriageReturn l, ⟨offset, stop⟩⟩ :: placeLines (stop + 1) ls

def sourceLines (source : String) : List SourceLine :=
  placeLines 0 (Text.lines source)

/-- A block whose closer has not been seen. -/
structure OpenBlock where
  kind : BlockKind
  arguments : List Argument
  /-- The body lines so far. -/
  body : List String
  /-- Where the opener starts. -/
  start : Nat
  deriving Repr, DecidableEq, BEq, Inhabited

/-- What is remembered between two lines. -/
structure Scan where
  /-- Whether a script is going on. -/
  active : Bool
  block : Option OpenBlock
  deriving Repr, DecidableEq, BEq, Inhabited

/-- What a line yields. -/
inductive Yield where
  | command (c : Command)
  | warning (f : Finding)
  | error (f : Finding)
  deriving Repr, DecidableEq, BEq, Inhabited

namespace OpenBlock

/-- The command of a block that ends at a byte. Blanks at the end of the body do not count. -/
def close (b : OpenBlock) (stop : Nat) : Command :=
  { name := b.kind.command
    arguments := b.arguments ++ [.text (Text.trimEnd (Text.unlines b.body))]
    span := ⟨b.start, stop⟩ }

/-- The warning for a block that is given up at a byte. -/
def giveUp (b : OpenBlock) (at_ : BlockEnd) (stop : Nat) : Finding :=
  ⟨.unclosed b.kind at_, ⟨b.start, stop⟩⟩

def push (b : OpenBlock) (line : String) : OpenBlock :=
  { b with body := b.body ++ [line] }

end OpenBlock

namespace Scan

/-- Before the first line. -/
def start : Scan := ⟨false, none⟩

def giveUp (s : Scan) (at_ : BlockEnd) (stop : Nat) : List Yield :=
  match s.block with
  | some b => [.warning (b.giveUp at_ stop)]
  | none => []

def stepInBlock (s : Scan) (b : OpenBlock) (d : Directive) (span : Span) : Scan × List Yield :=
  if d.name = b.kind.closer then ({ s with block := none }, [.command (b.close span.stop)])
  else match BlockKind.ofOpener? d.name with
    | some inner => (s, [.warning ⟨.nestedOpener inner b.kind, span⟩])
    | none => (s, [.warning ⟨.directiveInBlock d.name b.kind, span⟩])

def stepInScript (s : Scan) (d : Directive) (span : Span) : Scan × List Yield :=
  match BlockKind.ofOpener? d.name with
  | some kind =>
      match d.arguments with
      | .ok arguments => ({ s with block := some ⟨kind, arguments, [], span.start⟩ }, [])
      | .error token => (s, [.error ⟨.invalidArgument d.name token, span⟩])
  | none =>
    match BlockKind.ofCloser? d.name with
    | some _ => (s, [.warning ⟨.strayCloser d.name, span⟩])
    | none =>
      match d.arguments with
      | .ok arguments => (s, [.command ⟨d.name, arguments, span⟩])
      | .error token => (s, [.error ⟨.invalidArgument d.name token, span⟩])

def stepDirective (s : Scan) (d : Directive) (span : Span) : Scan × List Yield :=
  if d.name = "startCommand" then ({ s with active := true }, [])
  else if d.name = "endCommand" then (start, s.giveUp .scriptEnd span.start)
  else match s.block with
    | some b => s.stepInBlock b d span
    | none => if s.active then s.stepInScript d span else (s, [])

/-- Read a line. A line that is no directive belongs to the open block, if there is one. -/
def step (s : Scan) (line : SourceLine) : Scan × List Yield :=
  match Directive.ofLine? line.text with
  | some d => s.stepDirective d line.span
  | none => ({ s with block := s.block.map (·.push line.text) }, [])

def run (s : Scan) : List SourceLine → Scan × List Yield
  | [] => (s, [])
  | line :: lines =>
      let (s, ys) := s.step line
      let (s, zs) := s.run lines
      (s, ys ++ zs)

theorem run_append (s : Scan) (xs ys : List SourceLine) :
    s.run (xs ++ ys) = ((s.run xs).1.run ys |>.1, (s.run xs).2 ++ ((s.run xs).1.run ys).2) := by
  induction xs generalizing s with
  | nil => rfl
  | cons x xs ih => simp only [List.cons_append, run, ih, List.append_assoc]

end Scan

def yields (source : String) : List Yield :=
  let (s, ys) := Scan.start.run (sourceLines source)
  ys ++ s.giveUp .replyEnd source.utf8ByteSize

def Yield.command? : Yield → Option Command
  | .command c => some c
  | _ => none

def Yield.warning? : Yield → Option Finding
  | .warning f => some f
  | _ => none

def Yield.error? : Yield → Option Finding
  | .error f => some f
  | _ => none

end ReplyScript.Script

namespace ReplyScript

/-- The commands of a reply, in order, and what there is to warn about. -/
structure Script where
  commands : List Script.Command
  warnings : List Script.Finding
  deriving Repr, DecidableEq, BEq, Inhabited

namespace Script

/-- Read a reply. The errors of a reply that cannot be read are in order. -/
def read (source : String) : Except (List Finding) Script :=
  let ys := yields source
  match ys.filterMap Yield.error? with
  | [] => .ok ⟨ys.filterMap Yield.command?, ys.filterMap Yield.warning?⟩
  | errors => .error errors

end Script

end ReplyScript
