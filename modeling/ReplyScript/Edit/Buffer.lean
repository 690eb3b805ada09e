import ReplyScript.Edit.Position
import ReplyScript.Text.Lines

/-! # Text buffers

A text as lines, with snapshots for undo and redo. A column beyond the end of its line stands for
the end; a line beyond the last one is out of bounds.
-/

namespace ReplyScript.Edit

/-- A text under edit. The latest snapshots come first. -/
structure Buffer where
  lines : List String
  past : List (List String)
  future : List (List String)
  deriving Repr, DecidableEq, BEq, Inhabited

namespace Buffer

/-- A buffer without a history. -/
def ofText (text : String) : Buffer :=
  ⟨Text.lines text, [], []⟩

def text (b : Buffer) : String :=
  Text.unlines b.lines

/-- The number of lines of the text, an empty text having one. -/
def lineCount (b : Buffer) : Nat :=
  b.lines.length

/-- The characters of the line of a position, or the position if there is no such line. -/
def lineAt (b : Buffer) (p : Position) : Except Position (List Char) :=
  match b.lines[p.line]? with
  | some line => .ok line.toList
  | none => .error p

/-- The text of a range, or the position that is out of bounds. -/
def textIn (b : Buffer) (range : Range) : Except Position String := do
  let r := range.normalized
  let first ← b.lineAt r.start
  let last ← b.lineAt r.stop
  if r.start.line = r.stop.line then
    return String.ofList ((first.take r.stop.column).drop r.start.column)
  else
    let between := (b.lines.take r.stop.line).drop (r.start.line + 1)
    return Text.unlines (String.ofList (first.drop r.start.column)
      :: (between ++ [String.ofList (last.take r.stop.column)]))

/-- Put a text in place of a range. The lines before go to the past, and the future is forgotten. -/
def replace (b : Buffer) (range : Range) (text : String) : Except Position Buffer := do
  let r := range.normalized
  let first ← b.lineAt r.start
  let last ← b.lineAt r.stop
  let joined := String.ofList (first.take r.start.column) ++ text
    ++ String.ofList (last.drop r.stop.column)
  return {
    lines := b.lines.take r.start.line ++ Text.lines joined ++ b.lines.drop (r.stop.line + 1)
    past := b.lines :: b.past
    future := [] }

/-- Go back one snapshot, if there is one. -/
def undo? (b : Buffer) : Option Buffer :=
  match b.past with
  | [] => none
  | lines :: past => some ⟨lines, past, b.lines :: b.future⟩

/-- Go forward one snapshot, if there is one. -/
def redo? (b : Buffer) : Option Buffer :=
  match b.future with
  | [] => none
  | lines :: future => some ⟨lines, b.lines :: b.past, future⟩

/-- The buffer after the text has become another one behind its back: the history is dropped. A
buffer that already holds the text stays as it is. -/
def sync (b : Buffer) (text : String) : Buffer :=
  if b.text = text then b else ofText text

end Buffer

end ReplyScript.Edit
