/-! # Positions

Lines and columns count from zero; columns count characters. A range may be given backwards.
-/

namespace ReplyScript.Edit

/-- A line and a column in it. -/
structure Position where
  line : Nat
  column : Nat
  deriving Repr, DecidableEq, BEq, Inhabited

/-- The line decides; on one line the column. -/
def Position.before (a b : Position) : Bool :=
  a.line < b.line || (a.line == b.line && a.column < b.column)

/-- A position as line and column with a colon. -/
def Position.display (p : Position) : String :=
  toString p.line ++ ":" ++ toString p.column

/-- Two positions, the second of which is where a selection was left. -/
structure Range where
  start : Position
  stop : Position
  deriving Repr, DecidableEq, BEq, Inhabited

namespace Range

def ofCoordinates (startLine startColumn endLine endColumn : Nat) : Range :=
  ⟨⟨startLine, startColumn⟩, ⟨endLine, endColumn⟩⟩

def caret (p : Position) : Range := ⟨p, p⟩

/-- The same range with its start first. -/
def normalized (r : Range) : Range :=
  if r.stop.before r.start then ⟨r.stop, r.start⟩ else r

/-- Start and end as given. -/
def display (r : Range) : String :=
  r.start.display ++ "-" ++ r.stop.display

end Range

end ReplyScript.Edit
