import ReplyScript.Edit.Position
import ReplyScript.Text.Lines

/-! # Edits of plain texts

What a range of a text is and what putting another text in its place comes to, by counting
characters. Buffers work on lines instead and do the same.
-/

namespace ReplyScript.Edit

/-- The number of characters before a position. A column beyond the end of its line stands for the
end; there is no number if there is no such line. -/
def offset? : List Char → Position → Option Nat
  | _, ⟨0, 0⟩ => some 0
  | [], ⟨0, _ + 1⟩ => some 0
  | [], ⟨_ + 1, _⟩ => none
  | c :: cs, ⟨0, column + 1⟩ => if c = '\n' then some 0 else (offset? cs ⟨0, column⟩).map (· + 1)
  | c :: cs, ⟨line + 1, column⟩ =>
      (offset? cs ⟨if c = '\n' then line else line + 1, column⟩).map (· + 1)

/-- The position of a range that a text does not have, if the range is not in the text: its start if
there is no such line, and otherwise its end. -/
def beyond (text : String) (range : Range) : Position :=
  if Text.lineCount text ≤ range.normalized.start.line then range.normalized.start
  else range.normalized.stop

def textBetween? (text : String) (range : Range) : Option String := do
  let first ← offset? text.toList range.normalized.start
  let last ← offset? text.toList range.normalized.stop
  return String.ofList ((text.toList.take last).drop first)

def splice? (text : String) (range : Range) (new : String) : Option String := do
  let first ← offset? text.toList range.normalized.start
  let last ← offset? text.toList range.normalized.stop
  return String.ofList (text.toList.take first ++ new.toList ++ text.toList.drop last)

end ReplyScript.Edit
