import ReplyScript.Edit.Buffer
import ReplyScript.Edit.Splice

/-! # Changes

What can be done to an open text, and what it comes to for the text as a whole.
-/

namespace ReplyScript.Edit

/-- What can be done to an open text. -/
inductive Change where
  | insert (p : Position) (text : String)
  | replace (range : Range) (text : String)
  | delete (range : Range)
  | undo
  | redo
  deriving Repr, DecidableEq, BEq, Inhabited

namespace Buffer

/-- Make a change. There is no buffer if there was nothing to go back or forward to. -/
def change (b : Buffer) : Change → Except Position (Option Buffer)
  | .insert p text => some <$> b.replace (.caret p) text
  | .replace range text => some <$> b.replace range text
  | .delete range => some <$> b.replace range ""
  | .undo => .ok b.undo?
  | .redo => .ok b.redo?

end Buffer

/-- The text of the latest snapshot, or the given text if there is no snapshot. -/
def latest (snapshots : List (List String)) (text : String) : String :=
  (snapshots.head?.map Text.unlines).getD text

/-- What a change makes of a text; `held` is the buffer that was kept of it. Its history counts only
if it still holds the text. There is no outcome if a position is out of bounds. -/
def Change.outcome? (held : Buffer) (text : String) : Change → Option String
  | insert p new => splice? text (.caret p) new
  | replace range new => splice? text range new
  | delete range => splice? text range ""
  | undo => some (if held.text = text then latest held.past text else text)
  | redo => some (if held.text = text then latest held.future text else text)

end ReplyScript.Edit
