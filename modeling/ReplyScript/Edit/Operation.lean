import ReplyScript.Edit.Buffer
import ReplyScript.Edit.Splice

/-! # Operations on buffers

What can be done to a buffer, one thing after another. An operation that is refused leaves the
buffer as it is. A timeline says what the history of a buffer comes to: it is a row of texts, one of
which is shown.
-/

namespace ReplyScript.Edit

/-- What can be done to a buffer. -/
inductive Operation where
  | replace (range : Range) (text : String)
  | undo
  | redo
  | reload (text : String)
  deriving Repr, DecidableEq, BEq, Inhabited

namespace Buffer

/-- Do something to a buffer. The result is the position that is out of bounds, or whether the
buffer has become another one. -/
def operate (b : Buffer) : Operation → Except Position Bool × Buffer
  | .replace range text =>
      match b.replace range text with
      | .ok next => (.ok true, next)
      | .error p => (.error p, b)
  | .undo => (.ok b.undo?.isSome, b.undo?.getD b)
  | .redo => (.ok b.redo?.isSome, b.redo?.getD b)
  | .reload text => (.ok true, ofText text)

/-- Do one thing after another. -/
def run (b : Buffer) (operations : List Operation) : Buffer :=
  operations.foldl (fun b operation => (b.operate operation).2) b

/-- What each of several operations comes to, and the text after it. -/
def trace (b : Buffer) : List Operation → List (Except Position Bool × String)
  | [] => []
  | operation :: rest =>
      let (result, next) := b.operate operation
      (result, next.text) :: next.trace rest

end Buffer

/-- The versions of a text, oldest first, with a cursor on the one that is shown. -/
@[ext]
structure Timeline where
  texts : List String
  cursor : Nat
  inside : cursor < texts.length
  deriving Repr, DecidableEq

namespace Timeline

/-- A text without other versions. -/
def ofText (text : String) : Timeline :=
  ⟨[text], 0, Nat.zero_lt_one⟩

def text (t : Timeline) : String :=
  t.texts.get ⟨t.cursor, t.inside⟩

/-- Drop everything after the cursor, and show a new text there. -/
def push (t : Timeline) (text : String) : Timeline where
  texts := t.texts.take (t.cursor + 1) ++ [text]
  cursor := t.cursor + 1
  inside := by
    have inside := t.inside
    rw [List.length_append, List.length_take, List.length_singleton]
    omega

def operate (t : Timeline) : Operation → Except Position Bool × Timeline
  | .replace range new =>
      match splice? t.text range new with
      | some text => (.ok true, t.push text)
      | none => (.error (beyond t.text range), t)
  | .undo =>
      if 0 < t.cursor then
        (.ok true, ⟨t.texts, t.cursor - 1, Nat.lt_of_le_of_lt (Nat.sub_le ..) t.inside⟩)
      else (.ok false, t)
  | .redo =>
      if further : t.cursor + 1 < t.texts.length then (.ok true, ⟨t.texts, t.cursor + 1, further⟩)
      else (.ok false, t)
  | .reload text => (.ok true, ofText text)

/-- Do one thing after another. -/
def run (t : Timeline) (operations : List Operation) : Timeline :=
  operations.foldl (fun t operation => (t.operate operation).2) t

/-- What each of several operations comes to, and the text that is shown after it. -/
def trace (t : Timeline) : List Operation → List (Except Position Bool × String)
  | [] => []
  | operation :: rest =>
      let (result, next) := t.operate operation
      (result, next.text) :: next.trace rest

end Timeline

end ReplyScript.Edit
