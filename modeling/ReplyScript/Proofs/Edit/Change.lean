import ReplyScript.Edit.Change
import ReplyScript.Proofs.Edit.Splice

/-! # Changes of buffers

Every state that a buffer shows, has shown or can go forward to has the lines of a text, and no
change alters that. Main statement: `Buffer.textAfter_sync`, a buffer that is brought up to date with
a text changes as the text does.
-/

namespace ReplyScript.Edit

namespace Buffer

/-- All states of the buffer have the lines of a text. -/
structure WellFormed (b : Buffer) : Prop where
  present : Canonical b.lines
  past : ∀ ls ∈ b.past, Canonical ls
  future : ∀ ls ∈ b.future, Canonical ls

@[simp]
theorem text_ofText (text : String) : (ofText text).text = text := by
  simp [ofText, Buffer.text]

theorem wellFormed_ofText (text : String) : (ofText text).WellFormed where
  present := canonical_lines text
  past := by simp [ofText]
  future := by simp [ofText]

@[simp]
theorem text_sync (b : Buffer) (text : String) : (b.sync text).text = text := by
  unfold sync
  split
  · assumption
  · simp

private theorem of_map_some {attempt : Except Position Buffer} {next : Buffer}
    (mapped : some <$> attempt = .ok (some next)) : attempt = .ok next := by
  cases attempt with
  | error e => cases mapped
  | ok b => exact congrArg Except.ok (Option.some.inj (Except.ok.inj mapped))

namespace WellFormed

variable {b next : Buffer}

theorem sync (wellFormed : b.WellFormed) (text : String) : (b.sync text).WellFormed := by
  unfold Buffer.sync
  split
  · exact wellFormed
  · exact wellFormed_ofText text

theorem replace (wellFormed : b.WellFormed) {range : Range} {text : String}
    (replaced : b.replace range text = .ok next) : next.WellFormed := by
  have spliced := replace_toOption wellFormed.present range text
  rw [replaced] at spliced
  obtain ⟨whole, -, rfl⟩ := Option.map_eq_some_iff.mp spliced.symm
  exact ⟨canonical_lines whole, List.forall_mem_cons.mpr ⟨wellFormed.present, wellFormed.past⟩,
    by simp⟩

theorem undo (wellFormed : b.WellFormed) (undone : b.undo? = some next) : next.WellFormed := by
  obtain ⟨lines, past, future⟩ := b
  cases past with
  | nil => cases undone
  | cons latest earlier =>
      cases undone
      obtain ⟨atLatest, before⟩ := List.forall_mem_cons.mp wellFormed.past
      exact ⟨atLatest, before, List.forall_mem_cons.mpr ⟨wellFormed.present, wellFormed.future⟩⟩

theorem redo (wellFormed : b.WellFormed) (redone : b.redo? = some next) : next.WellFormed := by
  obtain ⟨lines, past, future⟩ := b
  cases future with
  | nil => cases redone
  | cons latest later =>
      cases redone
      obtain ⟨atLatest, after⟩ := List.forall_mem_cons.mp wellFormed.future
      exact ⟨atLatest, List.forall_mem_cons.mpr ⟨wellFormed.present, wellFormed.past⟩, after⟩

theorem change (wellFormed : b.WellFormed) {c : Change} (changed : b.change c = .ok (some next)) :
    next.WellFormed := by
  cases c with
  | insert p text => exact wellFormed.replace (of_map_some changed)
  | replace range text => exact wellFormed.replace (of_map_some changed)
  | delete range => exact wellFormed.replace (of_map_some changed)
  | undo => exact wellFormed.undo (Except.ok.inj changed)
  | redo => exact wellFormed.redo (Except.ok.inj changed)

end WellFormed

/-- The text that a change leaves a buffer with, if it can be made. -/
def textAfter (b : Buffer) (c : Change) : Option String :=
  (b.change c).toOption.map fun next => (next.getD b).text

private theorem textAfter_replace {b : Buffer} (canonical : Canonical b.lines) (range : Range)
    (new : String) :
    ((some <$> b.replace range new : Except Position (Option Buffer)).toOption.map
      fun next => (next.getD b).text) = splice? b.text range new := by
  have spliced := replace_toOption canonical range new
  cases replaced : b.replace range new with
  | error e =>
      rw [replaced] at spliced
      exact (Option.map_eq_none_iff.mp spliced.symm).symm
  | ok next =>
      rw [replaced] at spliced
      obtain ⟨whole, found, rfl⟩ := Option.map_eq_some_iff.mp spliced.symm
      rw [found]
      exact congrArg some (Text.unlines_lines whole)

private theorem textAfter_undo (b : Buffer) : b.textAfter .undo = some (latest b.past b.text) := by
  obtain ⟨lines, past, future⟩ := b
  cases past <;> rfl

private theorem textAfter_redo (b : Buffer) :
    b.textAfter .redo = some (latest b.future b.text) := by
  obtain ⟨lines, past, future⟩ := b
  cases future <;> rfl

/-- A buffer that is brought up to date with a text changes as the text does. -/
theorem textAfter_sync {held : Buffer} (wellFormed : held.WellFormed) (text : String) (c : Change) :
    (held.sync text).textAfter c = c.outcome? held text := by
  have splices (range : Range) (new : String) :=
    textAfter_replace (wellFormed.sync text).present range new
  rw [text_sync] at splices
  cases c with
  | insert p new => exact splices (.caret p) new
  | replace range new => exact splices range new
  | delete range => exact splices range ""
  | undo =>
      rw [textAfter_undo, text_sync]
      unfold sync Change.outcome?
      split <;> rfl
  | redo =>
      rw [textAfter_redo, text_sync]
      unfold sync Change.outcome?
      split <;> rfl

end Buffer

end ReplyScript.Edit
