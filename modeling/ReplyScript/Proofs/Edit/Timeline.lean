import ReplyScript.Proofs.Edit.PlainText

/-! # The history of a buffer is a timeline

Each snapshot of a buffer is a version of its text, and what the buffer shows stands between those
that were taken back and those that came before. Main statement: `run_timeline`, whatever is done to
a buffer, its texts and results are those of the timeline.
-/

namespace ReplyScript.Edit

namespace Buffer

def timeline (b : Buffer) : Timeline where
  texts := (b.past.reverse ++ b.lines :: b.future).map Text.unlines
  cursor := b.past.length
  inside := by
    simp only [List.length_map, List.length_append, List.length_reverse, List.length_cons]
    omega

@[simp]
theorem timeline_ofText (text : String) : (ofText text).timeline = .ofText text := by
  simp [timeline, ofText, Timeline.ofText]

@[simp]
theorem text_timeline (b : Buffer) : b.timeline.text = b.text := by
  unfold Timeline.text timeline
  simp [Buffer.text]

/-- What a position that a buffer refuses says about its text. -/
theorem refuses_text {b : Buffer} (canonical : Canonical b.lines) {range : Range} {p : Position}
    (refused : b.Refuses range p) : p = beyond b.text range := by
  rw [beyond, lineCount_text canonical]
  exact refused.2

theorem timeline_push (b : Buffer) (text : String) :
    (⟨Text.lines text, b.lines :: b.past, []⟩ : Buffer).timeline = b.timeline.push text := by
  have upToShown : (b.past.reverse ++ b.lines :: b.future).take (b.past.length + 1)
      = b.past.reverse ++ [b.lines] := by
    rw [← List.length_reverse, List.take_length_add_append]
    rfl
  ext1
  · simp only [timeline, Timeline.push, ← List.map_take, upToShown]
    simp
  · rfl

theorem timeline_undo (b : Buffer) :
    b.timeline.operate .undo = (.ok b.undo?.isSome, (b.undo?.getD b).timeline) := by
  obtain ⟨lines, past, future⟩ := b
  cases past with
  | nil => rfl
  | cons latest earlier =>
      have further : 0 < (⟨lines, latest :: earlier, future⟩ : Buffer).timeline.cursor :=
        Nat.succ_pos earlier.length
      unfold Timeline.operate
      rw [if_pos further]
      refine Prod.ext rfl ?_
      simp [undo?, timeline]

theorem timeline_redo (b : Buffer) :
    b.timeline.operate .redo = (.ok b.redo?.isSome, (b.redo?.getD b).timeline) := by
  obtain ⟨lines, past, future⟩ := b
  unfold Timeline.operate
  cases future with
  | nil => simp [redo?, timeline]
  | cons next later => simp [redo?, timeline]

/-- What is done to a buffer is done to its timeline. -/
theorem timeline_operate {b : Buffer} (wellFormed : b.WellFormed) (operation : Operation) :
    b.timeline.operate operation
      = ((b.operate operation).1, (b.operate operation).2.timeline) := by
  cases operation with
  | undo => exact b.timeline_undo
  | redo => exact b.timeline_redo
  | reload text => simp only [operate, Timeline.operate, timeline_ofText]
  | replace range new =>
      have spliced := replace_toOption wellFormed.present range new
      simp only [Timeline.operate, text_timeline]
      cases replaced : b.replace range new with
      | error p =>
          rw [replaced] at spliced
          have unspliced : splice? b.text range new = none :=
            Option.map_eq_none_iff.mp spliced.symm
          have refused := (b.replace_eq_error_iff range new p).mp replaced
          rw [operate_refused replaced, unspliced, refuses_text wellFormed.present refused]
      | ok next =>
          rw [replaced] at spliced
          obtain ⟨text, found, rfl⟩ := Option.map_eq_some_iff.mp spliced.symm
          rw [operate_replaced replaced, found, timeline_push]

theorem trace_timeline {b : Buffer} (wellFormed : b.WellFormed) (operations : List Operation) :
    b.trace operations = b.timeline.trace operations := by
  induction operations generalizing b with
  | nil => rfl
  | cons operation rest ih =>
      rw [trace, Timeline.trace, timeline_operate wellFormed operation]
      simp only [text_timeline, ih (wellFormed.operate operation)]

theorem timeline_run {b : Buffer} (wellFormed : b.WellFormed) (operations : List Operation) :
    (b.run operations).timeline = b.timeline.run operations := by
  induction operations generalizing b with
  | nil => rfl
  | cons operation rest ih =>
      have later := ih (wellFormed.operate operation)
      show _ = Timeline.run (b.timeline.operate operation).2 rest
      rw [timeline_operate wellFormed operation]
      exact later

/-! ## Steps that take each other back -/

theorem undo_of_replace {b next : Buffer} {range : Range} {new : String}
    (replaced : b.replace range new = .ok next) :
    next.undo? = some { b with future := [next.lines] } := by
  obtain ⟨joined, -, rfl⟩ := of_replace replaced
  rfl

theorem redo_of_undo {b back : Buffer} (undone : b.undo? = some back) : back.redo? = some b := by
  obtain ⟨lines, past, future⟩ := b
  cases past with
  | nil => cases undone
  | cons latest earlier =>
      cases undone
      rfl

theorem undo_of_redo {b forth : Buffer} (redone : b.redo? = some forth) :
    forth.undo? = some b := by
  obtain ⟨lines, past, future⟩ := b
  cases future with
  | nil => cases redone
  | cons next later =>
      cases redone
      rfl

/-- Whatever is done to a buffer, what it comes to and the text after each operation are those of the
timeline that starts with the same text. Wherever the buffer then is on it, taking back a replacement
gives the buffer before it, which can only go forward to what was taken back, and going forward again
takes back a step back. -/
theorem run_timeline (text : String) (operations : List Operation) :
    let b := (ofText text).run operations
    (ofText text).trace operations = (Timeline.ofText text).trace operations
    ∧ b.timeline = (Timeline.ofText text).run operations
    ∧ (∀ range new next, b.replace range new = .ok next →
        next.undo? = some { b with future := [next.lines] })
    ∧ (∀ back, b.undo? = some back → back.redo? = some b)
    ∧ (∀ forth, b.redo? = some forth → forth.undo? = some b) := by
  intro b
  have wellFormed := wellFormed_ofText text
  have traced := trace_timeline wellFormed operations
  have ran := timeline_run wellFormed operations
  rw [timeline_ofText] at traced ran
  exact ⟨traced, ran, fun _ _ _ => undo_of_replace, fun _ => redo_of_undo, fun _ => undo_of_redo⟩

/-- An edit after two steps back drops what was taken back. -/
example :
    ((ofText "a").trace [.replace (.caret ⟨0, 1⟩) "b", .replace (.caret ⟨5, 0⟩) "c", .undo,
        .replace (.caret ⟨0, 0⟩) ">", .redo, .undo]).map Prod.snd
      = ["ab", "ab", "a", ">a", ">a", "a"] := by
  decide +kernel

end Buffer

end ReplyScript.Edit
