import ReplyScript.Edit.Operation
import ReplyScript.Proofs.Edit.Bytes
import ReplyScript.Proofs.Edit.Change

/-! # Buffers behave as plain texts

Whatever was done to a buffer before, a range of it is a piece of its text, and a replacement puts
another text in place of that piece. Main statement: `run_plainText`.
-/

namespace ReplyScript.Edit

/-- A text up to a position: all lines before that of the position, and of its line as many
characters as the column says, or all of them if there are fewer. -/
def UpTo (text : String) (p : Position) (before : String) : Prop :=
  ∃ line, (Text.lines text)[p.line]? = some line ∧ Text.lines before
    = (Text.lines text).take p.line
      ++ [String.ofList (line.toList.take (min p.column line.toList.length))]

/-! ## Lines of a text -/

theorem drop_take_succ {ls : List String} {start stop : Nat} (before : start < stop)
    {first last : String} (head : ls[start]? = some first) (tail : ls[stop]? = some last) :
    (ls.take (stop + 1)).drop start = first :: ((ls.take stop).drop (start + 1) ++ [last]) := by
  obtain ⟨inside, rfl⟩ := List.getElem?_eq_some_iff.mp tail
  have long : start < (ls.take stop).length := by
    rw [List.length_take_of_le (Nat.le_of_lt inside)]
    exact before
  have kept : (ls.take stop)[start]? = some first := by
    rw [List.getElem?_take_of_lt before, head]
  obtain ⟨_, same⟩ := List.getElem?_eq_some_iff.mp kept
  rw [List.take_succ_eq_append_getElem inside, List.drop_append_of_le_length (Nat.le_of_lt long),
    List.drop_eq_getElem_cons long, same, List.cons_append]

theorem length_splitOn (c : Char) (cs : List Char) : (cs.splitOn c).length = cs.count c + 1 := by
  induction cs with
  | nil => simp
  | cons d rest ih =>
      rw [List.splitOn_cons_eq_if_modifyHead, List.count_cons]
      split
      · rw [List.length_cons, ih]
      · rw [List.length_modifyHead, ih]

theorem lineCount_eq_count (s : String) : Text.lineCount s = s.toList.count '\n' + 1 := by
  rw [Text.lineCount, Text.lines, List.length_map, length_splitOn]

theorem lineCount_le_append (before text after : String) :
    Text.lineCount text ≤ Text.lineCount (before ++ text ++ after) := by
  simp only [lineCount_eq_count, String.toList_append, List.count_append]
  omega

namespace Buffer

/-- A range is refused with a position: its end is beyond the last line, and the position is its
start if that is beyond the last line too. -/
def Refuses (b : Buffer) (range : Range) (p : Position) : Prop :=
  b.lineCount ≤ range.normalized.stop.line ∧ p =
    if b.lineCount ≤ range.normalized.start.line then range.normalized.start
    else range.normalized.stop

/-! ## Ranges that are refused -/

section

variable (b : Buffer) (range : Range)

private theorem lineAt_of_lt {b : Buffer} {p : Position} (inside : p.line < b.lineCount) :
    ∃ line, b.lineAt p = .ok line := by
  unfold lineAt
  rw [List.getElem?_eq_getElem inside]
  exact ⟨_, rfl⟩

private theorem lineAt_of_le {b : Buffer} {p : Position} (outside : b.lineCount ≤ p.line) :
    b.lineAt p = .error p := by
  unfold lineAt
  rw [List.getElem?_eq_none outside]

private theorem bind_lines_eq_error_iff {α : Type}
    {rest : List Char → List Char → Except Position α}
    (completes : ∀ first last, ∃ a, rest first last = .ok a) (p : Position) :
    (do let first ← b.lineAt range.normalized.start
        let last ← b.lineAt range.normalized.stop
        rest first last) = .error p ↔ b.Refuses range p := by
  have ordered := range.normalized_lines
  unfold Refuses
  rcases Nat.lt_or_ge range.normalized.start.line b.lineCount with inside | outside
  · obtain ⟨first, start⟩ := lineAt_of_lt inside
    rw [start, if_neg (Nat.not_le.mpr inside)]
    rcases Nat.lt_or_ge range.normalized.stop.line b.lineCount with within | beyond
    · obtain ⟨last, stop⟩ := lineAt_of_lt within
      obtain ⟨a, done⟩ := completes first last
      rw [stop]
      show rest first last = .error p ↔ _
      rw [done]
      constructor
      · intro failed
        cases failed
      · rintro ⟨beyond, -⟩
        omega
    · rw [lineAt_of_le beyond]
      show Except.error _ = Except.error p ↔ _
      rw [Except.error.injEq]
      exact ⟨fun same => ⟨beyond, same.symm⟩, fun refused => refused.2.symm⟩
  · rw [lineAt_of_le outside, if_pos outside]
    show Except.error _ = Except.error p ↔ _
    rw [Except.error.injEq]
    exact ⟨fun same => ⟨by omega, same.symm⟩, fun refused => refused.2.symm⟩

theorem textIn_eq_error_iff (p : Position) :
    b.textIn range = .error p ↔ b.Refuses range p := by
  apply bind_lines_eq_error_iff
  intro first last
  split
  · exact ⟨_, rfl⟩
  · exact ⟨_, rfl⟩

theorem replace_eq_error_iff (new : String) (p : Position) :
    b.replace range new = .error p ↔ b.Refuses range p := by
  apply bind_lines_eq_error_iff
  intro first last
  exact ⟨_, rfl⟩

/-- A replacement keeps the lines around it, and puts those before it into the past. -/
theorem of_replace {b next : Buffer} {range : Range} {new : String}
    (replaced : b.replace range new = .ok next) : ∃ joined,
    range.normalized.stop.line < b.lineCount
      ∧ next = ⟨b.lines.take range.normalized.start.line ++ Text.lines joined
        ++ b.lines.drop (range.normalized.stop.line + 1), b.lines :: b.past, []⟩ := by
  rcases Nat.lt_or_ge range.normalized.stop.line b.lineCount with inside | outside
  · obtain ⟨last, stop⟩ := lineAt_of_lt inside
    obtain ⟨first, start⟩ := lineAt_of_lt (Nat.lt_of_le_of_lt range.normalized_lines inside)
    unfold replace at replaced
    simp only [start, stop] at replaced
    cases replaced
    exact ⟨_, inside, rfl⟩
  · have refused := (b.replace_eq_error_iff range new _).mpr ⟨outside, rfl⟩
    rw [refused] at replaced
    cases replaced

theorem lt_lineCount_of_replace {b next : Buffer} {range : Range} {new : String}
    (replaced : b.replace range new = .ok next) : range.normalized.start.line < next.lineCount := by
  obtain ⟨joined, inside, rfl⟩ := of_replace replaced
  have ordered := range.normalized_lines
  have broken : 0 < (Text.lines joined).length := List.length_pos_iff.mpr (Text.lines_ne_nil _)
  unfold lineCount at inside ⊢
  simp only [List.length_append, List.length_take]
  omega

end

/-! ## Ranges that are pieces of the text -/

section

variable {b : Buffer}

theorem upTo_take (canonical : Canonical b.lines) {p : Position} {n : Nat}
    (offset : offset? b.text.toList p = some n) :
    UpTo b.text p (String.ofList (b.text.toList.take n)) := by
  unfold text at offset ⊢
  rw [offset_unlines canonical] at offset
  obtain ⟨line, found, rfl⟩ := Option.map_eq_some_iff.mp offset
  have unbroken : Canonical
      (b.lines.take p.line ++ [String.ofList (line.toList.take p.column)]) := by
    constructor
    · simp
    · intro other member
      rcases List.mem_append.mp member with member | member
      · exact canonical.take p.line other member
      · rw [List.mem_singleton.mp member, String.toList_ofList]
        exact fun broken => canonical.unbroken line (List.mem_of_getElem? found)
          (List.mem_of_mem_take broken)
  have whole : String.ofList (ended (b.lines.take p.line) ++ line.toList.take p.column)
      = Text.unlines (b.lines.take p.line ++ [String.ofList (line.toList.take p.column)]) := by
    rw [← String.toList_inj, toList_unlines_split]
    simp [led]
  refine ⟨line, ?_, ?_⟩
  · rw [canonical.lines_unlines]
    exact found
  · rw [take_unlines found, whole, unbroken.lines_unlines, canonical.lines_unlines,
      ← List.take_eq_take_min]

theorem offset_le_length (canonical : Canonical b.lines) {p : Position} {n : Nat}
    (offset : offset? b.text.toList p = some n) : n ≤ b.text.toList.length := by
  unfold text at offset ⊢
  rw [offset_unlines canonical] at offset
  obtain ⟨line, found, rfl⟩ := Option.map_eq_some_iff.mp offset
  have taken := congrArg List.length (take_unlines found p.column)
  rw [List.length_take, List.length_append, List.length_take] at taken
  omega

theorem offset_normalized_le (canonical : Canonical b.lines) {range : Range} {first last : Nat}
    (start : offset? b.text.toList range.normalized.start = some first)
    (stop : offset? b.text.toList range.normalized.stop = some last) : first ≤ last := by
  unfold text at start stop
  rw [offset_unlines canonical] at start stop
  obtain ⟨line, found, rfl⟩ := Option.map_eq_some_iff.mp start
  obtain ⟨line', found', rfl⟩ := Option.map_eq_some_iff.mp stop
  rcases Nat.lt_or_eq_of_le range.normalized_lines with further | same
  · rw [ended_take found further]
    simp only [List.length_append, List.length_cons]
    omega
  · have columns := normalized_columns range same
    rw [same] at found ⊢
    obtain rfl : line = line' := Option.some.inj (found.symm.trans found')
    omega

private theorem eq_ok_of_toOption {α : Type} {result : Except Position α} {a : α}
    (done : result.toOption = some a) : result = .ok a := by
  cases result with
  | error p => cases done
  | ok other => exact congrArg Except.ok (Option.some.inj done)

/-- A range within the text divides it in three: what comes before, what is in the range, and what
comes after. Another text that is put in its place stands between the first and the last. -/
theorem exists_pieces (canonical : Canonical b.lines) {range : Range}
    (inside : range.normalized.stop.line < b.lineCount) :
    ∃ before part after, b.text = before ++ part ++ after
      ∧ UpTo b.text range.normalized.start before
      ∧ UpTo b.text range.normalized.stop (before ++ part)
      ∧ offset? b.text.toList range.normalized.start = some before.toList.length
      ∧ textBetween? b.text range = some part
      ∧ ∀ new, splice? b.text range new = some (before ++ new ++ after) := by
  have offsets (p : Position) (there : p.line < b.lineCount) :
      ∃ n, offset? b.text.toList p = some n := by
    unfold text
    rw [offset_unlines canonical, List.getElem?_eq_getElem there]
    exact ⟨_, rfl⟩
  obtain ⟨first, start⟩ := offsets _ (Nat.lt_of_le_of_lt range.normalized_lines inside)
  obtain ⟨last, stop⟩ := offsets _ inside
  have ordered := offset_normalized_le canonical start stop
  have joined : b.text.toList.take first ++ (b.text.toList.take last).drop first
      = b.text.toList.take last := by
    have parts := List.take_append_drop first (b.text.toList.take last)
    rw [List.take_take, Nat.min_eq_left ordered] at parts
    exact parts
  refine ⟨String.ofList (b.text.toList.take first),
    String.ofList ((b.text.toList.take last).drop first), String.ofList (b.text.toList.drop last),
    ?_, upTo_take canonical start, ?_, ?_, ?_, fun new => ?_⟩
  · rw [← String.ofList_append, joined, ← String.ofList_append, List.take_append_drop,
      String.ofList_toList]
  · rw [← String.ofList_append, joined]
    exact upTo_take canonical stop
  · rw [start, String.toList_ofList, List.length_take_of_le (offset_le_length canonical start)]
  · rw [textBetween?, start, stop]
    rfl
  · simp only [splice?, start, stop, Option.bind_eq_bind, Option.bind_some, String.ofList_append,
      String.ofList_toList]
    rfl

/-- A range within the text is a piece of it, and a replacement puts another text in its place. -/
theorem spliced (canonical : Canonical b.lines) {range : Range}
    (inside : range.normalized.stop.line < b.lineCount) (new : String) :
    ∃ before part after next, b.text = before ++ part ++ after
      ∧ UpTo b.text range.normalized.start before
      ∧ UpTo b.text range.normalized.stop (before ++ part)
      ∧ b.textIn range = .ok part
      ∧ b.replace range new = .ok next ∧ next.text = before ++ new ++ after := by
  obtain ⟨before, part, after, whole, start, stop, -, shown, made⟩ :=
    exists_pieces canonical inside
  have shows := textIn_toOption canonical range
  have replaces := replace_toOption canonical range new
  rw [shown] at shows
  rw [made new] at replaces
  exact ⟨before, part, after, _, whole, start, stop, eq_ok_of_toOption shows,
    eq_ok_of_toOption replaces, Text.unlines_lines _⟩

end

/-! ## Lines that are shown and lines that are put in -/

section

variable {b next : Buffer} {p : Position} {text : String}

/-- From the start of a line to the end of one that does not come before it. -/
theorem textIn_lines {start stop : Nat} (ordered : start ≤ stop) {last : String}
    (found : b.lines[stop]? = some last) :
    b.textIn (.ofCoordinates start 0 stop last.length)
      = .ok (Text.unlines ((b.lines.take (stop + 1)).drop start)) := by
  have forwards : (Range.ofCoordinates start 0 stop last.length).normalized
      = .ofCoordinates start 0 stop last.length := by
    unfold Range.normalized
    rw [if_neg]
    simp only [Range.ofCoordinates, Position.before, Nat.not_lt_zero, decide_false, Bool.and_false,
      Bool.or_false]
    exact fun before => Nat.not_lt_of_le ordered (of_decide_eq_true before)
  obtain ⟨inside, -⟩ := List.getElem?_eq_some_iff.mp found
  have head := List.getElem?_eq_getElem (Nat.lt_of_le_of_lt ordered inside)
  have whole : String.ofList (last.toList.take last.length) = last := by
    rw [← String.length_toList, List.take_length, String.ofList_toList]
  unfold textIn
  rw [forwards]
  simp only [Range.ofCoordinates, lineAt, found, head]
  show (if start = stop then _ else _) = _
  by_cases one : start = stop
  · subst one
    obtain ⟨_, rfl⟩ := List.getElem?_eq_some_iff.mp found
    have before : (b.lines.take start).length = start :=
      List.length_take_of_le (Nat.le_of_lt inside)
    rw [if_pos rfl, List.drop_zero, whole, List.take_succ_eq_append_getElem inside,
      List.drop_append_of_le_length (Nat.le_of_eq before.symm),
      List.drop_of_length_le (Nat.le_of_eq before)]
    exact congrArg Except.ok (String.intercalate_singleton).symm
  · rw [if_neg one, List.drop_zero, String.ofList_toList, whole,
      drop_take_succ (Nat.lt_of_le_of_ne ordered one) head found]
    rfl

/-- The text that was put in goes from its line to one that is there. -/
theorem add_lineCount_le_of_replace (replaced : b.replace (.caret p) text = .ok next) :
    p.line + Text.lineCount text ≤ next.lineCount := by
  unfold replace at replaced
  rw [Range.normalized_caret] at replaced
  simp only [Range.caret, lineAt] at replaced
  cases found : b.lines[p.line]? with
  | none =>
      rw [found] at replaced
      cases replaced
  | some line =>
      rw [found] at replaced
      cases replaced
      obtain ⟨inside, -⟩ := List.getElem?_eq_some_iff.mp found
      have broken := lineCount_le_append (String.ofList (line.toList.take p.column)) text
        (String.ofList (line.toList.drop p.column))
      simp only [lineCount, Text.lineCount, List.length_append, List.length_take] at broken ⊢
      omega

theorem add_lineCount_le_of_splice {old new text : String} {p : Position}
    (spliced : splice? old (.caret p) text = some new) :
    p.line + Text.lineCount text ≤ Text.lineCount new := by
  have made := replace_toOption (wellFormed_ofText old).present (.caret p) text
  rw [text_ofText, spliced] at made
  cases replaced : (ofText old).replace (.caret p) text with
  | error q =>
      rw [replaced] at made
      cases made
  | ok next =>
      rw [replaced] at made
      have within := add_lineCount_le_of_replace replaced
      obtain rfl := Option.some.inj made
      exact within

end

/-! ## Texts that are put back -/

section

variable {b : Buffer}

/-- What comes before a position that is in its line is the same with another text after it. -/
theorem offset_append {p : Position} {before : String}
    (canonical : Canonical b.lines) {line : String} (found : b.lines[p.line]? = some line)
    (within : p.column ≤ line.length)
    (offset : offset? b.text.toList p = some before.toList.length) {after : String}
    (whole : b.text = before ++ after) (rest : String) :
    offset? (before ++ rest).toList p = some before.toList.length := by
  rw [← String.length_toList] at within
  have here := offset_unlines canonical p
  rw [found, Option.map_some, Nat.min_eq_left within] at here
  have start := offset_unlines canonical ⟨p.line, 0⟩
  simp only [found, Option.map_some, Nat.zero_min, Nat.add_zero] at start
  have far : before.toList.length = (ended (b.lines.take p.line)).length + p.column :=
    Option.some.inj (offset.symm.trans here)
  have moved := offset?_take_append start here rest.toList
  rw [← far] at moved
  have kept : (Text.unlines b.lines).toList.take before.toList.length = before.toList := by
    show b.text.toList.take before.toList.length = before.toList
    rw [whole, String.toList_append, List.take_left]
  rw [kept] at moved
  rw [String.toList_append]
  exact moved

theorem splice_caret {before after : String} {p : Position}
    (offset : offset? (before ++ after).toList p = some before.toList.length) (new : String) :
    splice? (before ++ after) (.caret p) new = some (before ++ new ++ after) := by
  unfold splice?
  rw [Range.normalized_caret]
  simp only [Range.caret, offset, Option.bind_eq_bind, Option.bind_some]
  rw [String.toList_append, List.take_left, List.drop_left, String.ofList_append,
    String.ofList_append, String.ofList_toList, String.ofList_toList, String.ofList_toList]
  rfl

/-- What is taken out of a text can be put back where it was, if its start is in its line. -/
theorem exists_putBack (canonical : Canonical b.lines) {range : Range}
    (inside : range.normalized.stop.line < b.lineCount)
    (within : ∀ line, b.lines[range.normalized.start.line]? = some line →
      range.normalized.start.column ≤ line.length) :
    ∃ before part after, b.text = before ++ part ++ after
      ∧ UpTo b.text range.normalized.start before
      ∧ UpTo b.text range.normalized.stop (before ++ part)
      ∧ textBetween? b.text range = some part
      ∧ splice? b.text range "" = some (before ++ after)
      ∧ splice? (before ++ after) (.caret range.normalized.start) part = some b.text := by
  obtain ⟨before, part, after, whole, start, stop, offset, shown, made⟩ :=
    exists_pieces canonical inside
  have found := List.getElem?_eq_getElem (Nat.lt_of_le_of_lt range.normalized_lines inside)
  -- A start beyond the end of its line would lie further on once the rest is joined to the line.
  have moved := offset_append canonical found (within _ found) offset
    (whole.trans String.append_assoc) after
  refine ⟨before, part, after, whole, start, stop, shown, ?_, ?_⟩
  · rw [made "", String.append_empty]
  · rw [splice_caret moved part, whole]

end

/-! ## Buffers to which something was done -/

theorem operate_replaced {b next : Buffer} {range : Range} {new : String}
    (replaced : b.replace range new = .ok next) :
    b.operate (.replace range new) = (.ok true, next) := by
  simp only [operate, replaced]

theorem operate_refused {b : Buffer} {range : Range} {new : String} {p : Position}
    (refused : b.replace range new = .error p) :
    b.operate (.replace range new) = (.error p, b) := by
  simp only [operate, refused]

theorem WellFormed.operate {b : Buffer} (wellFormed : b.WellFormed) (operation : Operation) :
    (b.operate operation).2.WellFormed := by
  cases operation with
  | replace range new =>
      cases replaced : b.replace range new with
      | error p =>
          rw [operate_refused replaced]
          exact wellFormed
      | ok next =>
          rw [operate_replaced replaced]
          exact wellFormed.replace replaced
  | undo =>
      show (b.undo?.getD b).WellFormed
      cases undone : b.undo? with
      | none => exact wellFormed
      | some next => exact wellFormed.undo undone
  | redo =>
      show (b.redo?.getD b).WellFormed
      cases redone : b.redo? with
      | none => exact wellFormed
      | some next => exact wellFormed.redo redone
  | reload text => exact wellFormed_ofText text

theorem WellFormed.run {b : Buffer} (wellFormed : b.WellFormed) (operations : List Operation) :
    (b.run operations).WellFormed := by
  induction operations generalizing b with
  | nil => exact wellFormed
  | cons operation rest ih => exact ih (wellFormed.operate operation)

/-- Whatever was done to a buffer, its lines are those of its text. A range of it is refused exactly
if it ends beyond the last line, and then nothing changes. Any other range is a piece of the text,
and a replacement puts the new text in place of that piece. Nowhere is a slice or a line asked for
that is not there. -/
theorem run_plainText (text : String) (operations : List Operation) (range : Range)
    (new : String) :
    let b := (ofText text).run operations
    (b.lines ≠ [] ∧ (∀ line ∈ b.lines, '\n' ∉ line.toList) ∧ Text.lines b.text = b.lines)
    ∧ (∀ p, b.textIn range = .error p ↔ b.Refuses range p)
    ∧ (∀ p, b.replace range new = .error p ↔ b.Refuses range p)
    ∧ (∀ p, b.Refuses range p → b.operate (.replace range new) = (.error p, b))
    ∧ (range.normalized.stop.line < b.lineCount →
        ∃ before part after next, b.text = before ++ part ++ after
          ∧ UpTo b.text range.normalized.start before
          ∧ UpTo b.text range.normalized.stop (before ++ part)
          ∧ b.textIn range = .ok part
          ∧ b.operate (.replace range new) = (.ok true, next)
          ∧ next.text = before ++ new ++ after)
    ∧ b.textInBytes range = some (b.textIn range)
    ∧ b.replaceBytes range new = some (b.replace range new) := by
  intro b
  have canonical : Canonical b.lines := ((wellFormed_ofText text).run operations).present
  refine ⟨⟨canonical.inhabited, canonical.unbroken, canonical.lines_unlines⟩,
    b.textIn_eq_error_iff range, b.replace_eq_error_iff range new, ?_, ?_,
    b.textInBytes_eq range, b.replaceBytes_eq range new⟩
  · intro p refused
    exact operate_refused ((b.replace_eq_error_iff range new p).mpr refused)
  · intro inside
    obtain ⟨before, part, after, next, whole, starts, ends, shown, replaced, becomes⟩ :=
      spliced canonical inside new
    exact ⟨before, part, after, next, whole, starts, ends, shown, operate_replaced replaced,
      becomes⟩

end Buffer

end ReplyScript.Edit
