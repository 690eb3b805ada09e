import ReplyScript.Edit.Buffer
import ReplyScript.Edit.Splice

/-! # Buffers edit texts

What a buffer answers and becomes depends on its text alone, and is what counting characters in the
text gives: `Buffer.textIn_toOption` and `Buffer.replace_toOption`.
-/

namespace ReplyScript.Edit

open Text (lines unlines lines_ne_nil unlines_lines lines_unlines)

/-- Lines as a text has them: at least one, and none with a newline in it. -/
structure Canonical (ls : List String) : Prop where
  inhabited : ls ≠ []
  unbroken : ∀ line ∈ ls, '\n' ∉ line.toList

private theorem not_mem_of_mem_splitOn {c : Char} {piece cs : List Char}
    (member : piece ∈ cs.splitOn c) : c ∉ piece := by
  induction cs generalizing piece with
  | nil => simp_all
  | cons d rest ih =>
      rw [List.splitOn_cons_eq_if_modifyHead] at member
      split at member
      · rcases List.mem_cons.mp member with rfl | member
        · exact List.not_mem_nil
        · exact ih member
      · rename_i other
        obtain ⟨head, tail, split⟩ := List.exists_cons_of_ne_nil (List.splitOn_ne_nil c rest)
        rw [split, List.modifyHead_cons] at member
        rw [split] at ih
        rcases List.mem_cons.mp member with rfl | member
        · have apart : c ≠ d := fun same => other (beq_iff_eq.mpr same.symm)
          rw [List.mem_cons, not_or]
          exact ⟨apart, ih List.mem_cons_self⟩
        · exact ih (List.mem_cons_of_mem _ member)

theorem canonical_lines (s : String) : Canonical (lines s) where
  inhabited := lines_ne_nil s
  unbroken := by
    intro line member
    simp only [lines, List.mem_map] at member
    obtain ⟨piece, member, rfl⟩ := member
    rw [String.toList_ofList]
    exact not_mem_of_mem_splitOn member

namespace Canonical

variable {ls : List String}

theorem lines_unlines (canonical : Canonical ls) : lines (unlines ls) = ls :=
  Text.lines_unlines canonical.inhabited canonical.unbroken

theorem graft (canonical : Canonical ls) (m n : Nat) (s : String) :
    Canonical (ls.take m ++ lines s ++ ls.drop n) where
  inhabited := by simp [lines_ne_nil]
  unbroken := by
    intro line member
    rcases List.mem_append.mp member with member | member
    · rcases List.mem_append.mp member with member | member
      · exact canonical.unbroken line (List.mem_of_mem_take member)
      · exact (canonical_lines s).unbroken line member
    · exact canonical.unbroken line (List.mem_of_mem_drop member)

theorem take (canonical : Canonical ls) (n : Nat) : ∀ line ∈ ls.take n, '\n' ∉ line.toList :=
  fun line member => canonical.unbroken line (List.mem_of_mem_take member)

end Canonical

/-! ## The characters of lines -/

/-- Lines with a newline after each. -/
def ended (ls : List String) : List Char :=
  ls.flatMap fun line => line.toList ++ ['\n']

/-- Lines with a newline before each. -/
def led (ls : List String) : List Char :=
  ls.flatMap fun line => '\n' :: line.toList

theorem ended_cons (line : String) (ls : List String) :
    ended (line :: ls) = line.toList ++ '\n' :: ended ls := by
  simp [ended]

theorem ended_append (as bs : List String) : ended (as ++ bs) = ended as ++ ended bs := by
  simp [ended]

theorem led_append (as bs : List String) : led (as ++ bs) = led as ++ led bs := by
  simp [led]

private theorem led_newline (ls : List String) : led ls ++ ['\n'] = '\n' :: ended ls := by
  induction ls with
  | nil => rfl
  | cons line rest ih =>
      rw [ended_cons, ← ih]
      simp [led]

theorem toList_unlines_cons (line : String) (ls : List String) :
    (unlines (line :: ls)).toList = line.toList ++ led ls := by
  induction ls generalizing line with
  | nil => simp [unlines, led]
  | cons next rest ih =>
      have step : (unlines (line :: next :: rest)).toList
          = line.toList ++ '\n' :: (unlines (next :: rest)).toList := by
        simp [unlines, String.toList_intercalate]
      rw [step, ih]
      simp only [led, List.flatMap_cons, List.cons_append]

theorem toList_unlines_split (before : List String) (line : String) (after : List String) :
    (unlines (before ++ line :: after)).toList = ended before ++ line.toList ++ led after := by
  cases before with
  | nil => simpa [ended] using toList_unlines_cons line after
  | cons first rest =>
      have joint : led (rest ++ line :: after)
          = led rest ++ ['\n'] ++ line.toList ++ led after := by
        rw [led_append]
        simp [led]
      rw [List.cons_append, toList_unlines_cons, joint, led_newline, ended_cons]
      simp

theorem toList_unlines_lines (before : List String) (s : String) (after : List String) :
    (unlines (before ++ lines s ++ after)).toList = ended before ++ s.toList ++ led after := by
  obtain ⟨line, rest, split⟩ := List.exists_cons_of_ne_nil (lines_ne_nil s)
  have whole : line.toList ++ led rest = s.toList := by
    rw [← toList_unlines_cons, ← split, unlines_lines]
  rw [split, List.append_assoc, List.cons_append, toList_unlines_split, ← whole, led_append]
  simp

/-! ## Positions in lines -/

private theorem offset_line {line : List Char} (unbroken : '\n' ∉ line) (after : List String)
    (column : Nat) : offset? (line ++ led after) ⟨0, column⟩ = some (min column line.length) := by
  induction line generalizing column with
  | nil =>
      cases column with
      | zero => cases after <;> simp [led, offset?]
      | succ column => cases after <;> simp [led, offset?]
  | cons c rest ih =>
      have apart : c ≠ '\n' := fun same => unbroken (same ▸ List.mem_cons_self)
      cases column with
      | zero => simp [offset?]
      | succ column =>
          rw [List.cons_append, offset?, if_neg apart,
            ih (fun member => unbroken (List.mem_cons_of_mem _ member))]
          simp only [Option.map_some, List.length_cons, Option.some.injEq]
          omega

private theorem offset_past_line {line : List Char} (unbroken : '\n' ∉ line) (rest : List Char)
    (n column : Nat) :
    offset? (line ++ '\n' :: rest) ⟨n + 1, column⟩
      = (offset? rest ⟨n, column⟩).map (· + (line.length + 1)) := by
  induction line with
  | nil => simp [offset?]
  | cons c tail ih =>
      have apart : c ≠ '\n' := fun same => unbroken (same ▸ List.mem_cons_self)
      rw [List.cons_append, offset?, if_neg apart,
        ih (fun member => unbroken (List.mem_cons_of_mem _ member)), Option.map_map]
      congr 1

private theorem offset_no_line {line : List Char} (unbroken : '\n' ∉ line) (n column : Nat) :
    offset? line ⟨n + 1, column⟩ = none := by
  induction line with
  | nil => rfl
  | cons c tail ih =>
      have apart : c ≠ '\n' := fun same => unbroken (same ▸ List.mem_cons_self)
      rw [offset?, if_neg apart, ih (fun member => unbroken (List.mem_cons_of_mem _ member))]
      rfl

private theorem offset_past_lines {before : List String}
    (unbroken : ∀ line ∈ before, '\n' ∉ line.toList) (rest : List Char) (n column : Nat) :
    offset? (ended before ++ rest) ⟨before.length + n, column⟩
      = (offset? rest ⟨n, column⟩).map ((ended before).length + ·) := by
  induction before with
  | nil => simp [ended]
  | cons line tail ih =>
      have shift : (line :: tail).length + n = tail.length + n + 1 := by
        simp only [List.length_cons]
        omega
      rw [ended_cons, List.append_assoc, List.cons_append, shift,
        offset_past_line (unbroken line List.mem_cons_self),
        ih (fun line member => unbroken line (List.mem_cons_of_mem _ member)), Option.map_map]
      congr 1
      funext k
      simp only [Function.comp_apply, List.length_append, List.length_cons]
      omega

/-- Counting characters finds the line of a position, and the column as far as the line goes. -/
theorem offset_unlines {ls : List String} (canonical : Canonical ls) (p : Position) :
    offset? (unlines ls).toList p
      = ls[p.line]?.map fun line =>
          (ended (ls.take p.line)).length + min p.column line.toList.length := by
  rcases Nat.lt_or_ge p.line ls.length with inside | outside
  · have split : ls = ls.take p.line ++ ls[p.line] :: ls.drop (p.line + 1) := by simp
    have here : p = ⟨(ls.take p.line).length + 0, p.column⟩ := by
      rw [List.length_take_of_le (Nat.le_of_lt inside)]
      rfl
    have text : (unlines ls).toList = ended (ls.take p.line)
        ++ (ls[p.line].toList ++ led (ls.drop (p.line + 1))) := by
      rw [← List.append_assoc, ← toList_unlines_split, ← split]
    calc offset? (unlines ls).toList p
      _ = offset? (ended (ls.take p.line) ++ (ls[p.line].toList ++ led (ls.drop (p.line + 1))))
            ⟨(ls.take p.line).length + 0, p.column⟩ := by rw [← here, text]
      _ = some ((ended (ls.take p.line)).length + min p.column ls[p.line].toList.length) := by
          rw [offset_past_lines (canonical.take _),
            offset_line (canonical.unbroken _ (List.getElem_mem inside)), Option.map_some]
      _ = _ := by rw [List.getElem?_eq_getElem inside, Option.map_some]
  · obtain ⟨before, last, rfl⟩ : ∃ before last, ls = before ++ [last] :=
      ⟨_, _, (List.dropLast_concat_getLast canonical.inhabited).symm⟩
    rw [List.length_append, List.length_singleton] at outside
    obtain ⟨n, beyond⟩ := Nat.exists_eq_add_of_le outside
    have here : p = ⟨before.length + (n + 1), p.column⟩ := by
      rw [show before.length + (n + 1) = p.line by omega]
    calc offset? (unlines (before ++ [last])).toList p
      _ = offset? (ended before ++ last.toList) ⟨before.length + (n + 1), p.column⟩ := by
          rw [← here, toList_unlines_split]
          simp [led]
      _ = none := by
          rw [offset_past_lines (fun line member =>
              canonical.unbroken line (List.mem_append_left _ member)),
            offset_no_line (canonical.unbroken last (by simp)), Option.map_none]
      _ = _ := by
          rw [List.getElem?_eq_none (by simpa using outside), Option.map_none]

theorem offset?_zero (cs : List Char) : offset? cs ⟨0, 0⟩ = some 0 := by
  cases cs <;> rfl

/-- A position within its line is where it was when another text follows. -/
theorem offset?_take_append {cs : List Char} {line column j : Nat}
    (start : offset? cs ⟨line, 0⟩ = some j) (here : offset? cs ⟨line, column⟩ = some (j + column))
    (rest : List Char) :
    offset? (cs.take (j + column) ++ rest) ⟨line, column⟩ = some (j + column) := by
  -- The lines before that of the position are passed first, then the characters before it.
  induction cs generalizing line column j with
  | nil =>
      cases line with
      | zero =>
          rw [offset?_zero] at start
          cases start
          cases column with
          | zero => exact offset?_zero rest
          | succ column => simp [offset?] at here
      | succ line => cases start
  | cons c cs ih =>
      cases line with
      | zero =>
          rw [offset?_zero] at start
          cases start
          cases column with
          | zero => exact offset?_zero rest
          | succ column =>
              rw [offset?] at here
              split at here
              · simp at here
              · rename_i inLine
                obtain ⟨n, found, same⟩ := Option.map_eq_some_iff.mp here
                obtain rfl : n = 0 + column := by omega
                rw [← Nat.add_assoc, List.take_succ_cons, List.cons_append, offset?, if_neg inLine,
                  ih (offset?_zero cs) found]
                rfl
      | succ line =>
          rw [offset?] at start here
          obtain ⟨i, found, rfl⟩ := Option.map_eq_some_iff.mp start
          obtain ⟨n, further, same⟩ := Option.map_eq_some_iff.mp here
          obtain rfl : n = i + column := by omega
          rw [Nat.add_right_comm, List.take_succ_cons, List.cons_append, offset?, ih found further]
          rfl

/-! ## The two sides of a position -/

section Sides

variable {ls : List String} {line : String} {n : Nat}

private theorem toList_unlines_at (found : ls[n]? = some line) :
    (unlines ls).toList = ended (ls.take n) ++ line.toList ++ led (ls.drop (n + 1)) := by
  obtain ⟨inside, rfl⟩ := List.getElem?_eq_some_iff.mp found
  rw [← toList_unlines_split]
  simp

theorem take_unlines (found : ls[n]? = some line) (column : Nat) :
    (unlines ls).toList.take ((ended (ls.take n)).length + min column line.toList.length)
      = ended (ls.take n) ++ line.toList.take column := by
  rw [toList_unlines_at found, List.append_assoc, List.take_length_add_append,
    List.take_append_of_le_length (Nat.min_le_right _ _), ← List.take_eq_take_min]

private theorem drop_unlines (found : ls[n]? = some line) (column : Nat) :
    (unlines ls).toList.drop ((ended (ls.take n)).length + min column line.toList.length)
      = line.toList.drop column ++ led (ls.drop (n + 1)) := by
  rw [toList_unlines_at found, List.append_assoc, List.drop_length_add_append,
    List.drop_append_of_le_length (Nat.min_le_right _ _), ← List.drop_eq_drop_min]

theorem ended_take (found : ls[n]? = some line) {m : Nat} (further : n < m) :
    ended (ls.take m)
      = ended (ls.take n) ++ (line.toList ++ '\n' :: ended ((ls.take m).drop (n + 1))) := by
  have kept : (ls.take m)[n]? = some line := by rw [List.getElem?_take_of_lt further, found]
  obtain ⟨inside, same⟩ := List.getElem?_eq_some_iff.mp kept
  have parts : ls.take m = ls.take n ++ line :: (ls.take m).drop (n + 1) := calc
    ls.take m = (ls.take m).take n ++ (ls.take m)[n] :: (ls.take m).drop (n + 1) := by
      rw [← List.drop_eq_getElem_cons inside, List.take_append_drop]
    _ = _ := by rw [same, List.take_take, Nat.min_eq_left (Nat.le_of_lt further)]
  rw [← ended_cons, ← ended_append, ← parts]

private theorem drop_ended (found : ls[n]? = some line) {m : Nat} (further : n < m) (column : Nat)
    (rest : List Char) :
    (ended (ls.take m) ++ rest).drop
        ((ended (ls.take n)).length + min column line.toList.length)
      = line.toList.drop column ++ '\n' :: (ended ((ls.take m).drop (n + 1)) ++ rest) := by
  rw [ended_take found further, List.append_assoc, List.drop_length_add_append, List.append_assoc,
    List.drop_append_of_le_length (Nat.min_le_right _ _), ← List.drop_eq_drop_min]
  rfl

end Sides

theorem Range.normalized_lines (range : Range) :
    range.normalized.start.line ≤ range.normalized.stop.line := by
  unfold normalized
  split
  · rename_i before
    simp only [Position.before, Bool.or_eq_true, Bool.and_eq_true, decide_eq_true_eq,
      beq_iff_eq] at before
    show range.stop.line ≤ range.start.line
    omega
  · rename_i before
    simp only [Position.before, Bool.or_eq_true, Bool.and_eq_true, decide_eq_true_eq,
      beq_iff_eq, not_or] at before
    omega

theorem Range.normalized_caret (p : Position) : (Range.caret p).normalized = .caret p := by
  unfold normalized caret
  split <;> rfl

namespace Buffer

variable {b : Buffer}

theorem lineCount_text (canonical : Canonical b.lines) : Text.lineCount b.text = b.lineCount := by
  rw [Text.lineCount, text, canonical.lines_unlines, lineCount]

/-- Replacing a range splices the text, and keeps the lines before as the latest snapshot. -/
theorem replace_toOption (canonical : Canonical b.lines) (range : Range) (new : String) :
    (b.replace range new).toOption
      = (splice? b.text range new).map fun text => ⟨Text.lines text, b.lines :: b.past, []⟩ := by
  unfold replace splice? text
  simp only [offset_unlines canonical, lineAt]
  cases start : b.lines[range.normalized.start.line]? with
  | none => rfl
  | some first =>
      cases stop : b.lines[range.normalized.stop.line]? with
      | none => rfl
      | some last =>
          simp only [Option.map_some, Option.bind_eq_bind, Option.bind_some, take_unlines start,
            drop_unlines stop]
          have spliced : String.ofList (ended (b.lines.take range.normalized.start.line)
                ++ first.toList.take range.normalized.start.column ++ new.toList
                ++ (last.toList.drop range.normalized.stop.column
                  ++ led (b.lines.drop (range.normalized.stop.line + 1))))
              = Text.unlines (b.lines.take range.normalized.start.line
                ++ Text.lines (String.ofList (first.toList.take range.normalized.start.column) ++ new
                  ++ String.ofList (last.toList.drop range.normalized.stop.column))
                ++ b.lines.drop (range.normalized.stop.line + 1)) := by
            rw [← String.toList_inj, toList_unlines_lines]
            simp only [String.toList_ofList, String.toList_append, List.append_assoc]
          rw [spliced]
          show _ = some (Buffer.mk (Text.lines (Text.unlines _)) _ _)
          rw [(canonical.graft _ _ _).lines_unlines]
          rfl

/-- A range shows the text between its two positions. -/
theorem textIn_toOption (canonical : Canonical b.lines) (range : Range) :
    (b.textIn range).toOption = textBetween? b.text range := by
  unfold textIn textBetween? text
  simp only [offset_unlines canonical, lineAt]
  cases start : b.lines[range.normalized.start.line]? with
  | none => rfl
  | some first =>
      cases stop : b.lines[range.normalized.stop.line]? with
      | none => rfl
      | some last =>
          simp only [Option.map_some, Option.bind_eq_bind, Option.bind_some, take_unlines stop]
          show Except.toOption (if _ then Except.ok _ else Except.ok _) = some _
          split
          · rename_i same
            rw [same] at start ⊢
            obtain rfl : first = last := Option.some.inj (start.symm.trans stop)
            have clamped : (first.toList.take range.normalized.stop.column).drop
                  (min range.normalized.start.column first.toList.length)
                = (first.toList.take range.normalized.stop.column).drop
                  range.normalized.start.column := by
              rw [List.drop_eq_drop_iff, List.length_take]
              omega
            rw [List.drop_length_add_append, clamped]
            rfl
          · rename_i apart
            have further : range.normalized.start.line < range.normalized.stop.line :=
              Nat.lt_of_le_of_ne range.normalized_lines apart
            rw [drop_ended start further]
            refine congrArg some ?_
            rw [← String.toList_inj, ← List.cons_append, toList_unlines_split, ended_cons]
            simp [led]

end Buffer

end ReplyScript.Edit
