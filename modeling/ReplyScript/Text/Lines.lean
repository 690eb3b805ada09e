/-! # Lines and parts of a text

A text with `n` newlines has `n + 1` lines. Main statements: `unlines_lines` and `lines_unlines`,
splitting and joining undo each other.
-/

namespace ReplyScript.Text

/-- The pieces between newlines; there is always at least one. -/
def lines (s : String) : List String :=
  (s.toList.splitOn '\n').map String.ofList

def unlines (ls : List String) : String :=
  "\n".intercalate ls

theorem lines_ne_nil (s : String) : lines s ≠ [] := by
  simp [lines]

@[simp]
theorem unlines_lines (s : String) : unlines (lines s) = s := by
  rw [← String.toList_inj, unlines, String.toList_intercalate]
  simp [lines, Function.comp_def, List.intercalate_splitOn]

theorem lines_unlines {ls : List String} (hne : ls ≠ []) (h : ∀ l ∈ ls, '\n' ∉ l.toList) :
    lines (unlines ls) = ls := by
  rw [lines, unlines, String.toList_intercalate, show "\n".toList = ['\n'] from rfl,
    List.splitOn_intercalate]
  · simp [Function.comp_def]
  · simpa using h
  · simpa using hne

theorem unlines_cons (line : String) {rest : List String} (more : rest ≠ []) :
    unlines (line :: rest) = line ++ "\n" ++ unlines rest :=
  String.intercalate_cons_of_ne_nil more

theorem unlines_append {early late : List String} (first : early ≠ []) (more : late ≠ []) :
    unlines (early ++ late) = unlines early ++ "\n" ++ unlines late :=
  String.intercalate_append_of_ne_nil first more

/-- The number of lines, one more than the number of newlines. -/
def lineCount (s : String) : Nat :=
  (lines s).length

/-- A line without the carriage return of a two-character line end. -/
def dropCarriageReturn (s : String) : String :=
  match s.toList.getLast? with
  | some '\r' => String.ofList s.toList.dropLast
  | _ => s

/-! ## Parts -/

def occursIn (needle : List Char) : List Char → Bool
  | [] => needle.isEmpty
  | c :: cs => needle.isPrefixOf (c :: cs) || occursIn needle cs

def holds (text needle : String) : Bool :=
  occursIn needle.toList text.toList

end ReplyScript.Text
