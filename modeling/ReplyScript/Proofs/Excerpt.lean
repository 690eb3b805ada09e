import ReplyScript.Excerpt
import ReplyScript.Proofs.Edit.Bytes
import ReplyScript.Proofs.Outline

/-! # The lines of an excerpt

Functions lie within the lines of their source, so nothing that is cut out by number is missing, and
what is shown of a snippet is the lines of its source behind their own numbers. Main statement:
`numbered`.
-/

namespace ReplyScript

open Edit (Canonical canonical_lines)
open Text (lines unlines)

namespace Excerpt

open Chat (AttachError lineNumber selectPart)
open Outline (Function Header)
open Prompt (Snippet)

/-! ## Nothing is missing -/

theorem difference?_of_le {a b : Nat} (le : b ≤ a) : difference? a b = some (a - b) :=
  if_pos le

theorem indentation?_eq (line : String) : indentation? line = some (Outline.indentation line) := by
  have parts := congrArg Text.byteCount (List.takeWhile_append_dropWhile (p := Text.isBlank)
    (l := line.toList))
  have blanks := Text.byteCount_toList (String.ofList (line.toList.takeWhile Text.isBlank))
  have trimmed := Text.byteCount_toList (Text.trimStart line)
  unfold Text.trimStart at trimmed
  rw [String.toList_ofList] at blanks trimmed
  rw [Text.byteCount_append, Text.byteCount_toList, blanks, trimmed] at parts
  unfold indentation? Outline.indentation Text.trimStart
  rw [difference?_of_le (by omega), ← parts, Nat.add_sub_cancel]

theorem indentationEnd?_eq (outer index last : Nat) (ls : List String) :
    indentationEnd? outer index last ls = some (Outline.indentationEnd outer index last ls) := by
  induction ls generalizing index last with
  | nil => rfl
  | cons line rest ih =>
      rw [indentationEnd?, Outline.indentationEnd, ih, ih, indentation?_eq]
      split
      · rfl
      · simp only
        split <;> rfl

theorem stop?_eq (before : List String) (line : String) (rest : List String)
    (delimiter : Outline.Delimiter) : stop? (before ++ line :: rest) before.length delimiter
      = some (Outline.lastLine? before.length line rest delimiter) := by
  have here : (before ++ line :: rest)[before.length]? = some line := by simp
  have after : (before ++ line :: rest).drop (before.length + 1) = rest := by simp
  cases delimiter with
  | braces =>
      unfold stop?
      rw [here, List.drop_left]
      rfl
  | indentation =>
      unfold stop?
      simp only [here, after, indentation?_eq, indentationEnd?_eq, Option.bind_eq_bind,
        Option.bind_some]
      rfl

theorem functionOn?_eq (before : List String) (line : String) (rest : List String)
    (found : Option Header) : functionOn? (before ++ line :: rest) before.length found
      = some (found.bind fun header =>
        (Outline.lastLine? before.length line rest header.delimiter).map
          (⟨header.name, before.length, ·⟩)) := by
  cases found with
  | none => rfl
  | some header =>
      simp only [functionOn?, stop?_eq, Option.bind_eq_bind, Option.bind_some]
      rfl

theorem functionsFrom?_eq (before rest : List String) :
    functionsFrom? (before ++ rest) before.length rest
      = some (Outline.functionsFrom before.length rest) := by
  induction rest generalizing before with
  | nil => rfl
  | cons line rest ih =>
      have later := ih (before ++ [line])
      rw [List.append_assoc, List.singleton_append, List.length_append, List.length_singleton]
        at later
      rw [functionsFrom?, functionOn?_eq, later, Outline.functionsFrom, Outline.functionAtHeader?_eq]
      rfl

theorem functions?_eq (source : String) : functions? source = some (Outline.functions source) :=
  functionsFrom?_eq [] (lines source)

theorem extent?_eq {f : Function} (ordered : f.start ≤ f.stop) : extent? f = some f.extent :=
  difference?_of_le ordered

theorem mapM_extent? {fs : List Function} (ordered : ∀ f ∈ fs, f.start ≤ f.stop) :
    (fs.mapM fun f => (extent? f).map (·, f)) = some (fs.map fun f => (f.extent, f)) := by
  induction fs with
  | nil => rfl
  | cons f rest ih =>
      obtain ⟨here, later⟩ := List.forall_mem_cons.mp ordered
      rw [List.mapM_cons, extent?_eq here, ih later]
      rfl

theorem foldl_measured (f : Function) (fs : List Function) :
    (fs.map fun g => (g.extent, g)).foldl (fun a b => if b.1 < a.1 then b else a) (f.extent, f)
      = ((fs.foldl Function.shorter f).extent, fs.foldl Function.shorter f) := by
  induction fs generalizing f with
  | nil => rfl
  | cons g rest ih =>
      rw [List.map_cons, List.foldl_cons, List.foldl_cons, ← ih]
      unfold Function.shorter
      split <;> rfl

theorem functionAt?_eq (source : String) (line : Nat) :
    functionAt? source line = some (Outline.functionAt? source line) := by
  have ordered : ∀ f ∈ (Outline.functions source).filter (·.covers line), f.start ≤ f.stop :=
    fun f member => (Outline.functions_inside source f (List.mem_filter.mp member).1).1
  unfold functionAt? Outline.functionAt?
  rw [functions?_eq]
  simp only [Option.bind_eq_bind, Option.bind_some, mapM_extent? ordered]
  cases (Outline.functions source).filter (·.covers line) with
  | nil => rfl
  | cons f fs => exact congrArg (some ∘ some ∘ Prod.snd) (foldl_measured f fs)

theorem ofFunction?_eq {f : Function} (ordered : f.start ≤ f.stop) (location source : String) :
    ofFunction? f location source = some (f.snippet location source) := by
  unfold ofFunction?
  rw [extent?_eq ordered]
  rfl

theorem last_lt (source : String) : Text.lineCount source - 1 < Text.lineCount source := by
  have inhabited := List.length_pos_iff.mpr (Text.lines_ne_nil source)
  exact Nat.sub_lt inhabited Nat.one_pos

theorem last?_eq (source : String) :
    difference? (Text.lineCount source) 1 = some (Text.lineCount source - 1) := by
  have := last_lt source
  exact difference?_of_le (by omega)

theorem through?_eq {source : String} {start stop : Nat} (ordered : start ≤ stop)
    (inside : stop < Text.lineCount source) :
    through? source start stop = some (excerpt source start stop) := by
  unfold through? Text.sliceLines?
  rw [if_pos ⟨Nat.le_succ_of_le ordered, inside⟩]
  rfl

theorem excerpt_of_lt {start stop : Nat} (empty : stop < start) (source : String) :
    excerpt source start stop = "" := by
  have none : ((lines source).take (stop + 1)).drop start = [] := by
    rw [List.drop_eq_nil_iff, List.length_take]
    omega
  unfold excerpt
  rw [none]
  rfl

theorem captureSnippet_some (path source : String) (start : Nat) (stop : Option Nat) :
    captureSnippet path source (some start) stop = .selection path
      (excerpt source start
        (min (stop.getD (Text.lineCount source - 1)) (Text.lineCount source - 1))) start :=
  rfl

theorem capture?_eq (path source : String) (start stop : Option Nat) :
    capture? path source start stop = some (captureSnippet path source start stop) := by
  cases start with
  | none => rfl
  | some start =>
      have inside : min (stop.getD (Text.lineCount source - 1)) (Text.lineCount source - 1)
          < Text.lineCount source := by
        have := last_lt source
        omega
      rw [captureSnippet_some]
      simp only [capture?, last?_eq, Option.bind_eq_bind, Option.bind_some]
      split
      · rename_i ordered
        rw [through?_eq ordered inside]
        rfl
      · rename_i empty
        rw [excerpt_of_lt (Nat.lt_of_not_le empty)]
        rfl

theorem selectPart_function {word : String} {line : Nat} (number : lineNumber word = .ok line)
    (path source : String) : selectPart path source ["fn", word]
      = (Outline.functionAt? source line).elim (.error (.noFunction line path))
        fun f => .ok (f.snippet path source) := by
  unfold selectPart
  simp only [number]
  cases found : Outline.functionAt? source line with
  | none =>
      simp only [found, bind, Except.bind]
      rfl
  | some f =>
      simp only [found, bind, Except.bind]
      rfl

theorem selectPart_range {first second : String} {start stop : Nat}
    (starts : lineNumber first = .ok start) (stops : lineNumber second = .ok stop)
    (path source : String) : selectPart path source [first, second]
      = if min stop (Text.lineCount source - 1) < start then
          .error (.emptyRange start (min stop (Text.lineCount source - 1)))
        else .ok (captureSnippet path source (some start)
          (some (min stop (Text.lineCount source - 1)))) := by
  unfold selectPart
  split
  · rename_i other
    cases other
    cases starts
  · rename_i first' second' other same
    cases same
    simp only [starts, stops, bind, Except.bind]
    split <;> rfl
  · rename_i nonsense
    cases nonsense
  · rename_i range whole
    exact absurd rfl (range first second)

theorem part?_eq (path source : String) (words : List String) :
    part? path source words = some (selectPart path source words) := by
  unfold part?
  split
  · rename_i word
    cases number : lineNumber word with
    | error e =>
        simp only [selectPart, number]
        rfl
    | ok line =>
        rw [selectPart_function number]
        simp only [functionAt?_eq, Option.bind_eq_bind, Option.bind_some]
        cases found : Outline.functionAt? source line with
        | none => rfl
        | some f =>
            have member := (Outline.functionAt?_covers found).1
            simp only [ofFunction?_eq (Outline.functions_inside source f member).1, Option.bind_some]
            rfl
  · rename_i first second other
    cases starts : lineNumber first with
    | error e =>
        simp only [selectPart, starts]
        rfl
    | ok start =>
        cases stops : lineNumber second with
        | error e =>
            simp only [selectPart, starts, stops]
            rfl
        | ok stop =>
            have inside := last_lt source
            rw [selectPart_range starts stops]
            simp only [last?_eq, Option.bind_eq_bind, Option.bind_some]
            split
            · rfl
            · rename_i ordered
              rw [through?_eq (Nat.le_of_not_lt ordered) (by omega)]
              rw [captureSnippet_some, Option.getD_some, Nat.min_assoc, Nat.min_self]
              rfl
  · rfl
  · rename_i function range whole
    unfold selectPart
    split
    · exact absurd rfl (function _)
    · exact absurd rfl (range _ _)
    · exact absurd rfl whole
    · rfl

/-! ## What is shown -/

theorem numberFrom_window (ls : List String) (start count : Nat)
    (inside : start + count ≤ ls.length) :
    Prompt.numberFrom start ((ls.drop start).take count)
      = (List.range' start count).map fun n => toString n ++ " " ++ ls[n]?.getD "" := by
  induction count generalizing start with
  | zero => rfl
  | succ count ih =>
      have here : start < ls.length := by omega
      rw [List.drop_eq_getElem_cons here, List.take_succ_cons, Prompt.numberFrom,
        ih (start + 1) (by omega), List.range'_succ, List.map_cons, List.getElem?_eq_getElem here,
        Option.getD_some]

theorem newline_not_mem_toDigits (n : Nat) : '\n' ∉ Nat.toDigits 10 n := by
  intro member
  have digit := Nat.isDigit_of_mem_toDigits (by omega) (by omega) member
  revert digit
  decide

theorem canonical_numberFrom (start : Nat) {ls : List String} (canonical : Canonical ls) :
    Canonical (Prompt.numberFrom start ls) := by
  have unbroken (start : Nat) (ls : List String) (unbroken : ∀ line ∈ ls, '\n' ∉ line.toList) :
      ∀ line ∈ Prompt.numberFrom start ls, '\n' ∉ line.toList := by
    induction ls generalizing start with
    | nil => exact nofun
    | cons line rest ih =>
        obtain ⟨here, later⟩ := List.forall_mem_cons.mp unbroken
        refine List.forall_mem_cons.mpr ⟨?_, ih (start + 1) later⟩
        simp [newline_not_mem_toDigits, here]
  refine ⟨?_, unbroken start ls canonical.unbroken⟩
  obtain ⟨line, rest, rfl⟩ := List.exists_cons_of_ne_nil canonical.inhabited
  exact List.cons_ne_nil _ _

theorem lines_addLineNumbers (text : String) (start : Nat) :
    lines (Prompt.addLineNumbers text start) = Prompt.numberFrom start (lines text) :=
  (canonical_numberFrom start (canonical_lines text)).lines_unlines

theorem lines_window {source : String} {first count : Nat} (some_ : 0 < count)
    (inside : first + count ≤ Text.lineCount source) :
    lines (unlines (((lines source).drop first).take count))
      = ((lines source).drop first).take count := by
  refine Canonical.lines_unlines ⟨?_, fun line member => (canonical_lines source).unbroken line
    (List.mem_of_mem_drop (List.mem_of_mem_take member))⟩
  intro none
  have length := congrArg List.length none
  rw [List.length_take, List.length_drop, List.length_nil] at length
  unfold Text.lineCount at inside
  omega

/-- A snippet with some lines of a source, numbered from the first of them, shows them. -/
theorem shows_window {source : String} {snippet : Snippet} {first last : Nat}
    (ordered : first ≤ last) (inside : last < Text.lineCount source)
    (startLine : snippet.startLine = first)
    (content : snippet.content
      = unlines (((lines source).drop first).take (last + 1 - first))) :
    Shows source snippet first last := by
  have numbered : lines (Prompt.addLineNumbers snippet.content snippet.startLine)
      = numberedLines source first last := by
    rw [lines_addLineNumbers, startLine, content, lines_window (by omega) (by omega)]
    refine numberFrom_window (lines source) first (last + 1 - first) ?_
    unfold Text.lineCount at inside
    omega
  refine ⟨ordered, inside, startLine, numbered, ?_⟩
  rw [← numbered, Text.unlines_lines]
  rfl

theorem shows_file (path source : String) :
    Shows source (.file path source) 0 (Text.lineCount source - 1) := by
  have inside := last_lt source
  refine shows_window (Nat.zero_le _) inside rfl ?_
  rw [Nat.sub_zero, Nat.sub_add_cancel (by omega), List.drop_zero, Text.lineCount, List.take_length,
    Text.unlines_lines]
  rfl

theorem shows_excerpt {source : String} {start stop : Nat} (ordered : start ≤ stop)
    (inside : stop < Text.lineCount source) (path : String) :
    Shows source (.selection path (excerpt source start stop) start) start stop := by
  refine shows_window ordered inside rfl ?_
  rw [← List.drop_take]
  rfl

theorem shows_function {source : String} {f : Function} (member : f ∈ Outline.functions source)
    (location : String) : Shows source (f.snippet location source) f.start f.stop := by
  obtain ⟨ordered, inside⟩ := Outline.functions_inside source f member
  refine shows_window ordered inside rfl ?_
  rw [Nat.sub_add_comm ordered]
  rfl

/-! ## Sums of words -/

theorem numberFrom?_eq {start index : Nat} {ls : List String}
    (fits : start + index + ls.length ≤ UInt64.size) :
    numberFrom? start index ls = some (Prompt.numberFrom (start + index) ls) := by
  induction ls generalizing index with
  | nil => rfl
  | cons line rest ih =>
      rw [List.length_cons] at fits
      have here : sum? start index = some (start + index) := if_pos (by omega)
      rw [numberFrom?, here, ih (by omega)]
      rfl

theorem length_splitOn_le (c : Char) (cs : List Char) :
    (cs.splitOn c).length ≤ Text.byteCount cs + 1 := by
  induction cs with
  | nil => simp
  | cons d rest ih =>
      have wide := d.utf8Size_pos
      rw [List.splitOn_cons_eq_if_modifyHead, Text.byteCount]
      split
      · rw [List.length_cons]
        omega
      · rw [List.length_modifyHead]
        omega

theorem lineCount_le (text : String) : Text.lineCount text ≤ text.utf8ByteSize + 1 := by
  have split := length_splitOn_le '\n' text.toList
  rw [Text.byteCount_toList] at split
  unfold Text.lineCount lines
  rw [List.length_map]
  exact split

theorem length_lines_content {source : String} {snippet : Snippet} {first last : Nat}
    (shows_ : Shows source snippet first last) :
    (lines snippet.content).length = last + 1 - first := by
  have numbers (start : Nat) (ls : List String) :
      (Prompt.numberFrom start ls).length = ls.length := by
    induction ls generalizing start with
    | nil => rfl
    | cons line rest ih => rw [Prompt.numberFrom, List.length_cons, List.length_cons, ih]
  have length := congrArg List.length shows_.numbered
  rw [lines_addLineNumbers, numbers] at length
  rw [length, numberedLines, List.length_map, List.length_range']

/-! ## Every way to capture a snippet -/

theorem numbered_read (path source : String) (start : Nat) (stop : Option Nat) :
    let last := min (stop.getD (Text.lineCount source - 1)) (Text.lineCount source - 1)
    if start ≤ last then Shows source (captureSnippet path source (some start) stop) start last
    else (captureSnippet path source (some start) stop).content = "" := by
  intro last
  have inside : last < Text.lineCount source :=
    Nat.lt_of_le_of_lt (Nat.min_le_right _ _) (last_lt source)
  rw [captureSnippet_some]
  split
  · rename_i ordered
    exact shows_excerpt ordered inside path
  · rename_i empty
    exact excerpt_of_lt (Nat.lt_of_not_le empty) source

theorem numbered (source : String) : Numbered source where
  spans := ⟨functions?_eq source, Outline.functions_inside source⟩
  around := by
    refine fun line => ⟨functionAt?_eq source line, fun f found => ?_⟩
    obtain ⟨member, covers⟩ := Outline.functionAt?_covers found
    exact ⟨member, covers.1, covers.2, fun location =>
      ⟨ofFunction?_eq (Outline.functions_inside source f member).1 location source,
        shows_function member location⟩⟩
  read := by
    refine fun path start stop => ⟨capture?_eq path source start stop, ?_⟩
    cases start with
    | none => exact shows_file path source
    | some start => exact numbered_read path source start stop
  attached := fun path words => part?_eq path source words
  attachedWhole := fun path => ⟨.file path source, rfl, shows_file path source⟩
  attachedAround := fun path _ _ number => selectPart_function number path source
  attachedRange := by
    intro path first second start stop starts stops last
    have read := numbered_read path source start (some last)
    have least : min last (Text.lineCount source - 1) = last :=
      Nat.min_eq_left (Nat.min_le_right _ _)
    rw [Option.getD_some, least] at read
    rw [selectPart_range starts stops]
    split
    · rename_i ordered
      rw [if_pos ordered] at read
      exact ⟨_, if_neg (Nat.not_lt_of_le ordered), read⟩
    · rename_i empty
      exact if_pos (Nat.lt_of_not_le empty)

theorem of_selected {path source : String} {words : List String} {snippet : Snippet}
    (selected : selectPart path source words = .ok snippet) :
    ∃ first last, Shows source snippet first last := by
  have whole := selected
  unfold selectPart at whole
  split at whole
  · rename_i word
    cases number : lineNumber word with
    | error e =>
        rw [number] at whole
        cases whole
    | ok line =>
        rw [selectPart_function number] at selected
        cases found : Outline.functionAt? source line with
        | none =>
            rw [found] at selected
            cases selected
        | some f =>
            rw [found] at selected
            cases selected
            exact ⟨_, _, shows_function (Outline.functionAt?_covers found).1 path⟩
  · rename_i first second other
    cases starts : lineNumber first with
    | error e =>
        rw [starts] at whole
        cases whole
    | ok start =>
        cases stops : lineNumber second with
        | error e =>
            rw [starts, stops] at whole
            cases whole
        | ok stop =>
            have range := (numbered source).attachedRange path first second start stop starts stops
            simp only at range
            split at range
            · obtain ⟨snippet', same, shows_⟩ := range
              cases same.symm.trans selected
              exact ⟨_, _, shows_⟩
            · cases selected.symm.trans range
  · cases selected
    exact ⟨_, _, shows_file path source⟩
  · cases whole

/-- A captured snippet shows lines of its source, or is empty. -/
theorem Captured.shows_or_empty {source : String} {snippet : Snippet}
    (captured : Captured source snippet) : (∃ first last, Shows source snippet first last)
      ∨ snippet.content = "" ∧ snippet.startLine < UInt64.size := by
  cases captured with
  | read path start stop word =>
      cases start with
      | none => exact .inl ⟨_, _, shows_file path source⟩
      | some start =>
          have read := numbered_read path source start stop
          simp only at read
          split at read
          · exact .inl ⟨_, _, read⟩
          · exact .inr ⟨read, word start rfl⟩
  | attached selected => exact .inl (of_selected selected)
  | function location found =>
      exact .inl ⟨_, _, shows_function (Outline.functionAt?_covers found).1 location⟩

/-- Every number in front of a line of a captured snippet is a word. -/
theorem Captured.render?_eq {source : String} {snippet : Snippet}
    (captured : Captured source snippet) (held : Held source) :
    render? snippet = some snippet.render := by
  have fits : snippet.startLine + 0 + (lines snippet.content).length ≤ UInt64.size := by
    rcases captured.shows_or_empty with ⟨first, last, shows_⟩ | ⟨empty, word⟩
    · have ordered := shows_.ordered
      have inside := shows_.inside
      have bound := lineCount_le source
      unfold Held at held
      rw [length_lines_content shows_, shows_.startLine]
      simp only [UInt64.size]
      omega
    · rw [empty]
      exact word
  unfold render?
  rw [numberFrom?_eq fits]
  rfl

theorem userTurn?_eq {snippets : List Snippet}
    (rendered : ∀ snippet ∈ snippets, render? snippet = some snippet.render) (request : String) :
    userTurn? snippets request = some (Prompt.userTurn snippets request) := by
  have all : snippets.mapM render? = some (snippets.map Snippet.render) := by
    induction snippets with
    | nil => rfl
    | cons snippet rest ih =>
        obtain ⟨here, later⟩ := List.forall_mem_cons.mp rendered
        rw [List.mapM_cons, here, ih later]
        rfl
  cases snippets with
  | nil => rfl
  | cons snippet rest =>
      rw [userTurn?, all]
      · rfl
      · nofun

end Excerpt

end ReplyScript
