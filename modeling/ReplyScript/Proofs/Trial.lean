import Mathlib.Data.List.Flatten
import Mathlib.Data.List.Induction
import ReplyScript.Script.Writing
import ReplyScript.Trial.Report

/-! # Reading and choosing trials

A trial file is written as a document between two fences and a reply behind them. Main statement:
`read_written_iff`, it is taken apart in this way again, unless the document has no lines.

Trials are chosen by the names of their categories. Main statement: `select_iff`.
-/

namespace ReplyScript.Trial

open Script (LineEnd)

/-! ## Written trial files -/

/-- A line of the document in a trial file. -/
structure DocumentLine where
  text : String
  oneLine : '\n' ∉ text.toList
  noReturn : '\r' ∉ text.toList
  noFence : ¬ ['-', '-', '-'] <+: text.toList

/-- The document that has these lines. -/
def documentText (e : LineEnd) (document : List DocumentLine) : String :=
  e.text.intercalate (document.map (·.text))

/-- A trial file: byte order marks, a fence, the lines of the document, a fence and the reply. -/
def written (marks : Nat) (e : LineEnd) (document : List DocumentLine) (reply : String) : String :=
  String.ofList (List.replicate marks '\ufeff') ++ "---" ++ e.text
    ++ String.join (document.map fun l => l.text ++ e.text) ++ "---" ++ e.text ++ reply

/-- What stands before the newline of a line end. -/
def returnOf : LineEnd → List Char
  | .newline => []
  | .returnNewline => ['\r']

theorem toList_lineEnd (e : LineEnd) : e.text.toList = returnOf e ++ ['\n'] := by
  cases e <;> rfl

theorem dropLineEnd_lineEnd (e : LineEnd) (cs : List Char) :
    dropLineEnd (e.text.toList ++ cs) = cs := by
  cases e <;> rfl

/-! ## The closing fence -/

theorem splitAtFence_skip {c : Char} {cs : List Char}
    (unfenced : c ≠ '\n' ∨ ¬ ['-', '-', '-'] <+: cs) :
    splitAtFence (c :: cs) = Json.push c (splitAtFence cs) := by
  rw [splitAtFence]
  rintro rest rfl rfl
  rcases unfenced with other | unfenced
  · exact other rfl
  · exact unfenced ⟨rest, rfl⟩

theorem splitAtFence_inLine {front : List Char} (oneLine : '\n' ∉ front)
    {cs document rest : List Char} (split : splitAtFence cs = some (document, rest)) :
    splitAtFence (front ++ cs) = some (front ++ document, rest) := by
  induction front with
  | nil => exact split
  | cons c front ih =>
      have other : c ≠ '\n' := fun same => oneLine (same ▸ List.mem_cons_self)
      rw [List.cons_append, splitAtFence_skip (.inl other),
        ih (List.not_mem_of_not_mem_cons oneLine)]
      rfl

theorem not_fence_append {front : List Char} (unfenced : ¬ ['-', '-', '-'] <+: front) {c : Char}
    (other : c ≠ '-') (cs : List Char) : ¬ ['-', '-', '-'] <+: front ++ c :: cs := by
  rintro ⟨rest, fenced⟩
  match front with
  | [] => exact other (List.cons.inj fenced).1.symm
  | [a] =>
      injection fenced with _ fenced
      exact other (List.cons.inj fenced).1.symm
  | [a, b] =>
      injection fenced with _ fenced
      injection fenced with _ fenced
      exact other (List.cons.inj fenced).1.symm
  | a :: b :: d :: front =>
      injection fenced with first fenced
      injection fenced with second fenced
      injection fenced with third fenced
      subst first second third
      exact unfenced ⟨front, rfl⟩

theorem DocumentLine.not_fence (l : DocumentLine) (e : LineEnd) (cs : List Char) :
    ¬ ['-', '-', '-'] <+: l.text.toList ++ (e.text.toList ++ cs) := by
  cases e with
  | newline => exact not_fence_append l.noFence (by decide) cs
  | returnNewline => exact not_fence_append l.noFence (by decide) ('\n' :: cs)

theorem toList_documentText_cons (e : LineEnd) (l m : DocumentLine) (ls : List DocumentLine) :
    (documentText e (l :: m :: ls)).toList
      = l.text.toList ++ (e.text.toList ++ (documentText e (m :: ls)).toList) := by
  simp [documentText, String.intercalate_cons_of_ne_nil]

/-- What stands behind the first line of a trial file. -/
def afterOpening (e : LineEnd) (document : List DocumentLine) (reply : String) : List Char :=
  (document.flatMap fun l => l.text.toList ++ e.text.toList)
    ++ '-' :: '-' :: '-' :: (e.text.toList ++ reply.toList)

theorem afterOpening_cons (e : LineEnd) (l : DocumentLine) (ls : List DocumentLine)
    (reply : String) : afterOpening e (l :: ls) reply
      = l.text.toList ++ returnOf e ++ '\n' :: afterOpening e ls reply := by
  simp [afterOpening, toList_lineEnd]

theorem toList_written (marks : Nat) (e : LineEnd) (document : List DocumentLine)
    (reply : String) : (written marks e document reply).toList
      = List.replicate marks '\ufeff'
        ++ '-' :: '-' :: '-' :: (e.text.toList ++ afterOpening e document reply) := by
  simp [written, afterOpening, String.toList_join, List.flatMap_map]

/-- The document ends at the first fence behind its first line. -/
theorem splitAtFence_afterOpening (e : LineEnd) (l : DocumentLine) (ls : List DocumentLine)
    (reply : String) : splitAtFence (afterOpening e (l :: ls) reply)
      = some ((documentText e (l :: ls)).toList ++ returnOf e, e.text.toList ++ reply.toList) := by
  have oneLine (m : DocumentLine) : '\n' ∉ m.text.toList ++ returnOf e := by
    refine List.not_mem_append m.oneLine ?_
    cases e <;> decide
  induction ls generalizing l with
  | nil =>
      have split : splitAtFence ('\n' :: afterOpening e [] reply)
          = some ([], e.text.toList ++ reply.toList) := by
        unfold afterOpening
        rw [List.flatMap_nil, List.nil_append, splitAtFence]
      rw [afterOpening_cons, splitAtFence_inLine (oneLine l) split]
      simp [documentText]
  | cons m ls ih =>
      have unfenced : ¬ ['-', '-', '-'] <+: afterOpening e (m :: ls) reply := by
        unfold afterOpening
        rw [List.flatMap_cons, List.append_assoc, List.append_assoc]
        exact m.not_fence e _
      have split : splitAtFence ('\n' :: afterOpening e (m :: ls) reply)
          = some ('\n' :: ((documentText e (m :: ls)).toList ++ returnOf e),
            e.text.toList ++ reply.toList) := by
        rw [splitAtFence_skip (.inr unfenced), ih m]
        rfl
      rw [afterOpening_cons, splitAtFence_inLine (oneLine l) split, toList_documentText_cons,
        toList_lineEnd]
      simp

/-- Without a document the closing fence is passed over as the first line. -/
theorem splitAtFence_afterOpening_nil (e : LineEnd) (reply : String) {before rest : List Char}
    (split : splitAtFence (afterOpening e [] reply) = some (before, rest)) :
    ∃ more, before = '-' :: '-' :: '-' :: more := by
  have skip (cs : List Char) : splitAtFence ('-' :: cs) = Json.push '-' (splitAtFence cs) :=
    splitAtFence_skip (.inl (by decide))
  unfold afterOpening at split
  rw [List.flatMap_nil, List.nil_append, skip, skip, skip] at split
  cases further : splitAtFence (e.text.toList ++ reply.toList) with
  | none =>
      rw [further] at split
      cases split
  | some parts =>
      rw [further] at split
      cases split
      exact ⟨parts.1, rfl⟩

/-! ## The two parts -/

theorem getLast?_documentText (e : LineEnd) (document : List DocumentLine) :
    (documentText e document).toList.getLast? ≠ some '\r' := by
  induction document with
  | nil => exact nofun
  | cons l ls ih =>
      cases ls with
      | nil =>
          have only : (documentText e [l]).toList = l.text.toList := by simp [documentText]
          rw [only]
          exact fun last => l.noReturn (List.mem_of_getLast? last)
      | cons m ls =>
          rw [toList_documentText_cons, toList_lineEnd, ← List.append_assoc, List.getLast?_append,
            ← List.append_assoc, List.getLast?_concat]
          intro last
          cases tail : (documentText e (m :: ls)).toList.getLast? with
          | none =>
              rw [tail] at last
              cases last
          | some c =>
              rw [tail] at last ih
              exact ih last

/-- The carriage return of the last line end does not belong to the document. -/
theorem dropEndWhile_documentText (e : LineEnd) (document : List DocumentLine) :
    Text.dropEndWhile (· = '\r') ((documentText e document).toList ++ returnOf e)
      = (documentText e document).toList := by
  have kept : Text.dropEndWhile (· = '\r') (documentText e document).toList
      = (documentText e document).toList := by
    have last := getLast?_documentText e document
    rcases List.eq_nil_or_concat (documentText e document).toList with empty | ⟨init, c, shape⟩
    · rw [empty]
      rfl
    · rw [List.concat_eq_append] at shape
      rw [shape, List.getLast?_concat] at last
      rw [shape, Text.dropEndWhile_concat, if_neg]
      simpa using last
  cases e with
  | newline => rw [returnOf, List.append_nil, kept]
  | returnNewline =>
      rw [returnOf, Text.dropEndWhile_concat, if_pos (by decide), kept]

theorem sections_marks (marks : Nat) (cs : List Char) :
    sections (List.replicate marks '\ufeff' ++ cs) = sections cs := by
  induction marks with
  | zero => rfl
  | succ marks ih => exact ih

section

variable {marks : Nat} {e : LineEnd} {document : List DocumentLine} {reply : String}

theorem sections_written_of_split {before rest : List Char}
    (split : splitAtFence (afterOpening e document reply) = some (before, rest)) :
    sections (written marks e document reply).toList
      = .ok (Text.dropEndWhile (· = '\r') before, dropLineEnd rest) := by
  rw [toList_written, sections_marks]
  unfold sections
  rw [List.dropWhile_cons_of_neg (by decide)]
  simp only [dropLineEnd_lineEnd, split]

theorem sections_written_of_none (unsplit : splitAtFence (afterOpening e document reply) = none) :
    sections (written marks e document reply).toList = .error .noClosingFence := by
  rw [toList_written, sections_marks]
  unfold sections
  rw [List.dropWhile_cons_of_neg (by decide)]
  simp only [dropLineEnd_lineEnd, unsplit]

theorem sections_written (inhabited : document ≠ []) :
    sections (written marks e document reply).toList
      = .ok ((documentText e document).toList, reply.toList) := by
  obtain ⟨l, ls, rfl⟩ := List.exists_cons_of_ne_nil inhabited
  rw [sections_written_of_split (splitAtFence_afterOpening e l ls reply),
    dropEndWhile_documentText, dropLineEnd_lineEnd]

/-- A file without a document has no closing fence, or a document that begins with a fence. -/
theorem sections_written_nil : sections (written marks e [] reply).toList = .error .noClosingFence
    ∨ ∃ more rest, sections (written marks e [] reply).toList
      = .ok ('-' :: '-' :: '-' :: more, rest) := by
  cases split : splitAtFence (afterOpening e [] reply) with
  | none => exact .inl (sections_written_of_none split)
  | some parts =>
      obtain ⟨before, rest⟩ := parts
      obtain ⟨more, rfl⟩ := splitAtFence_afterOpening_nil e reply split
      have whole : sections (written marks e [] reply).toList
          = .ok (Text.dropEndWhile (· = '\r') ('-' :: '-' :: '-' :: more), dropLineEnd rest) :=
        sections_written_of_split split
      have kept (cs : List Char) : Text.dropEndWhile (fun c => decide (c = '\r')) ('-' :: cs)
          = '-' :: Text.dropEndWhile (· = '\r') cs :=
        Text.dropEndWhile_cons_of_neg (by decide) cs
      rw [kept, kept, kept] at whole
      exact .inr ⟨_, _, whole⟩

theorem read_of_sections {text : String} {document reply : List Char}
    (parts : sections text.toList = .ok (document, reply)) (t : Trial) :
    Trial.read text = .ok t
      ↔ (Toml.read? (String.ofList document)).bind Expectations.ofMembers? = some t.expectations
        ∧ t.reply = String.ofList reply := by
  unfold Trial.read
  rw [parts]
  cases decoded : (Toml.read? (String.ofList document)).bind Expectations.ofMembers? with
  | none =>
      simp only [bind, Except.bind, decoded]
      exact iff_of_false nofun nofun
  | some e =>
      obtain ⟨expectations, said⟩ := t
      simp only [bind, Except.bind, pure, Except.pure, decoded, Except.ok.injEq, Trial.mk.injEq,
        Option.some.injEq, eq_comm]

/-- A written trial file is taken apart into the lines of its document and its reply exactly if the
document has lines; then the document is what is decoded, and nothing else is the reply. Without a
document the closing fence is taken for its first line. -/
theorem read_written_iff (marks : Nat) (e : LineEnd) (document : List DocumentLine)
    (reply : String) :
    let text := written marks e document reply
    (sections text.toList = .ok ((documentText e document).toList, reply.toList)
      ↔ document ≠ [])
    ∧ (document ≠ [] → ∀ t, Trial.read text = .ok t
      ↔ (Toml.read? (documentText e document)).bind Expectations.ofMembers? = some t.expectations
        ∧ t.reply = reply)
    ∧ (document = [] → sections text.toList = .error .noClosingFence
      ∨ ∃ more rest, sections text.toList = .ok ('-' :: '-' :: '-' :: more, rest)) := by
  intro text
  refine ⟨⟨?_, sections_written⟩, ?_, ?_⟩
  · rintro parts rfl
    have fate : sections text.toList = .error .noClosingFence ∨ ∃ more rest,
        sections text.toList = .ok ('-' :: '-' :: '-' :: more, rest) := sections_written_nil
    rcases fate with unclosed | ⟨more, rest, fenced⟩
    · rw [unclosed] at parts
      cases parts
    · rw [fenced] at parts
      cases parts
  · intro inhabited t
    have parts : sections text.toList = .ok ((documentText e document).toList, reply.toList) :=
      sections_written inhabited
    have read := read_of_sections parts t
    rwa [String.ofList_toList, String.ofList_toList] at read
  · rintro rfl
    exact sections_written_nil

end

/-- Two fences with nothing between them: the second is not seen, though a document without lines
is one in which nothing is expected. -/
theorem read_noDocument :
    Trial.read (written 0 .newline [] "hello\n") = .error .noClosingFence
      ∧ (Toml.read? (documentText .newline [])).bind Expectations.ofMembers?
        = some ({} : Expectations) := by
  decide +kernel

/-! ## Names and categories -/

/-- The category has the name, or lies below the one that has it. -/
def Answers (name category : String) : Prop :=
  category = name ∨ ∃ below, category = name ++ "/" ++ below

theorem isAskedFor_iff {name category : String} :
    isAskedFor name category = true ↔ Answers name category := by
  unfold isAskedFor Answers
  rw [Bool.or_eq_true, decide_eq_true_eq, List.isPrefixOf_iff_prefix]
  refine or_congr_right ?_
  constructor
  · rintro ⟨below, shape⟩
    refine ⟨String.ofList below, ?_⟩
    rw [← String.toList_inj, ← shape]
    simp
  · rintro ⟨below, rfl⟩
    exact ⟨below.toList, by simp⟩

instance (name category : String) : Decidable (Answers name category) :=
  decidable_of_iff _ isAskedFor_iff

/-! ## One more name -/

/-- A warning of a name, if there is reason for it. -/
def warned (reason : Prop) [Decidable reason] (name : String) : List String :=
  if reason then [trimSlashes name] else []

section

variable {weak strong : Prop} [Decidable weak] [Decidable strong] (name : String)

theorem length_warned_le (stronger : strong → weak) :
    (warned strong name).length ≤ (warned weak name).length := by
  unfold warned
  by_cases reason : strong
  · exact Nat.le_of_eq (by rw [if_pos reason, if_pos (stronger reason)])
  · rw [if_neg reason]
    exact Nat.zero_le _

theorem warned_eq_iff (stronger : strong → weak) :
    warned weak name = warned strong name ↔ (weak → strong) := by
  unfold warned
  by_cases reason : strong
  · simp [reason, stronger reason]
  · simp [reason]

end

namespace Choice

variable {keys : List String} {c : Choice} {name : String}

/-- The categories that a name adds. -/
def added (keys : List String) (c : Choice) (name : String) : List String :=
  keys.filter fun key => isAskedFor (trimSlashes name) key && !c.chosen.contains key

theorem add_eq : c.add keys name
    = if c.added keys name = [] then { c with unknown := c.unknown ++ [trimSlashes name] }
      else { c with chosen := c.chosen ++ c.added keys name } :=
  rfl

theorem mem_added {key : String} : key ∈ c.added keys name
    ↔ key ∈ keys ∧ Answers (trimSlashes name) key ∧ key ∉ c.chosen := by
  unfold added
  rw [List.mem_filter, Bool.and_eq_true, isAskedFor_iff, Bool.not_eq_true',
    List.contains_eq_mem, decide_eq_false_iff_not]

theorem mem_chosen_add {key : String} : key ∈ (c.add keys name).chosen
    ↔ key ∈ c.chosen ∨ key ∈ keys ∧ Answers (trimSlashes name) key := by
  have chosen : key ∈ (c.add keys name).chosen ↔ key ∈ c.chosen ∨ key ∈ c.added keys name := by
    rw [add_eq]
    split
    · rename_i nothing
      rw [nothing, or_iff_left List.not_mem_nil]
    · exact List.mem_append
  rw [chosen, mem_added]
  by_cases before : key ∈ c.chosen
  · exact iff_of_true (.inl before) (.inl before)
  · rw [and_iff_left before]

theorem unknown_add : (c.add keys name).unknown = c.unknown
    ++ warned (∀ key ∈ keys, Answers (trimSlashes name) key → key ∈ c.chosen) name := by
  have nothing : c.added keys name = []
      ↔ ∀ key ∈ keys, Answers (trimSlashes name) key → key ∈ c.chosen := by
    simp only [List.eq_nil_iff_forall_not_mem, mem_added, not_and, not_not]
  rw [add_eq, warned]
  by_cases covered : c.added keys name = []
  · rw [if_pos covered, if_pos (nothing.mp covered)]
  · rw [if_neg covered, if_neg (mt nothing.mpr covered), List.append_nil]

end Choice

/-! ## All names -/

namespace Categories

variable (all : Categories)

/-- No category answers to the name. -/
def Missing (name : String) : Prop :=
  ∀ c ∈ all, ¬ Answers (trimSlashes name) c.1

/-- Every category that answers to the name answers to one of the earlier names, too. -/
def Covered (earlier : List String) (name : String) : Prop :=
  ∀ c ∈ all, Answers (trimSlashes name) c.1 → ∃ e ∈ earlier, Answers (trimSlashes e) c.1

instance (name : String) : Decidable (all.Missing name) :=
  inferInstanceAs (Decidable (∀ c ∈ all, ¬ Answers (trimSlashes name) c.1))

instance (earlier : List String) (name : String) : Decidable (all.Covered earlier name) :=
  inferInstanceAs (Decidable
    (∀ c ∈ all, Answers (trimSlashes name) c.1 → ∃ e ∈ earlier, Answers (trimSlashes e) c.1))

variable {all}

theorem Missing.covered {name : String} (missing : all.Missing name) (earlier : List String) :
    all.Covered earlier name :=
  fun c member answers => absurd answers (missing c member)

variable (all)

/-- What is chosen by names, one after the other. -/
def choice (names : List String) : Choice :=
  names.foldl (Choice.add (all.map (·.1))) {}

theorem choice_concat (names : List String) (name : String) :
    all.choice (names ++ [name]) = (all.choice names).add (all.map (·.1)) name :=
  List.foldl_append

theorem mem_chosen {names : List String} {key : String} : key ∈ (all.choice names).chosen
    ↔ key ∈ all.map (·.1) ∧ ∃ name ∈ names, Answers (trimSlashes name) key := by
  induction names using List.reverseRecOn with
  | nil => exact iff_of_false List.not_mem_nil (by simp)
  | append_singleton names name ih =>
      rw [choice_concat, Choice.mem_chosen_add, ih, ← and_or_left]
      simp only [List.mem_append, List.mem_singleton, or_and_right, exists_or, exists_eq_left]

theorem unknown_concat (names : List String) (name : String) :
    (all.choice (names ++ [name])).unknown
      = (all.choice names).unknown ++ warned (all.Covered names name) name := by
  have covered : (∀ key ∈ all.map (·.1), Answers (trimSlashes name) key
      → key ∈ (all.choice names).chosen) ↔ all.Covered names name := by
    unfold Covered
    rw [List.forall_mem_map]
    refine forall₂_congr fun c member => imp_congr_right fun _ => ?_
    rw [mem_chosen, and_iff_right (List.mem_map_of_mem member)]
  rw [choice_concat, Choice.unknown_add]
  simp only [covered]

theorem select_unknown (names : List String) :
    (all.select names).2 = (all.choice names).unknown := by
  cases names <;> rfl

theorem mem_select {names : List String} (asked : names ≠ []) {c : String × List String} :
    c ∈ (all.select names).1 ↔ c ∈ all ∧ ∃ name ∈ names, Answers (trimSlashes name) c.1 := by
  unfold select
  rw [if_neg asked, List.mem_filter, List.contains_eq_mem, decide_eq_true_eq]
  exact and_congr_right fun member =>
    all.mem_chosen.trans (and_iff_right (List.mem_map_of_mem member))

theorem select_sublist (names : List String) : (all.select names).1.Sublist all := by
  unfold select
  split
  · exact .refl _
  · exact List.filter_sublist

/-! ## Warnings -/

/-- The names that should be warned of. -/
def missing (names : List String) : List String :=
  (names.filter fun name => decide (all.Missing name)).map trimSlashes

theorem missing_concat (names : List String) (name : String) :
    all.missing (names ++ [name]) = all.missing names ++ warned (all.Missing name) name := by
  unfold missing warned
  rw [List.filter_append, List.map_append]
  by_cases missing : all.Missing name
  · simp [missing]
  · simp [missing]

theorem length_missing_le (names : List String) :
    (all.missing names).length ≤ (all.choice names).unknown.length := by
  induction names using List.reverseRecOn with
  | nil => exact Nat.le_refl _
  | append_singleton names name ih =>
      rw [missing_concat, unknown_concat, List.length_append, List.length_append]
      exact Nat.add_le_add ih (length_warned_le name fun missing => missing.covered names)

/-- The warnings are right exactly if no name that a category answers to is covered by the names
before it. -/
theorem unknown_eq_missing_iff (names : List String) :
    (all.choice names).unknown = all.missing names ↔ ∀ earlier name later,
      names = earlier ++ name :: later → all.Covered earlier name → all.Missing name := by
  induction names using List.reverseRecOn with
  | nil => exact iff_of_true rfl (by simp)
  | append_singleton names last ih =>
      have parts : (all.choice (names ++ [last])).unknown = all.missing (names ++ [last])
          ↔ (all.choice names).unknown = all.missing names
            ∧ (all.Covered names last → all.Missing last) := by
        have stronger (missing : all.Missing last) := missing.covered names
        rw [unknown_concat, missing_concat, ← warned_eq_iff last stronger]
        constructor
        · intro same
          -- What should be warned of is in neither part longer than what is warned of.
          have before := all.length_missing_le names
          have here := length_warned_le last stronger
          have lengths := congrArg List.length same
          rw [List.length_append, List.length_append] at lengths
          exact List.append_inj same (by omega)
        · rintro ⟨before, here⟩
          rw [before, here]
      rw [parts, ih]
      constructor
      · rintro ⟨before, here⟩ earlier name later cut
        rcases List.eq_nil_or_concat later with rfl | ⟨init, final, rfl⟩
        · obtain ⟨rfl, only⟩ := List.append_inj' cut rfl
          cases only
          exact here
        · rw [List.concat_eq_append, ← List.cons_append, ← List.append_assoc] at cut
          exact before earlier name init (List.append_inj' cut rfl).1
      · intro every
        refine ⟨fun earlier name later cut => ?_, every names last [] rfl⟩
        exact every earlier name (later ++ [last]) (by rw [cut, List.append_assoc]; rfl)

end Categories

/-! ## Runs -/

theorem path_runFile (environment : List (String × String)) (t : Disk.Tree) (here : Disk.Path)
    (path input : String) : ((runFile environment t here path).run input).1.path = path := by
  unfold runFile
  cases t.textAt here path with
  | error e => rfl
  | ok text =>
      simp only
      cases Trial.read text with
      | error problem => rfl
      | ok trial => rfl

/-- What every step of a run gives, the run gives of all of them. -/
theorem map_mapM {α β γ σ : Type} {step : α → StateM σ β} {view : β → γ} {given : α → γ}
    (gives : ∀ a s, view ((step a).run s).1 = given a) (as : List α) (s : σ) :
    ((as.mapM step).run s).1.map view = as.map given := by
  induction as generalizing s with
  | nil => rfl
  | cons a as ih =>
      rw [List.mapM_cons]
      exact congrArg₂ List.cons (gives a s) (ih ((step a).run s).2)

/-- The trials of a directory run category by category, behind the warnings. -/
theorem runAll_groups (environment : List (String × String)) {t : Disk.Tree} {here : Disk.Path}
    {path : String} {all : Categories} (names : List String) (style : Style) (input : String)
    (directory : ¬ (path ≠ "" ∧ t.isFile (Disk.Path.ofText here path) = true))
    (found : discover t here path = all) (inhabited : all ≠ []) :
    let chosen := (all.select names).1
    ∃ groups : List (Option String × List Verdict),
      groups.map (fun g => (g.1, g.2.map Verdict.path))
        = chosen.map (fun c => (some (shownCategory c.1), c.2))
      ∧ ((runAll environment t here path names style).run input).1.1
        = (all.select names).2.map (unknownCategory all)
          ++ if chosen = [] then [Console.Printed.messageLine "no matching categories found"]
            else (conclude style groups).1 := by
  intro chosen
  let run (c : String × List String) : StateM String (Option String × List Verdict) := do
    return (some (shownCategory c.1), ← c.2.mapM (runFile environment t here))
  have gives (c : String × List String) (s : String) :
      (fun g : Option String × List Verdict => (g.1, g.2.map Verdict.path)) ((run c).run s).1
        = (some (shownCategory c.1), c.2) := by
    have paths : ((c.2.mapM (runFile environment t here)).run s).1.map Verdict.path
        = c.2.map fun path => path :=
      map_mapM (fun path s => path_runFile environment t here path s) c.2 s
    rw [List.map_id'] at paths
    exact congrArg (Prod.mk _) paths
  refine ⟨((chosen.mapM run).run input).1, map_mapM gives chosen input, ?_⟩
  unfold runAll
  rw [if_neg directory, found]
  cases all with
  | nil => exact absurd rfl inhabited
  | cons category more =>
      simp only
      by_cases none : chosen = []
      · rw [if_pos none, if_pos none]
        rfl
      · rw [if_neg none, if_neg none]
        rfl

/-- The names that are asked for choose the categories that answer to one of them, each with its
files as often as it is there. A name is warned of exactly if every category that answers to it
answers to an earlier name. So the warnings are right exactly if no name that a category answers to
comes behind names that choose all its categories. -/
theorem select_warns_iff (all : Categories) (first : String) (others : List String) :
    let names := first :: others
    let chosen := (all.select names).1
    (∀ c, c ∈ chosen ↔ c ∈ all ∧ ∃ name ∈ names, Answers (trimSlashes name) c.1)
    ∧ chosen.Sublist all
    ∧ ((all.flatMap (·.2)).Nodup → (chosen.flatMap (·.2)).Nodup)
    ∧ (∀ earlier name, (all.select (earlier ++ [name])).2
      = (all.select earlier).2 ++ warned (all.Covered earlier name) name)
    ∧ ((all.select names).2 = all.missing names ↔ ∀ earlier name later,
      names = earlier ++ name :: later → all.Covered earlier name → all.Missing name)
    ∧ ∀ environment t here path style input, discover t here path = all → all ≠ [] →
      ¬ (path ≠ "" ∧ t.isFile (Disk.Path.ofText here path) = true) →
      ∃ groups : List (Option String × List Verdict),
        groups.map (fun g => (g.1, g.2.map Verdict.path))
          = chosen.map (fun c => (some (shownCategory c.1), c.2))
        ∧ ((runAll environment t here path names style).run input).1.1
          = (all.select names).2.map (unknownCategory all)
            ++ if chosen = [] then [Console.Printed.messageLine "no matching categories found"]
              else (conclude style groups).1 := by
  intro names chosen
  have part : chosen.Sublist all := all.select_sublist names
  refine ⟨?_, part, ?_, ?_, ?_, ?_⟩
  · exact fun c => all.mem_select (List.cons_ne_nil first others)
  · exact fun distinct => distinct.sublist (part.flatMap _)
  · intro earlier name
    rw [Categories.select_unknown, Categories.select_unknown, Categories.unknown_concat]
  · rw [Categories.select_unknown]
    exact all.unknown_eq_missing_iff names
  · intro environment t here path style input found inhabited directory
    exact runAll_groups environment names style input directory found inhabited

/-- A name that is asked for twice is warned of, though there is a category with this name. -/
theorem select_warns_again :
    Categories.select [("a", ["a/x.test.md"])] ["a", "a"] = ([("a", ["a/x.test.md"])], ["a"])
      ∧ Categories.missing [("a", ["a/x.test.md"])] ["a", "a"] = [] := by
  decide +kernel

end ReplyScript.Trial
