import ReplyScript.Proofs.Script.Tokens
import ReplyScript.Script.Writing

/-! # Reading texts one after another

A text that leaves no script open has no influence on what is read after it, and only moves it by
its own length. Main statement: `read_joined`.
-/

namespace ReplyScript.Script

/-! ## Further on in a reply -/

/-- A command `n` bytes further on. -/
def Command.shift (n : Nat) (c : Command) : Command :=
  { c with span := c.span.shift n }

/-- A finding `n` bytes further on. -/
def Finding.shift (n : Nat) (f : Finding) : Finding :=
  { f with span := f.span.shift n }

/-- What a line yields `n` bytes further on. -/
def Yield.shift (n : Nat) : Yield → Yield
  | .command c => .command (c.shift n)
  | .warning f => .warning (f.shift n)
  | .error f => .error (f.shift n)

/-- A line `n` bytes further on. -/
def SourceLine.shift (n : Nat) (l : SourceLine) : SourceLine :=
  { l with span := l.span.shift n }

/-- An open block `n` bytes further on. -/
def OpenBlock.shift (n : Nat) (b : OpenBlock) : OpenBlock :=
  { b with start := b.start + n }

/-- A state whose open block is `n` bytes further on. -/
def Scan.shift (n : Nat) (s : Scan) : Scan :=
  { s with block := s.block.map (OpenBlock.shift n) }

theorem placeLines_add (offset n : Nat) (ls : List String) :
    placeLines (offset + n) ls = (placeLines offset ls).map (SourceLine.shift n) := by
  induction ls generalizing offset with
  | nil => rfl
  | cons l ls ih =>
      have next := ih (offset + l.utf8ByteSize + 1)
      simp only [placeLines, List.map_cons, ← next, SourceLine.shift, Span.shift]
      rw [Nat.add_right_comm offset n, Nat.add_right_comm (offset + l.utf8ByteSize) n]

theorem placeLines_append {ls : List String} (inhabited : ls ≠ []) (offset : Nat)
    (ms : List String) : placeLines offset (ls ++ ms)
      = placeLines offset ls ++ placeLines (offset + ((Text.unlines ls).utf8ByteSize + 1)) ms := by
  induction ls generalizing offset with
  | nil => exact absurd rfl inhabited
  | cons l ls ih =>
      cases ls with
      | nil => rfl
      | cons m rest =>
          have size : (Text.unlines (l :: m :: rest)).utf8ByteSize
              = l.utf8ByteSize + 1 + (Text.unlines (m :: rest)).utf8ByteSize := by
            rw [Text.unlines, String.intercalate_cons_cons, String.utf8ByteSize_append,
              String.utf8ByteSize_append]
            rfl
          have later := ih (List.cons_ne_nil m rest) (offset + l.utf8ByteSize + 1)
          have place : offset + l.utf8ByteSize + 1 + ((Text.unlines (m :: rest)).utf8ByteSize + 1)
              = offset + (l.utf8ByteSize + 1 + (Text.unlines (m :: rest)).utf8ByteSize + 1) := by
            omega
          have first (ks : List String) : placeLines offset (l :: ks)
              = ⟨Text.dropCarriageReturn l, ⟨offset, offset + l.utf8ByteSize⟩⟩
                :: placeLines (offset + l.utf8ByteSize + 1) ks := rfl
          rw [List.cons_append, first, first, later, size, place, List.cons_append]

theorem lines_joined (a b : String) :
    Text.lines (a ++ "\n" ++ b) = Text.lines a ++ Text.lines b := by
  have chars : (a ++ "\n" ++ b).toList = a.toList ++ '\n' :: b.toList := by
    rw [String.toList_append, String.toList_append, List.append_assoc]
    rfl
  have cut := List.splitOnP_append_cons (p := (· == '\n')) a.toList b.toList
    (beq_self_eq_true '\n')
  unfold Text.lines
  rw [chars, ← List.map_append]
  exact congrArg (List.map String.ofList) cut

theorem sourceLines_joined (a b : String) : sourceLines (a ++ "\n" ++ b)
    = sourceLines a ++ (sourceLines b).map (SourceLine.shift (a.utf8ByteSize + 1)) := by
  unfold sourceLines
  rw [lines_joined, placeLines_append (Text.lines_ne_nil a), Text.unlines_lines, placeLines_add]

namespace Scan

theorem giveUp_shift (n : Nat) (s : Scan) (at_ : BlockEnd) (stop : Nat) :
    (s.shift n).giveUp at_ (stop + n) = (s.giveUp at_ stop).map (Yield.shift n) := by
  rcases s with ⟨active, _ | b⟩ <;> rfl

theorem stepInBlock_shift (n : Nat) (s : Scan) (b : OpenBlock) (d : Directive) (span : Span) :
    (s.shift n).stepInBlock (b.shift n) d (span.shift n)
      = ((s.stepInBlock b d span).1.shift n, (s.stepInBlock b d span).2.map (Yield.shift n)) := by
  have kind : (b.shift n).kind = b.kind := rfl
  unfold stepInBlock
  rw [kind]
  split
  · rfl
  · cases BlockKind.ofOpener? d.name <;> rfl

theorem stepInScript_shift (n : Nat) (s : Scan) (d : Directive) (span : Span) :
    (s.shift n).stepInScript d (span.shift n)
      = ((s.stepInScript d span).1.shift n, (s.stepInScript d span).2.map (Yield.shift n)) := by
  unfold stepInScript
  cases BlockKind.ofOpener? d.name with
  | some kind => cases d.arguments <;> rfl
  | none =>
      cases BlockKind.ofCloser? d.name with
      | some kind => rfl
      | none => cases d.arguments <;> rfl

theorem stepDirective_shift (n : Nat) (s : Scan) (d : Directive) (span : Span) :
    (s.shift n).stepDirective d (span.shift n)
      = ((s.stepDirective d span).1.shift n, (s.stepDirective d span).2.map (Yield.shift n)) := by
  unfold stepDirective
  split
  · rfl
  · split
    · rw [← giveUp_shift]
      rfl
    · rcases s with ⟨active, _ | b⟩
      · cases active with
        | true => exact stepInScript_shift n _ d span
        | false => rfl
      · exact stepInBlock_shift n _ b d span

theorem step_shift (n : Nat) (s : Scan) (line : SourceLine) :
    (s.shift n).step (line.shift n)
      = ((s.step line).1.shift n, (s.step line).2.map (Yield.shift n)) := by
  have text : (line.shift n).text = line.text := rfl
  unfold step
  rw [text]
  cases Directive.ofLine? line.text with
  | some d => exact stepDirective_shift n s d line.span
  | none => rcases s with ⟨active, _ | b⟩ <;> rfl

theorem run_shift (n : Nat) (s : Scan) (lines : List SourceLine) :
    (s.shift n).run (lines.map (SourceLine.shift n))
      = ((s.run lines).1.shift n, (s.run lines).2.map (Yield.shift n)) := by
  induction lines generalizing s with
  | nil => rfl
  | cons line rest ih =>
      simp only [List.map_cons, run, step_shift, ih, List.map_append]

end Scan

/-! ## Open scripts -/

/-- The directive lines of a text. -/
def directives (source : String) : List Directive :=
  (sourceLines source).filterMap fun line => Directive.ofLine? line.text

/-- Whether a directive starts or ends a script. -/
def Directive.isFrame (d : Directive) : Bool :=
  d.name = "startCommand" || d.name = "endCommand"

/-- No script is open at the end of a text: the last directive that starts or ends one, if there is
any, ends it. -/
def LeavesNoScript (source : String) : Prop :=
  ∀ d ∈ ((directives source).filter Directive.isFrame).getLast?, d.name = "endCommand"

instance (source : String) : Decidable (LeavesNoScript source) :=
  inferInstanceAs (Decidable (∀ d ∈ ((directives source).filter Directive.isFrame).getLast?,
    d.name = "endCommand"))

/-- No directive of a text starts a script. -/
def StartsNoScript (source : String) : Prop :=
  ∀ d ∈ directives source, d.name ≠ "startCommand"

instance (source : String) : Decidable (StartsNoScript source) :=
  inferInstanceAs (Decidable (∀ d ∈ directives source, d.name ≠ "startCommand"))

/-- Whether a script is open behind a directive, if it was before. -/
def Directive.opens (active : Bool) (d : Directive) : Bool :=
  if d.name = "startCommand" then true else if d.name = "endCommand" then false else active

theorem Directive.foldl_opens (ds : List Directive) (active : Bool) :
    ds.foldl Directive.opens active
      = ((ds.filter Directive.isFrame).getLast?.map (·.name == "startCommand")).getD active := by
  induction ds generalizing active with
  | nil => rfl
  | cons d rest ih =>
      rw [List.foldl_cons, ih]
      cases frame : d.isFrame with
      | false =>
          have same : d.opens active = active := by
            unfold isFrame at frame
            simp only [Bool.or_eq_false_iff, decide_eq_false_iff_not] at frame
            rw [opens, if_neg frame.1, if_neg frame.2]
          rw [same, List.filter_cons_of_neg (by rw [frame]; exact Bool.false_ne_true)]
      | true =>
          have here : d.opens active = (d.name == "startCommand") := by
            unfold isFrame at frame
            simp only [Bool.or_eq_true, decide_eq_true_eq] at frame
            rcases frame with starts | ends
            · rw [opens, if_pos starts, starts]
              rfl
            · rw [opens, ends]
              rfl
          rw [here, List.filter_cons_of_pos frame, List.getLast?_cons]
          cases (rest.filter isFrame).getLast? <;> rfl

namespace Scan

theorem stepDirective_active (s : Scan) (d : Directive) (span : Span) :
    (s.stepDirective d span).1.active = d.opens s.active := by
  unfold stepDirective Directive.opens
  split
  · rfl
  · split
    · rfl
    · rcases s with ⟨active, _ | b⟩
      · cases active with
        | false => rfl
        | true =>
            unfold stepInScript
            simp only
            cases BlockKind.ofOpener? d.name with
            | some kind => cases d.arguments <;> rfl
            | none =>
                cases BlockKind.ofCloser? d.name with
                | some kind => rfl
                | none => cases d.arguments <;> rfl
      · unfold stepInBlock
        simp only
        split
        · rfl
        · cases BlockKind.ofOpener? d.name <;> rfl

/-- A block is open only inside a script. -/
def Framed (s : Scan) : Prop :=
  s.active = false → s = start

theorem Framed.stepDirective {s : Scan} (framed : s.Framed) (d : Directive) (span : Span) :
    (s.stepDirective d span).1.Framed := by
  intro inactive
  rw [stepDirective_active] at inactive
  unfold Directive.opens at inactive
  unfold Scan.stepDirective
  split at inactive
  · cases inactive
  · rename_i other
    rw [if_neg other]
    split at inactive
    · rename_i ends
      rw [if_pos ends]
    · rename_i plain
      have same := framed inactive
      subst same
      rw [if_neg plain]
      rfl

theorem Framed.step {s : Scan} (framed : s.Framed) (line : SourceLine) :
    (s.step line).1.Framed := by
  unfold Scan.step
  cases Directive.ofLine? line.text with
  | some d => exact framed.stepDirective d line.span
  | none =>
      intro inactive
      have same := framed inactive
      subst same
      rfl

theorem Framed.run {s : Scan} (framed : s.Framed) (lines : List SourceLine) :
    (s.run lines).1.Framed := by
  induction lines generalizing s with
  | nil => exact framed
  | cons line rest ih => exact ih (framed.step line)

theorem run_active (s : Scan) (lines : List SourceLine) : (s.run lines).1.active
    = (lines.filterMap fun line => Directive.ofLine? line.text).foldl Directive.opens s.active := by
  induction lines generalizing s with
  | nil => rfl
  | cons line rest ih =>
      have later := ih (s.step line).1
      rw [List.filterMap_cons]
      simp only [run, later]
      unfold step
      cases Directive.ofLine? line.text with
      | none => rfl
      | some d => rw [stepDirective_active, List.foldl_cons]

/-- Behind a text that leaves no script open, reading starts afresh. -/
theorem run_closed {source : String} (closed : LeavesNoScript source) :
    (start.run (sourceLines source)).1 = start := by
  have framed : start.Framed := fun _ => rfl
  refine framed.run _ ?_
  rw [run_active, Directive.foldl_opens]
  cases last : ((directives source).filter Directive.isFrame).getLast? with
  | none =>
      unfold directives at last
      rw [last]
      rfl
  | some d =>
      have ends := closed d last
      unfold directives at last
      rw [last, Option.map_some, Option.getD_some, ends]
      rfl

theorem run_outside {lines : List SourceLine} (noStart : ∀ line ∈ lines, ∀ d,
    Directive.ofLine? line.text = some d → d.name ≠ "startCommand") :
    start.run lines = (start, []) := by
  induction lines with
  | nil => rfl
  | cons line rest ih =>
      obtain ⟨first, later⟩ := List.forall_mem_cons.mp noStart
      have stays : start.step line = (start, []) := by
        unfold step
        cases read : Directive.ofLine? line.text with
        | none => rfl
        | some d =>
            simp only [stepDirective, first d read, if_false]
            split <;> rfl
      simp only [run, stays, ih later, List.append_nil]

end Scan

theorem StartsNoScript.leavesNoScript {source : String} (outside : StartsNoScript source) :
    LeavesNoScript source := by
  intro d last
  obtain ⟨member, frame⟩ := List.mem_filter.mp (List.mem_of_getLast? last)
  have either : d.name = "startCommand" ∨ d.name = "endCommand" := by
    simpa [Directive.isFrame] using frame
  exact either.resolve_left (outside d member)

/-! ## What is read -/

theorem yields_outside {source : String} (outside : StartsNoScript source) :
    yields source = [] := by
  have noStart : ∀ line ∈ sourceLines source, ∀ d,
      Directive.ofLine? line.text = some d → d.name ≠ "startCommand" := by
    intro line member d read
    exact outside d (List.mem_filterMap.mpr ⟨line, member, read⟩)
  unfold yields
  simp only [Scan.run_outside noStart]
  rfl

theorem yields_joined {a : String} (closed : LeavesNoScript a) (b : String) :
    yields (a ++ "\n" ++ b)
      = yields a ++ (yields b).map (Yield.shift (a.utf8ByteSize + 1)) := by
  have size : (a ++ "\n" ++ b).utf8ByteSize = b.utf8ByteSize + (a.utf8ByteSize + 1) := by
    rw [String.utf8ByteSize_append, String.utf8ByteSize_append, Nat.add_comm]
    rfl
  have afresh := Scan.run_closed closed
  have shifted := Scan.run_shift (a.utf8ByteSize + 1) .start (sourceLines b)
  have same : Scan.start.shift (a.utf8ByteSize + 1) = .start := rfl
  rw [same] at shifted
  have nothing : ∀ stop, Scan.start.giveUp .replyEnd stop = [] := fun _ => rfl
  unfold yields
  simp only [sourceLines_joined, Scan.run_append, afresh, shifted, size, Scan.giveUp_shift, nothing,
    List.append_nil, List.map_append, List.append_assoc]

namespace Yield

theorem filterMap_shift {α : Type} {part : Yield → Option α} {move : α → α} {n : Nat}
    (moves : ∀ y, part (shift n y) = (part y).map move) (ys : List Yield) :
    (ys.map (shift n)).filterMap part = (ys.filterMap part).map move := by
  rw [List.filterMap_map, List.map_filterMap]
  congr 1
  funext y
  exact moves y

theorem command?_shift (n : Nat) (y : Yield) :
    (y.shift n).command? = y.command?.map (Command.shift n) := by
  cases y <;> rfl

theorem warning?_shift (n : Nat) (y : Yield) :
    (y.shift n).warning? = y.warning?.map (Finding.shift n) := by
  cases y <;> rfl

theorem error?_shift (n : Nat) (y : Yield) :
    (y.shift n).error? = y.error?.map (Finding.shift n) := by
  cases y <;> rfl

end Yield

/-- What reading a text comes to: its script, or its errors. -/
abbrev Reading := Except (List Finding) Script

namespace Reading

/-- The errors, in order. -/
def errors : Reading → List Finding
  | .ok _ => []
  | .error fs => fs

/-- A reading and another one, `n` bytes further on. Both must succeed. -/
def join (n : Nat) : Reading → Reading → Reading
  | .ok s, .ok t => .ok ⟨s.commands ++ t.commands.map (Command.shift n),
      s.warnings ++ t.warnings.map (Finding.shift n)⟩
  | r, q => .error (r.errors ++ q.errors.map (Finding.shift n))

/-- Names and arguments of the commands that were read. -/
def contents : Reading → Option (List (String × List Argument))
  | .ok s => some (s.commands.map Command.content)
  | .error _ => none

/-- What lines that yield this come to. -/
def ofYields (ys : List Yield) : Reading :=
  match ys.filterMap Yield.error? with
  | [] => .ok ⟨ys.filterMap Yield.command?, ys.filterMap Yield.warning?⟩
  | errors => .error errors

theorem read_eq_ofYields (source : String) : read source = ofYields (yields source) :=
  rfl

theorem ofYields_eq_ok {ys : List Yield} {script : Script} (parsed : ofYields ys = .ok script) :
    ys.filterMap Yield.error? = []
      ∧ script = ⟨ys.filterMap Yield.command?, ys.filterMap Yield.warning?⟩ := by
  unfold ofYields at parsed
  split at parsed
  · rename_i clean
    cases parsed
    exact ⟨clean, rfl⟩
  · cases parsed

theorem ofYields_append (n : Nat) (ys zs : List Yield) :
    ofYields (ys ++ zs.map (Yield.shift n)) = (ofYields ys).join n (ofYields zs) := by
  unfold ofYields
  simp only [List.filterMap_append, Yield.filterMap_shift (Yield.command?_shift n),
    Yield.filterMap_shift (Yield.warning?_shift n), Yield.filterMap_shift (Yield.error?_shift n)]
  cases ys.filterMap Yield.error? with
  | nil => cases zs.filterMap Yield.error? <;> rfl
  | cons f fs => cases zs.filterMap Yield.error? <;> simp [join, errors]

theorem contents_join_left (n : Nat) (r : Reading) :
    contents (join n (.ok ⟨[], []⟩) r) = r.contents := by
  cases r with
  | ok s =>
      simp only [join, contents, List.nil_append, List.map_map]
      rfl
  | error fs => rfl

theorem join_right (n : Nat) (r : Reading) : r.join n (.ok ⟨[], []⟩) = r := by
  cases r with
  | ok s => simp only [join, List.map_nil, List.append_nil]
  | error fs => simp only [join, errors, List.map_nil, List.append_nil]

end Reading

/-- A text that leaves no script open is read on its own, and so is the text after it, whose spans
are only further on. Reading both fails if reading one of them does. A text in which no script starts
makes no difference to the commands, wherever it stands. -/
theorem read_joined {a : String} (closed : LeavesNoScript a) (b : String) :
    read (a ++ "\n" ++ b) = Reading.join (a.utf8ByteSize + 1) (read a) (read b)
    ∧ (StartsNoScript a →
        Reading.contents (read (a ++ "\n" ++ b)) = Reading.contents (read b))
    ∧ (StartsNoScript b →
        Reading.contents (read (a ++ "\n" ++ b)) = Reading.contents (read a)) := by
  have joined : read (a ++ "\n" ++ b) = Reading.join (a.utf8ByteSize + 1) (read a) (read b) := by
    rw [Reading.read_eq_ofYields, yields_joined closed, Reading.ofYields_append]
    rfl
  refine ⟨joined, ?_, ?_⟩
  · intro outside
    have nothing : read a = .ok ⟨[], []⟩ := by
      rw [Reading.read_eq_ofYields, yields_outside outside]
      rfl
    rw [joined, nothing, Reading.contents_join_left]
  · intro outside
    have nothing : read b = .ok ⟨[], []⟩ := by
      rw [Reading.read_eq_ofYields, yields_outside outside]
      rfl
    rw [joined, nothing, Reading.join_right]

/-- A block that its script does not close is given up with it, and the next script is read as if it
were the first. -/
theorem read_joined_unclosed :
    LeavesNoScript "@startCommand\n@startInput \"é\" 1\n@endCommand"
    ∧ read ("@startCommand\n@startInput \"é\" 1\n@endCommand" ++ "\n"
        ++ "@startCommand\n@readMemory\n@endInput")
      = .ok ⟨[⟨"readMemory", [], ⟨59, 70⟩⟩],
        [⟨.unclosed .input .scriptEnd, ⟨14, 33⟩⟩, ⟨.strayCloser "endInput", ⟨71, 80⟩⟩]⟩
    ∧ StartsNoScript "@endInput"
    ∧ Reading.contents (read ("@endInput" ++ "\n" ++ "@startCommand\n@readMemory"))
      = some [("readMemory", [])] := by
  have closed : LeavesNoScript "@startCommand\n@startInput \"é\" 1\n@endCommand" := by decide
  have outside : StartsNoScript "@endInput" := by decide
  have first : read "@startCommand\n@startInput \"é\" 1\n@endCommand"
      = .ok ⟨[], [⟨.unclosed .input .scriptEnd, ⟨14, 33⟩⟩]⟩ := rfl
  have second : read "@startCommand\n@readMemory\n@endInput"
      = .ok ⟨[⟨"readMemory", [], ⟨14, 25⟩⟩], [⟨.strayCloser "endInput", ⟨26, 35⟩⟩]⟩ := rfl
  refine ⟨closed, ?_, outside, ?_⟩
  · rw [(read_joined closed _).1, first, second]
    rfl
  · rw [(read_joined outside.leavesNoScript _).2.1 outside]
    rfl

end ReplyScript.Script
