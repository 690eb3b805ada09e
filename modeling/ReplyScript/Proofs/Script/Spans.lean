import ReplyScript.Proofs.Script.Moves

/-! # Spans point at what they are about

The span of a command or of a finding is made of whole lines of the reply. Main statement:
`read_points`. The scan is followed line by line; a block that is open knows the lines from its
opener on.
-/

namespace ReplyScript.Script

open Edit (ended led)
open Text (byteCount slice?)

/-! ## Pointing into a text -/

/-- A byte of a text with which a line starts. -/
def StartsLine (source : String) (byte : Nat) : Prop :=
  byte = 0 ∨ ∃ before after, source = before ++ "\n" ++ after
    ∧ byte = (before ++ "\n").utf8ByteSize

/-- A span that lies in a text, from the start of a line to some later place between characters. -/
structure Span.PointsInto (source : String) (span : Span) : Prop where
  ordered : span.start ≤ span.stop
  inside : span.stop ≤ source.utf8ByteSize
  validStart : String.Pos.Raw.IsValid source ⟨span.start⟩
  validStop : String.Pos.Raw.IsValid source ⟨span.stop⟩
  startsLine : StartsLine source span.start

/-- The body of a block: those of its lines that are no directives. -/
def bodyOf (inner : List String) : List String :=
  (inner.map Text.dropCarriageReturn).filter fun l => (Directive.ofLine? l).isNone

/-- The lines in which a command is written: one directive line with its name and arguments, or an
opener, lines that do not close its block, and the closer. -/
inductive Stands : List String → Command → Prop where
  | line {l : String} {d : Directive} {arguments : List Argument} {span : Span}
      (read : Directive.ofLine? (Text.dropCarriageReturn l) = some d)
      (decoded : d.arguments = .ok arguments) : Stands [l] ⟨d.name, arguments, span⟩
  | block {kind : BlockKind} {opener closer : String} {inner : List String} {d e : Directive}
      {span : Span}
      (opens : Directive.ofLine? (Text.dropCarriageReturn opener) = some d)
      (openerName : d.name = kind.opener)
      (between : ∀ l ∈ inner, ∀ f ∈ Directive.ofLine? (Text.dropCarriageReturn l),
        f.name ≠ kind.closer)
      (closes : Directive.ofLine? (Text.dropCarriageReturn closer) = some e)
      (closerName : e.name = kind.closer) :
      Stands (opener :: (inner ++ [closer]))
        ⟨kind.command, d.tokens.map Directive.argument
          ++ [.text (Text.trimEnd (Text.unlines (bodyOf inner)))], span⟩

/-- What was read from a text points into it: commands at the lines in which they are written, one
after the other, and findings at some lines. -/
def Reading.PointsInto (source : String) : Reading → Prop
  | .ok script =>
      (∀ c ∈ script.commands, c.span.PointsInto source
        ∧ ∃ text, slice? source c.span.start c.span.stop = some text
          ∧ Stands (Text.lines text) c)
      ∧ script.commands.Pairwise (fun c d => c.span.stop < d.span.start)
      ∧ ∀ f ∈ script.warnings, f.span.PointsInto source
  | .error errors => ∀ f ∈ errors, f.span.PointsInto source

/-! ## Lines of a text -/

theorem utf8ByteSize_unlines {ls : List String} (inhabited : ls ≠ []) :
    (Text.unlines ls).utf8ByteSize + 1 = lineStart ls := by
  induction ls with
  | nil => exact absurd rfl inhabited
  | cons l ls ih =>
      cases ls with
      | nil => exact (lineStart_singleton l).symm
      | cons m rest =>
          have later := ih (List.cons_ne_nil m rest)
          have size : (Text.unlines (l :: m :: rest)).utf8ByteSize
              = l.utf8ByteSize + 1 + (Text.unlines (m :: rest)).utf8ByteSize := by
            rw [Text.unlines, String.intercalate_cons_cons, String.utf8ByteSize_append,
              String.utf8ByteSize_append]
            rfl
          rw [lineStart_cons, ← later, size]
          omega

section

variable {source : String} {before mid after : List String}

/-- Some lines of a text are a piece of it. -/
theorem toList_of_lines (split : Text.lines source = before ++ mid ++ after) (inhabited : mid ≠ []) :
    source.toList = ended before ++ (Text.unlines mid).toList ++ led after := by
  have unbroken : ∀ l ∈ mid, '\n' ∉ l.toList := by
    intro l member
    refine (Edit.canonical_lines source).unbroken l ?_
    rw [split]
    exact List.mem_append_left _ (List.mem_append_right _ member)
  have whole := Edit.toList_unlines_lines before (Text.unlines mid) after
  rw [Text.lines_unlines inhabited unbroken, ← split, Text.unlines_lines] at whole
  exact whole

theorem lines_unlines_mid (split : Text.lines source = before ++ mid ++ after)
    (inhabited : mid ≠ []) : Text.lines (Text.unlines mid) = mid := by
  apply Text.lines_unlines inhabited
  intro l member
  refine (Edit.canonical_lines source).unbroken l ?_
  rw [split]
  exact List.mem_append_left _ (List.mem_append_right _ member)

end

theorem slice?_middle {s : String} {before mid after : List Char}
    (split : s.toList = before ++ mid ++ after) :
    slice? s (byteCount before) (byteCount before + byteCount mid) = some (String.ofList mid) := by
  have cut := Text.slice?_take s (Nat.le_add_right before.length mid.length)
  rw [split, ← List.length_append, List.take_left, List.drop_left, List.append_assoc,
    List.take_left, Text.byteCount_append] at cut
  exact cut

theorem isValid_byteCount {s : String} {before after : List Char}
    (split : s.toList = before ++ after) : String.Pos.Raw.IsValid s ⟨byteCount before⟩ := by
  rw [String.Pos.Raw.isValid_iff_exists_append]
  refine ⟨String.ofList before, String.ofList after, ?_, ?_⟩
  · rw [← String.toList_inj, split]
    simp
  · rw [← String.toList_ofList (l := before), Text.byteCount_toList, String.ofList_toList]
    rfl

theorem byteCount_le {s : String} {before after : List Char} (split : s.toList = before ++ after) :
    byteCount before ≤ s.utf8ByteSize := by
  rw [← Text.byteCount_toList, split, Text.byteCount_append]
  exact Nat.le_add_right _ _

theorem startsLine_lineStart {source : String} {before : List String} {rest : List Char}
    (split : source.toList = ended before ++ rest) : StartsLine source (lineStart before) := by
  rcases List.eq_nil_or_concat' before with rfl | ⟨earlier, l, rfl⟩
  · exact .inl rfl
  · refine .inr ⟨String.ofList (ended earlier) ++ l, String.ofList rest, ?_, ?_⟩
    · rw [← String.toList_inj, split, Edit.ended_append]
      simp [ended]
    · have newline : "\n".utf8ByteSize = 1 := rfl
      rw [lineStart_append, lineStart_singleton, String.utf8ByteSize_append,
        String.utf8ByteSize_append, ← Text.byteCount_toList (String.ofList _),
        String.toList_ofList, newline, Nat.add_assoc]
      rfl

/-! ## Spans of lines -/

/-- The span of the lines `mid` that come after the lines `before`. -/
def Span.ofLines (before mid : List String) : Span :=
  ⟨lineStart before, lineStart before + (Text.unlines mid).utf8ByteSize⟩

theorem Span.ofLines_singleton (before : List String) (l : String) :
    Span.ofLines before [l] = (SourceLine.behind before l).span := by
  rw [ofLines, Text.unlines, String.intercalate_singleton]
  rfl

theorem Span.stop_ofLines {mid : List String} (inhabited : mid ≠ []) (before : List String) :
    (Span.ofLines before mid).stop + 1 = lineStart (before ++ mid) := by
  rw [lineStart_append, ← utf8ByteSize_unlines inhabited]
  rfl

/-- A span that goes from the start of a line to its end, to the end of a later one or to the start
of a later one. -/
def Span.Marks (ls : List String) (span : Span) : Prop :=
  ∃ before mid after, ls = before ++ mid ++ after ∧ mid ≠ []
    ∧ (span = .ofLines before mid
      ∨ after ≠ [] ∧ span = ⟨lineStart before, lineStart (before ++ mid)⟩)

theorem Span.Marks.pointsInto {source : String} {span : Span}
    (marks : span.Marks (Text.lines source)) : span.PointsInto source := by
  obtain ⟨before, mid, after, split, inhabited, rfl | ⟨more, rfl⟩⟩ := marks
  · have chars := toList_of_lines split inhabited
    have stop : lineStart before + (Text.unlines mid).utf8ByteSize
        = byteCount (ended before ++ (Text.unlines mid).toList) := by
      rw [Text.byteCount_append, Text.byteCount_toList]
      rfl
    have within := byteCount_le chars
    have valid := isValid_byteCount chars
    rw [← stop] at within valid
    rw [List.append_assoc] at chars
    exact ⟨Nat.le_add_right _ _, within, isValid_byteCount chars, valid,
      startsLine_lineStart chars⟩
  · have first : source.toList = ended before ++ ((Text.unlines (mid ++ after)).toList ++ []) := by
      have place : Text.lines source = before ++ (mid ++ after) ++ [] := by
        rw [split, List.append_nil, List.append_assoc]
      have chars := toList_of_lines place (by simp [inhabited])
      simpa [led] using chars
    have second : source.toList = ended (before ++ mid) ++ (Text.unlines after).toList := by
      have place : Text.lines source = before ++ mid ++ after ++ [] := by
        rw [split, List.append_nil]
      have chars := toList_of_lines place more
      simpa [led] using chars
    refine ⟨?_, byteCount_le second, isValid_byteCount first, isValid_byteCount second,
      startsLine_lineStart first⟩
    rw [lineStart_append]
    exact Nat.le_add_right _ _

theorem Span.Marks.append {ls : List String} {span : Span} (marks : span.Marks ls)
    (more : List String) : span.Marks (ls ++ more) := by
  obtain ⟨before, mid, after, rfl, inhabited, whole | ⟨later, upTo⟩⟩ := marks
  · exact ⟨before, mid, after ++ more, by simp, inhabited, .inl whole⟩
  · exact ⟨before, mid, after ++ more, by simp, inhabited, .inr ⟨by simp [later], upTo⟩⟩

theorem Span.marks_behind (done : List String) (l : String) :
    (SourceLine.behind done l).span.Marks (done ++ [l]) := by
  refine ⟨done, [l], [], by simp, List.cons_ne_nil _ _, .inl ?_⟩
  rw [ofLines_singleton]

/-! ## Commands and findings of a scan -/

/-- A command that is written in some of these lines, and whose span is theirs. -/
def Command.WrittenIn (ls : List String) (c : Command) : Prop :=
  ∃ before mid after, ls = before ++ mid ++ after ∧ c.span = .ofLines before mid ∧ Stands mid c

theorem Stands.ne_nil {ls : List String} {c : Command} (stands : Stands ls c) : ls ≠ [] := by
  cases stands <;> exact List.cons_ne_nil _ _

namespace Command.WrittenIn

variable {ls : List String} {c : Command}

theorem append (written : c.WrittenIn ls) (more : List String) : c.WrittenIn (ls ++ more) := by
  obtain ⟨before, mid, after, rfl, span, stands⟩ := written
  exact ⟨before, mid, after ++ more, by simp, span, stands⟩

theorem stop_lt (written : c.WrittenIn ls) : c.span.stop < lineStart ls := by
  obtain ⟨before, mid, after, rfl, span, stands⟩ := written
  have stop := Span.stop_ofLines stands.ne_nil before
  rw [span, lineStart_append]
  omega

theorem marks (written : c.WrittenIn ls) : c.span.Marks ls := by
  obtain ⟨before, mid, after, split, span, stands⟩ := written
  exact ⟨before, mid, after, split, stands.ne_nil, .inl span⟩

/-- The text at the span of a command is that of the lines in which it is written. -/
theorem text {source : String} (written : c.WrittenIn (Text.lines source)) :
    ∃ text, slice? source c.span.start c.span.stop = some text ∧ Stands (Text.lines text) c := by
  obtain ⟨before, mid, after, split, span, stands⟩ := written
  refine ⟨Text.unlines mid, ?_, ?_⟩
  · have cut := slice?_middle (toList_of_lines split stands.ne_nil)
    rw [Text.byteCount_toList, String.ofList_toList] at cut
    rw [span]
    exact cut
  · rw [lines_unlines_mid split stands.ne_nil]
    exact stands

end Command.WrittenIn

/-- The finding among what a line yields. -/
def Yield.finding? : Yield → Option Finding
  | .command _ => none
  | .warning f | .error f => some f

/-- An open block: the lines from its opener on do not close it, and some of them are its body. -/
def OpenBlock.OpenIn (ls : List String) (b : OpenBlock) : Prop :=
  ∃ before opener inner d, ls = before ++ opener :: inner ∧ b.start = lineStart before
    ∧ Directive.ofLine? (Text.dropCarriageReturn opener) = some d ∧ d.name = b.kind.opener
    ∧ b.arguments = d.tokens.map Directive.argument ∧ b.body = bodyOf inner
    ∧ ∀ l ∈ inner, ∀ f ∈ Directive.ofLine? (Text.dropCarriageReturn l),
      f.name ≠ b.kind.closer

namespace OpenBlock.OpenIn

variable {ls : List String} {b : OpenBlock}

private theorem append (opened : b.OpenIn ls) {l : String} {body : List String}
    (more : body = b.body ++ bodyOf [l])
    (stays : ∀ f ∈ Directive.ofLine? (Text.dropCarriageReturn l), f.name ≠ b.kind.closer) :
    { b with body }.OpenIn (ls ++ [l]) := by
  obtain ⟨before, opener, inner, d, rfl, start, read, name, arguments, held, between⟩ := opened
  refine ⟨before, opener, inner ++ [l], d, by simp, start, read, name, arguments, ?_, ?_⟩
  · rw [more, held]
    simp [bodyOf]
  · intro m member
    rcases List.mem_append.mp member with member | member
    · exact between m member
    · rw [List.mem_singleton.mp member]
      exact stays

theorem push (opened : b.OpenIn ls) {l : String}
    (plain : Directive.ofLine? (Text.dropCarriageReturn l) = none) :
    (b.push (Text.dropCarriageReturn l)).OpenIn (ls ++ [l]) := by
  refine opened.append ?_ ?_
  · simp [bodyOf, plain]
  · rw [plain]
    exact nofun

theorem pass (opened : b.OpenIn ls) {l : String} {d : Directive}
    (read : Directive.ofLine? (Text.dropCarriageReturn l) = some d)
    (other : d.name ≠ b.kind.closer) : b.OpenIn (ls ++ [l]) := by
  refine opened.append ?_ ?_
  · simp [bodyOf, read]
  · rw [read]
    rintro _ ⟨⟩
    exact other

theorem writtenIn_close (opened : b.OpenIn ls) {l : String} {e : Directive}
    (read : Directive.ofLine? (Text.dropCarriageReturn l) = some e)
    (name : e.name = b.kind.closer) :
    (b.close (SourceLine.behind ls l).span.stop).WrittenIn (ls ++ [l]) := by
  obtain ⟨before, opener, inner, d, rfl, start, opens, openerName, arguments, body, between⟩ :=
    opened
  have inhabited : opener :: (inner ++ [l]) ≠ [] := List.cons_ne_nil _ _
  refine ⟨before, opener :: (inner ++ [l]), [], by simp, ?_, ?_⟩
  · have stop := Span.stop_ofLines inhabited before
    have same : before ++ opener :: (inner ++ [l]) = before ++ opener :: inner ++ [l] := by simp
    rw [same, lineStart_append _ [l], lineStart_singleton] at stop
    unfold close SourceLine.behind
    simp only [Span.ofLines] at stop ⊢
    rw [Span.mk.injEq]
    exact ⟨start, by omega⟩
  · unfold close
    rw [arguments, body]
    exact .block opens openerName between read name

theorem marks_giveUp (opened : b.OpenIn ls) (l : String) :
    (b.giveUp .scriptEnd (SourceLine.behind ls l).span.start).span.Marks (ls ++ [l]) := by
  obtain ⟨before, opener, inner, d, rfl, start, -⟩ := opened
  refine ⟨before, opener :: inner, [l], by simp, List.cons_ne_nil _ _,
    .inr ⟨List.cons_ne_nil _ _, ?_⟩⟩
  unfold giveUp SourceLine.behind
  rw [start]

theorem marks_replyEnd {source : String} (opened : b.OpenIn (Text.lines source)) :
    (b.giveUp .replyEnd source.utf8ByteSize).span.Marks (Text.lines source) := by
  obtain ⟨before, opener, inner, d, split, start, -⟩ := opened
  have inhabited : opener :: inner ≠ [] := List.cons_ne_nil _ _
  have place : Text.lines source = before ++ opener :: inner ++ [] := by
    rw [split, List.append_nil]
  refine ⟨before, opener :: inner, [], place, inhabited, .inl ?_⟩
  have chars := toList_of_lines place inhabited
  have size : source.utf8ByteSize
      = lineStart before + (Text.unlines (opener :: inner)).utf8ByteSize := by
    rw [← Text.byteCount_toList source, chars, Text.byteCount_append, Text.byteCount_append,
      Text.byteCount_toList]
    rfl
  unfold giveUp Span.ofLines
  rw [start, size]

end OpenBlock.OpenIn

/-- Behind some lines, what they yielded is written in them, command after command, and a block that
is open is behind all of these commands. -/
structure Located (ls : List String) (s : Scan) (ys : List Yield) : Prop where
  written : ∀ c ∈ ys.filterMap Yield.command?, c.WrittenIn ls
  ordered : (ys.filterMap Yield.command?).Pairwise fun c d => c.span.stop < d.span.start
  marked : ∀ f ∈ ys.filterMap Yield.finding?, f.span.Marks ls
  opened : ∀ b, s.block = some b → b.OpenIn ls
    ∧ ∀ c ∈ ys.filterMap Yield.command?, c.span.stop < b.start

namespace Located

variable {ls : List String} {s t : Scan} {ys : List Yield} {l : String}

theorem silent (located : Located ls s ys)
    (opened : ∀ b, t.block = some b → b.OpenIn (ls ++ [l])
      ∧ ∀ c ∈ ys.filterMap Yield.command?, c.span.stop < b.start) :
    Located (ls ++ [l]) t (ys ++ []) := by
  rw [List.append_nil]
  exact ⟨fun c member => (located.written c member).append [l], located.ordered,
    fun f member => (located.marked f member).append [l], opened⟩

theorem finding (located : Located ls s ys) {y : Yield} {f : Finding}
    (noCommand : y.command? = none) (about : y.finding? = some f)
    (marks : f.span.Marks (ls ++ [l]))
    (opened : ∀ b, t.block = some b → b.OpenIn (ls ++ [l])
      ∧ ∀ c ∈ ys.filterMap Yield.command?, c.span.stop < b.start) :
    Located (ls ++ [l]) t (ys ++ [y]) := by
  have commands : (ys ++ [y]).filterMap Yield.command? = ys.filterMap Yield.command? := by
    simp [noCommand]
  have findings : (ys ++ [y]).filterMap Yield.finding? = ys.filterMap Yield.finding? ++ [f] := by
    simp [about]
  constructor
  · rw [commands]
    exact fun c member => (located.written c member).append [l]
  · rw [commands]
    exact located.ordered
  · rw [findings]
    intro g member
    rcases List.mem_append.mp member with member | member
    · exact (located.marked g member).append [l]
    · rw [List.mem_singleton.mp member]
      exact marks
  · rw [commands]
    exact opened

theorem command (located : Located ls s ys) {c : Command} (noBlock : t.block = none)
    (written : c.WrittenIn (ls ++ [l]))
    (later : ∀ d ∈ ys.filterMap Yield.command?, d.span.stop < c.span.start) :
    Located (ls ++ [l]) t (ys ++ [.command c]) := by
  have commands : (ys ++ [Yield.command c]).filterMap Yield.command?
      = ys.filterMap Yield.command? ++ [c] := by
    simp [Yield.command?]
  have findings : (ys ++ [Yield.command c]).filterMap Yield.finding?
      = ys.filterMap Yield.finding? := by
    simp [Yield.finding?]
  constructor
  · rw [commands]
    intro d member
    rcases List.mem_append.mp member with member | member
    · exact (located.written d member).append [l]
    · rw [List.mem_singleton.mp member]
      exact written
  · rw [commands, List.pairwise_append]
    refine ⟨located.ordered, List.pairwise_singleton _ _, ?_⟩
    intro d member e last
    rw [List.mem_singleton.mp last]
    exact later d member
  · rw [findings]
    exact fun f member => (located.marked f member).append [l]
  · intro b opened
    rw [noBlock] at opened
    cases opened

end Located

theorem located_start : Located [] .start [] :=
  ⟨nofun, .nil, nofun, nofun⟩

theorem Located.move {ls : List String} {s t : Scan} {ys zs : List Yield} {l : String}
    (located : Located ls s ys) (move : Scan.Move (.behind ls l) s t zs) :
    Located (ls ++ [l]) t (ys ++ zs) := by
  have behind : ∀ c ∈ ys.filterMap Yield.command?, c.span.stop < lineStart ls :=
    fun c member => (located.written c member).stop_lt
  cases move with
  | prose plain => exact located.silent nofun
  | @body b plain =>
      obtain ⟨opened, earlier⟩ := located.opened b rfl
      refine located.silent ?_
      rintro _ ⟨⟩
      exact ⟨opened.push plain, earlier⟩
  | starts read name =>
      refine located.silent ?_
      intro b held
      obtain ⟨opened, earlier⟩ := located.opened b held
      refine ⟨opened.pass read ?_, earlier⟩
      rw [name]
      exact b.kind.closer_ne_frame.1.symm
  | ends read name => exact located.silent nofun
  | @givesUp b d read name =>
      exact located.finding rfl rfl ((located.opened b rfl).1.marks_giveUp l) nofun
  | ignores read frame => exact located.silent nofun
  | @closes b d read frame name =>
      obtain ⟨opened, earlier⟩ := located.opened b rfl
      exact located.command rfl (opened.writtenIn_close read name) earlier
  | @nests b d inner read frame other opener =>
      obtain ⟨opened, earlier⟩ := located.opened b rfl
      refine located.finding rfl rfl (Span.marks_behind ls l) ?_
      rintro _ ⟨⟩
      exact ⟨opened.pass read other, earlier⟩
  | @drops b d read frame other noOpener =>
      obtain ⟨opened, earlier⟩ := located.opened b rfl
      refine located.finding rfl rfl (Span.marks_behind ls l) ?_
      rintro _ ⟨⟩
      exact ⟨opened.pass read other, earlier⟩
  | @opens d kind read frame opener =>
      refine located.silent ?_
      rintro _ ⟨⟩
      exact ⟨⟨ls, l, [], d, rfl, rfl, read, opener, rfl, rfl, nofun⟩, behind⟩
  | strays read frame closer => exact located.finding rfl rfl (Span.marks_behind ls l) nofun
  | commands read frame noOpener noCloser decoded =>
      refine located.command rfl ⟨ls, [l], [], by simp, ?_, .line read decoded⟩ behind
      rw [Span.ofLines_singleton]
  | refuses read frame noOpener noCloser refused =>
      exact located.finding rfl rfl (Span.marks_behind ls l) nofun

theorem located_run (ls : List String) :
    Located ls (Scan.start.run (placeLines 0 ls)).1 (Scan.start.run (placeLines 0 ls)).2 :=
  Scan.run_induction located_start (fun _ _ _ _ _ _ _ located move => located.move move) ls

/-- What a reply yields is written in its lines, and so is what is given up at its end. -/
theorem yields_located (source : String) :
    (∀ c ∈ (yields source).filterMap Yield.command?, c.WrittenIn (Text.lines source))
    ∧ ((yields source).filterMap Yield.command?).Pairwise (fun c d => c.span.stop < d.span.start)
    ∧ ∀ f ∈ (yields source).filterMap Yield.finding?, f.span.Marks (Text.lines source) := by
  have located := located_run (Text.lines source)
  unfold yields sourceLines
  generalize Scan.start.run (placeLines 0 (Text.lines source)) = ran at located ⊢
  obtain ⟨s, ys⟩ := ran
  simp only at located ⊢
  unfold Scan.giveUp
  split
  · rename_i b held
    have marks := (located.opened b held).1.marks_replyEnd
    simp only [List.filterMap_append, List.filterMap_cons, List.filterMap_nil, Yield.command?,
      Yield.finding?, List.append_nil]
    refine ⟨located.written, located.ordered, ?_⟩
    intro f member
    rcases List.mem_append.mp member with member | member
    · exact located.marked f member
    · rw [List.mem_singleton.mp member]
      exact marks
  · rw [List.append_nil]
    exact ⟨located.written, located.ordered, located.marked⟩

/-- Whatever is read from a reply points into it: no span is out of place or cuts a character, the
commands follow one another, each at the very lines in which it is written. -/
theorem read_points (source : String) : Reading.PointsInto source (read source) := by
  obtain ⟨written, ordered, marked⟩ := yields_located source
  have findings : ∀ part : Yield → Option Finding, (∀ y f, part y = some f → y.finding? = some f) →
      ∀ f ∈ (yields source).filterMap part, f.span.PointsInto source := by
    intro part about f member
    obtain ⟨y, inside, found⟩ := List.mem_filterMap.mp member
    exact (marked f (List.mem_filterMap.mpr ⟨y, inside, about y f found⟩)).pointsInto
  rw [Reading.read_eq_ofYields]
  unfold Reading.ofYields
  split
  · refine ⟨?_, ordered, findings Yield.warning? ?_⟩
    · intro c member
      exact ⟨(written c member).marks.pointsInto, (written c member).text⟩
    · rintro (_ | _ | _) f ⟨⟩
      rfl
  · refine findings Yield.error? ?_
    rintro (_ | _ | _) f ⟨⟩
    rfl

example : read "é\n@startCommand\r\n@undo\r\n" = .ok ⟨[⟨"undo", [], ⟨18, 24⟩⟩], []⟩
    ∧ slice? "é\n@startCommand\r\n@undo\r\n" 18 24 = some "@undo\r" :=
  ⟨rfl, rfl⟩

end ReplyScript.Script
