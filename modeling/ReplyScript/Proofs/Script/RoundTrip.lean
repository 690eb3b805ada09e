import ReplyScript.Proofs.Script.DirectiveLines
import ReplyScript.Proofs.Script.LineEnds

/-! # Reading written scripts

Main statement: `read_written`, reading a written reply yields exactly the commands of its items, in
order and without warnings. The scan is followed item by item: outside a block every item brings it
back to the state before, and inside a block the state holds the body read so far.
-/

namespace ReplyScript.Script

namespace Scan

/-- Inside a script, outside blocks. -/
def inScript : Scan := ⟨true, none⟩

end Scan

/-- Lines that take a scan from one state to another, and yield commands of these contents and
nothing else, wherever they stand. -/
def Reads (s : Scan) (ls : List String) (t : Scan) (cs : List (String × List Argument)) : Prop :=
  ∀ ss, List.Forall₂ Shows ls ss →
    ∃ commands : List Command,
      s.run ss = (t, commands.map .command) ∧ commands.map Command.content = cs

namespace Reads

theorem nil (s : Scan) : Reads s [] s [] := by
  intro ss shown
  cases shown
  exact ⟨[], rfl, rfl⟩

theorem append {s t u : Scan} {ls ms cs ds} (first : Reads s ls t cs) (second : Reads t ms u ds) :
    Reads s (ls ++ ms) u (cs ++ ds) := by
  intro ss shown
  obtain ⟨xs, ys, rfl, left, right⟩ := Shows.split shown
  obtain ⟨before, run, rfl⟩ := first xs left
  obtain ⟨after, run', rfl⟩ := second ys right
  refine ⟨before ++ after, ?_, List.map_append⟩
  rw [Scan.run_append, run, run', List.map_append]

theorem of_step {s t : Scan} {l : String} {cs : List (String × List Argument)}
    (h : ∀ x, Shows l x →
      ∃ commands : List Command,
        s.step x = (t, commands.map .command) ∧ commands.map Command.content = cs) :
    Reads s [l] t cs := by
  intro ss shown
  cases shown with
  | cons head tail =>
      cases tail
      obtain ⟨commands, step, contents⟩ := h _ head
      refine ⟨commands, ?_, contents⟩
      simp only [Scan.run, step, List.append_nil]

theorem skip {s : Scan} {l : String} (h : ∀ x, Shows l x → s.step x = (s, [])) : Reads s [l] s [] :=
  of_step fun x shown => ⟨[], h x shown, rfl⟩

theorem outer (l : OuterLine) : Reads .start [l.text] .start [] := by
  apply skip
  intro x shown
  rw [Scan.step, shown.directive]
  cases read : Directive.ofLine? l.text with
  | none => rfl
  | some d =>
      simp only [Scan.stepDirective, l.noStart d read, if_false]
      split <;> rfl

theorem outers (ls : List OuterLine) : Reads .start (ls.map (·.text)) .start [] := by
  induction ls with
  | nil => exact nil _
  | cons l ls ih => exact (outer l).append ih

theorem startLine : Reads .start [directiveLine "startCommand" []] .inScript [] := by
  apply of_step
  intro x shown
  refine ⟨[], ?_, rfl⟩
  rw [Scan.step, shown.directive, ofLine?_frame (bare_of_all (by decide)) (by decide)]
  rfl

theorem endLine : Reads .inScript [directiveLine "endCommand" []] .start [] := by
  apply of_step
  intro x shown
  refine ⟨[], ?_, rfl⟩
  rw [Scan.step, shown.directive, ofLine?_frame (bare_of_all (by decide)) (by decide)]
  rfl

theorem prose (l : Prose) : Reads .inScript [l.text] .inScript [] := by
  apply skip
  intro x shown
  rw [Scan.step, shown.directive, l.noDirective]
  rfl

theorem directive {name : CommandName} {tokens : List String} {arguments : List Argument}
    {l : String} (read : Directive.ofLine? l = some ⟨name.text, tokens⟩)
    (decoded : Directive.arguments ⟨name.text, tokens⟩ = .ok arguments) :
    Reads .inScript [l] .inScript [(name.text, arguments)] := by
  apply of_step
  intro x shown
  refine ⟨[⟨name.text, arguments, x.span⟩], ?_, rfl⟩
  rw [Scan.step, shown.directive, read]
  simp only [Scan.stepDirective, name.ne_frame.1, name.ne_frame.2, if_false, Scan.inScript, if_true,
    Scan.stepInScript, name.ofOpener?, name.ofCloser?, decoded]
  rfl

theorem command (name : CommandName) (arguments : List Literal) :
    Reads .inScript [directiveLine name.text arguments] .inScript
      [(name.text, arguments.map Literal.value)] :=
  directive (ofLine?_frame name.plain name.nonempty arguments)
    (arguments_map Literal.decode?_written arguments name.text)

end Reads

/-! Blocks -/

theorem step_opener {kind : BlockKind} {arguments : List Literal} {x : SourceLine}
    (shown : Shows (directiveLine kind.opener arguments) x) : Scan.step .inScript x =
      (⟨true, some ⟨kind, arguments.map Literal.value, [], x.span.start⟩⟩, []) := by
  rw [Scan.step, shown.directive, kind.ofLine?_opener]
  simp only [Scan.stepDirective, kind.opener_ne_frame.1, kind.opener_ne_frame.2, if_false,
    Scan.inScript, if_true, Scan.stepInScript, kind.ofOpener?_opener,
    arguments_map Literal.decode?_written]

theorem run_body (b : OpenBlock) (body : List BodyLine) {ss : List SourceLine}
    (shown : List.Forall₂ Shows (body.map (·.text)) ss) :
    Scan.run ⟨true, some b⟩ ss =
      (⟨true, some { b with body := b.body ++ body.map (·.text) }⟩, []) := by
  induction body generalizing b ss with
  | nil =>
      cases shown
      simp only [Scan.run, List.map_nil, List.append_nil]
  | cons l ls ih =>
      cases shown with
      | cons head tail =>
          simp only [Scan.run, Scan.step, l.noDirective, Option.map_some, head.text l.noReturn,
            OpenBlock.push, ih _ tail, List.map_cons, List.append_assoc, List.cons_append,
            List.nil_append]

theorem step_closer {b : OpenBlock} {x : SourceLine}
    (shown : Shows (directiveLine b.kind.closer []) x) :
    Scan.step ⟨true, some b⟩ x = (.inScript, [.command (b.close x.span.stop)]) := by
  rw [Scan.step, shown.directive, b.kind.ofLine?_closer]
  simp only [Scan.stepDirective, b.kind.closer_ne_frame.1, b.kind.closer_ne_frame.2, if_false,
    Scan.stepInBlock, if_true, Scan.inScript]

namespace Reads

theorem block (kind : BlockKind) (arguments : List Literal) (body : List BodyLine) :
    Reads .inScript (Item.lines (.block kind arguments body)) .inScript
      (Item.content? (.block kind arguments body)).toList := by
  intro ss shown
  cases shown with
  | @cons _ x _ xs opener rest =>
      obtain ⟨ys, zs, rfl, inside, last⟩ := Shows.split rest
      cases last with
      | @cons _ z _ _ closer none =>
          cases none
          let b : OpenBlock :=
            ⟨kind, arguments.map Literal.value, body.map (·.text), x.span.start⟩
          refine ⟨[b.close z.span.stop], ?_, rfl⟩
          have closed : Scan.step ⟨true, some b⟩ z = _ := step_closer (b := b) closer
          simp only [Scan.run, step_opener opener, Scan.run_append, run_body _ body inside,
            List.nil_append, List.append_nil]
          exact closed

theorem item (i : Item) : Reads .inScript i.lines .inScript i.content?.toList := by
  cases i with
  | prose line => exact prose line
  | command name arguments => exact command name arguments
  | block kind arguments body => exact block kind arguments body

theorem items (is : List Item) :
    Reads .inScript (is.flatMap Item.lines) .inScript (is.filterMap Item.content?) := by
  induction is with
  | nil => exact nil _
  | cons i is ih =>
      have joined : (i :: is).filterMap Item.content? =
          i.content?.toList ++ is.filterMap Item.content? := by
        cases content : i.content? <;> simp [content]
      rw [List.flatMap_cons, joined]
      exact (item i).append ih

theorem reply (r : WrittenReply) :
    Reads .start r.lines .start (r.items.filterMap Item.content?) := by
  have all := (outers r.before).append
    (startLine.append ((items r.items).append (endLine.append (outers r.after))))
  simp only [List.append_nil, List.nil_append] at all
  exact all

end Reads

theorem oneLine_item (i : Item) : ∀ l ∈ i.lines, '\n' ∉ l.toList := by
  intro l member
  cases i with
  | prose line =>
      rw [List.mem_singleton.mp member]
      exact line.oneLine
  | command name arguments =>
      rw [List.mem_singleton.mp member]
      exact oneLine_directiveLine (fun h => Bool.true_eq_false.mp (name.plain _ h).1) arguments
  | block kind arguments body =>
      simp only [Item.lines, List.mem_cons, List.mem_append, List.mem_map, List.not_mem_nil,
        or_false] at member
      rcases member with rfl | ⟨line, _, rfl⟩ | rfl
      · exact oneLine_directiveLine (by cases kind <;> decide) arguments
      · exact line.oneLine
      · exact oneLine_directiveLine (by cases kind <;> decide) []

theorem oneLine_lines (r : WrittenReply) : ∀ l ∈ r.lines, '\n' ∉ l.toList := by
  intro l member
  simp only [WrittenReply.lines, List.mem_append, List.mem_cons, List.mem_map,
    List.mem_flatMap] at member
  rcases member with ⟨outer, _, rfl⟩ | rfl | ⟨item, _, inside⟩ | rfl | ⟨outer, _, rfl⟩
  · exact outer.oneLine
  · exact oneLine_directiveLine (by decide) []
  · exact oneLine_item item l inside
  · exact oneLine_directiveLine (by decide) []
  · exact outer.oneLine

/-- Reading a written reply succeeds without warnings and yields the commands of its items, in
order, whatever the line ends and the lines around the script are. -/
theorem read_written (r : WrittenReply) (e : LineEnd) :
    ∃ script, read (r.text e) = .ok script ∧ script.warnings = [] ∧
      script.commands.map Command.content = r.items.filterMap Item.content? := by
  have nonempty : r.lines ≠ [] := by simp [WrittenReply.lines]
  obtain ⟨commands, run, contents⟩ :=
    Reads.reply r _ (shows_text e nonempty (oneLine_lines r))
  have same : yields (r.text e) = commands.map .command := by
    simp only [yields, WrittenReply.text, run]
    exact List.append_nil _
  refine ⟨⟨commands, []⟩, ?_, rfl, contents⟩
  rw [read, same]
  simp [List.filterMap_map, Function.comp_def, Yield.error?, Yield.command?, Yield.warning?]

example : WrittenReply.text ⟨[], [.block .input
    [.text "a b" (by simp [Json.Plain]), .integer (-1) rfl]
    [⟨⟨"x", by decide, by decide⟩, by decide⟩]], [⟨"", by decide, nofun⟩]⟩ .returnNewline =
      "@startCommand\r\n@startInput \"a b\" -1\r\nx\r\n@endInput\r\n@endCommand\r\n" := by
  decide

end ReplyScript.Script
