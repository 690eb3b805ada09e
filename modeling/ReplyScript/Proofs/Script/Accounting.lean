import Mathlib.Data.List.Forall2
import ReplyScript.Proofs.Script.Spans

/-! # Every directive of a script is accounted for

A directive line that is read inside a script becomes a command, opens or closes the block of one, or
is what one warning is about. Main statement: `read_accounts`. The opener of a block waits for its
account until the block is closed or given up.
-/

namespace ReplyScript.Script

/-! ## Accounts -/

/-- A directive and where its line is. -/
structure PlacedDirective where
  directive : Directive
  span : Span
  deriving Repr, DecidableEq, BEq, Inhabited

/-- The directives that are read inside scripts, but for those that start and end a script. -/
def scriptDirectives : (active : Bool) → List SourceLine → List PlacedDirective
  | _, [] => []
  | active, line :: lines =>
      match Directive.ofLine? line.text with
      | none => scriptDirectives active lines
      | some d =>
          if active && !d.isFrame then ⟨d, line.span⟩ :: scriptDirectives (d.opens active) lines
          else scriptDirectives (d.opens active) lines

/-- What becomes of a directive of a script. -/
inductive Fate where
  /-- It is a command of its own. -/
  | command (c : Command)
  /-- It opens the block of a command. -/
  | opener (c : Command)
  /-- It closes the block of a command. -/
  | closer (c : Command)
  | warning (f : Finding)
  deriving Repr, DecidableEq, BEq, Inhabited

namespace Fate

def completed? : Fate → Option Command
  | command c | closer c => some c
  | _ => none

def opened? : Fate → Option Command
  | opener c => some c
  | _ => none

def closed? : Fate → Option Command
  | closer c => some c
  | _ => none

def warning? : Fate → Option Finding
  | warning f => some f
  | _ => none

end Fate

/-- The directive that a warning is about. -/
inductive Finding.IsAbout (p : PlacedDirective) : Finding → Prop where
  | unclosed {kind : BlockKind} {at_ : BlockEnd} {stop : Nat}
      (name : p.directive.name = kind.opener) :
      IsAbout p ⟨.unclosed kind at_, ⟨p.span.start, stop⟩⟩
  | nestedOpener {inner outer : BlockKind} (name : p.directive.name = inner.opener) :
      IsAbout p ⟨.nestedOpener inner outer, p.span⟩
  | directiveInBlock {kind : BlockKind} :
      IsAbout p ⟨.directiveInBlock p.directive.name kind, p.span⟩
  | strayCloser {kind : BlockKind} (name : p.directive.name = kind.closer) :
      IsAbout p ⟨.strayCloser p.directive.name, p.span⟩

/-- What makes a fate that of a directive. -/
inductive Fate.Meets (p : PlacedDirective) : Fate → Prop where
  | command {c : Command} (name : c.name = p.directive.name)
      (decoded : p.directive.arguments = .ok c.arguments) (span : c.span = p.span) :
      Meets p (.command c)
  | opener {c : Command} {kind : BlockKind} {body : String}
      (name : p.directive.name = kind.opener) (command : c.name = kind.command)
      (arguments : c.arguments = p.directive.tokens.map Directive.argument ++ [.text body])
      (start : c.span.start = p.span.start) (later : p.span.stop < c.span.stop) :
      Meets p (.opener c)
  | closer {c : Command} {kind : BlockKind} (name : p.directive.name = kind.closer)
      (command : c.name = kind.command) (stop : c.span.stop = p.span.stop)
      (earlier : c.span.start < p.span.start) : Meets p (.closer c)
  | warning {f : Finding} (about : f.IsAbout p) : Meets p (.warning f)

/-- Directives with a fate each, such that every command is complete with exactly one of them, every
block is opened and closed by exactly one, and every warning is about exactly one. -/
structure Settled (ps : List PlacedDirective) (fates : List Fate) (commands : List Command)
    (warnings : List Finding) : Prop where
  meets : List.Forall₂ Fate.Meets ps fates
  commands : fates.filterMap Fate.completed? = commands
  blocks : fates.filterMap Fate.opened? = fates.filterMap Fate.closed?
  warnings : (fates.filterMap Fate.warning?).Perm warnings

/-- A command that takes up one line of a reply. -/
def Command.OnOneLine (source : String) (c : Command) : Prop :=
  ∃ line ∈ sourceLines source, line.span = c.span

instance (source : String) (c : Command) : Decidable (c.OnOneLine source) :=
  inferInstanceAs (Decidable (∃ line ∈ sourceLines source, line.span = c.span))

/-- A block that is opened on a line, and not closed before the end of the script or of the reply. -/
def LeftUnclosed (source : String) (kind : BlockKind) (opener : SourceLine) : Prop :=
  ∃ before inner after, sourceLines source = before ++ opener :: (inner ++ after)
    ∧ (Scan.start.run before).1 = .inScript
    ∧ (∃ d, Directive.ofLine? opener.text = some d ∧ d.name = kind.opener)
    ∧ (∀ line ∈ inner, ∀ d ∈ Directive.ofLine? line.text,
        d.name ≠ kind.closer ∧ d.name ≠ "endCommand")
    ∧ ∀ line ∈ after.head?, ∃ d, Directive.ofLine? line.text = some d ∧ d.name = "endCommand"

/-! ## Directives of a script, line by line -/

theorem scriptDirectives_append (s : Scan) (xs ys : List SourceLine) :
    scriptDirectives s.active (xs ++ ys)
      = scriptDirectives s.active xs ++ scriptDirectives (s.run xs).1.active ys := by
  induction xs generalizing s with
  | nil => rfl
  | cons line rest ih =>
      simp only [List.cons_append, scriptDirectives, Scan.run, Scan.step]
      cases Directive.ofLine? line.text with
      | none => exact ih { s with block := s.block.map (·.push line.text) }
      | some d =>
          have later := ih (s.stepDirective d line.span).1
          rw [Scan.stepDirective_active] at later
          simp only
          split
          · rw [later, List.cons_append]
          · exact later

/-- The directives of a script up to a line, and what is to be added for it. -/
theorem scriptDirectives_concat {done : List String} {s : Scan} {ys : List Yield}
    (ran : Scan.start.run (placeLines 0 done) = (s, ys)) (l : String) :
    scriptDirectives false (placeLines 0 (done ++ [l]))
      = scriptDirectives false (placeLines 0 done)
        ++ scriptDirectives s.active [.behind done l] := by
  have split := scriptDirectives_append .start (placeLines 0 done) [.behind done l]
  rw [ran] at split
  rw [placeLines_concat]
  exact split

section

variable {line : SourceLine} {d : Directive}

theorem scriptDirectives_prose (plain : Directive.ofLine? line.text = none) (active : Bool) :
    scriptDirectives active [line] = [] := by
  simp [scriptDirectives, plain]

theorem scriptDirectives_outside : scriptDirectives false [line] = [] := by
  cases read : Directive.ofLine? line.text <;> simp [scriptDirectives, read]

theorem scriptDirectives_frame (read : Directive.ofLine? line.text = some d)
    (name : d.name = "startCommand" ∨ d.name = "endCommand") (active : Bool) :
    scriptDirectives active [line] = [] := by
  have frame : d.isFrame = true := by simpa [Directive.isFrame] using name
  simp [scriptDirectives, read, frame]

theorem scriptDirectives_inside (read : Directive.ofLine? line.text = some d)
    (frame : d.isFrame = false) : scriptDirectives true [line] = [⟨d, line.span⟩] := by
  simp [scriptDirectives, read, frame]

end

namespace Settled

variable {ps : List PlacedDirective} {fates : List Fate} {commands : List Command}
  {warnings : List Finding} {p : PlacedDirective}

theorem command (settled : Settled ps fates commands warnings) {c : Command}
    (meets : Fate.Meets p (.command c)) :
    Settled (ps ++ [p]) (fates ++ [.command c]) (commands ++ [c]) warnings where
  meets := List.rel_append settled.meets (.cons meets .nil)
  commands := by simp [settled.commands, Fate.completed?]
  blocks := by simp [settled.blocks, List.filterMap_cons, Fate.opened?, Fate.closed?]
  warnings := by simpa [List.filterMap_cons, Fate.warning?] using settled.warnings

theorem warning (settled : Settled ps fates commands warnings) {f : Finding}
    (about : f.IsAbout p) :
    Settled (ps ++ [p]) (fates ++ [.warning f]) commands (warnings ++ [f]) where
  meets := List.rel_append settled.meets (.cons (.warning about) .nil)
  commands := by simp [settled.commands, Fate.completed?]
  blocks := by simp [settled.blocks, List.filterMap_cons, Fate.opened?, Fate.closed?]
  warnings := by
    simpa [List.filterMap_cons, Fate.warning?] using settled.warnings.append_right [f]

end Settled

/-- The directives of a script while a block is open: those before its opener with their fates, the
opener, and those behind it, which are dropped. -/
structure Unsettled where
  before : List PlacedDirective
  fates : List Fate
  told : List Finding
  opener : PlacedDirective
  inner : List PlacedDirective
  dropped : List Finding

/-- The account while a block is open. All directives are settled but for the opener. -/
structure Pending (ls : List String) (b : OpenBlock) (ps : List PlacedDirective)
    (commands : List Command) (warnings : List Finding) (u : Unsettled) : Prop where
  split : ps = u.before ++ u.opener :: u.inner
  settled : Settled u.before u.fates commands u.told
  about : List.Forall₂ (fun p f => Finding.IsAbout p f) u.inner u.dropped
  -- The warnings on what is dropped come before the one on the opener, if it gets any.
  warnings : (u.told ++ u.dropped).Perm warnings
  name : u.opener.directive.name = b.kind.opener
  arguments : b.arguments = u.opener.directive.tokens.map Directive.argument
  start : b.start = u.opener.span.start
  ordered : u.opener.span.start ≤ u.opener.span.stop
  earlier : u.opener.span.stop < lineStart ls

namespace Pending

variable {ls : List String} {b : OpenBlock} {ps : List PlacedDirective} {commands : List Command}
  {warnings : List Finding} {u : Unsettled} (pending : Pending ls b ps commands warnings u)

include pending

theorem later (l : String) (body : List String) :
    Pending (ls ++ [l]) { b with body } ps commands warnings u := by
  obtain ⟨split, settled, about, warnings, name, arguments, start, ordered, earlier⟩ := pending
  refine ⟨split, settled, about, warnings, name, arguments, start, ordered, ?_⟩
  rw [lineStart_append]
  exact Nat.lt_add_right _ earlier

theorem drop {p : PlacedDirective} {f : Finding} (about : f.IsAbout p) :
    Pending ls b (ps ++ [p]) commands (warnings ++ [f])
      { u with inner := u.inner ++ [p], dropped := u.dropped ++ [f] } where
  split := by simp [pending.split]
  settled := pending.settled
  about := List.rel_append pending.about (.cons about .nil)
  warnings := by
    rw [← List.append_assoc]
    exact pending.warnings.append_right [f]
  name := pending.name
  arguments := pending.arguments
  start := pending.start
  ordered := pending.ordered
  earlier := pending.earlier

theorem meets_dropped : List.Forall₂ Fate.Meets u.inner (u.dropped.map .warning) := by
  rw [List.forall₂_map_right_iff]
  exact pending.about.imp fun _ _ about => .warning about

theorem close {l : String} {d : Directive} (name : d.name = b.kind.closer) :
    Settled (ps ++ [⟨d, (SourceLine.behind ls l).span⟩])
      (u.fates ++ .opener (b.close (SourceLine.behind ls l).span.stop)
        :: (u.dropped.map .warning ++ [.closer (b.close (SourceLine.behind ls l).span.stop)]))
      (commands ++ [b.close (SourceLine.behind ls l).span.stop]) warnings where
  meets := by
    have first : Fate.Meets u.opener (.opener (b.close (SourceLine.behind ls l).span.stop)) := by
      refine .opener pending.name rfl (congrArg (· ++ _) pending.arguments) pending.start ?_
      exact Nat.lt_add_right _ pending.earlier
    have last : Fate.Meets ⟨d, (SourceLine.behind ls l).span⟩
        (.closer (b.close (SourceLine.behind ls l).span.stop)) := by
      refine .closer name rfl rfl ?_
      show b.start < lineStart ls
      rw [pending.start]
      exact Nat.lt_of_le_of_lt pending.ordered pending.earlier
    rw [pending.split, List.append_assoc, List.cons_append]
    exact List.rel_append pending.settled.meets
      (.cons first (List.rel_append pending.meets_dropped (.cons last .nil)))
  commands := by
    simp [pending.settled.commands, List.filterMap_cons, Function.comp_def, Fate.completed?]
  blocks := by
    simp [pending.settled.blocks, List.filterMap_cons, Function.comp_def, Fate.opened?,
      Fate.closed?]
  warnings := by
    have told := pending.settled.warnings.append_right u.dropped
    simpa [List.filterMap_cons, Function.comp_def, Fate.warning?]
      using told.trans pending.warnings

theorem giveUp (at_ : BlockEnd) (stop : Nat) :
    Settled ps (u.fates ++ .warning (b.giveUp at_ stop) :: u.dropped.map .warning) commands
      (warnings ++ [b.giveUp at_ stop]) where
  meets := by
    have first : Fate.Meets u.opener (.warning (b.giveUp at_ stop)) := by
      unfold OpenBlock.giveUp
      rw [pending.start]
      exact .warning (.unclosed pending.name)
    rw [pending.split]
    exact List.rel_append pending.settled.meets (.cons first pending.meets_dropped)
  commands := by
    simp [pending.settled.commands, List.filterMap_cons, Function.comp_def, Fate.completed?]
  blocks := by
    simp [pending.settled.blocks, List.filterMap_cons, Function.comp_def, Fate.opened?,
      Fate.closed?]
  warnings := by
    have told := pending.settled.warnings.append_right (b.giveUp at_ stop :: u.dropped)
    have moved := (List.perm_middle (a := b.giveUp at_ stop)).trans (pending.warnings.cons _)
    simpa [List.filterMap_cons, Function.comp_def, Fate.warning?]
      using (told.trans moved).trans (List.perm_append_singleton _ _).symm

end Pending

/-- The account behind some lines: all directives are settled, or all but an opener are. -/
inductive Tallied (ls : List String) (ps : List PlacedDirective) (commands : List Command)
    (warnings : List Finding) : Scan → Prop where
  | settled {active : Bool} {fates : List Fate} (all : Settled ps fates commands warnings) :
      Tallied ls ps commands warnings ⟨active, none⟩
  | pending {b : OpenBlock} {u : Unsettled} (rest : Pending ls b ps commands warnings u) :
      Tallied ls ps commands warnings (.inBlock b)

theorem Tallied.move {ls : List String} {ps : List PlacedDirective} {commands : List Command}
    {warnings : List Finding} {s t : Scan} {zs : List Yield} {l : String}
    (tallied : Tallied ls ps commands warnings s) (move : Scan.Move (.behind ls l) s t zs)
    (clean : zs.filterMap Yield.error? = []) :
    Tallied (ls ++ [l]) (ps ++ scriptDirectives s.active [.behind ls l])
      (commands ++ zs.filterMap Yield.command?) (warnings ++ zs.filterMap Yield.warning?) t := by
  have inside {d : Directive} (read : Directive.ofLine? (SourceLine.behind ls l).text = some d)
      (frame : d.isFrame = false) : scriptDirectives true [.behind ls l]
        = [⟨d, (SourceLine.behind ls l).span⟩] := scriptDirectives_inside read frame
  cases move with
  | prose plain =>
      obtain ⟨all⟩ := tallied
      simp only [scriptDirectives_prose plain, List.filterMap_nil, List.append_nil]
      exact .settled all
  | body plain =>
      cases tallied with
      | pending rest =>
          simp only [scriptDirectives_prose plain, List.filterMap_nil, List.append_nil]
          exact .pending (rest.later l _)
  | starts read name =>
      simp only [scriptDirectives_frame read (.inl name), List.filterMap_nil, List.append_nil]
      cases tallied with
      | settled all => exact .settled all
      | pending rest => exact .pending (rest.later l _)
  | ends read name =>
      obtain ⟨all⟩ := tallied
      simp only [scriptDirectives_frame read (.inr name), List.filterMap_nil, List.append_nil]
      exact .settled all
  | givesUp read name =>
      simp only [scriptDirectives_frame read (.inr name), List.filterMap_cons, List.filterMap_nil,
        Yield.command?, Yield.warning?, List.append_nil]
      cases tallied with
      | pending rest => exact .settled (rest.giveUp .scriptEnd _)
  | ignores read frame =>
      obtain ⟨all⟩ := tallied
      simp only [Scan.start, scriptDirectives_outside, List.filterMap_nil, List.append_nil]
      exact .settled all
  | closes read frame name =>
      simp only [Scan.inBlock, inside read frame, List.filterMap_cons, List.filterMap_nil,
        Yield.command?, Yield.warning?, List.append_nil]
      cases tallied with
      | pending rest => exact .settled (rest.close name)
  | nests read frame other opener =>
      simp only [Scan.inBlock, inside read frame, List.filterMap_cons, List.filterMap_nil,
        Yield.command?, Yield.warning?, List.append_nil]
      cases tallied with
      | pending rest => exact .pending ((rest.drop (.nestedOpener opener)).later l _)
  | drops read frame other noOpener =>
      simp only [Scan.inBlock, inside read frame, List.filterMap_cons, List.filterMap_nil,
        Yield.command?, Yield.warning?, List.append_nil]
      cases tallied with
      | pending rest => exact .pending ((rest.drop .directiveInBlock).later l _)
  | @opens d kind read frame opener =>
      obtain @⟨_, fates, all⟩ := tallied
      simp only [Scan.inScript, inside read frame, List.filterMap_nil, List.append_nil]
      have start : Pending (ls ++ [l]) ⟨kind, d.tokens.map Directive.argument, [], lineStart ls⟩
          (ps ++ [⟨d, (SourceLine.behind ls l).span⟩]) commands warnings
          ⟨ps, fates, warnings, ⟨d, (SourceLine.behind ls l).span⟩, [], []⟩ := by
        refine ⟨rfl, all, .nil, ?_, opener, rfl, rfl, Nat.le_add_right _ _, ?_⟩
        · rw [List.append_nil]
        · rw [lineStart_append, lineStart_singleton]
          exact Nat.lt_succ_self _
      exact .pending start
  | strays read frame closer =>
      obtain ⟨all⟩ := tallied
      simp only [Scan.inScript, inside read frame, List.filterMap_cons, List.filterMap_nil,
        Yield.command?, Yield.warning?, List.append_nil]
      exact .settled (all.warning (.strayCloser closer))
  | commands read frame noOpener noCloser decoded =>
      obtain ⟨all⟩ := tallied
      simp only [Scan.inScript, inside read frame, List.filterMap_cons, List.filterMap_nil,
        Yield.command?, Yield.warning?, List.append_nil]
      exact .settled (all.command (.command rfl decoded rfl))
  | refuses read frame noOpener noCloser refused => cases clean

theorem tallied_run (ls : List String)
    (clean : (Scan.start.run (placeLines 0 ls)).2.filterMap Yield.error? = []) :
    Tallied ls (scriptDirectives false (placeLines 0 ls))
      ((Scan.start.run (placeLines 0 ls)).2.filterMap Yield.command?)
      ((Scan.start.run (placeLines 0 ls)).2.filterMap Yield.warning?)
      (Scan.start.run (placeLines 0 ls)).1 := by
  revert clean
  refine Scan.run_induction (P := fun ls s ys => ys.filterMap Yield.error? = [] →
    Tallied ls (scriptDirectives false (placeLines 0 ls)) (ys.filterMap Yield.command?)
      (ys.filterMap Yield.warning?) s) ?_ ?_ ls
  · exact fun _ => .settled ⟨.nil, rfl, rfl, .nil⟩
  · intro done l s t ys zs ran tallied move clean
    rw [List.filterMap_append, List.append_eq_nil_iff] at clean
    rw [scriptDirectives_concat ran, List.filterMap_append, List.filterMap_append]
    exact (tallied clean.1).move move clean.2

/-- All directives of a reply that can be read are settled. -/
theorem settled_read {source : String} {script : Script} (parsed : read source = .ok script) :
    ∃ fates, Settled (scriptDirectives false (sourceLines source)) fates script.commands
      script.warnings := by
  rw [Reading.read_eq_ofYields] at parsed
  obtain ⟨clean, rfl⟩ := Reading.ofYields_eq_ok parsed
  have tallied := tallied_run (Text.lines source)
  unfold yields sourceLines at *
  generalize Scan.start.run (placeLines 0 (Text.lines source)) = ran at clean tallied ⊢
  obtain ⟨s, ys⟩ := ran
  simp only [List.filterMap_append, List.append_eq_nil_iff] at clean tallied ⊢
  cases tallied clean.1 with
  | settled all =>
      simp only [Scan.giveUp, List.filterMap_nil, List.append_nil]
      exact ⟨_, all⟩
  | pending rest =>
      simp only [Scan.giveUp, Scan.inBlock, List.filterMap_cons, List.filterMap_nil,
        Yield.command?, Yield.warning?, List.append_nil]
      exact ⟨_, rest.giveUp .replyEnd _⟩

/-! ## Counting -/

theorem le_start_of_mem_placeLines {offset : Nat} {ls : List String} {line : SourceLine}
    (member : line ∈ placeLines offset ls) : offset ≤ line.span.start := by
  induction ls generalizing offset with
  | nil => cases member
  | cons l ls ih =>
      rcases List.mem_cons.mp member with rfl | member
      · exact Nat.le_refl _
      · have later := ih member
        omega

theorem pairwise_placeLines (offset : Nat) (ls : List String) :
    (placeLines offset ls).Pairwise fun a b => a.span.stop < b.span.start := by
  induction ls generalizing offset with
  | nil => exact .nil
  | cons l ls ih =>
      refine .cons ?_ (ih _)
      intro line member
      exact le_start_of_mem_placeLines member

theorem ordered_of_mem_placeLines {offset : Nat} {ls : List String} {line : SourceLine}
    (member : line ∈ placeLines offset ls) : line.span.start ≤ line.span.stop := by
  induction ls generalizing offset with
  | nil => cases member
  | cons l ls ih =>
      rcases List.mem_cons.mp member with rfl | member
      · exact Nat.le_add_right _ _
      · exact ih member

theorem sourceLines_apart {source : String} {a b : SourceLine} (first : a ∈ sourceLines source)
    (second : b ∈ sourceLines source) :
    a = b ∨ a.span.stop < b.span.start ∨ b.span.stop < a.span.start := by
  obtain ⟨i, inside, rfl⟩ := List.getElem_of_mem first
  obtain ⟨j, inside', rfl⟩ := List.getElem_of_mem second
  have ordered := List.pairwise_iff_getElem.mp (pairwise_placeLines 0 (Text.lines source))
  rcases Nat.lt_trichotomy i j with before | rfl | behind
  · exact .inr (.inl (ordered i j inside inside' before))
  · exact .inl rfl
  · exact .inr (.inr (ordered j i inside' inside behind))

theorem span_of_mem_scriptDirectives {active : Bool} {lines : List SourceLine}
    {p : PlacedDirective} (member : p ∈ scriptDirectives active lines) :
    ∃ line ∈ lines, line.span = p.span := by
  induction lines generalizing active with
  | nil => cases member
  | cons line rest ih =>
      simp only [scriptDirectives] at member
      have later {active : Bool} (member : p ∈ scriptDirectives active rest) :
          ∃ other ∈ line :: rest, other.span = p.span := by
        obtain ⟨other, inside, span⟩ := ih member
        exact ⟨other, List.mem_cons_of_mem _ inside, span⟩
      split at member
      · exact later member
      · split at member
        · rcases List.mem_cons.mp member with rfl | member
          · exact ⟨line, List.mem_cons_self, rfl⟩
          · exact later member
        · exact later member

/-- The command of a block takes up more than one line. -/
theorem not_onOneLine_of_closer {source : String} {p : PlacedDirective} {c : Command}
    (meets : Fate.Meets p (.closer c)) (place : ∃ line ∈ sourceLines source, line.span = p.span) :
    ¬ c.OnOneLine source := by
  rintro ⟨line, member, span⟩
  obtain ⟨last, inside, same⟩ := place
  cases meets with
  | closer _ _ stop earlier =>
      rw [← span, ← same] at stop earlier
      have wide := ordered_of_mem_placeLines inside
      rcases sourceLines_apart member inside with rfl | before | behind
      · exact Nat.lt_irrefl _ earlier
      · omega
      · omega

theorem length_of_meets {source : String} {ps : List PlacedDirective} {fates : List Fate}
    (meets : List.Forall₂ Fate.Meets ps fates)
    (places : ∀ p ∈ ps, ∃ line ∈ sourceLines source, line.span = p.span) :
    ps.length = (fates.filterMap Fate.completed?).countP (·.OnOneLine source)
        + (fates.filterMap Fate.opened?).length + (fates.filterMap Fate.closed?).length
        + (fates.filterMap Fate.warning?).length
      ∧ (fates.filterMap Fate.completed?).countP (¬ ·.OnOneLine source)
        = (fates.filterMap Fate.closed?).length := by
  induction meets with
  | nil => exact ⟨rfl, rfl⟩
  | @cons p fate ps fates first rest ih =>
      obtain ⟨length, blocks⟩ := ih fun q member => places q (List.mem_cons_of_mem _ member)
      have place := places p List.mem_cons_self
      simp only [List.length_cons, length]
      cases fate with
      | command c =>
          have single : c.OnOneLine source := by
            obtain ⟨line, member, span⟩ := place
            cases first with
            | command _ _ same => exact ⟨line, member, span.trans same.symm⟩
          simp only [List.filterMap_cons, Fate.completed?, Fate.opened?, Fate.closed?,
            Fate.warning?, List.countP_cons, single, not_true, decide_true, decide_false, if_true,
            Bool.false_eq_true, if_false]
          omega
      | opener c =>
          simp only [List.filterMap_cons, Fate.completed?, Fate.opened?, Fate.closed?,
            Fate.warning?, List.length_cons]
          omega
      | closer c =>
          have wide := not_onOneLine_of_closer first place
          simp only [List.filterMap_cons, Fate.completed?, Fate.opened?, Fate.closed?,
            Fate.warning?, List.countP_cons, List.length_cons, wide, not_false_eq_true,
            decide_true, decide_false, if_true, Bool.false_eq_true, if_false]
          omega
      | warning f =>
          simp only [List.filterMap_cons, Fate.completed?, Fate.opened?, Fate.closed?,
            Fate.warning?, List.length_cons]
          omega

theorem Settled.length {source : String} {fates : List Fate} {commands : List Command}
    {warnings : List Finding}
    (settled : Settled (scriptDirectives false (sourceLines source)) fates commands warnings) :
    (scriptDirectives false (sourceLines source)).length
      = commands.countP (·.OnOneLine source) + 2 * commands.countP (¬ ·.OnOneLine source)
        + warnings.length := by
  obtain ⟨length, blocks⟩ :=
    length_of_meets settled.meets fun p member => span_of_mem_scriptDirectives member
  rw [length, ← settled.warnings.length_eq, ← settled.commands, blocks, settled.blocks]
  omega

/-! ## Blocks that are left unclosed -/

namespace Scan

/-- A command starts where the block that is open does, or at the line. -/
theorem Move.starts_at {line : SourceLine} {s t : Scan} {zs : List Yield} (move : Move line s t zs) :
    (∀ c ∈ zs.filterMap Yield.command?,
        (∃ b ∈ s.block, c.span.start = b.start) ∨ c.span.start = line.span.start)
      ∧ ∀ b ∈ t.block, (∃ a ∈ s.block, b.start = a.start) ∨ b.start = line.span.start := by
  cases move with
  | prose | ends | ignores | givesUp | strays | refuses => exact ⟨nofun, nofun⟩
  | body =>
      refine ⟨nofun, ?_⟩
      rintro _ ⟨⟩
      exact .inl ⟨_, rfl, rfl⟩
  | starts => exact ⟨nofun, fun b held => .inl ⟨b, held, rfl⟩⟩
  | @closes b d read frame name =>
      refine ⟨?_, nofun⟩
      intro c member
      rw [List.mem_singleton.mp member]
      exact .inl ⟨b, rfl, rfl⟩
  | nests | drops => exact ⟨nofun, fun b held => .inl ⟨b, held, rfl⟩⟩
  | opens =>
      refine ⟨nofun, ?_⟩
      rintro _ ⟨⟩
      exact .inr rfl
  | commands =>
      refine ⟨?_, nofun⟩
      intro c member
      rw [List.mem_singleton.mp member]
      exact .inr rfl

theorem run_starts_at {s : Scan} (framed : s.Framed) (lines : List SourceLine) :
    ∀ c ∈ (s.run lines).2.filterMap Yield.command?,
      (∃ b ∈ s.block, c.span.start = b.start) ∨ ∃ line ∈ lines, c.span.start = line.span.start := by
  induction lines generalizing s with
  | nil => exact nofun
  | cons line rest ih =>
      obtain ⟨first, block⟩ := (framed.move line).starts_at
      intro c member
      simp only [run, List.filterMap_append] at member
      rcases List.mem_append.mp member with member | member
      · rcases first c member with earlier | here
        · exact .inl earlier
        · exact .inr ⟨line, List.mem_cons_self, here⟩
      · rcases ih (framed.step line) c member with ⟨b, held, start⟩ | ⟨other, inside, start⟩
        · rcases block b held with ⟨a, held, same⟩ | here
          · exact .inl ⟨a, held, start.trans same⟩
          · exact .inr ⟨line, List.mem_cons_self, start.trans here⟩
        · exact .inr ⟨other, List.mem_cons_of_mem _ inside, start⟩

theorem framed_inBlock (b : OpenBlock) : (inBlock b).Framed := by
  intro inactive
  cases inactive

/-- Without its closer and without the end of the script, a block stays open. -/
theorem run_unclosed (b : OpenBlock) {lines : List SourceLine}
    (stays : ∀ line ∈ lines, ∀ d ∈ Directive.ofLine? line.text,
      d.name ≠ b.kind.closer ∧ d.name ≠ "endCommand") :
    ∃ c ys, (inBlock b).run lines = (inBlock c, ys) ∧ c.kind = b.kind ∧ c.start = b.start
      ∧ ys.filterMap Yield.command? = [] := by
  induction lines generalizing b with
  | nil => exact ⟨b, [], rfl, rfl, rfl, rfl⟩
  | cons line rest ih =>
      obtain ⟨here, later⟩ := List.forall_mem_cons.mp stays
      have step : ∃ a zs, (inBlock b).step line = (inBlock a, zs) ∧ a.kind = b.kind
          ∧ a.start = b.start ∧ zs.filterMap Yield.command? = [] := by
        have move := (framed_inBlock b).move line
        generalize (inBlock b).step line = stepped at move ⊢
        obtain ⟨t, zs⟩ := stepped
        cases move with
        | body plain => exact ⟨_, _, rfl, rfl, rfl, rfl⟩
        | starts read name => exact ⟨b, _, rfl, rfl, rfl, rfl⟩
        | givesUp read name => exact absurd name (here _ read).2
        | closes read frame name => exact absurd name (here _ read).1
        | nests | drops => exact ⟨_, _, rfl, rfl, rfl, rfl⟩
      obtain ⟨a, zs, step, kind, start, silent⟩ := step
      obtain ⟨c, ys, ran, sameKind, sameStart, still⟩ := ih a (by rwa [kind])
      refine ⟨c, zs ++ ys, ?_, sameKind.trans kind, sameStart.trans start, ?_⟩
      · simp only [run, step, ran]
      · rw [List.filterMap_append, silent, still, List.append_nil]

theorem step_opens {line : SourceLine} {d : Directive} {kind : BlockKind}
    (read : Directive.ofLine? line.text = some d) (name : d.name = kind.opener) :
    inScript.step line
      = (inBlock ⟨kind, d.tokens.map Directive.argument, [], line.span.start⟩, []) := by
  unfold step
  rw [read]
  simp only [stepDirective, name, kind.opener_ne_frame.1, kind.opener_ne_frame.2, if_false,
    inScript, if_true, stepInScript, kind.ofOpener?_opener, kind.arguments_opener name]
  rfl

theorem step_givesUp {line : SourceLine} {d : Directive}
    (read : Directive.ofLine? line.text = some d) (name : d.name = "endCommand") (b : OpenBlock) :
    (inBlock b).step line = (start, [.warning (b.giveUp .scriptEnd line.span.start)]) := by
  unfold step
  rw [read]
  show (inBlock b).stepDirective d line.span = _
  unfold stepDirective
  rw [name]
  rfl

/-- The end of the script or of the reply gives the block up. -/
theorem tail_unclosed (b : OpenBlock) {after : List SourceLine} (size : Nat)
    (ended : ∀ line ∈ after.head?,
      ∃ d, Directive.ofLine? line.text = some d ∧ d.name = "endCommand") :
    (∀ c ∈ ((inBlock b).run after).2.filterMap Yield.command?,
        ∃ line ∈ after, c.span.start = line.span.start)
      ∧ ∃ at_ stop, .warning (b.giveUp at_ stop)
        ∈ ((inBlock b).run after).2 ++ ((inBlock b).run after).1.giveUp .replyEnd size := by
  cases after with
  | nil => exact ⟨nofun, .replyEnd, size, List.mem_cons_self⟩
  | cons line rest =>
      obtain ⟨d, read, name⟩ := ended line rfl
      have framed : start.Framed := fun _ => rfl
      have tail : (inBlock b).run (line :: rest) = ((start.run rest).1,
          .warning (b.giveUp .scriptEnd line.span.start) :: (start.run rest).2) := by
        simp only [run, step_givesUp read name, List.singleton_append]
      rw [tail]
      refine ⟨?_, .scriptEnd, line.span.start, List.mem_cons_self⟩
      intro c member
      rcases run_starts_at framed rest c member with ⟨a, held, -⟩ | ⟨other, inside, start⟩
      · cases held
      · exact ⟨other, List.mem_cons_of_mem _ inside, start⟩

/-- No command starts where a block is opened that is left unclosed. -/
theorem run_leftUnclosed {before inner after : List SourceLine} {opener : SourceLine}
    {kind : BlockKind} {d : Directive} (opened : (start.run before).1 = .inScript)
    (read : Directive.ofLine? opener.text = some d) (name : d.name = kind.opener)
    (stays : ∀ line ∈ inner, ∀ d ∈ Directive.ofLine? line.text,
      d.name ≠ kind.closer ∧ d.name ≠ "endCommand")
    (ended : ∀ line ∈ after.head?,
      ∃ d, Directive.ofLine? line.text = some d ∧ d.name = "endCommand") (size : Nat) :
    (∀ c ∈ (start.run (before ++ opener :: (inner ++ after))).2.filterMap Yield.command?,
        ∃ line ∈ before ++ after, c.span.start = line.span.start)
      ∧ ∃ at_ stop, .warning ⟨.unclosed kind at_, ⟨opener.span.start, stop⟩⟩
        ∈ (start.run (before ++ opener :: (inner ++ after))).2
          ++ (start.run (before ++ opener :: (inner ++ after))).1.giveUp .replyEnd size := by
  obtain ⟨c, ys, ran, sameKind, sameStart, silent⟩ :=
    run_unclosed ⟨kind, d.tokens.map Directive.argument, [], opener.span.start⟩ stays
  obtain ⟨starts, at_, stop, warned⟩ := tail_unclosed c size ended
  have framed : start.Framed := fun _ => rfl
  have whole : start.run (before ++ opener :: (inner ++ after))
      = (((inBlock c).run after).1, (start.run before).2 ++ (ys ++ ((inBlock c).run after).2)) := by
    simp only [run_append, opened, run, step_opens read name, ran, List.nil_append]
  rw [whole]
  refine ⟨?_, at_, stop, ?_⟩
  · intro command member
    simp only [List.filterMap_append, silent, List.nil_append, List.mem_append] at member
    rcases member with member | member
    · rcases run_starts_at framed before command member with ⟨a, held, -⟩ | ⟨line, inside, start⟩
      · cases held
      · exact ⟨line, List.mem_append_left _ inside, start⟩
    · obtain ⟨line, inside, start⟩ := starts command member
      exact ⟨line, List.mem_append_right _ inside, start⟩
  · rw [OpenBlock.giveUp, sameKind, sameStart] at warned
    rw [List.append_assoc, List.append_assoc]
    exact List.mem_append_right _ (List.mem_append_right _ warned)

end Scan

theorem starts_apart (source : String) :
    (sourceLines source).Pairwise fun a b => a.span.start < b.span.start := by
  refine (pairwise_placeLines 0 (Text.lines source)).imp_of_mem fun first _ before => ?_
  exact Nat.lt_of_le_of_lt (ordered_of_mem_placeLines first) before

/-- A block that is open at the end of a reply adds nothing but a warning. -/
theorem yields_filterMap {α : Type} {part : Yield → Option α}
    (noWarning : ∀ f, part (.warning f) = none) (source : String) :
    (yields source).filterMap part
      = (Scan.start.run (sourceLines source)).2.filterMap part := by
  unfold yields Scan.giveUp
  rw [List.filterMap_append]
  split
  · rw [List.filterMap_cons_none (noWarning _), List.filterMap_nil, List.append_nil]
  · rw [List.filterMap_nil, List.append_nil]

theorem yields_unclosed {source : String} {kind : BlockKind} {opener : SourceLine}
    (unclosed : LeftUnclosed source kind opener) :
    (∀ c ∈ (yields source).filterMap Yield.command?, c.span.start ≠ opener.span.start)
      ∧ ∃ at_ stop, ⟨.unclosed kind at_, ⟨opener.span.start, stop⟩⟩
        ∈ (yields source).filterMap Yield.warning? := by
  obtain ⟨before, inner, after, split, opened, ⟨d, read, name⟩, stays, ended⟩ := unclosed
  obtain ⟨starts, at_, stop, warned⟩ :=
    Scan.run_leftUnclosed opened read name stays ended source.utf8ByteSize
  have apart := starts_apart source
  rw [← split] at starts warned
  refine ⟨?_, at_, stop, List.mem_filterMap.mpr ⟨_, warned, rfl⟩⟩
  intro c member same
  rw [yields_filterMap fun _ => rfl] at member
  obtain ⟨line, inside, start⟩ := starts c member
  have place : line.span.start = opener.span.start := start.symm.trans same
  rw [split, List.pairwise_append, List.pairwise_cons] at apart
  rcases List.mem_append.mp inside with inside | inside
  · have earlier := apart.2.2 line inside opener List.mem_cons_self
    omega
  · have later := apart.2.1.1 line (List.mem_append_right _ inside)
    omega

/-- Every directive of a script is accounted for exactly once, and what is left unclosed is no
command. -/
theorem read_accounts {source : String} {script : Script} (parsed : read source = .ok script) :
    (∃ fates, Settled (scriptDirectives false (sourceLines source)) fates script.commands
        script.warnings)
      ∧ (scriptDirectives false (sourceLines source)).length
        = script.commands.countP (·.OnOneLine source)
          + 2 * script.commands.countP (¬ ·.OnOneLine source) + script.warnings.length
      ∧ ∀ kind opener, LeftUnclosed source kind opener →
        (∀ c ∈ script.commands, c.span.start ≠ opener.span.start)
          ∧ ∃ at_ stop, ⟨.unclosed kind at_, ⟨opener.span.start, stop⟩⟩ ∈ script.warnings := by
  obtain ⟨fates, settled⟩ := settled_read parsed
  refine ⟨⟨fates, settled⟩, settled.length, ?_⟩
  intro kind opener unclosed
  rw [Reading.read_eq_ofYields] at parsed
  obtain ⟨-, rfl⟩ := Reading.ofYields_eq_ok parsed
  exact yields_unclosed unclosed

/-- A directive in a block, a closer without one and a block left open cost one warning each. -/
theorem read_accounts_mixed :
    ∃ source script, read source = .ok script
      ∧ script.commands.map Command.content = [("input", [.text ""]), ("redo", [])]
      ∧ script.warnings.length = 3
      ∧ (∃ fates, Settled (scriptDirectives false (sourceLines source)) fates script.commands
        script.warnings)
      ∧ (scriptDirectives false (sourceLines source)).length
        = script.commands.countP (·.OnOneLine source)
          + 2 * script.commands.countP (¬ ·.OnOneLine source) + script.warnings.length
      ∧ ∃ at_ stop, ⟨.unclosed .input at_, ⟨58, stop⟩⟩ ∈ script.warnings := by
  let source := "@startCommand\n@startInput\n@undo\n@endInput\n@endInput\n@redo\n@startInput"
  have unclosed : LeftUnclosed source .input ⟨"@startInput", ⟨58, 69⟩⟩ := by
    refine ⟨(sourceLines source).take 6, [], [], ?_, ?_, ⟨⟨"startInput", []⟩, rfl, rfl⟩, nofun,
      nofun⟩
    · decide +kernel
    · decide +kernel
  have parsed : read source = .ok ⟨[⟨"input", [.text ""], ⟨14, 41⟩⟩, ⟨"redo", [], ⟨52, 57⟩⟩],
      [⟨.directiveInBlock "undo" .input, ⟨26, 31⟩⟩, ⟨.strayCloser "endInput", ⟨42, 51⟩⟩,
        ⟨.unclosed .input .replyEnd, ⟨58, 69⟩⟩]⟩ := by
    decide +kernel
  obtain ⟨settled, length, left⟩ := read_accounts parsed
  exact ⟨source, _, parsed, rfl, rfl, settled, length, (left .input _ unclosed).2⟩

end ReplyScript.Script
