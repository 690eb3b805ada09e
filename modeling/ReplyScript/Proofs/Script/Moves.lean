import Mathlib.Data.List.Induction
import ReplyScript.Proofs.Edit.Bytes
import ReplyScript.Proofs.Script.Joining
import ReplyScript.Proofs.Script.RoundTrip

/-! # What one line does

Reading a line does one of a few things, by the kind of the line and by whether a script or a block
is open: `Scan.Move` has a case for each. What holds at the start of a reply and is kept by every
such move holds behind all of its lines: `run_induction`.
-/

namespace ReplyScript.Script

open Edit (ended)
open Text (byteCount)

/-- The byte at which a line starts that comes after these lines. -/
def lineStart (before : List String) : Nat :=
  byteCount (ended before)

theorem lineStart_append (as bs : List String) :
    lineStart (as ++ bs) = lineStart as + lineStart bs := by
  simp only [lineStart, Edit.ended_append, Text.byteCount_append]

theorem lineStart_cons (l : String) (ls : List String) :
    lineStart (l :: ls) = l.utf8ByteSize + 1 + lineStart ls := by
  have newline : byteCount ('\n' :: ended ls) = 1 + byteCount (ended ls) := rfl
  rw [lineStart, Edit.ended_cons, Text.byteCount_append, Text.byteCount_toList, newline,
    Nat.add_assoc]
  rfl

theorem lineStart_singleton (l : String) : lineStart [l] = l.utf8ByteSize + 1 :=
  lineStart_cons l []

/-- A line of a reply that comes after these lines. -/
def SourceLine.behind (before : List String) (l : String) : SourceLine :=
  ⟨Text.dropCarriageReturn l, ⟨lineStart before, lineStart before + l.utf8ByteSize⟩⟩

theorem placeLines_behind (offset : Nat) (as bs : List String) :
    placeLines offset (as ++ bs) = placeLines offset as ++ placeLines (offset + lineStart as) bs := by
  induction as generalizing offset with
  | nil => rfl
  | cons a as ih =>
      have later := ih (offset + a.utf8ByteSize + 1)
      have place : offset + a.utf8ByteSize + 1 + lineStart as = offset + lineStart (a :: as) := by
        rw [lineStart_cons]
        omega
      rw [place] at later
      simp only [List.cons_append, placeLines, later]

theorem placeLines_concat (done : List String) (l : String) :
    placeLines 0 (done ++ [l]) = placeLines 0 done ++ [.behind done l] := by
  rw [placeLines_behind, Nat.zero_add]
  rfl

namespace Scan

def inBlock (b : OpenBlock) : Scan := ⟨true, some b⟩

/-- What reading a line can do, from which state to which, and what it yields. -/
inductive Move (line : SourceLine) : Scan → Scan → List Yield → Prop where
  | prose {active : Bool} (plain : Directive.ofLine? line.text = none) :
      Move line ⟨active, none⟩ ⟨active, none⟩ []
  | body {b : OpenBlock} (plain : Directive.ofLine? line.text = none) :
      Move line (inBlock b) (inBlock (b.push line.text)) []
  | starts {s : Scan} {d : Directive} (read : Directive.ofLine? line.text = some d)
      (name : d.name = "startCommand") : Move line s { s with active := true } []
  | ends {active : Bool} {d : Directive} (read : Directive.ofLine? line.text = some d)
      (name : d.name = "endCommand") : Move line ⟨active, none⟩ start []
  | givesUp {b : OpenBlock} {d : Directive} (read : Directive.ofLine? line.text = some d)
      (name : d.name = "endCommand") :
      Move line (inBlock b) start [.warning (b.giveUp .scriptEnd line.span.start)]
  | ignores {d : Directive} (read : Directive.ofLine? line.text = some d)
      (frame : d.isFrame = false) : Move line start start []
  | closes {b : OpenBlock} {d : Directive} (read : Directive.ofLine? line.text = some d)
      (frame : d.isFrame = false) (name : d.name = b.kind.closer) :
      Move line (inBlock b) inScript [.command (b.close line.span.stop)]
  | nests {b : OpenBlock} {d : Directive} {inner : BlockKind}
      (read : Directive.ofLine? line.text = some d) (frame : d.isFrame = false)
      (other : d.name ≠ b.kind.closer) (opener : d.name = inner.opener) :
      Move line (inBlock b) (inBlock b) [.warning ⟨.nestedOpener inner b.kind, line.span⟩]
  | drops {b : OpenBlock} {d : Directive} (read : Directive.ofLine? line.text = some d)
      (frame : d.isFrame = false) (other : d.name ≠ b.kind.closer)
      (noOpener : BlockKind.ofOpener? d.name = none) :
      Move line (inBlock b) (inBlock b) [.warning ⟨.directiveInBlock d.name b.kind, line.span⟩]
  | opens {d : Directive} {kind : BlockKind} (read : Directive.ofLine? line.text = some d)
      (frame : d.isFrame = false) (opener : d.name = kind.opener) :
      Move line inScript
        (inBlock ⟨kind, d.tokens.map Directive.argument, [], line.span.start⟩) []
  | strays {d : Directive} {kind : BlockKind} (read : Directive.ofLine? line.text = some d)
      (frame : d.isFrame = false) (closer : d.name = kind.closer) :
      Move line inScript inScript [.warning ⟨.strayCloser d.name, line.span⟩]
  | commands {d : Directive} {arguments : List Argument}
      (read : Directive.ofLine? line.text = some d) (frame : d.isFrame = false)
      (noOpener : BlockKind.ofOpener? d.name = none) (noCloser : BlockKind.ofCloser? d.name = none)
      (decoded : d.arguments = .ok arguments) :
      Move line inScript inScript [.command ⟨d.name, arguments, line.span⟩]
  | refuses {d : Directive} {token : String} (read : Directive.ofLine? line.text = some d)
      (frame : d.isFrame = false) (noOpener : BlockKind.ofOpener? d.name = none)
      (noCloser : BlockKind.ofCloser? d.name = none) (refused : d.arguments = .error token) :
      Move line inScript inScript [.error ⟨.invalidArgument d.name token, line.span⟩]

theorem opener_of_ofOpener? {name : String} {kind : BlockKind}
    (found : BlockKind.ofOpener? name = some kind) : name = kind.opener := by
  have same := List.find?_some found
  exact (beq_iff_eq.mp same).symm

theorem closer_of_ofCloser? {name : String} {kind : BlockKind}
    (found : BlockKind.ofCloser? name = some kind) : name = kind.closer := by
  have same := List.find?_some found
  exact (beq_iff_eq.mp same).symm

/-- A scan is outside scripts, inside one, or inside a block of one. -/
theorem Framed.cases {s : Scan} (framed : s.Framed) :
    s = start ∨ s = inScript ∨ ∃ b, s = inBlock b := by
  rcases s with ⟨_ | _, _ | b⟩
  · exact .inl rfl
  · exact .inl (framed rfl)
  · exact .inr (.inl rfl)
  · exact .inr (.inr ⟨b, rfl⟩)

section

variable {line : SourceLine} {d : Directive} (read : Directive.ofLine? line.text = some d)
  (frame : d.isFrame = false)

include read frame

theorem move_inBlock (b : OpenBlock) : Move line (inBlock b)
    ((inBlock b).stepInBlock b d line.span).1 ((inBlock b).stepInBlock b d line.span).2 := by
  unfold stepInBlock
  split
  · rename_i name
    exact .closes read frame name
  · rename_i other
    split
    · rename_i inner found
      exact .nests read frame other (opener_of_ofOpener? found)
    · rename_i noOpener
      exact .drops read frame other noOpener

theorem move_inScript : Move line inScript
    (inScript.stepInScript d line.span).1 (inScript.stepInScript d line.span).2 := by
  unfold stepInScript
  split
  · rename_i kind found
    have opener := opener_of_ofOpener? found
    rw [kind.arguments_opener opener]
    exact .opens read frame opener
  · rename_i noOpener
    split
    · rename_i kind found
      exact .strays read frame (closer_of_ofCloser? found)
    · rename_i noCloser
      split
      · rename_i decoded
        exact .commands read frame noOpener noCloser decoded
      · rename_i refused
        exact .refuses read frame noOpener noCloser refused

end

theorem Framed.move {s : Scan} (framed : s.Framed) (line : SourceLine) :
    Move line s (s.step line).1 (s.step line).2 := by
  unfold Scan.step
  cases read : Directive.ofLine? line.text with
  | none =>
      rcases framed.cases with rfl | rfl | ⟨b, rfl⟩
      · exact .prose read
      · exact .prose read
      · exact .body read
  | some d =>
      show Move line s (s.stepDirective d line.span).1 (s.stepDirective d line.span).2
      unfold Scan.stepDirective
      split
      · rename_i name
        exact .starts read name
      · rename_i noStart
        split
        · rename_i name
          rcases framed.cases with rfl | rfl | ⟨b, rfl⟩
          · exact .ends read name
          · exact .ends read name
          · exact .givesUp read name
        · rename_i noEnd
          have frame : d.isFrame = false := by simp [Directive.isFrame, noStart, noEnd]
          rcases framed.cases with rfl | rfl | ⟨b, rfl⟩
          · exact .ignores read frame
          · exact move_inScript read frame
          · exact move_inBlock read frame b

/-- What holds before the first line, and is kept by whatever a further line does, holds behind all
lines. -/
theorem run_induction {P : List String → Scan → List Yield → Prop} (nil : P [] start [])
    (concat : ∀ done l s t ys zs, start.run (placeLines 0 done) = (s, ys) → P done s ys →
      Move (.behind done l) s t zs → P (done ++ [l]) t (ys ++ zs)) (ls : List String) :
    P ls (start.run (placeLines 0 ls)).1 (start.run (placeLines 0 ls)).2 := by
  -- From the end, so that the state is that behind all lines but the last.
  induction ls using List.reverseRecOn with
  | nil => exact nil
  | append_singleton done l ih =>
      have framed : start.Framed := fun _ => rfl
      have moved := (framed.run (placeLines 0 done)).move (.behind done l)
      rw [placeLines_concat, run_append]
      simp only [run, List.append_nil]
      exact concat done l _ _ _ _ rfl ih moved

end Scan

end ReplyScript.Script
