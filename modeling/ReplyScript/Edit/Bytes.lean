import ReplyScript.Edit.Buffer
import ReplyScript.Text.Utf8

/-! # Buffers by bytes

A position becomes a byte of its line, and the line is cut there. There is no cut beyond the end of a
line or within a character, and no line beyond the last: wherever such a thing is asked for, the
answer is `none`.
-/

namespace ReplyScript.Text

/-- The bytes at which characters start, the first of them at `offset`. -/
def charStarts (offset : Nat) : List Char → List Nat
  | [] => []
  | c :: cs => offset :: charStarts (offset + c.utf8Size) cs

def sliceLines? (ls : List String) (start stop : Nat) : Option (List String) :=
  if start ≤ stop ∧ stop ≤ ls.length then some ((ls.take stop).drop start) else none

/-- The lines with others in place of those from `start` up to `stop`. -/
def spliceLines? (ls : List String) (start stop : Nat) (new : List String) : Option (List String) :=
  if start ≤ stop ∧ stop ≤ ls.length then some (ls.take start ++ new ++ ls.drop stop) else none

end ReplyScript.Text

namespace ReplyScript.Edit.Buffer

open Text (charStarts slice? sliceLines? spliceLines?)

/-- The byte of its line that a position stands for, or the position if there is no such line. -/
def byteOffset (b : Buffer) (p : Position) : Except Position Nat :=
  match b.lines[p.line]? with
  | some line => .ok ((charStarts 0 line.toList)[p.column]?.getD line.utf8ByteSize)
  | none => .error p

def textInBytes (b : Buffer) (range : Range) : Option (Except Position String) :=
  let r := range.normalized
  match b.byteOffset r.start, b.byteOffset r.stop with
  | .error p, _ => some (.error p)
  | .ok _, .error p => some (.error p)
  | .ok start, .ok stop =>
      if r.start.line = r.stop.line then do
        let line ← b.lines[r.start.line]?
        let part ← slice? line start (max stop start)
        return .ok part
      else do
        let first ← b.lines[r.start.line]?
        let head ← slice? first start first.utf8ByteSize
        let between ← sliceLines? b.lines (r.start.line + 1) r.stop.line
        let last ← b.lines[r.stop.line]?
        let tail ← slice? last 0 stop
        return .ok (head ++ String.join (between.map ("\n" ++ ·)) ++ "\n" ++ tail)

def replaceBytes (b : Buffer) (range : Range) (text : String) : Option (Except Position Buffer) :=
  let r := range.normalized
  match b.byteOffset r.start, b.byteOffset r.stop with
  | .error p, _ => some (.error p)
  | .ok _, .error p => some (.error p)
  | .ok start, .ok stop => do
      let stop := if r.start.line = r.stop.line then max stop start else stop
      let first ← b.lines[r.start.line]?
      let head ← slice? first 0 start
      let last ← b.lines[r.stop.line]?
      let tail ← slice? last stop last.utf8ByteSize
      let lines ← spliceLines? b.lines r.start.line (r.stop.line + 1)
        (Text.lines (head ++ text ++ tail))
      return .ok ⟨lines, b.lines :: b.past, []⟩

end ReplyScript.Edit.Buffer
