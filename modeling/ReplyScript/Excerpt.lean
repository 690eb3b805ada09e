import ReplyScript.Chat.Command
import ReplyScript.Dialogue.Basic
import ReplyScript.Edit.Bytes

/-! # Excerpts by number

A snippet is cut out of the lines of its source by their numbers, and is rendered with the same
numbers. They are words of 64 bits. Here a difference below zero, a sum that no word holds, a line
that is not there and a slice beyond the last line are all `none`. `Captured` has the ways in which
a snippet can be cut out of a source.
-/

namespace ReplyScript.Excerpt

open Chat (AttachError lineNumber)
open Edit (Buffer Position)
open Outline (Function Header)
open Prompt (Snippet)

def difference? (a b : Nat) : Option Nat :=
  if b ≤ a then some (a - b) else none

def sum? (a b : Nat) : Option Nat :=
  if a + b < UInt64.size then some (a + b) else none

/-! ## Functions -/

/-- The bytes that a line loses when it is trimmed. -/
def indentation? (line : String) : Option Nat :=
  difference? line.utf8ByteSize (Text.trimStart line).utf8ByteSize

/-- The last line, counted from `index`, that is indented deeper than `outer`. -/
def indentationEnd? (outer index last : Nat) : List String → Option Nat
  | [] => some last
  | line :: lines =>
      if Text.allBlank line then indentationEnd? outer (index + 1) last lines
      else match indentation? line with
        | none => none
        | some inner =>
            if inner ≤ outer then some last else indentationEnd? outer (index + 1) index lines

/-- The last line of the function whose header is on the line with number `index`. -/
def stop? (ls : List String) (index : Nat) : Outline.Delimiter → Option (Option Nat)
  | .braces => do
      let header ← ls[index]?
      return Outline.bracesEnd (Outline.hasArrow header.toList) ⟨0, false⟩ index (ls.drop index)
  | .indentation => do
      let header ← ls[index]?
      let outer ← indentation? header
      let stop ← indentationEnd? outer (index + 1) index (ls.drop (index + 1))
      return if index < stop then some stop else none

/-- The function on the line with number `index`, if a header was found there. -/
def functionOn? (ls : List String) (index : Nat) : Option Header → Option (Option Function)
  | none => some none
  | some header => do
      let stop ← stop? ls index header.delimiter
      return stop.map (⟨header.name, index, ·⟩)

/-- The functions whose headers are on these of the lines, counted from `index`. -/
def functionsFrom? (ls : List String) (index : Nat) : List String → Option (List Function)
  | [] => some []
  | line :: rest => do
      let found ← functionOn? ls index (Header.ofLine? line)
      let others ← functionsFrom? ls (index + 1) rest
      return found.toList ++ others

def functions? (source : String) : Option (List Function) :=
  functionsFrom? (Text.lines source) 0 (Text.lines source)

/-- The number of lines after the first of a function. -/
def extent? (f : Function) : Option Nat :=
  difference? f.stop f.start

/-- The shortest of the functions that a line belongs to. Each of them is measured once. -/
def functionAt? (source : String) (line : Nat) : Option (Option Function) := do
  let found ← functions? source
  let measured ← (found.filter (·.covers line)).mapM fun f => (extent? f).map (·, f)
  match measured with
  | [] => return none
  | m :: ms => return some (ms.foldl (fun a b => if b.1 < a.1 then b else a) m).2

def ofFunction? (f : Function) (location source : String) : Option Snippet := do
  let extent ← extent? f
  let content := Text.unlines (((Text.lines source).drop f.start).take (extent + 1))
  return .function f.name location content f.start

/-! ## Ranges of lines -/

/-- Lines `start` to `stop` of a text. -/
def through? (content : String) (start stop : Nat) : Option String :=
  (Text.sliceLines? (Text.lines content) start (stop + 1)).map Text.unlines

/-- The snippet for a file, or for the lines of it that were asked for. -/
def capture? (path content : String) : (start stop : Option Nat) → Option Snippet
  | none, _ => some (.file path content)
  | some start, stop => do
      let last ← difference? (Text.lineCount content) 1
      let stop := min (stop.getD last) last
      let text ← if start ≤ stop then through? content start stop else some ""
      return .selection path text start

/-- The part of a file that words after its path ask for. -/
def part? (path content : String) : List String → Option (Except AttachError Snippet)
  | ["fn", line] =>
      match lineNumber line with
      | .error e => some (.error e)
      | .ok line => do
          match ← functionAt? content line with
          | none => return .error (.noFunction line path)
          | some f => return .ok (← ofFunction? f path content)
  | [start, stop] =>
      match lineNumber start, lineNumber stop with
      | .error e, _ => some (.error e)
      | .ok _, .error e => some (.error e)
      | .ok start, .ok stop => do
          let last ← difference? (Text.lineCount content) 1
          let stop := min stop last
          if stop < start then return .error (.emptyRange start stop)
          else return .ok (.selection path (← through? content start stop) start)
  | [] => some (.ok (.file path content))
  | _ => some (.error .usage)

/-! ## Numbered lines -/

/-- Lines behind the sums of `start` and their places, which are counted from `index`. -/
def numberFrom? (start index : Nat) : List String → Option (List String)
  | [] => some []
  | line :: lines => do
      let number ← sum? start index
      let others ← numberFrom? start (index + 1) lines
      return (toString number ++ " " ++ line) :: others

/-- The header and the numbered lines of a snippet. -/
def render? (s : Snippet) : Option String :=
  (numberFrom? s.startLine 0 (Text.lines s.content)).map fun numbered =>
    s.header ++ Text.unlines numbered ++ "\n"

def userTurn? (snippets : List Snippet) (request : String) : Option String :=
  match snippets with
  | [] => some ("# User request\n" ++ request)
  | _ => (snippets.mapM render?).map fun rendered =>
      "\n".intercalate rendered ++ "\n# User request\n" ++ request

def sent? (m : Message) : Option ChatMessage :=
  match m.role with
  | .user => (userTurn? m.snippets m.text).map (⟨.user, ·⟩)
  | .system | .assistant => some ⟨m.role, m.text⟩

/-- The lines `first` to `last` of a source, each behind its number. -/
def numberedLines (source : String) (first last : Nat) : List String :=
  (List.range' first (last + 1 - first)).map fun n =>
    toString n ++ " " ++ (Text.lines source)[n]?.getD ""

/-- A snippet shows the lines `first` to `last` of a source: they are there, and what is rendered
behind the header are these lines, in order, each behind its own number. -/
structure Shows (source : String) (snippet : Snippet) (first last : Nat) : Prop where
  ordered : first ≤ last
  inside : last < Text.lineCount source
  startLine : snippet.startLine = first
  numbered : Text.lines (Prompt.addLineNumbers snippet.content snippet.startLine)
    = numberedLines source first last
  rendered : snippet.render
    = snippet.header ++ Text.unlines (numberedLines source first last) ++ "\n"

/-! ## Around an insertion -/

/-- The last line that is shown around a text that was put into a buffer at a line. -/
def lastAround (b : Buffer) (line : Nat) (text : String) : Nat :=
  min (line + Text.lineCount text + windowMargin) (b.lineCount - 1)

/-- The lines around a text that was put into a buffer, or a position that is not there. -/
def around? (b : Buffer) (line : Nat) (text : String) : Option (Except Position String) := do
  let below ← sum? line (Text.lineCount text)
  let stop := min (← sum? below windowMargin) (b.lineCount - 1)
  match b.lines[stop]? with
  | none => return .error ⟨stop, 0⟩
  | some last => b.textInBytes (.ofCoordinates (line - windowMargin) 0 stop last.length)

/-- There is something to show around a text that was put into a buffer at a line: it goes from a
line to one that does not come before it, both are there, and no number on the way overflows. -/
structure Surrounded (b : Buffer) (line : Nat) (text : String) : Prop where
  ordered : line - windowMargin ≤ lastAround b line text
  inside : lastAround b line text < b.lineCount
  words : b.lineCount + windowMargin < UInt64.size → around? b line text
    = some (.ok (excerpt b.text (line - windowMargin) (lastAround b line text)))

/-! ## Captured snippets -/

/-- The ways in which a snippet is captured from a source: by the instruction to read a file, by
the command to attach a part of it, and around a line. -/
inductive Captured (source : String) : Snippet → Prop
  | read (path : String) (start stop : Option Nat) (word : ∀ n ∈ start, n < UInt64.size) :
      Captured source (captureSnippet path source start stop)
  | attached {path : String} {words : List String} {snippet : Snippet}
      (selected : Chat.selectPart path source words = .ok snippet) : Captured source snippet
  | function {line : Nat} {f : Function} (location : String)
      (found : Outline.functionAt? source line = some f) :
      Captured source (f.snippet location source)

/-- A text can be held in memory, where nothing takes up `2 ^ 63` bytes or more. -/
def Held (source : String) : Prop :=
  source.utf8ByteSize < 0x8000000000000000

instance (source : String) : Decidable (Held source) :=
  inferInstanceAs (Decidable (source.utf8ByteSize < 0x8000000000000000))

/-- However a snippet is captured from a source, nothing is missing, and what is shown of it are
lines of the source behind their own numbers. -/
structure Numbered (source : String) : Prop where
  /-- A function ends on a line of the source, and not before it starts. -/
  spans : functions? source = some (Outline.functions source)
    ∧ ∀ f ∈ Outline.functions source, f.start ≤ f.stop ∧ f.stop < Text.lineCount source
  /-- A line is in the function that is found around it, all of which is shown. -/
  around : ∀ line, functionAt? source line = some (Outline.functionAt? source line)
    ∧ ∀ f, Outline.functionAt? source line = some f →
      f ∈ Outline.functions source ∧ f.start ≤ line ∧ line ≤ f.stop
        ∧ ∀ location, ofFunction? f location source = some (f.snippet location source)
          ∧ Shows source (f.snippet location source) f.start f.stop
  /-- A file is read as a whole, or from one line to another, which is at most its last. -/
  read : ∀ path start stop,
    capture? path source start stop = some (captureSnippet path source start stop)
      ∧ match start with
        | none => Shows source (captureSnippet path source start stop) 0
          (Text.lineCount source - 1)
        | some first =>
          let last := min (stop.getD (Text.lineCount source - 1)) (Text.lineCount source - 1)
          if first ≤ last then Shows source (captureSnippet path source start stop) first last
          else (captureSnippet path source start stop).content = ""
  /-- Words ask for all of a file, for the function around a line, or for a range of lines, which
  must not be empty. -/
  attached : ∀ path words, part? path source words = some (Chat.selectPart path source words)
  attachedWhole : ∀ path, ∃ snippet, Chat.selectPart path source [] = .ok snippet
    ∧ Shows source snippet 0 (Text.lineCount source - 1)
  attachedAround : ∀ path word line, lineNumber word = .ok line →
    Chat.selectPart path source ["fn", word]
      = (Outline.functionAt? source line).elim (.error (.noFunction line path))
        fun f => .ok (f.snippet path source)
  attachedRange : ∀ path first second start stop, lineNumber first = .ok start →
    lineNumber second = .ok stop →
      let last := min stop (Text.lineCount source - 1)
      if start ≤ last then ∃ snippet, Chat.selectPart path source [first, second] = .ok snippet
        ∧ Shows source snippet start last
      else Chat.selectPart path source [first, second] = .error (.emptyRange start last)

end ReplyScript.Excerpt
