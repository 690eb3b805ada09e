import ReplyScript.Pattern.Search
import ReplyScript.Prompt.Snippet

/-! # Functions of a source text

Where functions start and end, judged line by line. A function starts on a line that looks like the
header of one. One that is headed by `def` goes on while lines are indented deeper; any other ends
at the brace that closes its body.
-/

namespace ReplyScript.Outline

/-- What the header of a function looks like. -/
def headerPattern : String :=
  "^\\s*(?:(?:pub(?:\\([^)]*\\))?|export|default|async"
    ++ "|const|unsafe|static|extern\\s+\\S+)\\s+)*"
    ++ "(?P<keyword>fn|function\\*?|def)\\s+"
    ++ "(?P<named>[A-Za-z_$][\\w$]*)"
    ++ "|^\\s*(?:export\\s+)?(?:const|let|var)\\s+"
    ++ "(?P<bound>[A-Za-z_$][\\w$]*)\\s*(?::[^=]+)?=\\s*"
    ++ "(?:async\\s+)?(?:\\([^)]*\\)|[A-Za-z_$][\\w$]*)"
    ++ "\\s*(?::[^=]+)?=>"

def headerMachine : Option Pattern.Machine :=
  (Pattern.Node.ofPattern {} headerPattern).toOption.map fun (node, names) => .ofNode node names

/-- How the body of a function is delimited. -/
inductive Delimiter where
  | braces
  | indentation
  deriving Repr, DecidableEq, BEq, Inhabited

structure Header where
  name : String
  delimiter : Delimiter
  deriving Repr, DecidableEq, BEq, Inhabited

def Header.ofLine? (line : String) : Option Header := do
  let machine ← headerMachine
  let text := line.toList
  let found ← machine.find? text
  let name ← (machine.capture? text found "named").or (machine.capture? text found "bound")
  let delimiter :=
    if machine.capture? text found "keyword" = some "def" then .indentation else .braces
  return ⟨name, delimiter⟩

/-- What a character of a line belongs to. -/
inductive Context where
  | code
  /-- A string between quotes; `escaped` after a backslash. -/
  | string (quote : Char) (escaped : Bool)
  /-- A character literal of which so many characters are left. -/
  | literal (left : Nat)
  deriving Repr, DecidableEq, BEq, Inhabited

/-- How many braces are open, and whether there has been one. -/
structure Braces where
  depth : Nat
  opened : Bool
  deriving Repr, DecidableEq, BEq, Inhabited

/-- What a line comes to when braces are counted. -/
inductive LineScan where
  | going (braces : Braces)
  /-- The last open brace was closed. -/
  | closed
  /-- A semicolon came before any brace. -/
  | ended
  deriving Repr, DecidableEq, BEq, Inhabited

/-- How many characters of a character literal follow its opening quote. A quote that opens no
literal stands for itself. -/
def literalLength : List Char → Nat
  | '\\' :: _ :: '\'' :: _ => 3
  | _ :: '\'' :: _ => 2
  | _ => 0

/-- Count the braces of a line, outside of strings, character literals and line comments. -/
def scanLine (braces : Braces) : Context → List Char → LineScan
  | _, [] => .going braces
  | .string quote true, _ :: cs => scanLine braces (.string quote false) cs
  | .string quote false, c :: cs =>
      if c = '\\' then scanLine braces (.string quote true) cs
      else if c = quote then scanLine braces .code cs
      else scanLine braces (.string quote false) cs
  | .literal (left + 1), _ :: cs => scanLine braces (if left = 0 then .code else .literal left) cs
  | .literal 0, _ :: cs => scanLine braces .code cs
  | .code, c :: cs =>
      match c with
      | '"' => scanLine braces (.string '"' false) cs
      | '\x60' => scanLine braces (.string '\x60' false) cs
      | '\'' =>
          scanLine braces (if literalLength cs = 0 then .code else .literal (literalLength cs)) cs
      | '/' => if cs.head? = some '/' then .going braces else scanLine braces .code cs
      | '\x7b' => scanLine ⟨braces.depth + 1, true⟩ .code cs
      | '\x7d' =>
          match braces.depth with
          | 0 => scanLine braces .code cs
          | 1 => .closed
          | depth + 2 => scanLine ⟨depth + 1, braces.opened⟩ .code cs
      | ';' => if braces.opened then scanLine braces .code cs else .ended
      | _ => scanLine braces .code cs

/-- The line, counted from `index`, on which braces are closed. `arrow` tells whether a semicolon
may end the function instead. -/
def bracesEnd (arrow : Bool) (braces : Braces) (index : Nat) : List String → Option Nat
  | [] => none
  | line :: lines =>
      match scanLine braces .code line.toList with
      | .going braces => bracesEnd arrow braces (index + 1) lines
      | .closed => some index
      | .ended => if arrow then some index else none

/-- The bytes of blanks at the start of a line. -/
def indentation (line : String) : Nat :=
  (String.ofList (line.toList.takeWhile Text.isBlank)).utf8ByteSize

/-- The last line, counted from `index`, that is indented deeper than `outer`. Blank lines do not
count; `last` is the last line so far. -/
def indentationEnd (outer index last : Nat) : List String → Nat
  | [] => last
  | line :: lines =>
      if Text.allBlank line then indentationEnd outer (index + 1) last lines
      else if indentation line ≤ outer then last
      else indentationEnd outer (index + 1) index lines

/-- Whether a line holds an arrow. -/
def hasArrow : List Char → Bool
  | '=' :: '>' :: _ => true
  | _ :: cs => hasArrow cs
  | [] => false

/-- A function: its name, its first line and its last. -/
structure Function where
  name : String
  start : Nat
  stop : Nat
  deriving Repr, DecidableEq, BEq, Inhabited

/-- The function whose header is `line`, the line with number `index`, with the lines after it. -/
def functionAtHeader? (index : Nat) (line : String) (rest : List String) : Option Function := do
  let header ← Header.ofLine? line
  let stop ← match header.delimiter with
    | .braces => bracesEnd (hasArrow line.toList) ⟨0, false⟩ index (line :: rest)
    | .indentation =>
        let stop := indentationEnd (indentation line) (index + 1) index rest
        if index < stop then some stop else none
  return ⟨header.name, index, stop⟩

def functionsFrom (index : Nat) : List String → List Function
  | [] => []
  | line :: lines =>
      (functionAtHeader? index line lines).toList ++ functionsFrom (index + 1) lines

def functions (source : String) : List Function :=
  functionsFrom 0 (Text.lines source)

namespace Function

def covers (f : Function) (line : Nat) : Bool :=
  f.start ≤ line && line ≤ f.stop

/-- The number of lines after the first. -/
def extent (f : Function) : Nat :=
  f.stop - f.start

/-- The shorter of two functions, the first if they are equal. -/
def shorter (a b : Function) : Function :=
  if b.extent < a.extent then b else a

def snippet (f : Function) (location source : String) : Prompt.Snippet :=
  let content := Text.unlines (((Text.lines source).drop f.start).take (f.stop - f.start + 1))
  .function f.name location content f.start

end Function

/-- The shortest of the functions that a line belongs to. -/
def functionAt? (source : String) (line : Nat) : Option Function :=
  match (functions source).filter (·.covers line) with
  | [] => none
  | f :: fs => some (fs.foldl Function.shorter f)

end ReplyScript.Outline
