import ReplyScript.Text.Lines

/-! # Problems of patterns

Why a pattern cannot be read, and where. A problem is shown below the pattern, with carets under the
characters it is about.
-/

namespace ReplyScript.Pattern

/-- Why a pattern cannot be read. -/
inductive Problem where
  | classEscapeInvalid
  | classRangeInvalid
  | classRangeLiteral
  | classUnclosed
  | decimalInvalid
  | escapeHexEmpty
  | escapeHexInvalid
  | escapeHexInvalidDigit
  | escapeUnexpectedEnd
  | escapeUnrecognized
  | flagDanglingNegation
  | flagDuplicate
  | flagRepeatedNegation
  | flagUnexpectedEnd
  | flagUnrecognized
  | groupNameDuplicate
  | groupNameEmpty
  | groupNameInvalid
  | groupNameUnexpectedEnd
  | groupUnclosed
  | groupUnopened
  /-- Parts are nested deeper than a limit. -/
  | nestLimitExceeded (limit : Nat)
  | repetitionCountInvalid
  | repetitionCountDecimalEmpty
  | repetitionCountUnclosed
  | repetitionMissing
  | wordBoundaryUnclosed
  | wordBoundaryUnrecognized
  | wordBoundaryOrCountUnclosed
  | unicodeClassInvalid
  | unicodeNotAllowed
  | unicodePropertyNotFound
  | unicodePropertyValueNotFound
  | invalidUtf8
  | backreference
  | lookAround
  deriving Repr, DecidableEq, BEq

namespace Problem

def message : Problem → String
  | classEscapeInvalid => "invalid escape sequence found in character class"
  | classRangeInvalid => "invalid character class range, the start must be <= the end"
  | classRangeLiteral => "invalid range boundary, must be a literal"
  | classUnclosed => "unclosed character class"
  | decimalInvalid => "decimal literal invalid"
  | escapeHexEmpty => "hexadecimal literal empty"
  | escapeHexInvalid => "hexadecimal literal is not a Unicode scalar value"
  | escapeHexInvalidDigit => "invalid hexadecimal digit"
  | escapeUnexpectedEnd => "incomplete escape sequence, reached end of pattern prematurely"
  | escapeUnrecognized => "unrecognized escape sequence"
  | flagDanglingNegation => "dangling flag negation operator"
  | flagDuplicate => "duplicate flag"
  | flagRepeatedNegation => "flag negation operator repeated"
  | flagUnexpectedEnd => "expected flag but got end of regex"
  | flagUnrecognized => "unrecognized flag"
  | groupNameDuplicate => "duplicate capture group name"
  | groupNameEmpty => "empty capture group name"
  | groupNameInvalid => "invalid capture group character"
  | groupNameUnexpectedEnd => "unclosed capture group name"
  | groupUnclosed => "unclosed group"
  | groupUnopened => "unopened group"
  | nestLimitExceeded limit =>
      "exceed the maximum number of nested parentheses/brackets (" ++ toString limit ++ ")"
  | repetitionCountInvalid => "invalid repetition count range, the start must be <= the end"
  | repetitionCountDecimalEmpty => "repetition quantifier expects a valid decimal"
  | repetitionCountUnclosed => "unclosed counted repetition"
  | repetitionMissing => "repetition operator missing expression"
  | wordBoundaryUnclosed =>
      "special word boundary assertion is either unclosed or contains an invalid character"
  | wordBoundaryUnrecognized =>
      "unrecognized special word boundary assertion, valid choices are: start, end, start-half "
        ++ "or end-half"
  | wordBoundaryOrCountUnclosed =>
      "found either the beginning of a special word boundary or a bounded repetition on a \\b "
        ++ "with an opening brace, but no closing brace"
  | unicodeClassInvalid => "invalid Unicode character class"
  | unicodeNotAllowed => "Unicode not allowed here"
  | unicodePropertyNotFound => "Unicode property not found"
  | unicodePropertyValueNotFound => "Unicode property value not found"
  | invalidUtf8 => "pattern can match invalid UTF-8"
  | backreference => "backreferences are not supported"
  | lookAround => "look-around, including look-ahead and look-behind, is not supported"

end Problem

/-- A range of characters of a pattern. -/
structure Extent where
  start : Nat
  stop : Nat
  deriving Repr, DecidableEq, BEq, Inhabited

/-- A place in a pattern: line and column from zero. -/
def placeOf (pattern : List Char) (offset : Nat) : Nat × Nat :=
  let before := pattern.take offset
  (before.count '\n', (before.reverse.takeWhile (· ≠ '\n')).length)

/-- Why a pattern is refused. -/
inductive PatternError where
  /-- A problem where it is, and perhaps another place it has to do with. -/
  | unreadable (problem : Problem) (place : Extent) (other : Option Extent)
  /-- The pattern would take too much room. -/
  | tooBig
  deriving Repr, DecidableEq, BEq

/-- Carets under the extents of one line; `column` is where the next character goes. -/
def carets (pattern : List Char) (column : Nat) : List Extent → List Char
  | [] => []
  | e :: es =>
      let start := (placeOf pattern e.start).2
      let width := max 1 ((placeOf pattern e.stop).2 - start)
      List.replicate (start - column) ' ' ++ List.replicate width '^'
        ++ carets pattern (max column start + width) es

/-- The lines of a pattern, without an empty one at its end. -/
def patternLines (pattern : String) : List String :=
  let ls := (Text.lines pattern).map Text.dropCarriageReturn
  if ls.getLast? = some "" then ls.dropLast else ls

/-- Put blanks in front up to a width. -/
def padLeft (width : Nat) (s : String) : String :=
  String.ofList (List.replicate (width - s.length) ' ') ++ s

/-- The pattern with carets under the extents that stay on one line. -/
def notate (pattern : String) (extents : List Extent) : String :=
  let cs := pattern.toList
  let ls := patternLines pattern
  let count := if pattern.toList.getLast? = some '\n' then ls.length + 1 else ls.length
  let width := if count ≤ 1 then 0 else (toString count).length
  let margin := if width = 0 then "    " else String.ofList (List.replicate (width + 2) ' ')
  let shown := ls.zipIdx.map fun (line, i) =>
    let here := extents.filter fun e => (placeOf cs e.start).1 = i ∧ (placeOf cs e.stop).1 = i
    let number := if width = 0 then margin else padLeft width (toString (i + 1)) ++ ": "
    number ++ line ++ "\n"
      ++ (if here = [] then "" else margin ++ String.ofList (carets cs 0 here) ++ "\n")
  String.join shown

/-- Where an extent over several lines starts and ends. -/
def spread (pattern : List Char) (e : Extent) : String :=
  let (l, c) := placeOf pattern e.start
  let (l', c') := placeOf pattern e.stop
  "on line " ++ toString (l + 1) ++ " (column " ++ toString (c + 1) ++ ") through line "
    ++ toString (l' + 1) ++ " (column " ++ toString c' ++ ")\n"

def PatternError.message (pattern : String) : PatternError → String
  | tooBig => "Compiled regex exceeds size limit of 10485760 bytes."
  | unreadable problem place other =>
      let cs := pattern.toList
      let extents := match other with
        | none => [place]
        | some o => if o.start < place.start then [o, place] else [place, o]
      let notated := notate pattern extents
      if '\n' ∈ cs then
        let divider := String.ofList (List.replicate 79 '~') ++ "\n"
        let wide := extents.filter fun e => (placeOf cs e.start).1 ≠ (placeOf cs e.stop).1
        "regex parse error:\n" ++ divider ++ notated ++ divider
          ++ String.join (wide.map (spread cs))
          ++ "error: " ++ problem.message
      else "regex parse error:\n" ++ notated ++ "error: " ++ problem.message

end ReplyScript.Pattern
