import ReplyScript.Pattern.Machine
import ReplyScript.Text.Numeral

/-! # Expressions of utilities

The regular expressions of utilities come in a basic form, where groups, bounds and alternatives are
written with backslashes, and in an extended form, where they are not. Of the matches that start
first the longest one counts. Characters stand for bytes.
-/

namespace ReplyScript.Utility

open Pattern (Assertion Machine Marks Node)
open Text (CharSet)

/-- A regular expression, which may refer to what a group has taken. -/
inductive Expression where
  | empty
  | set (s : CharSet)
  | place (a : Assertion)
  | group (index : Nat) (body : Expression)
  | sequence (first second : Expression)
  | either (first second : Expression)
  | repetition (body : Expression) (least : Nat) (most : Option Nat)
  /-- What a group has taken. -/
  | again (index : Nat)
  deriving Inhabited

/-- How expressions are written and read. -/
structure Dialect where
  extended : Bool := false
  ignoresCase : Bool := false
  /-- Escapes such as `\n` stand for control characters. -/
  escapes : Bool := false
  /-- Carets and dollar signs hold at every line. -/
  manyLines : Bool := false
  deriving Repr, DecidableEq, BEq, Inhabited

inductive Misspelling where
  | openBracket
  | openGroup
  | closedGroup
  | openBound
  | badBound
  | tooManyTimes
  | badRange
  | badClass
  | misplacedClass
  | trailingBackslash
  | badReference
  | nothingToRepeat
  deriving Repr, DecidableEq, BEq, Inhabited

def Misspelling.message : Misspelling → String
  | openBracket => "Unmatched [, [^, [:, [., or [="
  | openGroup => "Unmatched ( or \\("
  | closedGroup => "Unmatched ) or \\)"
  | openBound => "Unmatched \\\x7b"
  | badBound => "Invalid content of \\\x7b\\\x7d"
  | tooManyTimes => "Regular expression too big"
  | badRange => "Invalid range end"
  | badClass => "Invalid character class name"
  | misplacedClass => "character class syntax is [[:space:]], not [:space:]"
  | trailingBackslash => "Trailing backslash"
  | badReference => "Invalid back reference"
  | nothingToRepeat => "Invalid preceding regular expression"

def anyByte : CharSet := .range '\x00' '\xff'

def wordBytes : CharSet :=
  .ofRanges [(48, 57), (65, 90), (95, 95), (97, 122)]

def blankBytes : CharSet := .ofRanges [(9, 13), (32, 32)]

def otherBytes (s : CharSet) : CharSet :=
  s.complement.inter anyByte

def classNamed? : String → Option CharSet
  | "alpha" => some (.ofRanges [(65, 90), (97, 122)])
  | "digit" => some (.range '0' '9')
  | "alnum" => some (.ofRanges [(48, 57), (65, 90), (97, 122)])
  | "upper" => some (.range 'A' 'Z')
  | "lower" => some (.range 'a' 'z')
  | "space" => some blankBytes
  | "blank" => some (.ofChars " \t")
  | "punct" => some (.ofRanges [(33, 47), (58, 64), (91, 96), (123, 126)])
  | "print" => some (.range ' ' '~')
  | "graph" => some (.range '!' '~')
  | "cntrl" => some (.ofRanges [(0, 31), (127, 127)])
  | "xdigit" => some (.ofRanges [(48, 57), (65, 70), (97, 102)])
  | _ => none

def bothCases (s : CharSet) : CharSet :=
  s.union <| .ofRanges <| (List.range 26).flatMap fun (n : Nat) =>
    (if s.containsCode (65 + n) then [(97 + n, 97 + n)] else [])
      ++ (if s.containsCode (97 + n) then [(65 + n, 65 + n)] else [])

/-- The control character that an escape stands for. -/
def control? : Char → Option Char
  | 'a' => some '\x07'
  | 'f' => some '\x0c'
  | 'n' => some '\n'
  | 'r' => some '\r'
  | 't' => some '\t'
  | 'v' => some '\x0b'
  | _ => none

namespace Dialect

def ofSet (d : Dialect) (s : CharSet) : Expression :=
  .set (if d.ignoresCase then bothCases s else s)

/-- The expression for a character that stands for itself. -/
def ofChar (d : Dialect) (c : Char) : Expression :=
  d.ofSet (.single c)

end Dialect

/-- The characters in front of a closing pair such as `:]`, and what follows the pair. -/
def upToPair (mark : Char) : List Char → Option (List Char × List Char)
  | [] | [_] => none
  | a :: b :: rest =>
      if a = mark ∧ b = ']' then some ([], rest)
      else (upToPair mark (b :: rest)).map fun (inner, rest) => (a :: inner, rest)

/-- A member of brackets: a class, or a character that may begin a range. -/
def readMember (d : Dialect) : List Char →
    Except Misspelling ((CharSet ⊕ Char) × List Char)
  | '[' :: ':' :: rest =>
      match upToPair ':' rest with
      | none => .error .openBracket
      | some (name, rest) =>
          match classNamed? (String.ofList name) with
          | some s => .ok (.inl s, rest)
          | none => .error .badClass
  | '[' :: '=' :: rest =>
      match upToPair '=' rest with
      | some ([c], rest) => .ok (.inr c, rest)
      | _ => .error .openBracket
  | '[' :: '.' :: rest =>
      match upToPair '.' rest with
      | some ([c], rest) => .ok (.inr c, rest)
      | _ => .error .openBracket
  | '\\' :: c :: rest =>
      match if d.escapes then control? c else none with
      | some control => .ok (.inr control, rest)
      | none => .ok (.inr '\\', c :: rest)
  | c :: rest => .ok (.inr c, rest)
  | [] => .error .openBracket

/-- The members of brackets up to their end. `first` tells that a closing bracket would be a
member. -/
def readMembers (d : Dialect) : (fuel : Nat) → (first : Bool) → List Char →
    Except Misspelling (CharSet × List Char)
  | 0, _, _ => .error .openBracket
  | fuel + 1, first, cs => do
      match first, cs with
      | false, ']' :: rest => return (.empty, rest)
      | _, cs =>
          let (member, rest) ← readMember d cs
          match member, rest with
          | .inl s, rest =>
              let (more, rest) ← readMembers d fuel false rest
              return (s.union more, rest)
          | .inr c, '-' :: ']' :: rest =>
              return ((CharSet.single c).union (.single '-'), rest)
          | .inr c, '-' :: rest =>
              let (last, rest) ← readMember d rest
              match last with
              | .inr last =>
                  if last < c then throw .badRange
                  let (more, rest) ← readMembers d fuel false rest
                  return ((CharSet.range c last).union more, rest)
              | .inl _ => throw .badRange
          | .inr c, rest =>
              let (more, rest) ← readMembers d fuel false rest
              return ((CharSet.single c).union more, rest)

/-- A set in brackets, behind the opening one. -/
def readBrackets (d : Dialect) (cs : List Char) : Except Misspelling (Expression × List Char) := do
  match cs with
  | '^' :: rest =>
      let (s, rest) ← readMembers d (rest.length + 1) true rest
      return (.set (otherBytes (if d.ignoresCase then bothCases s else s)), rest)
  | ':' :: rest =>
      match upToPair ':' rest with
      | some (name, _) =>
          if (classNamed? (String.ofList name)).isSome then throw .misplacedClass
      | none => pure ()
      let (s, rest) ← readMembers d (cs.length + 1) true cs
      return (d.ofSet s, rest)
  | cs =>
      let (s, rest) ← readMembers d (cs.length + 1) true cs
      return (d.ofSet s, rest)

/-- The most that a bound may ask for. -/
def boundLimit : Nat := 32767

/-- The bounds of a repetition, behind the opening brace. -/
def readBounds (d : Dialect) (cs : List Char) :
    Except Misspelling ((Nat × Option Nat) × List Char) := do
  let number (cs : List Char) : Option Nat × List Char :=
    (Text.digits? (cs.takeWhile Char.isDigit), cs.dropWhile Char.isDigit)
  let (least, rest) := number cs
  let (bounds, rest) ← match rest with
    | ',' :: rest =>
        let (most, rest) := number rest
        pure ((least.getD 0, most), rest)
    | rest =>
        match least with
        | some n => pure ((n, some n), rest)
        | none => throw (if rest = [] then .openBound else .badBound)
  let rest ← match d.extended, rest with
    | true, '\x7d' :: rest => pure rest
    | false, '\\' :: '\x7d' :: rest => pure rest
    | _, rest => throw (if rest.isEmpty then .openBound else .badBound)
  match bounds with
  | (least, some most) =>
      if most < least then throw .badBound
      if boundLimit < most then throw .tooManyTimes
  | (least, none) => if boundLimit < least then throw .tooManyTimes
  return (bounds, rest)

/-- Where the reading of an expression is. -/
structure ExpressionReader where
  rest : List Char
  /-- How many groups were opened. -/
  groups : Nat := 0
  /-- The groups that are closed. -/
  closed : List Nat := []

abbrev ReadExpression := StateT ExpressionReader (Except Misspelling)

inductive Sign where
  | stop
  | open_
  | close
  | bar
  | star
  | plus
  | question
  | bound
  | caret
  | dollar
  | expression (e : Expression)
  | bracket
  | reference (index : Nat)
  | misspelled (m : Misspelling)

def cutSign (d : Dialect) : List Char → Sign × List Char
  | [] => (.stop, [])
  | ['\\'] => (.misspelled .trailingBackslash, [])
  | '\\' :: c :: rest =>
      let sign := match d.extended, c with
        | false, '(' => .open_
        | false, ')' => .close
        | false, '|' => .bar
        | false, '+' => .plus
        | false, '?' => .question
        | false, '\x7b' => .bound
        | _, 'w' => .expression (.set wordBytes)
        | _, 'W' => .expression (.set (otherBytes wordBytes))
        | _, 's' => .expression (.set blankBytes)
        | _, 'S' => .expression (.set (otherBytes blankBytes))
        | _, 'b' => .expression (.place .wordBoundary)
        | _, 'B' => .expression (.place .notWordBoundary)
        | _, '<' => .expression (.place .wordStart)
        | _, '>' => .expression (.place .wordEnd)
        | _, '\x60' => .expression (.place .textStart)
        | _, '\'' => .expression (.place .textEnd)
        | _, c =>
            if c.isDigit ∧ c ≠ '0' then .reference (Text.digitValue c)
            else match if d.escapes then control? c else none with
              | some control => .expression (d.ofChar control)
              | none => .expression (d.ofChar c)
      (sign, rest)
  | c :: rest =>
      let sign := match d.extended, c with
        | true, '(' => .open_
        | true, ')' => .close
        | true, '|' => .bar
        | true, '+' => .plus
        | true, '?' => .question
        | true, '\x7b' => .bound
        | _, '*' => .star
        | _, '^' => .caret
        | _, '$' => .dollar
        | _, '.' => .expression (.set anyByte)
        | _, '[' => .bracket
        | _, c => .expression (d.ofChar c)
      (sign, rest)

namespace ReadExpression

def couldEnd (d : Dialect) (cs : List Char) : Bool :=
  match (cutSign d cs).1 with
  | .stop | .close | .bar => true
  | _ => false

/-- Apply the repetitions that follow an expression. -/
def repeated (d : Dialect) : (fuel : Nat) → Expression → ReadExpression Expression
  | 0, e => return e
  | fuel + 1, e => do
      let r ← get
      let (sign, rest) := cutSign d r.rest
      let goOn (least : Nat) (most : Option Nat) : ReadExpression Expression := do
        set { r with rest }
        repeated d fuel (.repetition e least most)
      match sign with
      | .star => goOn 0 none
      | .plus => goOn 1 none
      | .question => goOn 0 (some 1)
      | .bound =>
          match readBounds d rest with
          | .ok ((least, most), rest) =>
              set { r with rest }
              repeated d fuel (.repetition e least most)
          | .error m => if d.extended then return e else throw m
      | _ => return e

mutual

/-- Read alternatives, up to a closing parenthesis or the end. -/
def alternatives (d : Dialect) : (fuel depth : Nat) → ReadExpression Expression
  | 0, _ => return .empty
  | fuel + 1, depth => do
      let first ← items d fuel depth true
      let r ← get
      match cutSign d r.rest with
      | (.bar, rest) =>
          set { r with rest }
          return .either first (← alternatives d fuel depth)
      | _ => return first

/-- Read one expression after the other. `first` tells that none has come yet. -/
def items (d : Dialect) : (fuel depth : Nat) → (first : Bool) → ReadExpression Expression
  | 0, _, _ => return .empty
  | fuel + 1, depth, first => do
      let r ← get
      let (sign, rest) := cutSign d r.rest
      let literal (c : Char) : ReadExpression Expression := do
        set { r with rest }
        behind d fuel depth (d.ofChar c)
      match sign with
      | .stop | .bar => return .empty
      | .close =>
          if depth = 0 ∧ d.extended = false then throw .closedGroup
          if depth = 0 then throw .closedGroup
          return .empty
      | .misspelled m => throw m
      | .open_ =>
          let index := r.groups + 1
          set { r with rest, groups := index }
          let body ← alternatives d fuel (depth + 1)
          let r ← get
          match cutSign d r.rest with
          | (.close, rest) =>
              set { r with rest, closed := index :: r.closed }
              behind d fuel depth (.group index body)
          | _ => throw .openGroup
      | .bracket =>
          let (e, rest) ← readBrackets d rest
          set { r with rest }
          behind d fuel depth e
      | .reference index =>
          if !r.closed.contains index then throw .badReference
          set { r with rest }
          behind d fuel depth (.again index)
      | .expression e =>
          set { r with rest }
          behind d fuel depth e
      | .caret =>
          if first ∨ d.extended then
            set { r with rest }
            let e := Expression.place (if d.manyLines then .lineStart else .textStart)
            if d.extended then behind d fuel depth e
            else return .sequence e (← items d fuel depth true)
          else literal '^'
      | .dollar =>
          if d.extended ∨ couldEnd d rest then
            set { r with rest }
            behind d fuel depth (.place (if d.manyLines then .lineEnd else .textEnd))
          else literal '$'
      | .star => if first then literal '*' else throw .nothingToRepeat
      | .plus | .question =>
          if d.extended then literal (r.rest.headD '+') else throw .nothingToRepeat
      | .bound =>
          if d.extended then
            if (readBounds d rest).isOk then throw .nothingToRepeat else literal '\x7b'
          else throw .nothingToRepeat

def behind (d : Dialect) : (fuel depth : Nat) → Expression → ReadExpression Expression
  | 0, _, e => return e
  | fuel + 1, depth, e => do
      let e ← repeated d (fuel + 1) e
      return .sequence e (← items d fuel depth false)

end

end ReadExpression

def Expression.read (d : Dialect) (s : String) : Except Misspelling Expression :=
  let cs := s.toList
  (ReadExpression.alternatives d (4 * cs.length + 8) 0).run' { rest := cs }

namespace Expression

/-- The expression as a pattern, unless it refers to groups. -/
def node? : Expression → Option Node
  | empty => some .empty
  | set s => some (.set s)
  | place a => some (.assertion a wordBytes)
  | group index body => (body.node?).map (.capture index)
  | sequence a b => do return .sequence (← a.node?) (← b.node?)
  | either a b => do return .either (← a.node?) (← b.node?)
  | repetition body least most => do return .repeated (← body.node?) least most true
  | again _ => none

def groups : Expression → Nat
  | group index body => max index body.groups
  | sequence a b | either a b => max a.groups b.groups
  | repetition body .. => body.groups
  | _ => 0

end Expression

/-- Where an attempt to match is: what is left, how far it is, the character before, and the marks
set, latest first. -/
structure Attempt where
  rest : List Char
  position : Nat
  before : Option Char
  marks : Marks

namespace Attempt

def take (a : Attempt) (n : Nat) : Attempt :=
  { a with
    rest := a.rest.drop n, position := a.position + n
    before := if n = 0 then a.before else (a.rest[n - 1]?).or a.before }

/-- Where a group starts and ends. -/
def span? (marks : Marks) (index : Nat) : Option (Nat × Nat) := do
  return (← marks.lookup (2 * index), ← marks.lookup (2 * index + 1))

end Attempt

/-- The first way to match an expression that lets the rest succeed. The longer repetitions are
tried first. `text` is all of the text. -/
def tryExpression (text : List Char) : (fuel : Nat) → Expression → Attempt →
    (Attempt → Option Attempt) → Option Attempt
  | 0, _, _, _ => none
  | fuel + 1, e, a, k =>
      match e with
      | .empty => k a
      | .set s =>
          match a.rest with
          | c :: _ => if s.contains c then k (a.take 1) else none
          | [] => none
      | .place p => if p.holds wordBytes a.before a.rest.head? then k a else none
      | .group index body =>
          tryExpression text fuel body { a with marks := (2 * index, a.position) :: a.marks }
            fun b => k { b with marks := (2 * index + 1, b.position) :: b.marks }
      | .sequence first second =>
          tryExpression text fuel first a fun b => tryExpression text fuel second b k
      | .either first second =>
          (tryExpression text fuel first a k).or (tryExpression text fuel second a k)
      | .repetition body least most =>
          let on : Option Attempt :=
            if most = some 0 then none
            else tryExpression text fuel body a fun b =>
              if b.position = a.position ∧ least = 0 then none
              else
                tryExpression text fuel (.repetition body (least - 1) (most.map (· - 1))) b k
          if least = 0 then on.or (k a) else on
      | .again index =>
          match Attempt.span? a.marks index with
          | none => none
          | some (start, stop) =>
              let taken := (text.drop start).take (stop - start)
              if taken.isPrefixOf a.rest then k (a.take taken.length) else none

/-- An expression that is ready for matching. -/
structure Finder where
  expression : Expression
  machine : Option Machine
  groups : Nat

namespace Finder

/-- Make an expression ready. -/
def ofExpression (e : Expression) : Finder where
  expression := e
  machine := (e.node?).map fun n => { Machine.ofNode n [] with longest := true }
  groups := e.groups

/-- Make an expression ready that is still to be read. -/
def read (d : Dialect) (s : String) : Except Misspelling Finder :=
  (Expression.read d s).map ofExpression

/-- A match: where it starts and ends, and the marks of its groups. -/
structure Hit where
  start : Nat
  stop : Nat
  marks : Marks

/-- Where a group starts and ends; group 0 is the whole match. -/
def Hit.span? (h : Hit) (index : Nat) : Option (Nat × Nat) :=
  if index = 0 then some (h.start, h.stop) else Attempt.span? h.marks index

def matchAt (f : Finder) (text : List Char) (offset : Nat) (before : Option Char)
    (rest : List Char) : Option Hit :=
  match f.machine with
  | some machine =>
      (machine.matchHere offset before rest).map fun found =>
        ⟨offset, offset + found.length, found.marks⟩
  | none =>
      (tryExpression text (40 * (rest.length + 2)) f.expression ⟨rest, offset, before, []⟩
        some).map fun a => ⟨offset, a.position, a.marks⟩

def findIn (f : Finder) (text : List Char) : (offset : Nat) → (before : Option Char) →
    (rest : List Char) → Option Hit
  | offset, before, rest =>
      match f.matchAt text offset before rest, rest with
      | some hit, _ => some hit
      | none, [] => none
      | none, c :: rest => findIn f text (offset + 1) (some c) rest

/-- The first match at or behind an offset of a text. -/
def find (f : Finder) (text : List Char) (offset : Nat := 0) : Option Hit :=
  f.findIn text offset (if offset = 0 then none else text[offset - 1]?) (text.drop offset)

end Finder

end ReplyScript.Utility
