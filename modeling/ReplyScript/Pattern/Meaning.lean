import ReplyScript.Pattern.Node
import ReplyScript.Pattern.Parser
import ReplyScript.Pattern.Property
import ReplyScript.Text.CaseFold

/-! # What patterns mean

`Syntax.node` makes a regular expression of a pattern. Flags say how a part is meant. Without the
flag for Unicode a pattern speaks of bytes, and it must not match any that are not ASCII, because a
match has to end between characters.
-/

namespace ReplyScript.Pattern

open Text (CharSet)

/-- How parts of a pattern are meant. -/
structure Flags where
  ignoreCase : Bool := false
  /-- Whether anchors of lines hold at all lines, not only at the ends of the text. -/
  manyLines : Bool := false
  dotTakesLineEnd : Bool := false
  /-- Whether greedy and reluctant repetitions change places. -/
  swapGreed : Bool := false
  unicode : Bool := true
  /-- Whether carriage returns end lines, too. -/
  anyLineEnd : Bool := false
  deriving Repr, DecidableEq, BEq, Inhabited

def Flags.set (flags : Flags) (letter : Char) (on : Bool) : Flags :=
  match letter with
  | 'i' => { flags with ignoreCase := on }
  | 'm' => { flags with manyLines := on }
  | 's' => { flags with dotTakesLineEnd := on }
  | 'U' => { flags with swapGreed := on }
  | 'u' => { flags with unicode := on }
  | 'R' => { flags with anyLineEnd := on }
  | _ => flags

def Flags.change (flags : Flags) (changes : FlagChanges) : Flags :=
  changes.foldl (fun flags (letter, on) => flags.set letter on) flags

def refusePart (problem : Problem) (place : Extent) : Except PatternError α :=
  .error (.unreadable problem place none)

/-- All bytes, each as the character with its number. -/
def allBytes : CharSet := .ofRanges [(0, 255)]

/-- The set with both cases of every ASCII letter in it. -/
def foldAscii (set : CharSet) : CharSet :=
  let shifted (low high : Nat) (shift : Int) : CharSet :=
    .ofRanges (((set.inter (.ofRanges [(low, high)])).ranges.toList).map fun (a, b) =>
      ((a + shift).toNat, (b + shift).toNat))
  .unions [set, shifted 65 90 32, shifted 97 122 (-32)]

/-- The set without regard to case, if flags say so. -/
def Flags.fold (flags : Flags) (set : CharSet) : CharSet :=
  if !flags.ignoreCase then set else if flags.unicode then set.foldCase else foldAscii set

/-- The set, or what is not in it. What bytes are matched must be ASCII. -/
def Flags.negate (flags : Flags) (place : Extent) (negated : Bool) (set : CharSet) :
    Except PatternError CharSet :=
  if flags.unicode then .ok (if negated then set.complement else set)
  else
    let set := if negated then allBytes.diff set else set
    if set.isAscii then .ok set else refusePart .invalidUtf8 place

def Flags.property (flags : Flags) (place : Extent) (query : PropertyQuery) (negated : Bool) :
    Except PatternError CharSet :=
  if !flags.unicode then refusePart .unicodeNotAllowed place
  else match query.set with
    | .ok set => flags.negate place negated (flags.fold set)
    | .error problem => refusePart problem place

/-- The set of a class with a letter, which has both cases of every letter in it. -/
def Flags.letter (flags : Flags) (place : Extent) (letter : LetterClass) (negated : Bool) :
    Except PatternError CharSet :=
  flags.negate place negated (if flags.unicode then letter.set else letter.asciiSet)

/-- The character of a literal. A code of two digits is that of a byte when bytes are matched. -/
def Flags.char (flags : Flags) (l : Literal) : Except PatternError Char :=
  if !flags.unicode && l.byCode && l.char.toNat > 127 then refusePart .invalidUtf8 l.extent
  else .ok l.char

def Flags.classChar (flags : Flags) (l : Literal) : Except PatternError Char := do
  let c ← flags.char l
  if !flags.unicode && c.toNat > 127 then refusePart .unicodeNotAllowed l.extent else return c

mutual

def ClassSyntax.set (flags : Flags) : ClassSyntax → Except PatternError CharSet
  | .nothing => return .empty
  | .literal l => return .single (← flags.classChar l)
  | .range _ low high => return .range (← flags.classChar low) (← flags.classChar high)
  | .named e name negated => flags.negate e negated (flags.fold (classByName name))
  | .letter e l negated => flags.letter e l negated
  | .property e query negated => flags.property e query negated
  | .bracketed e negated body => do flags.negate e negated (flags.fold (← body.set flags))
  | .union _ items => return .unions (← setsOfItems flags items)
  | .operation _ operator left right => do
      let left := flags.fold (← left.set flags)
      let right := flags.fold (← right.set flags)
      return match operator with
        | .intersection => left.inter right
        | .difference => left.diff right
        | .symmetricDifference => left.symmetricDiff right

def setsOfItems (flags : Flags) : List ClassSyntax → Except PatternError (List CharSet)
  | [] => return []
  | item :: items => return (← item.set flags) :: (← setsOfItems flags items)

end

def Flags.dot (flags : Flags) (place : Extent) : Except PatternError CharSet :=
  if !flags.unicode then refusePart .invalidUtf8 place
  else if flags.dotTakesLineEnd then .ok .all
  else if flags.anyLineEnd then .ok (CharSet.ofChars "\r\n").complement
  else .ok (CharSet.single '\n').complement

def Flags.assertion (flags : Flags) : Anchor → Assertion
  | .lineStart =>
      if !flags.manyLines then .textStart else if flags.anyLineEnd then .anyLineStart else .lineStart
  | .lineEnd =>
      if !flags.manyLines then .textEnd else if flags.anyLineEnd then .anyLineEnd else .lineEnd
  | .textStart => .textStart
  | .textEnd => .textEnd
  | .wordBoundary => .wordBoundary
  | .notWordBoundary => .notWordBoundary
  | .wordStart => .wordStart
  | .wordEnd => .wordEnd
  | .wordStartHalf => .wordStartHalf
  | .wordEndHalf => .wordEndHalf

def Flags.wordSet (flags : Flags) : CharSet :=
  if flags.unicode then LetterClass.word.set else LetterClass.word.asciiSet

def Anchor.isAboutWords : Anchor → Bool
  | .lineStart | .lineEnd | .textStart | .textEnd => false
  | _ => true

def Flags.literal (flags : Flags) (l : Literal) : Except PatternError Node :=
  return .set (flags.fold (.single (← flags.char l)))

mutual

/-- The node of a part of a pattern, and the flags that hold behind it. -/
def Syntax.node (flags : Flags) : Syntax → Except PatternError (Node × Flags)
  | .empty => return (.empty, flags)
  | .flags _ changes => return (.empty, flags.change changes)
  | .literal l => return (← flags.literal l, flags)
  | .dot e => return (.set (← flags.dot e), flags)
  | .anchor _ a =>
      return (.assertion (flags.assertion a) (if a.isAboutWords then flags.wordSet else .empty),
        flags)
  | .letter e l negated => return (.set (← flags.letter e l negated), flags)
  | .property e query negated => return (.set (← flags.property e query negated), flags)
  | .bracketed e negated body => do
      return (.set (← flags.negate e negated (flags.fold (← body.set flags))), flags)
  | .repetition _ body least most greedy => do
      let (node, flags) ← body.node flags
      return (node.repeated least most (greedy != flags.swapGreed), flags)
  | .group _ kind body => do
      match kind with
      | .capture index => return (.capture index (← body.node flags).1, flags)
      | .flagged changes => return ((← body.node (flags.change changes)).1, flags)
  | .alternatives _ branches => do
      let (nodes, flags) ← nodesOf flags branches
      return (match nodes.reverse with
        | [] => .empty
        | last :: before => before.foldl (fun later n => .either n later) last, flags)
  | .sequence _ parts => do
      let (nodes, flags) ← nodesOf flags parts
      return (nodes.reverse.foldl (fun rest n => .sequence n rest) .empty, flags)

/-- The nodes of several parts, and the flags that hold behind them. -/
def nodesOf (flags : Flags) : List Syntax → Except PatternError (List Node × Flags)
  | [] => return ([], flags)
  | part :: parts => do
      let (node, flags) ← part.node flags
      let (nodes, flags) ← nodesOf flags parts
      return (node :: nodes, flags)

end

/-- The regular expression of a pattern, with the numbers of the captures that have a name. -/
def Node.ofPattern (flags : Flags) (pattern : String) :
    Except PatternError (Node × List (String × Nat)) := do
  let (body, names) ← Syntax.ofPattern pattern
  let (node, _) ← body.node flags
  return (node, names)

end ReplyScript.Pattern
