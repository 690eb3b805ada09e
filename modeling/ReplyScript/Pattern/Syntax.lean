import ReplyScript.Pattern.Problem

/-! # The syntax of patterns

A pattern as it is written. Every part knows the extent of the text it was read from. `tooDeep`
finds the first part that is nested deeper than patterns may be.
-/

namespace ReplyScript.Pattern

/-- A character that is written in a pattern. -/
structure Literal where
  char : Char
  extent : Extent
  /-- Written by two hexadecimal digits, which may also mean a byte. -/
  byCode : Bool := false
  deriving Repr, DecidableEq, BEq, Inhabited

/-- The classes that have a letter. -/
inductive LetterClass where
  | digit
  | space
  | word
  deriving Repr, DecidableEq, BEq, Inhabited

/-- Which Unicode property is asked for. -/
inductive PropertyQuery where
  | named (name : String)
  | valued (name value : String)
  deriving Repr, DecidableEq, BEq, Inhabited

/-- The operators between parts of a class. -/
inductive ClassOperator where
  | intersection
  | difference
  | symmetricDifference
  deriving Repr, DecidableEq, BEq, Inhabited

/-- What stands between the brackets of a class. -/
inductive ClassSyntax where
  | nothing
  | literal (l : Literal)
  | range (extent : Extent) (low high : Literal)
  /-- A class that is named between colons. -/
  | named (extent : Extent) (name : String) (negated : Bool)
  | letter (extent : Extent) (letter : LetterClass) (negated : Bool)
  | property (extent : Extent) (query : PropertyQuery) (negated : Bool)
  | bracketed (extent : Extent) (negated : Bool) (body : ClassSyntax)
  | union (extent : Extent) (items : List ClassSyntax)
  | operation (extent : Extent) (operator : ClassOperator) (left right : ClassSyntax)
  deriving Inhabited

namespace ClassSyntax

/-- Items one after the other, which lie in an extent. -/
def ofItems (extent : Extent) : List ClassSyntax → ClassSyntax
  | [] => nothing
  | [item] => item
  | items => union extent items

/-- Where a part of a class lies; nothing lies at `place`. -/
def extent (place : Extent) : ClassSyntax → Extent
  | nothing => place
  | literal l => l.extent
  | range e .. | named e .. | letter e .. | property e .. | bracketed e .. | union e ..
  | operation e .. => e

end ClassSyntax

/-- Conditions on a place as they are written. -/
inductive Anchor where
  | lineStart
  | lineEnd
  | textStart
  | textEnd
  | wordBoundary
  | notWordBoundary
  | wordStart
  | wordEnd
  | wordStartHalf
  | wordEndHalf
  deriving Repr, DecidableEq, BEq, Inhabited

/-- Flags that are turned on or off, by their letters. -/
abbrev FlagChanges := List (Char × Bool)

/-- How a group is written. -/
inductive GroupKind where
  | capture (index : Nat)
  | flagged (changes : FlagChanges)
  deriving Repr, DecidableEq, BEq, Inhabited

/-- A pattern as it is written. -/
inductive Syntax where
  | empty
  | flags (extent : Extent) (changes : FlagChanges)
  | literal (l : Literal)
  | dot (extent : Extent)
  | anchor (extent : Extent) (a : Anchor)
  | letter (extent : Extent) (letter : LetterClass) (negated : Bool)
  | property (extent : Extent) (query : PropertyQuery) (negated : Bool)
  | bracketed (extent : Extent) (negated : Bool) (body : ClassSyntax)
  | repetition (extent : Extent) (body : Syntax) (least : Nat) (most : Option Nat) (greedy : Bool)
  | group (extent : Extent) (kind : GroupKind) (body : Syntax)
  | alternatives (extent : Extent) (branches : List Syntax)
  | sequence (extent : Extent) (parts : List Syntax)
  deriving Inhabited

namespace Syntax

def start (place : Nat) : Syntax → Nat
  | empty => place
  | literal l => l.extent.start
  | flags e .. | dot e | anchor e .. | letter e .. | property e .. | bracketed e ..
  | repetition e .. | group e .. | alternatives e .. | sequence e .. => e.start

/-- Parts one after the other, which lie in an extent. -/
def ofParts (extent : Extent) : List Syntax → Syntax
  | [] => empty
  | [part] => part
  | parts => sequence extent parts

end Syntax

/-- How deep brackets, groups and repetitions may be nested. -/
def nestLimit : Nat := 250

mutual

/-- The first part of a class that is nested too deep, below `depth` others. -/
def ClassSyntax.tooDeep (depth : Nat) : ClassSyntax → Option Extent
  | .bracketed e _ body => if depth < nestLimit then body.tooDeep (depth + 1) else some e
  | .union e items => if depth < nestLimit then anyTooDeep (depth + 1) items else some e
  | .operation e _ left right =>
      if depth < nestLimit then (left.tooDeep (depth + 1)).or (right.tooDeep (depth + 1))
      else some e
  | _ => none

/-- The first of the items of a class that is nested too deep. -/
def anyTooDeep (depth : Nat) : List ClassSyntax → Option Extent
  | [] => none
  | item :: items => (item.tooDeep depth).or (anyTooDeep depth items)

end

mutual

/-- The first part of a pattern that is nested too deep, below `depth` others. -/
def Syntax.tooDeep (depth : Nat) : Syntax → Option Extent
  | .bracketed e _ body => if depth < nestLimit then body.tooDeep (depth + 1) else some e
  | .repetition e body .. => if depth < nestLimit then body.tooDeep (depth + 1) else some e
  | .group e _ body => if depth < nestLimit then body.tooDeep (depth + 1) else some e
  | .alternatives e branches | .sequence e branches =>
      if depth < nestLimit then anyPartTooDeep (depth + 1) branches else some e
  | _ => none

/-- The first of several parts that is nested too deep. -/
def anyPartTooDeep (depth : Nat) : List Syntax → Option Extent
  | [] => none
  | part :: parts => (part.tooDeep depth).or (anyPartTooDeep depth parts)

end

end ReplyScript.Pattern
