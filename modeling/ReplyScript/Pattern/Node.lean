import ReplyScript.Text.CharSet

/-! # Patterns

A pattern is a regular expression over characters with preferences: of the ways to match at one
place, an alternative to the left is preferred, and a greedy repetition prefers to go on.
-/

namespace ReplyScript.Pattern

open Text (CharSet)

/-- Conditions on a place between two characters. -/
inductive Assertion where
  | textStart
  | textEnd
  | lineStart
  | lineEnd
  /-- Where lines may also end in carriage returns. -/
  | anyLineStart
  | anyLineEnd
  | wordBoundary
  | notWordBoundary
  | wordStart
  | wordEnd
  | wordStartHalf
  | wordEndHalf
  deriving Repr, DecidableEq, BEq

/-- A regular expression. -/
inductive Node where
  | empty
  | set (s : CharSet)
  /-- A condition on the place; `isWord` says which characters make words. -/
  | assertion (a : Assertion) (isWord : CharSet)
  | capture (index : Nat) (body : Node)
  | sequence (first second : Node)
  | either (first second : Node)
  /-- At least `least` times, and at most `most` times if that is set. -/
  | repetition (body : Node) (least : Nat) (most : Option Nat) (greedy : Bool)

namespace Node

/-- Whether a node may match without taking a character. -/
def nullable : Node → Bool
  | empty | assertion .. => true
  | set _ => false
  | capture _ body => body.nullable
  | sequence a b => a.nullable && b.nullable
  | either a b => a.nullable || b.nullable
  | repetition body least _ _ => least == 0 || body.nullable

/-- Whether a node matches no character in any way. -/
def takesNothing : Node → Bool
  | empty | assertion .. => true
  | set _ => false
  | capture _ body => body.takesNothing
  | sequence a b => a.takesNothing && b.takesNothing
  | either a b => a.takesNothing && b.takesNothing
  | repetition body _ most _ => most == some 0 || body.takesNothing

def repeated (body : Node) (least : Nat) (most : Option Nat) (greedy : Bool) : Node :=
  let (least, most) :=
    if body.takesNothing then (min least 1, some (min (most.getD 1) 1)) else (least, most)
  if most = some 0 then empty
  else if least = 1 ∧ most = some 1 then body
  else repetition body least most greedy

end Node

/-- Whether a condition holds between two characters; `none` is the end of the text. -/
def Assertion.holds (a : Assertion) (isWord : CharSet) (before after : Option Char) : Bool :=
  let wordBefore := (before.map isWord.contains).getD false
  let wordAfter := (after.map isWord.contains).getD false
  match a with
  | textStart => before.isNone
  | textEnd => after.isNone
  | lineStart => before.isNone || before == some '\n'
  | lineEnd => after.isNone || after == some '\n'
  | anyLineStart =>
      before.isNone || before == some '\n' || (before == some '\r' && after != some '\n')
  | anyLineEnd =>
      after.isNone || after == some '\r' || (after == some '\n' && before != some '\r')
  | wordBoundary => wordBefore != wordAfter
  | notWordBoundary => wordBefore == wordAfter
  | wordStart => !wordBefore && wordAfter
  | wordEnd => wordBefore && !wordAfter
  | wordStartHalf => !wordBefore
  | wordEndHalf => !wordAfter

end ReplyScript.Pattern
