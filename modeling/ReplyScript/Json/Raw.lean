import ReplyScript.Json.Reader

/-! # Values that are read only where they matter

A raw value is the text of a value. That the text has the form of a value is checked when it is cut
out; whether its strings write characters and its numbers fit is only asked of those that are read.
Raw values may be nested to any depth.
-/

namespace ReplyScript.Json

/-- The text of a value, without blanks around it. -/
structure Raw where
  text : List Char
  deriving Repr, DecidableEq, BEq, Inhabited

/-- Pass a string behind its opening quote. Escapes of units need not write characters. -/
def skipString : List Char → Option (List Char)
  | [] => none
  | '"' :: rest => some rest
  | '\\' :: 'u' :: a :: b :: c :: d :: rest =>
      if (hexUnit? a b c d).isSome then skipString rest else none
  | '\\' :: c :: rest => if (shortEscape? c).isSome then skipString rest else none
  | c :: rest => if c = '\\' ∨ c.toNat < 0x20 then none else skipString rest
termination_by structural cs => cs

/-- Pass a value that holds no other values. -/
def skipScalar : List Char → Option (List Char)
  | '"' :: rest => skipString rest
  | 't' :: rest => afterWord? ['r', 'u', 'e'] rest
  | 'f' :: rest => afterWord? ['a', 'l', 's', 'e'] rest
  | 'n' :: rest => afterWord? ['u', 'l', 'l'] rest
  | cs => (NumberText.read cs).map (·.2)

/-- What a value lies in. -/
inductive Frame where
  | array
  | object
  deriving Repr, DecidableEq, BEq

/-- What comes next while values are passed. -/
inductive Awaited where
  | value
  | member
  /-- What may follow a value. -/
  | next
  deriving Repr, DecidableEq, BEq

/-- Pass a value that lies in frames, and what follows it up to the end of them all. The fuel bounds
the steps. -/
def skipFrames : (fuel : Nat) → Awaited → List Frame → List Char → Option (List Char)
  | 0, _, _, _ => none
  | fuel + 1, .value, frames, cs =>
      match cs.dropWhile isSpace with
      | '[' :: rest =>
          match rest.dropWhile isSpace with
          | ']' :: rest => skipFrames fuel .next frames rest
          | rest => skipFrames fuel .value (.array :: frames) rest
      | '\x7b' :: rest =>
          match rest.dropWhile isSpace with
          | '\x7d' :: rest => skipFrames fuel .next frames rest
          | rest => skipFrames fuel .member (.object :: frames) rest
      | cs => (skipScalar cs).bind (skipFrames fuel .next frames)
  | fuel + 1, .member, frames, cs =>
      match cs.dropWhile isSpace with
      | '"' :: rest =>
          match (skipString rest).map (·.dropWhile isSpace) with
          | some (':' :: rest) => skipFrames fuel .value frames rest
          | _ => none
      | _ => none
  | _ + 1, .next, [], cs => some cs
  | fuel + 1, .next, frame :: frames, cs =>
      match frame, cs.dropWhile isSpace with
      | .array, ',' :: rest => skipFrames fuel .value (.array :: frames) rest
      | .array, ']' :: rest => skipFrames fuel .next frames rest
      | .object, ',' :: rest => skipFrames fuel .member (.object :: frames) rest
      | .object, '\x7d' :: rest => skipFrames fuel .next frames rest
      | _, _ => none

namespace Raw

/-- Cut out the value at the start of `cs`. -/
def read (cs : List Char) : Option (Raw × List Char) := do
  let cs := cs.dropWhile isSpace
  let rest ← skipFrames (2 * cs.length + 2) .value [] cs
  return (⟨cs.take (cs.length - rest.length)⟩, rest)

/-- A text that is one value, with blanks around it. -/
def ofText? (s : String) : Option Raw := do
  let (v, rest) ← read s.toList
  if rest.all isSpace then some v else none

def isNull (v : Raw) : Bool :=
  v.text == ['n', 'u', 'l', 'l']

def text? (v : Raw) : Option String :=
  match v.text with
  | '"' :: rest => (unescape rest).map fun (s, _) => String.ofList s
  | _ => none

/-- The items of an array behind its opening bracket or a comma. The fuel bounds their number. -/
def itemsFrom : (fuel : Nat) → List Char → Option (List Raw)
  | 0, _ => none
  | fuel + 1, cs => do
      let (v, rest) ← read cs
      match rest.dropWhile isSpace with
      | ',' :: rest => return v :: (← itemsFrom fuel rest)
      | _ => return [v]

def items? (v : Raw) : Option (List Raw) :=
  match v.text with
  | '[' :: rest =>
      match rest.dropWhile isSpace with
      | ']' :: _ => some []
      | rest => itemsFrom rest.length rest
  | _ => none

/-- The members of an object behind its opening brace or a comma. Their names must be strings of
characters. The fuel bounds their number. -/
def membersFrom : (fuel : Nat) → List Char → Option (List (String × Raw))
  | 0, _ => none
  | fuel + 1, cs => do
      match cs.dropWhile isSpace with
      | '"' :: rest =>
          let (name, rest) ← unescape rest
          let (v, rest) ← read ((rest.dropWhile isSpace).drop 1)
          let member := (String.ofList name, v)
          match rest.dropWhile isSpace with
          | ',' :: rest => return member :: (← membersFrom fuel rest)
          | _ => return [member]
      | _ => none

def members? (v : Raw) : Option (List (String × Raw)) :=
  match v.text with
  | '\x7b' :: rest =>
      match rest.dropWhile isSpace with
      | '\x7d' :: _ => some []
      | rest => membersFrom rest.length rest
  | _ => none

end Raw

end ReplyScript.Json
