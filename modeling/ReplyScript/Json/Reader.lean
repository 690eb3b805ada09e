import ReplyScript.Json.Value

/-! # Reading JSON texts

`scalar?` reads a text that is one string, number or literal; `Value.read?` reads a whole value.
Both allow blanks around the value and nothing else. Arrays and objects nest at most 127 deep.
-/

namespace ReplyScript.Json

def isSpace (c : Char) : Bool :=
  c == ' ' || c == '\t' || c == '\n' || c == '\r'

/-- A value that holds no other values. -/
inductive Scalar where
  | null
  | boolean (b : Bool)
  | number (n : Number)
  | text (s : String)
  deriving Repr, DecidableEq, BEq

def afterWord? : List Char → List Char → Option (List Char)
  | [], cs => some cs
  | w :: ws, c :: cs => if w = c then afterWord? ws cs else none
  | _ :: _, [] => none

def readScalar (cs : List Char) : Option (Scalar × List Char) :=
  match cs with
  | '"' :: rest => (unescape rest).map fun (s, rest) => (.text (String.ofList s), rest)
  | 't' :: rest => (afterWord? ['r', 'u', 'e'] rest).map fun rest => (.boolean true, rest)
  | 'f' :: rest => (afterWord? ['a', 'l', 's', 'e'] rest).map fun rest => (.boolean false, rest)
  | 'n' :: rest => (afterWord? ['u', 'l', 'l'] rest).map fun rest => (.null, rest)
  | cs => do
      let (t, rest) ← NumberText.read cs
      let n ← t.value?
      return (.number n, rest)

/-- A text that is one scalar, with blanks around it. -/
def scalar? (s : String) : Option Scalar :=
  match readScalar (s.toList.dropWhile isSpace) with
  | some (x, rest) => if rest.all isSpace then some x else none
  | none => none

def Scalar.toValue : Scalar → Value
  | .null => .null
  | .boolean b => .boolean b
  | .number n => .number n
  | .text s => .text s

/-- Arrays and objects nest to less than this depth. -/
def depthLimit : Nat := 128

mutual

/-- Read the value at the start of `cs`. `depth` levels are left, `fuel` bounds the steps. -/
def readValue (fuel depth : Nat) (cs : List Char) : Option (Value × List Char) :=
  match fuel with
  | 0 => none
  | fuel + 1 =>
    match cs.dropWhile isSpace with
    | '[' :: rest =>
        if depth ≤ 1 then none
        else match rest.dropWhile isSpace with
          | ']' :: rest => some (.array [], rest)
          | rest => (readItems fuel (depth - 1) rest).map fun (vs, rest) => (.array vs, rest)
    | '\x7b' :: rest =>
        if depth ≤ 1 then none
        else match rest.dropWhile isSpace with
          | '\x7d' :: rest => some (.object [], rest)
          | rest => (readMembers fuel (depth - 1) rest).map fun (ms, rest) => (.object ms, rest)
    | cs => (readScalar cs).map fun (x, rest) => (x.toValue, rest)

/-- Read the items of an array up to its closing bracket. -/
def readItems (fuel depth : Nat) (cs : List Char) : Option (List Value × List Char) :=
  match fuel with
  | 0 => none
  | fuel + 1 => do
    let (v, rest) ← readValue fuel depth cs
    match rest.dropWhile isSpace with
    | ',' :: rest =>
        let (vs, rest) ← readItems fuel depth rest
        return (v :: vs, rest)
    | ']' :: rest => return ([v], rest)
    | _ => none

/-- Read the members of an object up to its closing brace. -/
def readMembers (fuel depth : Nat) (cs : List Char) :
    Option (List (String × Value) × List Char) :=
  match fuel with
  | 0 => none
  | fuel + 1 =>
    match cs.dropWhile isSpace with
    | '"' :: rest => do
        let (name, rest) ← unescape rest
        match rest.dropWhile isSpace with
        | ':' :: rest =>
            let (v, rest) ← readValue fuel depth rest
            let member := (String.ofList name, v)
            match rest.dropWhile isSpace with
            | ',' :: rest =>
                let (ms, rest) ← readMembers fuel depth rest
                return (member :: ms, rest)
            | '\x7d' :: rest => return ([member], rest)
            | _ => none
        | _ => none
    | _ => none

end

/-- A text that is one value, with blanks around it. -/
def Value.read? (s : String) : Option Value :=
  let cs := s.toList
  match readValue (2 * cs.length + 2) depthLimit cs with
  | some (v, rest) => if rest.all isSpace then some v else none
  | none => none

end ReplyScript.Json
