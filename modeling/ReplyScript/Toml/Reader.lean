import ReplyScript.Toml.Number
import ReplyScript.Toml.Quoted

/-! # Reading TOML documents

`read?` reads a whole document into the members of its table. A document is a list of lines: blank
lines, comments, headers, and keys with their values; only values may go over several lines.
-/

namespace ReplyScript.Toml

/-- Arrays and tables nest to less than this depth, and keys have fewer parts. -/
def depthLimit : Nat := 80

/-- The characters of a key without quotes. -/
def isKeyChar (c : Char) : Bool :=
  c.isAlphanum || c == '_' || c == '-'

def readKeyPart (cs : List Char) : Option (String × List Char) :=
  match cs with
  | '"' :: rest => (readBasic (rest.length + 1) rest).map fun (s, rest) => (String.ofList s, rest)
  | '\x27' :: rest => (readLiteral rest).map fun (s, rest) => (String.ofList s, rest)
  | cs =>
      match cs.takeWhile isKeyChar with
      | [] => none
      | part => some (String.ofList part, cs.dropWhile isKeyChar)

/-- Read a key: parts with points between them, and blanks around the parts. `most` is how many parts
it may have. -/
def readKey : (most : Nat) → List Char → Option (List String × List Char)
  | 0, _ => none
  | most + 1, cs => do
      let (part, rest) ← readKeyPart (cs.dropWhile isSpace)
      match rest.dropWhile isSpace with
      | '.' :: rest =>
          let (parts, rest) ← readKey most rest
          return (part :: parts, rest)
      | rest => return ([part], rest)

def skipComment : List Char → List Char
  | '#' :: rest => rest.dropWhile isPlain
  | cs => cs

/-- Remove blanks, comments and line ends. -/
def skipLines : (fuel : Nat) → List Char → List Char
  | 0, cs => cs
  | fuel + 1, cs =>
      let cs := cs.dropWhile isSpace
      match afterNewline? cs, cs with
      | some rest, _ => skipLines fuel rest
      | none, '#' :: rest => skipLines fuel (rest.dropWhile isPlain)
      | none, _ => cs

mutual

/-- Read the value at the start of `cs`. `depth` levels are left, `fuel` bounds the steps. -/
def readValue (fuel depth : Nat) (cs : List Char) : Option (Value × List Char) :=
  match fuel with
  | 0 => none
  | fuel + 1 =>
    match cs with
    | '"' :: _ | '\x27' :: _ =>
        (readText cs).map fun (s, rest) => (.text (String.ofList s), rest)
    | 't' :: 'r' :: 'u' :: 'e' :: rest => some (.boolean true, rest)
    | 'f' :: 'a' :: 'l' :: 's' :: 'e' :: rest => some (.boolean false, rest)
    | '[' :: rest =>
        if depth ≤ 1 then none
        else (readItems fuel (depth - 1) rest).map fun (items, rest) => (.array items, rest)
    | '\x7b' :: rest =>
        if depth ≤ 1 then none
        else match rest.dropWhile isSpace with
          | '\x7d' :: rest => some (.table .closed [], rest)
          | rest => (readMembers fuel (depth - 1) [] rest).map fun (ms, rest) =>
              (.table .closed ms, rest)
    | cs => if startsMoment cs then (readMoment cs).map (.moment, ·) else readNumber cs

/-- Read the items of an array up to its closing bracket. A comma may follow the last one. -/
def readItems (fuel depth : Nat) (cs : List Char) : Option (List Value × List Char) :=
  match fuel with
  | 0 => none
  | fuel + 1 =>
    match skipLines cs.length cs with
    | ']' :: rest => some ([], rest)
    | cs => do
        let (v, rest) ← readValue fuel depth cs
        match skipLines rest.length rest with
        | ',' :: rest =>
            let (vs, rest) ← readItems fuel depth rest
            return (v :: vs, rest)
        | ']' :: rest => return ([v], rest)
        | _ => none

/-- Read the members of a table in braces up to its closing brace. -/
def readMembers (fuel depth : Nat) (ms : Members) (cs : List Char) :
    Option (Members × List Char) :=
  match fuel with
  | 0 => none
  | fuel + 1 => do
    let (ms, rest) ← readMember fuel depth ms cs
    match rest.dropWhile isSpace with
    | ',' :: rest => readMembers fuel depth ms rest
    | '\x7d' :: rest => return (ms, rest)
    | _ => none

/-- Read a key with its value, and put it into a table. -/
def readMember (fuel depth : Nat) (ms : Members) (cs : List Char) :
    Option (Members × List Char) :=
  match fuel with
  | 0 => none
  | fuel + 1 => do
    let (key, rest) ← readKey (depthLimit - 1) cs
    match rest with
    | '=' :: rest =>
        let (v, rest) ← readValue fuel depth (rest.dropWhile isSpace)
        return (← ms.assign v key, rest)
    | _ => none

end

/-- A document that is being read: its table, and the header that the next keys belong to. -/
structure Draft where
  members : Members
  header : List String

/-- Read what stands on a line, which is no comment. -/
def Draft.readEntry (d : Draft) (cs : List Char) : Option (Draft × List Char) :=
  match cs with
  | '[' :: '[' :: rest => do
      let (path, rest) ← readKey (depthLimit - 1) rest
      match rest with
      | ']' :: ']' :: rest => return (⟨← d.members.openItem path, path⟩, rest)
      | _ => none
  | '[' :: rest => do
      let (path, rest) ← readKey (depthLimit - 1) rest
      match rest with
      | ']' :: rest => return (⟨← d.members.openTable path, path⟩, rest)
      | _ => none
  | cs => do
      let (key, rest) ← readKey (depthLimit - 1) cs
      match rest with
      | '=' :: rest =>
          let (v, rest) ← readValue (2 * rest.length + 2) depthLimit (rest.dropWhile isSpace)
          return ({ d with members := ← d.members.within (·.assign v key) d.header }, rest)
      | _ => none

/-- Read lines up to the end of the document. `fuel` bounds their number. -/
def Draft.readLines : (fuel : Nat) → Draft → List Char → Option Members
  | 0, _, _ => none
  | fuel + 1, d, cs =>
      match skipLines cs.length cs with
      | [] => some d.members
      | cs => do
          let (d, rest) ← d.readEntry cs
          match skipComment (rest.dropWhile isSpace) with
          | [] => return d.members
          | rest => d.readLines fuel (← afterNewline? rest)

/-- Read a document. A byte order mark may stand before it. -/
def read? (text : String) : Option Members :=
  let cs := match text.toList with
    | '\ufeff' :: cs => cs
    | cs => cs
  Draft.readLines (cs.length + 1) ⟨[], []⟩ cs

end ReplyScript.Toml
