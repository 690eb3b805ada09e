import ReplyScript.Text.Blank
import ReplyScript.Text.Property

/-! # Environments and environment files

An environment file adds variables to the environment, one on a line, but never changes a variable
that is set already. A quoted value or a backslash may carry a definition over several lines.
Reading ends at the first line that is not valid; what stands before it counts.
-/

namespace ReplyScript.CommandLine

abbrev Environment := List (String × String)

/-! ## Definitions -/

/-- Where the reading of a line is. -/
inductive LineMode where
  | plain
  /-- Behind the first blank of several. -/
  | blank
  | escape
  /-- In double quotes. -/
  | weak
  | weakEscape
  /-- In single quotes. -/
  | strong
  | strongEscape
  deriving Repr, DecidableEq, BEq, Inhabited

/-- Behind a character outside quotes. -/
def LineMode.enter : Char → LineMode
  | '\\' => escape
  | '"' => weak
  | '\x27' => strong
  | _ => plain

/-- Read one character; `none` if a comment starts with it. -/
def LineMode.step : LineMode → Char → Option LineMode
  | blank, '#' => none
  | blank, c => some (.enter c)
  | plain, c => some (if Text.isBlank c && c != '\n' && c != '\r' then blank else .enter c)
  | escape, _ => some plain
  | weak, c => some (if c = '\\' then weakEscape else if c = '"' then plain else weak)
  | weakEscape, _ => some weak
  | strong, c => some (if c = '\\' then strongEscape else if c = '\x27' then plain else strong)
  | strongEscape, _ => some strong

/-- Read a line: what stands before a comment, and the mode at its end if there is no comment. -/
def LineMode.scan (mode : LineMode) : List Char → List Char × Option LineMode
  | [] => ([], some mode)
  | c :: cs =>
      match mode.step c with
      | none => ([], none)
      | some mode =>
          let (kept, final) := mode.scan cs
          (c :: kept, final)

/-- The lines of a text, with their newlines. -/
def linesWithEnds (cs : List Char) : List (List Char) :=
  let pieces := cs.splitOn '\n'
  pieces.dropLast.map (· ++ ['\n']) ++ (pieces.getLast?.toList).filter (· ≠ [])

def withoutEnd (line : List Char) : List Char :=
  match line.reverse with
  | '\n' :: '\r' :: back | '\n' :: back => back.reverse
  | _ => line

/-- Put lines together to definitions. `none` stands for a definition that does not end. -/
def definitions (mode : LineMode) (before : List Char) :
    List (List Char) → List (Option (List Char))
  | [] => if mode = .plain then [] else [none]
  | line :: lines =>
      let whole := before ++ line
      if (whole.dropWhile Text.isBlank).head? = some '#' then
        some [] :: definitions .plain [] lines
      else match mode.scan line with
        | (kept, none) => some (before ++ kept) :: definitions .plain [] lines
        | (_, some .plain) => some (withoutEnd whole) :: definitions .plain [] lines
        | (_, some mode) => definitions mode whole lines

/-! ## Values -/

/-- Where the reading of a value is. `weak` tells whether it is in double quotes. -/
inductive ValueMode where
  | text (weak : Bool)
  | strong
  | escape (weak : Bool)
  /-- In a variable's name behind a dollar sign. -/
  | name (weak : Bool) (letters : List Char)
  /-- In a variable's name between braces. -/
  | braced (weak : Bool) (letters : List Char)
  /-- Behind the value. -/
  | ended
  | comment
  deriving Repr, DecidableEq, BEq, Inhabited

/-- A value that is being read. -/
structure Draft where
  text : List Char
  mode : ValueMode
  deriving Repr, DecidableEq, BEq, Inhabited

namespace Draft

def become (d : Draft) (mode : ValueMode) : Draft :=
  { d with mode }

/-- Add a character and go on in another mode. -/
def push (d : Draft) (c : Char) (mode : ValueMode) : Draft :=
  ⟨d.text ++ [c], mode⟩

def expand (value : String → String) (d : Draft) (letters : List Char) : Draft :=
  { d with text := d.text ++ (value (String.ofList letters)).toList }

/-- The characters of a variable's name behind a dollar sign. -/
def isNameLetter (c : Char) : Bool :=
  Text.isAlphanumeric c

/-- Read one character; `none` if it may not stand there. -/
def step (value : String → String) (d : Draft) (c : Char) : Option Draft :=
  match d.mode with
  | .comment => some d
  | .ended =>
      if c = ' ' ∨ c = '\t' then some d
      else if c = '#' then some (d.become .comment) else none
  | .escape weak =>
      if c ∈ ['\\', '\x27', '"', '$', ' '] then some (d.push c (.text weak))
      else if c = 'n' then some (d.push '\n' (.text weak)) else none
  | .strong => some (if c = '\x27' then d.become (.text false) else d.push c .strong)
  | .name weak letters =>
      if isNameLetter c then some (d.become (.name weak (letters ++ [c])))
      else if c = '\x7b' ∧ letters = [] then some (d.become (.braced weak []))
      else
        let d := d.expand value letters
        some (if c = '$' then d.become (.name weak []) else d.push c (.text weak))
  | .braced weak letters =>
      some (if c = '\x7d' then (d.expand value letters).become (.text weak)
        else d.become (.braced weak (letters ++ [c])))
  | .text weak =>
      if c = '$' then some (d.become (.name weak []))
      else if c = '\\' then some (d.become (.escape weak))
      else if c = '"' then some (d.become (.text !weak))
      else if weak then some (d.push c (.text true))
      else if c = '\x27' then some (d.become .strong)
      else if c = ' ' ∨ c = '\t' then some (d.become .ended)
      else some (d.push c (.text false))

/-- The value at the end of a definition; `none` if quotes or braces are open. -/
def close? (value : String → String) (d : Draft) : Option String :=
  match d.mode with
  | .text true | .strong | .escape true | .name true _ | .braced .. => none
  | .name false letters => some (String.ofList (d.expand value letters).text)
  | .text false | .escape false | .ended | .comment => some (String.ofList d.text)

end Draft

def readValue? (value : String → String) (cs : List Char) : Option String := do
  (← cs.foldlM (Draft.step value) ⟨[], .text false⟩).close? value

def readName? (cs : List Char) : Option (String × List Char) :=
  let isLetter (c : Char) : Bool := c.isAlphanum || c == '_' || c == '.'
  match cs with
  | c :: _ =>
      if c.isAlpha || c == '_' then
        some (String.ofList (cs.takeWhile isLetter), cs.dropWhile isLetter)
      else none
  | [] => none

/-- Remove an equals sign behind blanks. -/
def afterEquals? (cs : List Char) : Option (List Char) :=
  match cs.dropWhile Text.isBlank with
  | '=' :: rest => some rest
  | _ => none

/-- A definition in a file: a variable with the text of its value. The word `export` may stand
before it. The outer `none` is a line that is not valid, the inner one a line without a definition.
-/
def readDefinition? (line : List Char) : Option (Option (String × List Char)) :=
  match (Text.dropEndWhile Text.isBlank line).dropWhile Text.isBlank with
  | [] | '#' :: _ => some none
  | cs => do
      let (name, rest) ← readName? cs
      match afterEquals? rest with
      | some value => return some (name, value.dropWhile Text.isBlank)
      | none =>
          if name = "export" then
            let (name, rest) ← readName? (rest.dropWhile Text.isBlank)
            return some (name, (← afterEquals? rest).dropWhile Text.isBlank)
          else none

namespace Environment

/-- The value of a variable for a definition: from the environment, or from the file. -/
def valueIn (env file : Environment) (name : String) : String :=
  ((env.lookup name).or (file.lookup name)).getD ""

/-- Add the variables of a file's definitions. `file` holds those that were read before. -/
def addAll (env file : Environment) : List (Option (List Char)) → Environment
  | [] | none :: _ => env
  | some line :: lines =>
      match readDefinition? line with
      | none => env
      | some none => addAll env file lines
      | some (some (name, text)) =>
          let value := match text with
            | [] | '#' :: _ => some ""
            | text => readValue? (valueIn env file) text
          match value with
          | none => env
          | some value =>
              addAll (if (env.lookup name).isSome then env else env ++ [(name, value)])
                ((name, value) :: file) lines

/-- Add the variables of an environment file. A byte order mark may stand before its text. -/
def addFile (env : Environment) (text : String) : Environment :=
  let cs := match text.toList with
    | '\ufeff' :: cs => cs
    | cs => cs
  env.addAll [] (definitions .plain [] (linesWithEnds cs))

end Environment

end ReplyScript.CommandLine
