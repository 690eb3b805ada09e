/-! # Arguments of a command

A command takes options and at most one argument of its own. Options have a long name, some have a
letter too, and they may stand anywhere before a double dash. Arguments are read from left to right,
and the first thing that is wrong, or the first request for help, ends the reading.
-/

namespace ReplyScript.CommandLine

/-- What an option takes, or what it asks for. -/
inductive OptionKind where
  | flag
  | text
  /-- A path, which is not empty. -/
  | path
  /-- A text; the option may be given several times. -/
  | texts
  | help
  | version
  deriving Repr, DecidableEq, BEq, Inhabited

structure OptionSpec where
  long : String
  short : Option Char := none
  kind : OptionKind := .flag
  about : String
  deriving Repr, DecidableEq, BEq, Inhabited

def OptionSpec.takesValue (o : OptionSpec) : Bool :=
  match o.kind with
  | .text | .path | .texts => true
  | .flag | .help | .version => false

structure Grammar where
  name : String
  about : String
  /-- The name and the meaning of the command's own argument. -/
  argument : Option (String × String) := none
  options : List OptionSpec
  deriving Repr, DecidableEq, BEq, Inhabited

/-- Why reading arguments ends early. -/
inductive Stop where
  | help
  | version
  | misuse (problem : String)
  deriving Repr, DecidableEq, BEq, Inhabited

/-- What was given to a command. -/
structure Given where
  flags : List String := []
  /-- The values of options by long names, in order. -/
  values : List (String × String) := []
  argument : Option String := none
  deriving Repr, DecidableEq, BEq, Inhabited

namespace Given

def value? (g : Given) (long : String) : Option String :=
  g.values.lookup long

def valuesOf (g : Given) (long : String) : List String :=
  (g.values.filter (·.1 = long)).map (·.2)

/-- An option was given twice that may be given once. -/
def repeated (o : OptionSpec) : Stop :=
  .misuse ("the argument '--" ++ o.long ++ "' cannot be used multiple times")

/-- Take note of an option without a value. -/
def addFlag (g : Given) (o : OptionSpec) : Except Stop Given :=
  match o.kind with
  | .help => .error .help
  | .version => .error .version
  | _ =>
      if o.long ∈ g.flags then .error (repeated o)
      else .ok { g with flags := g.flags ++ [o.long] }

def addValue (g : Given) (o : OptionSpec) (v : String) : Except Stop Given :=
  if o.kind = .path ∧ v = "" then
    .error (.misuse ("a value is required for '--" ++ o.long ++ "' but none was supplied"))
  else if o.kind ≠ .texts ∧ (g.value? o.long).isSome then .error (repeated o)
  else .ok { g with values := g.values ++ [(o.long, v)] }

/-- Take note of the command's own argument. -/
def addArgument (spec : Grammar) (g : Given) (v : String) : Except Stop Given :=
  if spec.argument.isNone ∨ g.argument.isSome then
    .error (.misuse ("unexpected argument '" ++ v ++ "' found"))
  else .ok { g with argument := some v }

end Given

namespace Grammar

def ofLong? (spec : Grammar) (name : String) : Option OptionSpec :=
  spec.options.find? (·.long = name)

def ofShort? (spec : Grammar) (letter : Char) : Option OptionSpec :=
  spec.options.find? (·.short = some letter)

/-- Read the letters behind a single dash. A letter that takes a value takes what follows it, and
is returned if that is nothing. -/
def readLetters (spec : Grammar) (g : Given) : List Char → Except Stop (Given × Option OptionSpec)
  | [] => .ok (g, none)
  | c :: cs =>
      match spec.ofShort? c with
      | none => .error (.misuse ("unexpected argument '-" ++ String.ofList [c] ++ "' found"))
      | some o =>
          if o.takesValue then
            match cs with
            | [] => .ok (g, some o)
            | '=' :: v | v => (g.addValue o (String.ofList v)).map (·, none)
          else do spec.readLetters (← g.addFlag o) cs

/-- Read the text behind a double dash: a name, perhaps with a value behind an equals sign. An
option that takes a value is returned if there is none. -/
def readName (spec : Grammar) (g : Given) (cs : List Char) :
    Except Stop (Given × Option OptionSpec) :=
  let name := String.ofList (cs.takeWhile (· ≠ '='))
  let value := (cs.dropWhile (· ≠ '=')).tail?.map String.ofList
  match spec.ofLong? name with
  | none => .error (.misuse ("unexpected argument '--" ++ name ++ "' found"))
  | some o =>
      match o.takesValue, value with
      | true, some v => (g.addValue o v).map (·, none)
      | true, none => .ok (g, some o)
      | false, none => (g.addFlag o).map (·, none)
      | false, some v =>
          .error (.misuse ("unexpected value '" ++ v ++ "' for '--" ++ name ++ "' found"))

/-- Read one argument. An option is returned if its value is still to come. -/
def readArgument (spec : Grammar) (g : Given) (text : String) :
    Except Stop (Given × Option OptionSpec) :=
  match text.toList with
  | '-' :: '-' :: cs => spec.readName g cs
  | '-' :: c :: cs => spec.readLetters g (c :: cs)
  | _ => (g.addArgument spec text).map (·, none)

end Grammar

/-- Whether an argument is an option and not a value. A lone dash is a value. -/
def isOption (text : String) : Bool :=
  text.toList.head? == some '-' && text != "-"

def Grammar.read (spec : Grammar) (g : Given) : List String → Except Stop Given
  | [] => .ok g
  | text :: rest =>
      if text = "--" then rest.foldlM (Given.addArgument spec) g
      else do
        match ← spec.readArgument g text with
        | (g, none) => spec.read g rest
        | (g, some o) =>
            match rest with
            | v :: rest =>
                if isOption v then throw (.misuse ("a value is required for '--" ++ o.long ++ "'"))
                else spec.read (← g.addValue o v) rest
            | [] => throw (.misuse ("a value is required for '--" ++ o.long ++ "'"))

/-! ## Help texts -/

/-- How an option is written in a help text. -/
def OptionSpec.form (o : OptionSpec) : String :=
  (match o.short with
    | some c => "-" ++ String.ofList [c] ++ ", "
    | none => "    ") ++ "--" ++ o.long
    ++ (if o.takesValue then " <" ++ o.long.toUpper ++ ">" else "")

/-- Pairs of texts in two columns. -/
def columns (rows : List (String × String)) : List String :=
  let width := rows.foldl (fun n row => max n row.1.length) 0
  rows.map fun (left, right) =>
    "  " ++ left ++ String.ofList (List.replicate (width + 2 - left.length) ' ') ++ right

def Grammar.help (spec : Grammar) : List String :=
  let argument := match spec.argument with
    | some (name, _) => " <" ++ name ++ ">"
    | none => ""
  [spec.about, "", "Usage: pilot " ++ spec.name ++ " [OPTIONS]" ++ argument, ""]
    ++ (match spec.argument with
      | some (name, about) => ["Arguments:"] ++ columns [("<" ++ name ++ ">", about)] ++ [""]
      | none => [])
    ++ ["Options:"] ++ columns (spec.options.map fun o => (o.form, o.about))

end ReplyScript.CommandLine
