import ReplyScript.Script.Reading

/-! # Writing scripts

The written form of a script: items of one or more lines between the lines that start and end it,
with other lines around them. Each type carries what makes its lines mean what they are written for,
so a written reply can be read without regard to what is in it.
-/

namespace ReplyScript.Script

/-- An argument that is written without escapes: a whole number of a signed word, or a text without
quotes, backslashes and controls. -/
inductive Literal where
  | integer (n : Int) (fits : Argument.inWord n = true)
  | text (s : String) (plain : ∀ c ∈ s.toList, Json.Plain c)

namespace Literal

/-- The token of a literal. -/
def written : Literal → String
  | integer n _ => toString n
  | text s _ => "\"" ++ s ++ "\""

/-- The argument that a literal stands for. -/
def value : Literal → Argument
  | integer n _ => .integer n
  | text s _ => .text s

end Literal

/-- The names that are no commands of their own inside a script. -/
def reserved : List String :=
  ["startCommand", "endCommand"] ++ BlockKind.all.map BlockKind.opener
    ++ BlockKind.all.map BlockKind.closer

/-- A name that is one token and not reserved. -/
structure CommandName where
  text : String
  nonempty : text ≠ ""
  plain : ∀ c ∈ text.toList, Text.isBlank c = false ∧ c ≠ '"'
  free : text ∉ reserved

/-- A line that is no directive. -/
structure Prose where
  text : String
  oneLine : '\n' ∉ text.toList
  noDirective : Directive.ofLine? text = none

/-- A line of a block's body: a carriage return at its end would be lost. -/
structure BodyLine extends Prose where
  noReturn : text.toList.getLast? ≠ some '\r'

/-- A line outside scripts, which may be any line that does not start one. -/
structure OuterLine where
  text : String
  oneLine : '\n' ∉ text.toList
  noStart : ∀ d, Directive.ofLine? text = some d → d.name ≠ "startCommand"

/-- A directive line: a name and literals, with single blanks between them. -/
def directiveLine (name : String) (arguments : List Literal) : String :=
  "@" ++ " ".intercalate (name :: arguments.map Literal.written)

/-- A part of a script. -/
inductive Item where
  | prose (line : Prose)
  | command (name : CommandName) (arguments : List Literal)
  | block (kind : BlockKind) (arguments : List Literal) (body : List BodyLine)

namespace Item

def lines : Item → List String
  | prose line => [line.text]
  | command name arguments => [directiveLine name.text arguments]
  | block kind arguments body =>
      directiveLine kind.opener arguments
        :: (body.map (·.text) ++ [directiveLine kind.closer []])

/-- Name and arguments of the command that an item stands for. The body of a block is its last
argument, without the blanks at its end. -/
def content? : Item → Option (String × List Argument)
  | prose _ => none
  | command name arguments => some (name.text, arguments.map Literal.value)
  | block kind arguments body =>
      some (kind.command, arguments.map Literal.value
        ++ [.text (Text.trimEnd (Text.unlines (body.map (·.text))))])

end Item

/-- What stands between two lines. -/
inductive LineEnd where
  | newline
  | returnNewline
  deriving Repr, DecidableEq, BEq, Inhabited

/-- The characters of a line end. -/
def LineEnd.text : LineEnd → String
  | newline => "\n"
  | returnNewline => "\r\n"

/-- A reply with one script in it. -/
structure WrittenReply where
  before : List OuterLine
  items : List Item
  after : List OuterLine

namespace WrittenReply

def lines (r : WrittenReply) : List String :=
  r.before.map (·.text) ++ (directiveLine "startCommand" [] :: (r.items.flatMap Item.lines
    ++ directiveLine "endCommand" [] :: r.after.map (·.text)))

def text (r : WrittenReply) (e : LineEnd) : String :=
  e.text.intercalate r.lines

end WrittenReply

/-- Name and arguments of a command, wherever it stands. -/
def Command.content (c : Command) : String × List Argument :=
  (c.name, c.arguments)

end ReplyScript.Script
