import ReplyScript.Text.Blank
import ReplyScript.Text.Lines

/-! # Snippets

A snippet is an excerpt of a file that is sent to the model with the next request. It is rendered as
a header and its lines, each behind its number in the file.
-/

namespace ReplyScript.Prompt

/-- A captured excerpt. Lines count from zero. -/
inductive Snippet where
  | file (location content : String)
  | function (name location content : String) (startLine : Nat)
  | selection (location content : String) (startLine : Nat)
  deriving Repr, DecidableEq, BEq, Inhabited

namespace Snippet

def location : Snippet → String
  | file location _ | function _ location _ _ | selection location _ _ => location

def content : Snippet → String
  | file _ content | function _ _ content _ | selection _ content _ => content

/-- The number of the first line. -/
def startLine : Snippet → Nat
  | file .. => 0
  | function _ _ _ startLine | selection _ _ startLine => startLine

end Snippet

/-- Lines behind consecutive numbers. -/
def numberFrom (start : Nat) : List String → List String
  | [] => []
  | l :: ls => (toString start ++ " " ++ l) :: numberFrom (start + 1) ls

/-- A text whose lines stand behind their numbers. -/
def addLineNumbers (text : String) (startLine : Nat) : String :=
  Text.unlines (numberFrom startLine (Text.lines text))

namespace Snippet

/-- The line that says what a snippet is. A selection's location has no closing quote. -/
def header : Snippet → String
  | file location content =>
      "# file @ \"" ++ location ++ "\" totalLines: " ++ toString (Text.lineCount content) ++ "\n"
  | function name location _ startLine =>
      "# function \"" ++ name ++ "\" @ \"" ++ location ++ ":" ++ toString startLine ++ "\"\n"
  | selection location _ startLine =>
      "# selection @ \"" ++ location ++ ":" ++ toString startLine ++ "\n"

/-- The header and the numbered lines. -/
def render (s : Snippet) : String :=
  s.header ++ addLineNumbers s.content s.startLine ++ "\n"

end Snippet

/-- The user's turn as it is sent: the snippets, then the request. -/
def userTurn (snippets : List Snippet) (request : String) : String :=
  match snippets with
  | [] => "# User request\n" ++ request
  | _ => "\n".intercalate (snippets.map Snippet.render) ++ "\n# User request\n" ++ request

/-- How the result of a command is told to the model. -/
def responseBlock (command payload : String) : String :=
  "response to @" ++ command ++ ":\n```\n"
    ++ String.ofList (Text.dropEndWhile (· = '\n') payload.toList) ++ "\n```"

end ReplyScript.Prompt
