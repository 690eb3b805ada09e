import ReplyScript.Outline
import ReplyScript.Session.Perform

/-! # What the user types in a chat

Lines that start with certain words are commands to the chat itself; everything else is said to the
model. `attachment` makes the snippet that the command to attach something asks for.
-/

namespace ReplyScript.Chat

open Disk (FileError Path Tree)
open Prompt (Snippet)

/-- What a line of input asks for. -/
inductive Command where
  | quit
  | help
  | clear
  | memory
  /-- Attach a file or a part of it, as the words say. -/
  | attach (words : List String)
  | say (text : String)
  deriving Repr, DecidableEq, BEq, Inhabited

/-- A line without the line end and carriage returns before it. -/
def withoutLineEnd (line : String) : String :=
  String.ofList (Text.dropEndWhile (fun c => c = '\r' || c = '\n') line.toList)

def Command.ofLine (line : String) : Command :=
  let line := withoutLineEnd line
  match Text.words line with
  | "/quit" :: _ => quit
  | "/help" :: _ => help
  | "/clear" :: _ => clear
  | "/memory" :: _ => memory
  | "/attach" :: words => attach words
  | _ => say line

def helpLines : List String :=
  ["/attach <path> [start end]  attach a file or line range as context",
    "/attach <path> fn <line>    attach the function around a line",
    "/memory                     show the model's memory",
    "/clear                      clear the conversation",
    "/quit                       leave"]

/-- Why nothing is attached. -/
inductive AttachError where
  | usage
  | unreadable (path : String) (e : FileError)
  | badLineNumber (text : String)
  | noFunction (line : Nat) (path : String)
  | emptyRange (start stop : Nat)
  deriving Repr, DecidableEq, BEq, Inhabited

def AttachError.message : AttachError → String
  | usage => "usage: /attach <path> [start end | fn <line>]"
  | unreadable path e => "cannot read '" ++ path ++ "': " ++ e.message
  | badLineNumber text => "bad line number '" ++ text ++ "'"
  | noFunction line path =>
      "no function found around line " ++ toString line ++ " of " ++ path
  | emptyRange start stop => "empty range " ++ toString start ++ ".." ++ toString stop

def lineNumber (text : String) : Except AttachError Nat :=
  match Text.numeral? text with
  | some n => .ok n
  | none => .error (.badLineNumber text)

/-- The part of a file that words after its path ask for: the function around a line, a range of
lines, or all of it. -/
def selectPart (path content : String) : List String → Except AttachError Snippet
  | ["fn", line] => do
      let line ← lineNumber line
      match Outline.functionAt? content line with
      | some f => return f.snippet path content
      | none => throw (.noFunction line path)
  | [start, stop] => do
      let start ← lineNumber start
      let stop := min (← lineNumber stop) (Text.lineCount content - 1)
      if stop < start then throw (.emptyRange start stop)
      return captureSnippet path content (some start) (some stop)
  | [] => return .file path content
  | _ => throw .usage

/-- The snippet that words ask for; the first is the path of a file, taken from `root`. -/
def attachment (disk : Tree) (root : Path) : List String → Except AttachError Snippet
  | [] => .error .usage
  | path :: words =>
      match disk.textAt root path with
      | .error e => .error (.unreadable path e)
      | .ok content => selectPart path content words

end ReplyScript.Chat
