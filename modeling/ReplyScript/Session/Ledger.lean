import ReplyScript.Session.Batch

/-! # What commands add to the next request

Commands add response blocks to the text for the next request and attach snippets to it. What a
command adds depends on the scene it is performed in; a command that fails adds nothing.
-/

namespace ReplyScript

open Edit (Position Range)
open Json (Value)
open Prompt (Snippet)
open Scene
open Script (Command)

/-- What happens to the material for the next request. -/
inductive LedgerEntry where
  | attached (snippet : Snippet)
  /-- The snippet with this number was taken out again. -/
  | taken (index : Nat)
  | told (text : String)
  /-- The model has answered a request with all the material there was. -/
  | answered
  deriving Repr, DecidableEq, BEq, Inhabited

/-- The result of an operation in a scene, if it completes. -/
def Scene.result? (s : Scene) (op : SceneM α) : Option α :=
  (op.run.run s).1.toOption

/-- A failure as it is, anything else in its own words. -/
def noted (words : α → String) : Except String α → String
  | .error text => text
  | .ok a => words a

/-- The lines around a text that was put into a file. -/
def insertAndShow (path : String) (position : Position) (text : String) : SceneM String := do
  let d ← openForInput path
  let d := { d with selection := .caret position }
  activate d
  demand .input (World.inWorkspace (d.insert position text))
  demand .input (World.inWorkspace (insertionWindow d position.line text))

/-- The text of a range of the active document. -/
def selectAndShow (range : Range) : SceneM String := do
  let d ← activeDocument .select
  let d := { d with selection := range }
  activate d
  demand .select (World.inWorkspace (d.textIn range))

/-- The errors in the active document, in words. -/
def diagnoseAndShow : SceneM String := do
  let d ← activeDocument .getSyntaxErrors
  let diagnostics ← demand .getSyntaxErrors (World.diagnose d.path)
  let errors := diagnostics.filter fun d => d.gravity == .error
  return (Value.array (errors.map Diagnostic.toValue)).pretty

/-- What came of a terminal command, in words. -/
def runAndShow (command : String) : SceneM String := do
  if ← confirm command then
    return noted (Output.payload command) (← probe .runInTerminal (World.runCommand command))
  else return cancelled

namespace Action

/-- The instruction of an action. -/
def instruction : Action → Instruction
  | readFile .. => .readFile
  | listFiles _ => .listFiles
  | createFile _ => .createFile
  | undo => .undo
  | redo => .redo
  | input .. => .input
  | select _ => .select
  | replace .. => .replace
  | copy .. => .copy
  | cut .. => .cut
  | paste .. => .paste
  | getSyntaxErrors => .getSyntaxErrors
  | search _ => .search
  | runInTerminal _ => .runInTerminal
  | memoryWrite _ => .memoryWrite
  | readMemory => .readMemory
  | clearMemory => .clearMemory
  | clearConversation => .clearConversation

/-- What the model is told of an action. -/
def told (s : Scene) : Action → Option String
  | readFile path start stop =>
      (s.result? (probe .readFile (World.readText path))).map <| noted fun content =>
        "attached \"" ++ path ++ "\" as context ("
          ++ toString (Text.lineCount (captureSnippet path content start stop).content) ++ " lines)"
  | listFiles path =>
      (s.result? (probe .listFiles (World.listDirectory path))).map <| noted fun entries =>
        Text.unlines (entries.map fun (name, kind) => name ++ " (" ++ kind.name ++ ")")
  | createFile path =>
      (s.result? (probe .createFile (World.writeFile path ""))).bind fun
        | .error text => some text
        | .ok () => none
  | input path position text => s.result? (insertAndShow path position text)
  | select range => s.result? (selectAndShow range)
  | getSyntaxErrors => s.result? diagnoseAndShow
  | search query =>
      (s.result? (probe .search (World.search query))).map <| noted fun hits =>
        (Value.array (hits.map Hit.toValue)).pretty
  | runInTerminal command => s.result? (runAndShow command)
  | readMemory => some s.session.memory
  | undo | redo | replace .. | copy .. | cut .. | paste .. | memoryWrite _ | clearMemory
  | clearConversation => none

/-- The snippet that an action attaches. -/
def attached (s : Scene) : Action → Option Snippet
  | readFile path start stop =>
      (s.result? (probe .readFile (World.readText path))).bind fun result =>
        result.toOption.map (captureSnippet path · start stop)
  | _ => none

/-- What an action adds to the next request. -/
def entries (a : Action) (s : Scene) : List LedgerEntry :=
  (a.attached s).toList.map .attached
    ++ (a.told s).toList.map fun payload =>
      .told (Prompt.responseBlock a.instruction.name payload)

end Action

/-- What a command adds to the next request. -/
def Script.Command.entries (c : Command) (s : Scene) : List LedgerEntry :=
  match c.action? with
  | .ok (some a) => a.entries s
  | _ => []

/-- What a batch adds to the next request, up to the first command that fails. -/
def batchEntries : List Command → Scene → List LedgerEntry
  | [], _ => []
  | c :: cs, s => c.entries s ++ match c.perform.run.run s with
      | (.ok (), t) => batchEntries cs t
      | (.error _, _) => []

/-! ## How it is written -/

namespace Ledger

/-- Pieces on lines of their own: a newline stands between two pieces unless the first of them ends
with one. -/
def joined : List String → String
  | [] => ""
  | [piece] => piece
  | piece :: next :: rest =>
      (if piece.toList.getLast? = some '\n' then piece else piece ++ "\n") ++ joined (next :: rest)

/-- A text, and a piece behind it on a line of its own. -/
def appended (text piece : String) : String :=
  joined ([text, piece].filter (· ≠ ""))

/-- How the model is told what a command comes to. Newlines at the end do not count. -/
inductive Responds (command : String) : (payload block : String) → Prop
  | intro (body : String) (breaks : Nat) (trimmed : body.toList.getLast? ≠ some '\n') :
      Responds command (body ++ String.ofList (List.replicate breaks '\n'))
        (Text.unlines ["response to @" ++ command ++ ":", "```", body, "```"])

end Ledger

end ReplyScript
