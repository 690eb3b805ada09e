import ReplyScript.Session.Ledger

/-! # What actions may do

For every action: whether it needs a document, the services that it may call, the files that it may
write, the documents that it may make active, what it does to the memory, and whether the model is
told what came of it.
-/

namespace ReplyScript

open Disk (Path)
open Script (Command)

namespace Instruction

/-- Whether an instruction is about the active document. -/
def needsDocument : Instruction → Bool
  | undo | redo | select | cut | paste | getSyntaxErrors => true
  | _ => false

/-- Whether an instruction only looks something up, or tries something out. -/
def probes : Instruction → Bool
  | readFile | listFiles | createFile | search | runInTerminal => true
  | _ => false

end Instruction

/-- The command has the name of the instruction, and arguments for all of its slots. -/
def Script.Command.Fits (c : Command) (i : Instruction) : Prop :=
  c.name = i.name ∧ ∃ fillings, i.bind c.arguments = .ok fillings

/-- Whether the error is found before anything has been done. -/
def CommandError.isPrecondition : CommandError → Bool
  | noActiveDocument _ | invalidArguments _ _ => true
  | failed _ _ => false

/-- The service that an event shows at work. -/
def Event.service? : Event → Option Service
  | called service _ => some service
  | ran _ | asked _ => some .terminal
  | diagnosed _ => some .diagnostics
  | request _ | snippets _ | notified _ | arrived _ => none

/-- The text of the pending request that an event shows. -/
def Event.request? : Event → Option String
  | request text => some text
  | _ => none

/-- The texts of the pending request that were shown, in order. -/
def World.requests (w : World) : List String :=
  w.events.filterMap Event.request?

namespace Action

/-- The services that an action may call. -/
def services : Action → List Service
  | readFile .. => [.read]
  | listFiles _ => [.list]
  | createFile _ => [.write]
  | input .. => [.openFile, .write]
  | replace .. => [.openFile]
  | copy .. | cut .. => [.openFile, .writeClipboard]
  | paste .. => [.openFile, .readClipboard]
  | getSyntaxErrors => [.diagnostics]
  | search _ => [.search]
  | runInTerminal _ => [.terminal]
  | undo | redo | select _ | memoryWrite _ | readMemory | clearMemory | clearConversation => []

/-- An action that begins in this scene may create or change the file. What runs in the terminal may
do anything to the disk. -/
def MayWrite (start : Scene) : Action → Path → Prop
  | createFile path, file | input path _ _, file | replace path _ _, file | cut path _, file
  | paste path _, file => start.world.workspace.resolve path = .ok file
  | undo, file | redo, file => ∃ d, start.session.active = some d ∧ d.file = file
  | _, _ => False

/-- An action that begins in this scene may make the document active. -/
def MayActivate (start : Scene) : Action → Document → Prop
  | input path _ _, d | replace path _ _, d | paste path _, d =>
      d.path = path ∧ start.world.workspace.resolve path = .ok d.file
  | select range, d => start.session.active.map ({ · with selection := range }) = some d
  | _, _ => False

/-- An action that is completed, and began in this scene, tells the model something. -/
def Tells (start : Scene) : Action → Prop
  | readFile .. | listFiles _ | input .. | select _ | getSyntaxErrors | search _ | runInTerminal _
  | readMemory => True
  | createFile path =>
      ∃ fault, ((World.writeFile path "").run.run start.world).1 = .error fault
  | undo | redo | replace .. | copy .. | cut .. | paste .. | memoryWrite _ | clearMemory
  | clearConversation => False

/-- The memory after an action. -/
def memoryAfter (memory : String) : Action → String
  | memoryWrite text => memory ++ text
  | clearMemory => ""
  | _ => memory

end Action

end ReplyScript
