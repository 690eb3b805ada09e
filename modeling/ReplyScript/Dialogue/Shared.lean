import ReplyScript.Dialogue.Ledger

/-! # Dialogues in the hands of several clients

A turn does not run at a stretch: it waits for the model and for every service that it calls. Here
it is led from one wait to the next, and goes on from whatever it finds then. Clients share a
dialogue behind a lock. A submission that finds the lock taken is turned away; any other takes the
lock and holds it until its last turn has ended.
-/

namespace ReplyScript

open Edit (Position Range)
open Json (Value)
open Prompt (Snippet)
open Scene
open Script (Command)

/-- How far something has come: it has ended, or it waits, and goes on from the state that it finds
then. -/
inductive Progress (σ α : Type) where
  | ended (a : α) (s : σ)
  | waits (s : σ) (resume : σ → Progress σ α)

namespace Progress

variable {σ α β : Type}

/-- Go on with something else after the end. -/
def bind (next : α → σ → Progress σ β) : Progress σ α → Progress σ β
  | ended a s => next a s
  | waits s resume => waits s fun s => (resume s).bind next

/-- What it comes to if it always finds the state as it left it. -/
def finish : Progress σ α → α × σ
  | ended a s => (a, s)
  | waits s resume => (resume s).finish

/-- How often it waits. -/
def pauses : Progress σ α → Nat
  | ended _ _ => 0
  | waits s resume => (resume s).pauses + 1

end Progress

/-! ## Actions that wait -/

/-- What an action does to a scene, from one wait to the next. -/
def Paced (α : Type) : Type :=
  Scene → Progress Scene (Except CommandError α)

instance : Monad Paced where
  pure a := fun s => .ended (.ok a) s
  bind x f := fun s => (x s).bind fun
    | .ok a, s => f a s
    | .error e, s => .ended (.error e) s

namespace Paced

/-- Do something without waiting. -/
def now (op : SceneM α) : Paced α := fun s =>
  let (result, s) := op.run.run s
  .ended result s

/-- Do something that is waited for, which happens at some time meanwhile. -/
def awaited (op : SceneM α) : Paced α := fun s =>
  .waits s fun s =>
    let (result, s) := op.run.run s
    .waits s (.ended result)

/-! The operations of `Action`, each with the services that it waits for. The text of an open
document is read at once. -/

/-- Attach a file once it has been read. -/
def readFile (path : String) (start stop : Option Nat) : Paced Unit := do
  match ← awaited (probe .readFile (World.readText path)) with
  | .error text => now (respond .readFile text)
  | .ok content => now do
      let snippet := captureSnippet path content start stop
      modifySession fun s => { s with snippets := s.snippets ++ [snippet] }
      record (.snippets ((← get).session.snippets.map Snippet.location))
      respond .readFile ("attached \"" ++ path ++ "\" as context ("
        ++ toString (Text.lineCount snippet.content) ++ " lines)")

def listFiles (path : String) : Paced Unit := do
  match ← awaited (probe .listFiles (World.listDirectory path)) with
  | .error text => now (respond .listFiles text)
  | .ok entries =>
      now (respond .listFiles
        (Text.unlines (entries.map fun (name, kind) => name ++ " (" ++ kind.name ++ ")")))

def createFile (path : String) : Paced Unit := do
  match ← awaited (probe .createFile (World.writeFile path "")) with
  | .error text => now (respond .createFile text)
  | .ok () => return

/-- Open a file for input. One that is not there is created first, and all three calls are waited
for. -/
def openForInput (path : String) : Paced Document := do
  match ← awaited (attempt (World.openFile path)) with
  | .ok d => return d
  | .error (.notFound _) =>
      awaited (demand .input (World.writeFile path ""))
      awaited (demand .input (World.openFile path))
  | .error f => now (throw (.failed Instruction.input.name f))

/-- Insert a text and show the lines around it. The file becomes the active document before the
insertion is waited for. -/
def input (path : String) (position : Position) (text : String) : Paced Unit := do
  let d ← openForInput path
  let d := { d with selection := .caret position }
  now (activate d)
  awaited (demand .input (World.inWorkspace (d.insert position text)))
  let window ← now (demand .input (World.inWorkspace (insertionWindow d position.line text)))
  now (respond .input window)

/-- Take back or make again a change of the active document. -/
def turn (i : Instruction) (change : Document → WorkspaceM Unit) : Paced Unit := do
  let d ← now (activeDocument i)
  awaited (demand i (World.inWorkspace (change d)))

/-- Replace a range of a file, which becomes the active document before that. -/
def replace (path : String) (range : Range) (text : String) : Paced Unit := do
  let d ← awaited (demand .replace (World.openFile path))
  now (activate d)
  awaited (demand .replace (World.inWorkspace (d.replace range text)))

/-- Copy a range of a file to the clipboard, and return the handle. -/
def copyRange (i : Instruction) (path : String) (range : Range) : Paced Document := do
  let d ← awaited (demand i (World.openFile path))
  let text ← now (demand i (World.inWorkspace (d.textIn range)))
  awaited (demand i (World.writeClipboard text))
  return d

def cut (path : String) (range : Range) : Paced Unit := do
  let _ ← now (activeDocument .cut)
  let d ← copyRange .cut path range
  awaited (demand .cut (World.inWorkspace (d.delete range)))

/-- Put the clipboard into a file. It is read before the file becomes the active document. -/
def paste (path : String) (position : Position) : Paced Unit := do
  let _ ← now (activeDocument .paste)
  let d ← awaited (demand .paste (World.openFile path))
  let text ← awaited (demand .paste World.readClipboard)
  now (activate d)
  awaited (demand .paste (World.inWorkspace (d.insert position text)))

def getSyntaxErrors : Paced Unit := do
  let d ← now (activeDocument .getSyntaxErrors)
  let diagnostics ← awaited (demand .getSyntaxErrors (World.diagnose d.path))
  let errors := diagnostics.filter fun d => d.gravity == .error
  now (respond .getSyntaxErrors (Value.array (errors.map Diagnostic.toValue)).pretty)

def search (query : String) : Paced Unit := do
  match ← awaited (probe .search (World.search query)) with
  | .error text => now (respond .search text)
  | .ok hits => now (respond .search (Value.array (hits.map Hit.toValue)).pretty)

/-- Run a command if the user agrees, who is waited for as well. -/
def runInTerminal (command : String) : Paced Unit := do
  if ← awaited (confirm command) then
    match ← awaited (probe .runInTerminal (World.runCommand command)) with
    | .error text => now (respond .runInTerminal text)
    | .ok output => now (respond .runInTerminal (output.payload command))
  else now (respond .runInTerminal cancelled)

end Paced

/-- Perform an action, waiting for every service that it calls. -/
def Action.paced : Action → Paced Unit
  | .readFile path start stop => .readFile path start stop
  | .listFiles path => .listFiles path
  | .createFile path => .createFile path
  | .undo => .turn .undo Document.undo
  | .redo => .turn .redo Document.redo
  | .input path position text => .input path position text
  | .replace path range text => .replace path range text
  | .copy path range => do
      let _ ← Paced.copyRange .copy path range
  | .cut path range => .cut path range
  | .paste path position => .paste path position
  | .getSyntaxErrors => .getSyntaxErrors
  | .search query => .search query
  | .runInTerminal command => .runInTerminal command
  | .select range => .now (performSelect range)
  | .memoryWrite text => .now (Action.memoryWrite text).perform
  | .readMemory => .now Action.readMemory.perform
  | .clearMemory => .now Action.clearMemory.perform
  | .clearConversation => .now Action.clearConversation.perform

/-- Perform a command, from one wait to the next. -/
def Script.Command.paced (c : Command) : Paced Unit :=
  match c.action? with
  | .ok (some action) => action.paced
  | .ok none => .now (return)
  | .error e => .now (throw e)

/-- Perform commands in order, numbered from `index`, up to the first that fails. -/
def pacedFrom (index : Nat) : List Command → Scene → Progress Scene (Option Abort)
  | [], s => .ended none s
  | c :: cs, s => (c.paced s).bind fun
    | .ok (), s => pacedFrom (index + 1) cs s
    | .error e, s => .ended (some ⟨index, e⟩) s

/-! ## Turns that wait -/

/-- Something is done in the world of a dialogue with a session that was taken out of it. At the end
there is the session to be put back. -/
def Progress.within {α : Type} : Progress Scene α → Dialogue → Progress Dialogue (α × Session)
  | .ended a s, d => .ended (a, s.session) { d with session := .empty, world := s.world }
  | .waits s resume, d =>
      .waits { d with session := .empty, world := s.world } fun d =>
        (resume ⟨s.session, d.world⟩).within d

namespace Dialogue

/-- Read the script of a reply and perform its commands, from one wait to the next. -/
def pacedReply (d : Dialogue) (reply : String) : Progress Dialogue Applied :=
  match Script.read reply with
  | .error errors =>
      .ended (.failed (Text.unlines (errors.map Script.Finding.display))) { d with phase := .idle }
  | .ok script =>
      ((pacedFrom 0 script.commands ⟨d.session, d.world⟩).within d).bind fun (abort, session) d =>
        let d := { d with session, phase := .idle }
        match abort with
        | none => .ended .done d
        | some a =>
            if a.error.isRecoverable then .ended (.failed a.error.message) d
            else .ended (.aborted a.error) d

/-- Send a request that the model has no answer to. -/
def pacedFailure (d : Dialogue) (request : String) :
    Progress Dialogue (Except SubmitError Outcome) :=
  .waits (d.ask request) fun d =>
    let e := d.model.exhausted
    .ended (.error (.model e)) (d.retract request e)

/-- Send a request, perform the reply and go on while there is something to be sent. It waits for
the model and for services, and others may come before it goes on by itself. `fuel` is the number of
answers that the model has left. -/
def pacedTurns (replies : List String) (request : String) :
    (fuel : Nat) → Dialogue → Progress Dialogue (Except SubmitError Outcome)
  | 0, d => d.pacedFailure request
  | fuel + 1, d =>
      match d.model.answers with
      | [] => d.pacedFailure request
      | answer :: answers =>
          .waits (ask { d with model := { d.model with answers } } request) fun d =>
            let d := answer.arrivals.foldl arrive d
            match answer.reply with
            | .error e => .ended (.error (.model e)) (d.retract request e)
            | .ok reply =>
                let replies := replies ++ [reply]
                ((d.accept reply).pacedReply reply).bind fun
                  | .aborted e, d => .ended (.error (.command e)) d
                  | .failed error, d => .ended (.ok (.halted replies error)) (d.halt error)
                  | .done, d =>
                      if !d.session.hasPending then .ended (.ok (.completed replies)) d
                      else if !d.goesOn replies.length then .ended (.ok (.pending replies)) d
                      else .waits d fun d =>
                        pacedTurns replies d.session.request fuel
                          { d with session := { d.session with request := "" } }

/-- Send the user's text, after any text that is pending, from one wait to the next. -/
def pacedSend (d : Dialogue) (text : String) : Progress Dialogue (Except SubmitError Outcome) :=
  pacedTurns [] (nextRequest d.session.request text) d.model.answers.length
    { d with session := { d.session with request := "" } }

/-- What submissions of clients come to, one after the other. -/
def served {κ : Type} (d : Dialogue) :
    List (κ × String) → List (κ × Except SubmitError Outcome)
  | [] => []
  | (client, text) :: rest => (client, (d.submit text).1) :: (d.submit text).2.served rest

/-- The dialogue after submissions of clients. -/
def afterServing {κ : Type} (d : Dialogue) (submissions : List (κ × String)) : Dialogue :=
  d.run (submissions.map fun submission => .submit submission.2)

end Dialogue

/-! ## Clients -/

/-- A dialogue that clients share. -/
structure Shared (κ : Type) where
  dialogue : Dialogue
  locked : Bool
  /-- The submissions that wait, and whose they are. -/
  waiting : List (κ × (Dialogue → Progress Dialogue (Except SubmitError Outcome)))
  /-- The submissions that got the lock, in order. -/
  accepted : List (κ × String)
  /-- What they have come to, as far as they have ended. -/
  ended : List (κ × Except SubmitError Outcome)
  /-- What was returned to clients that were turned away. -/
  refused : List (κ × SubmitError)

/-- What can happen next: a client comes with a submission, or one that waits goes on. -/
inductive Occasion (κ : Type) where
  | submits (client : κ) (text : String)
  | resumes (index : Nat)

namespace Shared

variable {κ : Type}

def start (d : Dialogue) : Shared κ :=
  ⟨d, false, [], [], [], []⟩

/-- Lead a submission to its next wait, or to its end, where the lock is let go. -/
def proceed (s : Shared κ) (client : κ) :
    Progress Dialogue (Except SubmitError Outcome) → Shared κ
  | .ended result d => { s with
      dialogue := d, locked := false, ended := s.ended ++ [(client, result)] }
  | .waits d resume => { s with dialogue := d, waiting := s.waiting ++ [(client, resume)] }

/-- A client that finds the lock taken is turned away and changes nothing else. -/
def step (s : Shared κ) : Occasion κ → Shared κ
  | .submits client text =>
      if s.locked then { s with refused := s.refused ++ [(client, .busy)] }
      else
        { s with locked := true, accepted := s.accepted ++ [(client, text)] }.proceed client
          (s.dialogue.pacedSend text)
  | .resumes index =>
      match s.waiting[index]? with
      | none => s
      | some (client, resume) =>
          { s with waiting := s.waiting.eraseIdx index }.proceed client (resume s.dialogue)

def run (s : Shared κ) (occasions : List (Occasion κ)) : Shared κ :=
  occasions.foldl step s

end Shared

end ReplyScript
