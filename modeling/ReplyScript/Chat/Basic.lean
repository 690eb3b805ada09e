import ReplyScript.Chat.Command
import ReplyScript.Console
import ReplyScript.Dialogue.Basic

/-! # Chats

A chat is a dialogue with a user at the console: it reads lines, submits what they say and prints
the replies. It ends when the user leaves, when there is no more input, or when a command fails
beyond repair.
-/

namespace ReplyScript

open Console (Echo Printed)
open Disk (Path)

structure Chat where
  dialogue : Dialogue
  /-- Where the paths of attached files start. -/
  root : Path
  echo : Echo
  /-- What was printed so far. -/
  printed : List Printed

namespace Chat

/-- A chat before its first line. -/
def start (dialogue : Dialogue) (root : Path) : Chat :=
  ⟨dialogue, root, {}, []⟩

def print (c : Chat) (pieces : List Printed) : Chat :=
  { c with printed := c.printed ++ pieces }

/-- Echo the events since the last time. -/
def showEvents (c : Chat) : Chat :=
  let world := c.dialogue.world
  let (echo, pieces) := c.echo.run .everything world.events
  { c with dialogue := { c.dialogue with world := { world with events := [] } }, echo }.print pieces

def printReplies (replies : List String) : List Printed :=
  replies.map fun reply => .output (reply ++ "\n\n")

/-- What the user is told about the end of a submission. -/
def remarks : Outcome → List Printed
  | .completed _ => []
  | .pending _ => [.messageLine "(command output is pending; press enter to send it)"]
  | .halted _ error =>
      [.messageLine ("(stopped: " ++ error ++ "; it will be sent with your next message)")]

/-- Submit a text. A failure that the model cannot be told of ends the chat with status one. -/
def say (c : Chat) (text : String) : Chat × Option Nat :=
  let (result, dialogue) := c.dialogue.submit text
  let c := { c with dialogue }.showEvents
  match result with
  | .ok outcome => (c.print (printReplies outcome.replies ++ remarks outcome), none)
  | .error (.command e) => (c.print [.errorLine (SubmitError.command e).message], some 1)
  | .error e => (c.print [.errorLine e.message], none)

def attach (c : Chat) (words : List String) : Chat :=
  match attachment c.dialogue.world.workspace.disk c.root words with
  | .ok snippet => { c with dialogue := c.dialogue.attach snippet }.showEvents
  | .error e => c.print [.errorLine e.message]

/-- Do what a line asks for. The chat ends if there is a status. -/
def obey (c : Chat) : Command → Chat × Option Nat
  | .quit => (c, some 0)
  | .help => (c.print (helpLines.map .messageLine), none)
  | .clear =>
      ({ c with dialogue := c.dialogue.clearConversation }.print
        [.messageLine "conversation cleared"], none)
  | .memory => (c.print [.outputLine c.dialogue.session.memory], none)
  | .attach words => (c.attach words, none)
  | .say text => c.say text

def takeLine? (c : Chat) : Option (String × Chat) :=
  let world := c.dialogue.world
  match world.input.next? with
  | none => none
  | some (line, input) =>
      some (line, { c with dialogue := { c.dialogue with world := { world with input } } })

/-- Read and obey lines to the end of the chat. `fuel` is at least the number of lines. -/
def loop : (fuel : Nat) → Chat → Chat × Nat
  | fuel, c =>
      let c := c.print [.message "> "]
      match fuel, c.takeLine? with
      | _, none | 0, _ => (c, 0)
      | fuel + 1, some (line, c) =>
          match c.obey (.ofLine line) with
          | (c, some status) => (c, status)
          | (c, none) => loop fuel c

/-- Lead a chat to its end: what was printed, and the exit status. -/
def run (c : Chat) : Chat × Nat :=
  c.loop c.dialogue.world.input.remaining.length

end Chat

end ReplyScript
