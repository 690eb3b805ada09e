import ReplyScript.Script.Command
import ReplyScript.Session.Perform

/-! # Batches

The commands of a script are performed in order, up to the first that fails. A deed is a command as
it is performed in a scene, and a batch is a chain of deeds: each begins where the one before it
ended, and a deed that fails is the last.
-/

namespace ReplyScript

open Script (Command)

/-- The action that a command asks for; `none` if its name is unknown. -/
def Script.Command.action? (c : Command) : Except CommandError (Option Action) :=
  match Instruction.ofName? c.name with
  | none => .ok none
  | some i =>
      match i.bind c.arguments with
      | .ok fillings => .ok (Action.ofFillings? i fillings)
      | .error problem => .error (.invalidArguments c.name problem)

/-- Perform a command. Commands with unknown names do nothing. -/
def Script.Command.perform (c : Command) : SceneM Unit := do
  match c.action? with
  | .ok (some action) => action.perform
  | .ok none => return
  | .error e => throw e

/-- A batch that was given up: the command that failed, by its number, and why. -/
structure Abort where
  index : Nat
  error : CommandError
  deriving Repr, DecidableEq, BEq, Inhabited

def Abort.message (a : Abort) : String :=
  "command " ++ toString a.index ++ " failed: " ++ a.error.message

/-- Perform commands in order, numbered from `index`, up to the first that fails. -/
def performFrom (index : Nat) : List Command → Scene → Option Abort × Scene
  | [], s => (none, s)
  | c :: cs, s =>
      match c.perform.run.run s with
      | (.ok (), s) => performFrom (index + 1) cs s
      | (.error e, s) => (some ⟨index, e⟩, s)

/-- Perform a batch of commands. -/
def performAll (commands : List Command) (s : Scene) : Option Abort × Scene :=
  performFrom 0 commands s

def performedOf (commands : List Command) : Option Abort → List Command
  | none => commands
  | some a => commands.take a.index

def Action.clears : Action → Bool
  | clearConversation => true
  | _ => false

def Script.Command.clears (c : Command) : Bool :=
  match c.action? with
  | .ok (some a) => a.clears
  | _ => false

/-! ## Deeds -/

/-- A command, and the scene in which it is performed. -/
structure Deed where
  command : Command
  before : Scene

namespace Deed

variable (d : Deed)

/-- The action that the command asks for, if its name is known and its arguments fit. -/
def action? : Option Action :=
  match d.command.action? with
  | .ok known => known
  | .error _ => none

/-- What performing the command comes to. -/
def result : Except CommandError Unit :=
  (d.command.perform.run.run d.before).1

/-- The scene in which the command leaves off. -/
def after : Scene :=
  (d.command.perform.run.run d.before).2

end Deed

/-- The deeds of a batch that begins in a scene. -/
def deeds : List Command → Scene → List Deed
  | [], _ => []
  | c :: cs, s =>
      let d : Deed := ⟨c, s⟩
      d :: match d.result with
        | .ok () => deeds cs d.after
        | .error _ => []

end ReplyScript
