import ReplyScript.CommandLine.Context
import ReplyScript.CommandLine.Options
import ReplyScript.Console
import ReplyScript.Script.Reading
import ReplyScript.Session.Batch
import ReplyScript.Shell.Run

/-! # Running a saved reply

The script of a reply is read and, unless only its check or its commands were asked for, performed
in a workspace. What is left pending in the end is the output.
-/

namespace ReplyScript.CommandLine

open Console (Echo Printed Verbosity)
open Disk (Path)

/-- The world that commands act on: a workspace, a shell and the user. -/
def Context.world (c : Context) (root : String) (confirm : Bool) : World :=
  { World.ofWorkspace (.ofDisk (Path.ofText c.here root) c.disk)
      (.program (Shell.run c.environment)) with
    confirmer := if confirm then some .user else none
    input := { unread := c.input } }

/-- What is printed when a batch was given up. -/
def abortLines (a : Abort) (total : Nat) : List Printed :=
  [.errorLine a.error.message,
    .messageLine ("  = " ++ toString a.index ++ " of " ++ toString total ++ " commands completed")]

def performIn (world : World) (quiet : Bool) (script : Script) : Ending :=
  let (abort, scene) := performAll script.commands ⟨.empty, world⟩
  let verbosity := if quiet then Verbosity.quiet else .everything
  let (_, echoed) := ({} : Echo).run verbosity scene.world.events
  let disk := scene.world.workspace.disk
  match abort with
  | some a => ⟨1, echoed ++ abortLines a script.commands.length, disk, []⟩
  | none =>
      let request := scene.session.request
      ⟨0, echoed ++ (if request = "" then [] else [.outputLine request]), disk, []⟩

def performScript (c : Context) (o : RunOptions) (script : Script) : Ending :=
  performIn (c.world o.root o.confirm) o.quiet script

def warningLines (script : Script) : List Printed :=
  script.warnings.map fun f => .messageLine ("warning: " ++ f.display)

/-- Run a reply. -/
def runReply (c : Context) (o : RunOptions) : Ending :=
  match c.disk.textAt c.here o.file with
  | .error e => c.fail ("cannot read '" ++ o.file ++ "': " ++ e.message)
  | .ok source =>
      match Script.read source with
      | .error errors => c.finish 1 (errors.map fun f => .errorLine f.display)
      | .ok script =>
          let warnings := warningLines script
          if o.check then
            c.finish 0 (warnings ++ [.messageLine ("ok: " ++ o.file ++ " parsed successfully ("
              ++ toString script.commands.length ++ " commands)")])
          else if o.commands then
            c.finish 0 (warnings ++ script.commands.map fun command =>
              .outputLine command.display)
          else
            let ending := performScript c o script
            { ending with printed := warnings ++ ending.printed }

end ReplyScript.CommandLine
