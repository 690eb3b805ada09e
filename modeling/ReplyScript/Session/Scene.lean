import ReplyScript.Instruction.Binding
import ReplyScript.Session.Basic
import ReplyScript.World.Service

/-! # Scenes

A session together with the world it acts on, and the steps that actions are made of: calling a
service, changing the session, telling the model.
-/

namespace ReplyScript

/-- A session in its world. -/
structure Scene where
  session : Session
  world : World

/-- Why a command fails. -/
inductive CommandError where
  | noActiveDocument (command : String)
  | invalidArguments (command : String) (problem : BindError)
  | failed (command : String) (fault : Fault)
  deriving Repr, DecidableEq, BEq, Inhabited

namespace CommandError

def message : CommandError → String
  | noActiveDocument command => "@" ++ command ++ ": no active document"
  | invalidArguments command problem => "@" ++ command ++ ": " ++ problem.message
  | failed command fault => "@" ++ command ++ ": " ++ fault.message

/-- Whether the model may be told and try again. -/
def isRecoverable : CommandError → Bool
  | failed _ fault => !fault.isInternal
  | _ => true

end CommandError

/-- What an action does to a scene, also if it fails. -/
abbrev SceneM := ExceptT CommandError (StateM Scene)

namespace Scene

def modifySession (f : Session → Session) : SceneM Unit :=
  modify fun s => { s with session := f s.session }

def record (e : Event) : SceneM Unit :=
  modify fun s => { s with world := s.world.record e }

/-- Run an operation on the world; what it comes to is a value. -/
def attempt (op : WorldM α) : SceneM (Except Fault α) := do
  let s ← get
  let (result, world) := op.run.run s.world
  set { s with world }
  return result

/-- Run an operation on the world for an instruction that fails with it. -/
def demand (i : Instruction) (op : WorldM α) : SceneM α := do
  match ← attempt op with
  | .ok a => return a
  | .error f => throw (.failed i.name f)

/-- Run an operation on the world for an instruction that only fails with internal faults; other
faults become a text. -/
def probe (i : Instruction) (op : WorldM α) : SceneM (Except String α) := do
  match ← attempt op with
  | .ok a => return .ok a
  | .error f => if f.isInternal then throw (.failed i.name f) else return .error f.message

def activeDocument (i : Instruction) : SceneM Document := do
  match (← get).session.active with
  | some d => return d
  | none => throw (.noActiveDocument i.name)

/-- Let a document be the active one. -/
def activate (d : Document) : SceneM Unit :=
  modifySession fun s => { s with active := some d }

/-- Tell the model the result of an instruction. -/
def respond (i : Instruction) (payload : String) : SceneM Unit := do
  modifySession (·.addRequest (Prompt.responseBlock i.name payload))
  record (.request (← get).session.request)

end Scene

end ReplyScript
