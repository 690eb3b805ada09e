import ReplyScript.Job.Basic
import ReplyScript.Shell.Reader

/-! # The state of a shell

A shell is a job with variables, functions and options. Its steps may stop early: at the end of a
loop or a function, or of the shell itself.
-/

namespace ReplyScript.Shell

open Disk (Path)

/-- A variable; it may be marked without having a value. -/
structure Variable where
  name : String
  value : Option String
  exported : Bool := false
  readOnly : Bool := false
  deriving Repr, DecidableEq, BEq, Inhabited

/-- Why a command list stops early. -/
inductive Stop where
  /-- The shell is left. -/
  | leave
  /-- A function or a script that was read in is left. -/
  | giveBack
  /-- Some loops are left. -/
  | break_ (loops : Nat)
  /-- Some loops but one are left, and that one goes on. -/
  | continue_ (loops : Nat)
  /-- Something was wrong, and has been complained about. -/
  | failed
  /-- Another program takes the place of the shell. -/
  | replaced
  /-- The shell is left at once. -/
  | killed
  deriving Repr, DecidableEq, BEq, Inhabited

/-- A command in the background that has not run yet, and what it finds when it does. -/
structure Waiting where
  number : Nat
  body : Command
  bindings : List Variable
  arguments : List String
  functions : List (String × Command)
  options : List Char
  here : Path
  directory : String
  channels : List (Nat × Stream)
  deriving Inhabited

structure State where
  job : Job
  /-- The working directory as it was reached. -/
  directory : String
  /-- What the shell calls itself. -/
  self : String := "sh"
  bindings : List Variable
  /-- What variables were before functions made them their own; the latest function first. -/
  hidden : List (List (String × Option Variable)) := []
  /-- The arguments of the shell or of the function that runs. -/
  arguments : List String := []
  functions : List (String × Command) := []
  /-- The exit status of the last command. -/
  status : Nat := 0
  /-- The exit status of the last command whose output was used. -/
  outputStatus : Nat := 0
  /-- The line of the command that runs. -/
  line : Nat := 1
  /-- The builtin that runs. -/
  builtin : Option String := none
  options : List Char := []
  /-- What is done at signals. -/
  traps : List (String × String) := []
  documents : List (Nat × Word) := []
  /-- The number of the next text of a script. -/
  documentCount : Nat := 0
  /-- How many loops are going on. -/
  loops : Nat := 0
  /-- How many functions are running. -/
  functionDepth : Nat := 0
  /-- Whether the failure of the command that runs is looked at. -/
  tested : Bool := false
  /-- The words that stand for texts at the start of commands. -/
  aliases : List (String × String) := []
  /-- The commands in the background that have not run yet, in order. -/
  waiting : List Waiting := []
  /-- The commands in the background that have ended, with their statuses. -/
  ended : List (Nat × Nat) := []
  /-- The number of the last command that was put into the background. -/
  lastBackground : Option Nat := none
  /-- Where `getopts` is in an argument. -/
  optionOffset : Nat := 0
  deriving Inhabited

abbrev ShellM := ExceptT Stop (StateM State)

namespace State

def find? (s : State) (name : String) : Option Variable :=
  s.bindings.find? (·.name = name)

def value? (s : State) (name : String) : Option String :=
  (s.find? name).bind (·.value)

/-- Put a variable in place of the one with its name. -/
def setVariable (s : State) (v : Variable) : State :=
  { s with
    bindings := if (s.find? v.name).isSome then
        s.bindings.map fun old => if old.name = v.name then v else old
      else s.bindings ++ [v] }

def removeVariable (s : State) (name : String) : State :=
  { s with bindings := s.bindings.filter (·.name ≠ name) }

def has (s : State) (option : Char) : Bool :=
  s.options.contains option

/-- The variables that programs find in their environment. -/
def environment (s : State) : List (String × String) :=
  s.bindings.filterMap fun v => if v.exported then v.value.map fun value => (v.name, value)
    else none

/-- The characters that separate fields. -/
def separators (s : State) : String :=
  match s.find? "IFS" with
  | some v => v.value.getD " \t\n"
  | none => " \t\n"

end State

namespace ShellM

def job (step : JobM α) : ShellM α := do
  let s ← get
  let (a, j) := step.run s.job
  set { s with job := j }
  return a

/-- Print a complaint with the line and the builtin that runs. -/
def complain (message : String) : ShellM Unit := do
  let s ← get
  job <| JobM.complain <| s.self ++ ": " ++ toString s.line ++ ": "
    ++ (s.builtin.map (· ++ ": ")).getD "" ++ message

def setStatus (status : Nat) : ShellM Unit :=
  modify fun s => { s with status }

/-- Give up with a complaint. -/
def fail (message : String) : ShellM α := do
  complain message
  setStatus 2
  throw .failed

def assign (name value : String) : ShellM Unit := do
  let s ← get
  match s.find? name with
  | some v =>
      if v.readOnly then fail (name ++ ": is read only")
      set (s.setVariable { v with value := some value, exported := v.exported || s.has 'a' })
  | none => set (s.setVariable { name, value := some value, exported := s.has 'a' })

/-- Let a variable have a value, for programs too. -/
def assignExported (name value : String) : ShellM Unit := do
  assign name value
  modify fun s => match s.find? name with
    | some v => s.setVariable { v with exported := true }
    | none => s

/-- Let the function that runs have a variable of its own. -/
def makeLocal (name : String) : ShellM Unit := do
  let s ← get
  match s.hidden with
  | [] => return
  | scope :: outer =>
      if scope.any (·.1 = name) then return
      set { s with hidden := ((name, s.find? name) :: scope) :: outer }

/-- Run a body with variables of its own. -/
def inScope (body : ShellM α) : ShellM α := do
  modify fun s => { s with hidden := [] :: s.hidden }
  let restore : ShellM Unit := do
    let s ← get
    let scope := s.hidden.headD []
    let s := scope.foldl (fun s (name, old) => match old with
      | some v => s.setVariable v
      | none => s.removeVariable name) s
    set { s with hidden := s.hidden.tail }
  try
    let a ← body
    restore
    return a
  catch stop =>
    restore
    throw stop

/-- Run a body; whatever stops it, nothing of what it did to the shell stays but what it did to
files and pipes, and its status. Traps are not for it. -/
def isolated (body : ShellM Unit) : ShellM (Option Stop) := do
  let s ← get
  set { s with traps := [], loops := 0, waiting := [], ended := [] }
  let stop ← try
      body
      pure none
    catch stop => pure (some stop)
  let after ← get
  set { s with
    job := { s.job with
      disk := after.job.disk, pipes := after.job.pipes, files := after.job.files }
    status := after.status }
  return stop

/-- Make an empty pipe and return its number. -/
def newPipe : ShellM Nat := do
  let s ← get
  set { s with job := { s.job with pipes := s.job.pipes.push "" } }
  return s.job.pipes.size

/-- Lead a channel somewhere, or close it. -/
def setStream (channel : Nat) (stream : Option Stream) : ShellM Unit :=
  modify fun s => { s with job := s.job.setStream channel stream }

end ShellM

end ReplyScript.Shell
