import ReplyScript.Utility.Files

/-! # Names of files and of the system -/

namespace ReplyScript.Utility

open Disk (Entry FileError Path)

/-- `basename`: the last part of a name, perhaps without an ending. -/
def basename : Utility := fun _ args =>
  JobM.withArguments "basename"
    [⟨'a', "multiple", .nothing⟩, ⟨'s', "suffix", .value⟩, ⟨'z', "zero", .nothing⟩] args fun a => do
  let strip (ending name : String) : String :=
    let cs := (lastPart name).toList
    let e := ending.toList
    if e ≠ [] ∧ e.length < cs.length ∧ e.isSuffixOf cs then
      String.ofList (cs.take (cs.length - e.length))
    else String.ofList cs
  let several := a.has 'a' || a.has 's'
  match a.operands with
  | [] => JobM.refuse "basename" "missing operand"
  | name :: rest =>
      if several then
        JobM.say (ofLines (a.operands.map (strip ((a.value? 's').getD ""))))
        return 0
      match rest with
      | [] =>
          JobM.say (lastPart name ++ "\n")
          return 0
      | [ending] =>
          JobM.say (strip ending name ++ "\n")
          return 0
      | _ :: extra :: _ => JobM.refuse "basename" ("extra operand " ++ Job.quoted extra)

/-- A name without its last part. -/
def directoryPart (name : String) : String :=
  let cs := (trimSlashes name).toList
  if cs = ['/'] then "/"
  else
    let before := cs.reverse.dropWhile (· ≠ '/')
    if before = [] then "."
    else trimSlashes (String.ofList before.reverse)

/-- `dirname`: names without their last parts. -/
def dirname : Utility := fun _ args =>
  JobM.withArguments "dirname" [⟨'z', "zero", .nothing⟩] args fun a => do
  if a.operands = [] then return ← JobM.refuse "dirname" "missing operand"
  JobM.say (ofLines (a.operands.map directoryPart))
  return 0

def writtenPlace (place : Path) : String :=
  "/" ++ "/".intercalate (place.map Text.widen)

/-- `realpath`: where names lead. -/
def realpath : Utility := fun _ args =>
  JobM.withArguments "realpath"
    [⟨'e', "canonicalize-existing", .nothing⟩, ⟨'m', "canonicalize-missing", .nothing⟩,
     ⟨'q', "quiet", .nothing⟩, ⟨'s', "no-symlinks", .nothing⟩] args fun a => do
  if a.operands = [] then return ← JobM.refuse "realpath" "missing operand"
  forOperands a.operands fun name => do
    match (← get).walk name with
    | .ok (.found place _) =>
        JobM.say (writtenPlace place ++ "\n")
        return 0
    | .ok (.free place) =>
        if a.has 'e' then
          return ← JobM.fail ("realpath: " ++ Job.shown name ++ ": No such file or directory")
        JobM.say (writtenPlace place ++ "\n")
        return 0
    | .error e => JobM.fail ("realpath: " ++ Job.shown name ++ ": " ++ e.reason)

/-- `readlink`: what links hold, or where names lead. -/
def readlink : Utility := fun _ args =>
  JobM.withArguments "readlink"
    [⟨'f', "canonicalize", .nothing⟩, ⟨'e', "canonicalize-existing", .nothing⟩,
     ⟨'m', "canonicalize-missing", .nothing⟩, ⟨'n', "no-newline", .nothing⟩] args fun a => do
  if a.operands = [] then return ← JobM.refuse "readlink" "missing operand"
  let ending := if a.has 'n' then "" else "\n"
  forOperands a.operands fun name => do
    let j ← get
    if a.has 'f' ∨ a.has 'e' ∨ a.has 'm' then
      match j.walk name with
      | .ok (.found place _) =>
          JobM.say (writtenPlace place ++ ending)
          return 0
      | .ok (.free place) =>
          if a.has 'e' then return 1
          JobM.say (writtenPlace place ++ ending)
          return 0
      | .error _ => return 1
    else match found? j name with
      | .ok (_, .link target) =>
          JobM.say (Text.widen target ++ ending)
          return 0
      | _ => return 1

/-- `pwd` as a program of its own. -/
def pwd : Utility := fun _ _ => do
  JobM.say (writtenPlace (← get).here ++ "\n")
  return 0

def stat : Utility := fun _ args =>
  JobM.withArguments "stat"
    [⟨'c', "format", .value⟩, ⟨'L', "dereference", .nothing⟩] args fun a => do
  if a.operands = [] then return ← JobM.refuse "stat" "missing operand"
  forOperands a.operands fun name => do
    match found? (← get) name with
    | .error e => JobM.fail ("stat: cannot statx " ++ Job.quoted name ++ ": " ++ e.reason)
    | .ok (_, entry) =>
        let rec format : List Char → List Char
          | '%' :: c :: cs =>
              (match c with
                | 'n' => name
                | 's' => match entry with
                    | .file content => toString content.bytes.length
                    | .link target => toString target.utf8ByteSize
                    | .directory => "4096"
                | 'F' => match entry with
                    | .file content =>
                        if content.bytes.isEmpty then "regular empty file" else "regular file"
                    | .link _ => "symbolic link"
                    | .directory => "directory"
                | c => String.ofList ['%', c]).toList ++ format cs
          | c :: cs => c :: format cs
          | [] => []
        JobM.say (String.ofList (format ((a.value? 'c').getD "%n").toList) ++ "\n")
        return 0

/-- `uname`: the name of the system. -/
def uname : Utility := fun _ _ => do
  JobM.say "Linux\n"
  return 0

/-- `whoami`: the name of the user. -/
def whoami : Utility := fun _ _ => do
  JobM.say "root\n"
  return 0

/-- `sleep`: waits, which takes no time here. -/
def sleep : Utility := fun _ args =>
  let isInterval (arg : String) : Bool :=
    let cs := arg.toList.dropWhile fun c => c.isDigit ∨ c = '.'
    arg ≠ "" && (arg.toList.head?.any fun c => c.isDigit ∨ c = '.') &&
      (cs = [] || (cs.length = 1 && "smhd".toList.contains (cs.headD 's')))
  match args.find? fun arg => !isInterval arg with
  | some arg => JobM.refuse "sleep" ("invalid time interval " ++ Job.quoted arg)
  | none => if args = [] then JobM.refuse "sleep" "missing operand" else return 0

/-- How many lines `yes` prints at most. -/
def yesLimit : Nat := 20000

/-- `yes`: prints a line again and again. -/
def yes : Utility := fun _ args => do
  let line := (if args = [] then "y" else " ".intercalate args) ++ "\n"
  JobM.say (String.join (List.replicate yesLimit line))
  return 0

/-- `true`: succeeds. -/
def succeed : Utility := fun _ _ => return 0

/-- `false`: fails. -/
def giveUp : Utility := fun _ _ => return 1

end ReplyScript.Utility
