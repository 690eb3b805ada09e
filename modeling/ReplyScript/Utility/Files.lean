import ReplyScript.Utility.Input
import ReplyScript.Utility.Mode

/-! # Making, moving and removing files -/

namespace ReplyScript.Utility

open Disk (Entry FileError Path Target Tree)

/-- The place of an entry that a name leads to, links at its end not followed. -/
def found? (j : Job) (name : String) : Except FileError (Path × Entry) :=
  match j.walk name false with
  | .ok (.found place entry) => .ok (place, entry)
  | .ok (.free _) => .error .notFound
  | .error e => .error e

/-- The name without slashes at its end. -/
def trimSlashes (name : String) : String :=
  let cs := Text.dropEndWhile (· == '/') name.toList
  if cs = [] ∧ name ≠ "" then "/" else String.ofList cs

def lastPart (name : String) : String :=
  let cs := (trimSlashes name).toList
  if cs = ['/'] then "/" else String.ofList (cs.reverse.takeWhile (· ≠ '/')).reverse

def inside (directory name : String) : String :=
  if directory.toList.getLast? = some '/' then directory ++ name else directory ++ "/" ++ name

/-- Do something with each operand; the status is 1 if it fails for one. -/
def forOperands (names : List String) (act : String → JobM Nat) : JobM Nat :=
  names.foldlM (fun status name => do return max status (← act name)) 0

/-- The part of a name that leads to a directory made on the way. -/
def nameOfMade (j : Job) (place : Path) (name : String) : String :=
  let above := (j.path name).length - place.length
  let names := (name.toList.splitOn '/').map String.ofList
  let names := if names.getLast? = some "" then names.dropLast else names
  "/".intercalate (names.take (names.length - above))

/-- `mkdir`: makes directories. -/
def mkdir : Utility := fun _ args =>
  JobM.withArguments "mkdir"
    [⟨'p', "parents", .nothing⟩, ⟨'v', "verbose", .nothing⟩, ⟨'m', "mode", .value⟩] args fun a => do
  if a.operands = [] then return ← JobM.refuse "mkdir" "missing operand"
  let mask := (← get).mask
  match (a.value? 'm').map fun m => (m, changedMode? m true mask 0o777) with
  | some (written, none) => return ← JobM.fail ("mkdir: invalid mode " ++ Job.quoted written)
  | _ => pure ()
  let finish (place : Path) : JobM Unit := do
    match (a.value? 'm').bind fun m => changedMode? m true mask 0o777 with
    | some mode => modify fun j => { j with disk := j.disk.setMode place mode }
    | none => pure ()
  forOperands a.operands fun name => do
    let j ← get
    let cannot (e : FileError) : JobM Nat :=
      JobM.fail ("mkdir: cannot create directory " ++ Job.quoted name ++ ": " ++ e.reason)
    if name = "" then cannot .notFound
    else if a.has 'p' then
      let (disk, e) := j.disk.makeDirectories ((j.path name).filter (· ≠ "."))
      let made := (disk.entries.map (·.1)).filter fun p => (j.disk.entryAt? p).isNone
      set (made.foldl (fun j place => j.create place .directory) { j with disk })
      if a.has 'v' then
        made.forM fun place =>
          JobM.say ("mkdir: created directory " ++ Job.quoted (nameOfMade j place name) ++ "\n")
      match e with
      | none =>
          match made.getLast? with
          | some place => finish place
          | none => pure ()
          return 0
      | some e => cannot e
    else
      match j.disk.walk ((j.path name).filter (· ≠ ".")) false with
      | .ok (.found ..) => cannot .alreadyExists
      | .ok (.free place) =>
          set (j.create place .directory)
          finish place
          if a.has 'v' then JobM.say ("mkdir: created directory " ++ Job.quoted name ++ "\n")
          return 0
      | .error e => cannot e

/-- `rmdir`: removes empty directories. -/
def rmdir : Utility := fun _ args =>
  JobM.withArguments "rmdir"
    [⟨'p', "parents", .nothing⟩, ⟨'v', "verbose", .nothing⟩] args fun a => do
  if a.operands = [] then return ← JobM.refuse "rmdir" "missing operand"
  let remove (name : String) : JobM Nat := do
    let j ← get
    let cannot (reason : String) : JobM Nat :=
      JobM.fail ("rmdir: failed to remove " ++ Job.quoted name ++ ": " ++ reason)
    match found? j name with
    | .error e => cannot e.reason
    | .ok (place, .directory) =>
        if (j.disk.children place).isEmpty then
          set { j with disk := j.disk.erase place }
          return 0
        else cannot "Directory not empty"
    | .ok _ => cannot FileError.notDirectory.reason
  forOperands a.operands fun name => do
    let status ← remove name
    if a.has 'p' ∧ status = 0 then
      let parts := (name.toList.splitOn '/').filter (· ≠ [])
      let parents := (List.range (parts.length - 1)).reverse.map fun (n : Nat) =>
        String.ofList (List.intercalate ['/'] (parts.take (n + 1)))
      forOperands parents remove
    else return status

/-- The names of an entry and of all below it, in the order in which they are removed. -/
def removalOrder (j : Job) : (fuel : Nat) → String → List (String × Bool)
  | 0, _ => []
  | fuel + 1, name =>
      match found? j name with
      | .ok (_, .directory) =>
          (match j.namesIn name with
            | .ok entries => entries.flatMap fun (n, _) => removalOrder j fuel (inside name n)
            | .error _ => []) ++ [(name, true)]
      | .ok _ => [(name, false)]
      | .error _ => []

/-- `rm`: removes files. -/
def rm : Utility := fun _ args =>
  JobM.withArguments "rm"
    [⟨'r', "recursive", .nothing⟩, ⟨'R', "", .nothing⟩, ⟨'f', "force", .nothing⟩,
     ⟨'d', "dir", .nothing⟩, ⟨'v', "verbose", .nothing⟩, ⟨'i', "", .nothing⟩] args fun a => do
  let recursive := a.has 'r' || a.has 'R'
  if a.operands = [] then
    return ← if a.has 'f' then pure 0 else JobM.refuse "rm" "missing operand"
  forOperands a.operands fun name => do
    let j ← get
    let cannot (reason : String) : JobM Nat :=
      JobM.fail ("rm: cannot remove " ++ Job.quoted name ++ ": " ++ reason)
    if recursive ∧ (lastPart name = "." ∨ lastPart name = "..") then
      return ← JobM.fail ("rm: refusing to remove '.' or '..' directory: skipping "
        ++ Job.quoted name)
    match found? j name with
    | .error e =>
        if a.has 'f' ∧ (e = .notFound ∨ e = .notDirectory) then return 0 else cannot e.reason
    | .ok (place, entry) =>
        if entry = .directory ∧ !recursive then
          if !a.has 'd' then return ← cannot FileError.isDirectory.reason
          if !(j.disk.children place).isEmpty then return ← cannot "Directory not empty"
        if a.has 'v' then
          (removalOrder j 100 name).forM fun (n, isDirectory) =>
            JobM.say ((if isDirectory then "removed directory " else "removed ") ++ Job.quoted n
              ++ "\n")
        set { j with disk := j.disk.erase place }
        return 0

/-- `touch`: makes files that are not there. -/
def touch : Utility := fun _ args =>
  JobM.withArguments "touch"
    [⟨'a', "", .nothing⟩, ⟨'m', "", .nothing⟩, ⟨'c', "no-create", .nothing⟩, ⟨'t', "", .value⟩,
     ⟨'d', "date", .value⟩, ⟨'r', "reference", .value⟩] args fun a => do
  if a.operands = [] then return ← JobM.refuse "touch" "missing file operand"
  forOperands a.operands fun name => do
    let j ← get
    match j.walk name with
    | .ok (.found ..) => return 0
    | .ok (.free place) =>
        if a.has 'c' then return 0
        if name.toList.getLast? = some '/' then
          return ← JobM.fail ("touch: cannot touch " ++ Job.quoted name
            ++ ": No such file or directory")
        set (j.create place (.file (.text "")))
        return 0
    | .error e =>
        if a.has 'c' ∧ e = .notFound then return 0
        JobM.fail ("touch: cannot touch " ++ Job.quoted name ++ ": " ++ e.reason)

/-- The entries of a tree below a place set below another one. -/
def graft (t : Tree) (from_ onto : Path) : Tree :=
  t.entries.foldl (fun t (p, e) =>
    if from_.isPrefixOf p then
      let target := onto ++ p.drop from_.length
      let mode := t.mode p
      let isNew := (t.entryAt? target).isNone
      let t := t.set target e
      if isNew ∧ t.mode target ≠ mode then t.setMode target mode else t
    else t) t

/-- A copy or a move of an entry. -/
structure Transfer where
  utility : String
  moves : Bool
  recursive : Bool
  /-- Existing files stay. -/
  keeps : Bool
  verbose : Bool
  /-- Links are copied as links. -/
  keepsLinks : Bool

/-- Copy or move an entry to a name. -/
def Transfer.run (t : Transfer) (source target : String) : JobM Nat := do
  let j ← get
  let fail (message : String) : JobM Nat := JobM.fail (t.utility ++ ": " ++ message)
  let looked := if t.moves ∨ t.keepsLinks then found? j source else
    match j.walk source with
    | .ok (.found place entry) => .ok (place, entry)
    | .ok (.free _) => .error .notFound
    | .error e => .error e
  match looked with
  | .error e => fail ("cannot stat " ++ Job.quoted source ++ ": " ++ e.reason)
  | .ok (place, entry) =>
      if entry = .directory ∧ !t.moves ∧ !t.recursive then
        return ← fail ("-r not specified; omitting directory " ++ Job.quoted source)
      let done (tree : Tree) : JobM Nat := do
        set { j with disk := tree }
        if t.verbose then
          JobM.say ((if t.moves then "renamed " else "") ++ Job.quoted source ++ " -> "
            ++ Job.quoted target ++ "\n")
        return 0
      let transfer (onto : Path) : JobM Nat := do
        if place.isPrefixOf onto ∧ entry = .directory ∧ place ≠ onto then
          fail (if t.moves then
              "cannot move " ++ Job.quoted source ++ " to a subdirectory of itself, "
                ++ Job.quoted target
            else "cannot copy a directory, " ++ Job.quoted source ++ ", into itself, "
              ++ Job.quoted target)
        else
          let grafted := graft j.disk place onto
          done (if t.moves then grafted.erase place else grafted)
      let cannot (e : FileError) : JobM Nat :=
        if t.moves then
          fail ("cannot move " ++ Job.quoted source ++ " to " ++ Job.quoted target ++ ": "
            ++ e.reason)
        else fail ("cannot create " ++ (if entry = .directory then "directory " else "regular file ")
          ++ Job.quoted target ++ ": " ++ e.reason)
      match j.walk (if j.reaches target then target else trimSlashes target) (!t.moves) with
      | .error e => cannot e
      | .ok (.free onto) =>
          if target.toList.getLast? = some '/' ∧ entry ≠ .directory then
            if t.moves then cannot .notDirectory
            else fail ("cannot create regular file " ++ Job.quoted target ++ ": Not a directory")
          else transfer onto
      | .ok (.found onto old) =>
          if onto = place then
            fail (Job.quoted source ++ " and " ++ Job.quoted target ++ " are the same file")
          else if t.keeps then return 0
          else match entry, old with
            | .directory, .directory =>
                if t.moves then
                  if (j.disk.children onto).isEmpty then transfer onto
                  else fail ("cannot move " ++ Job.quoted source ++ " to " ++ Job.quoted target
                    ++ ": Directory not empty")
                else transfer onto
            | .directory, _ =>
                fail ("cannot overwrite non-directory " ++ Job.quoted target ++ " with directory "
                  ++ Job.quoted source)
            | _, .directory =>
                fail ("cannot overwrite directory " ++ Job.quoted target ++ " with non-directory")
            | _, _ => transfer onto

/-- Copy or move what operands name, the last of which is the target. -/
def Transfer.runAll (t : Transfer) (a : Arguments) : JobM Nat := do
  let j ← get
  let operands := match a.value? 't' with
    | some directory => a.operands ++ [directory]
    | none => a.operands
  match operands.reverse with
  | [] => JobM.refuse t.utility "missing file operand"
  | [only] => JobM.refuse t.utility ("missing destination file operand after " ++ Job.quoted only)
  | target :: sources =>
      if j.isDirectory target ∧ !a.has 'T' then
        forOperands sources.reverse fun source => t.run source (inside target (lastPart source))
      else
        match sources with
        | [source] =>
            if a.has 't' then
              JobM.fail (t.utility ++ ": target directory " ++ Job.quoted target ++ ": "
                ++ (if j.reaches target then FileError.notDirectory else .notFound).reason)
            else t.run source target
        | _ =>
            JobM.fail (t.utility ++ ": target " ++ Job.quoted target
              ++ (if j.reaches target then ": Not a directory" else ": No such file or directory"))

def transferOptions : List KnownOption :=
  [⟨'r', "recursive", .nothing⟩, ⟨'R', "", .nothing⟩, ⟨'a', "archive", .nothing⟩,
   ⟨'f', "force", .nothing⟩, ⟨'n', "no-clobber", .nothing⟩, ⟨'v', "verbose", .nothing⟩,
   ⟨'p', "", .nothing⟩, ⟨'i', "interactive", .nothing⟩, ⟨'u', "update", .nothing⟩,
   ⟨'d', "", .nothing⟩, ⟨'P', "no-dereference", .nothing⟩, ⟨'L', "dereference", .nothing⟩,
   ⟨'T', "no-target-directory", .nothing⟩, ⟨'t', "target-directory", .value⟩]

/-- `cp`: copies files. -/
def cp : Utility := fun _ args =>
  JobM.withArguments "cp" transferOptions args fun a =>
    let recursive := a.has 'r' || a.has 'R' || a.has 'a'
    let t : Transfer := ⟨"cp", false, recursive, a.has 'n', a.has 'v',
      a.has 'P' || a.has 'd' || a.has 'a' || recursive⟩
    t.runAll a

/-- `mv`: moves files. -/
def mv : Utility := fun _ args =>
  JobM.withArguments "mv" transferOptions args fun a =>
    let t : Transfer := ⟨"mv", true, true, a.has 'n', a.has 'v', true⟩
    t.runAll a

/-- `ln`: makes links. A link to the same file is a copy. -/
def ln : Utility := fun _ args =>
  JobM.withArguments "ln"
    [⟨'s', "symbolic", .nothing⟩, ⟨'f', "force", .nothing⟩, ⟨'n', "no-dereference", .nothing⟩,
     ⟨'v', "verbose", .nothing⟩, ⟨'T', "", .nothing⟩] args fun a => do
  let link (source name : String) : JobM Nat := do
    let j ← get
    let kind := if a.has 's' then "symbolic" else "hard"
    let cannot (reason : String) : JobM Nat :=
      JobM.fail ("ln: failed to create " ++ kind ++ " link " ++ Job.quoted name ++ ": " ++ reason)
    let entry : Except String Entry :=
      if a.has 's' then .ok (.link (Text.narrow source))
      else match j.walk source with
        | .ok (.found _ (.file content)) => .ok (.file content)
        | .ok (.found ..) =>
            .error ("ln: " ++ source ++ ": hard link not allowed for directory")
        | .ok (.free _) =>
            .error ("ln: failed to access " ++ Job.quoted source ++ ": No such file or directory")
        | .error e => .error ("ln: failed to access " ++ Job.quoted source ++ ": " ++ e.reason)
    match entry, j.walk name false with
    | .error message, _ => JobM.fail message
    | .ok _, .error e => cannot e.reason
    | .ok entry, .ok (.free place) =>
        set { j with disk := j.disk.set place entry }
        return 0
    | .ok entry, .ok (.found place old) =>
        if a.has 'f' ∧ old ≠ .directory then
          set { j with disk := j.disk.set place entry }
          return 0
        else cannot FileError.alreadyExists.reason
  match a.operands with
  | [] => JobM.refuse "ln" "missing file operand"
  | [source] => link source (lastPart source)
  | operands => do
      let j ← get
      let target := operands.getLast?.getD ""
      let sources := operands.dropLast
      if j.isDirectory target ∧ !(a.has 'n' ∧ j.isLink target) then
        forOperands sources fun source => link source (inside target (lastPart source))
      else match sources with
        | [source] => link source target
        | _ => JobM.fail ("ln: target " ++ Job.quoted target ++ ": "
            ++ (if j.reaches target then FileError.notDirectory else .notFound).reason)

/-- `tee`: copies the input to files and to the output. -/
def tee : Utility := fun _ args =>
  JobM.withArguments "tee"
    [⟨'a', "append", .nothing⟩, ⟨'i', "", .nothing⟩] args fun a => do
  let text := match ← JobM.readAll 0 with
    | .ok text => text
    | .error _ => ""
  let status ← forOperands a.operands fun name => do
    match (← get).openFile name (if a.has 'a' then .append else .write) with
    | .ok (stream, j) =>
        set (j.put text stream).2
        return 0
    | .error e => JobM.fail (plainly "tee" name e.reason)
  JobM.say text
  return status

def namesBelow (j : Job) : (fuel : Nat) → String → List String
  | 0, name => [name]
  | fuel + 1, name =>
      name :: match found? j name with
        | .ok (_, .directory) =>
            match j.namesIn name with
            | .ok entries => entries.flatMap fun (n, _) => namesBelow j fuel (inside name n)
            | .error _ => []
        | _ => []

/-- `chmod`: changes permissions. -/
def chmod : Utility := fun _ args => do
  let isOption (arg : String) : Bool := match arg.toList with
    | '-' :: c :: cs => (c :: cs).all fun c => "Rvfc".toList.contains c
    | _ => false
  let options := (args.filter isOption).flatMap String.toList
  match (args.filter fun arg => !isOption arg ∧ arg ≠ "--") with
  | [] => JobM.refuse "chmod" "missing operand"
  | [mode] => JobM.refuse "chmod" ("missing operand after " ++ Job.quoted mode)
  | written :: names =>
      let mask := (← get).mask
      if (changedMode? written false mask 0).isNone then
        return ← JobM.refuse "chmod" ("invalid mode: " ++ Job.quoted written)
      let j ← get
      let names := if options.contains 'R' then
          names.flatMap (namesBelow j (j.disk.entries.length + 1))
        else names
      let shown (mode : Nat) : String :=
        let digits := octal mode
        String.ofList (List.replicate (4 - digits.length) '0') ++ digits ++ " ("
          ++ modeLetters mode ++ ")"
      forOperands names fun name => do
        let j ← get
        let cannot (e : FileError) : JobM Nat :=
          if options.contains 'f' then return 1
          else JobM.fail ("chmod: cannot access " ++ Job.quoted name ++ ": " ++ e.reason)
        match j.walk name with
        | .ok (.found place entry) =>
            let before := j.disk.mode place
            let after :=
              (changedMode? written (entry = .directory : Bool) mask before).getD before
            set { j with disk := j.disk.setMode place after }
            if options.contains 'v' ∨ (options.contains 'c' ∧ before ≠ after) then
              JobM.say ("mode of " ++ Job.quoted name ++ (if before = after then
                  " retained as " ++ shown before
                else " changed from " ++ shown before ++ " to " ++ shown after) ++ "\n")
            return 0
        | .ok (.free _) => cannot .notFound
        | .error e => cannot e

def entryMark (j : Job) (name : String) (slashesOnly : Bool) (e : Entry) : String :=
  match e with
  | .directory => "/"
  | .link _ => if slashesOnly then "" else "@"
  | .file _ =>
      let runs : Bool := match j.walk name with
        | .ok (.found place _) => j.isExecutable place
        | _ => false
      if runs && !slashesOnly then "*" else ""

/-- `ls`: lists directories. -/
def ls : Utility := fun _ args =>
  JobM.withArgumentsOr 2 "ls"
    [⟨'a', "all", .nothing⟩, ⟨'A', "almost-all", .nothing⟩, ⟨'1', "", .nothing⟩,
     ⟨'d', "directory", .nothing⟩, ⟨'R', "recursive", .nothing⟩, ⟨'F', "classify", .nothing⟩,
     ⟨'p', "", .nothing⟩, ⟨'r', "reverse", .nothing⟩, ⟨'l', "", .nothing⟩, ⟨'t', "", .nothing⟩,
     ⟨'S', "", .nothing⟩, ⟨'h', "", .nothing⟩, ⟨'C', "", .nothing⟩, ⟨'x', "", .nothing⟩,
     ⟨'m', "", .nothing⟩, ⟨'i', "", .nothing⟩, ⟨'s', "", .nothing⟩, ⟨'U', "", .nothing⟩,
     ⟨'v', "", .nothing⟩, ⟨'X', "", .nothing⟩, ⟨'L', "", .nothing⟩,
     ⟨'%', "color", .perhaps⟩] args fun a => do
  let j ← get
  let marked (directory name : String) (e : Entry) : String :=
    name ++ (if a.has 'F' ∨ a.has 'p' then
      entryMark j (if directory = "" then name else inside directory name) (!a.has 'F') e else "")
  let size : Entry → Nat
    | .file content => content.bytes.length
    | .link target => target.utf8ByteSize
    | .directory => 4096
  let order (entries : List (String × Entry)) : List (String × Entry) :=
    let entries := if a.has 'S' then
      entries.mergeSort fun x y => size y.2 < size x.2 ∨ (size x.2 = size y.2 ∧ x.1 ≤ y.1)
      else entries.mergeSort fun x y => x.1 ≤ y.1
    if a.has 'r' then entries.reverse else entries
  let print (names : List String) : JobM Unit :=
    if a.has 'm' ∧ !names.isEmpty then JobM.say (", ".intercalate names ++ "\n")
    else JobM.say (String.join (names.map (· ++ "\n")))
  let listing (directory : String) : JobM Nat := do
    match j.namesIn directory with
    | .error e =>
        JobM.fail ("ls: cannot open directory " ++ Job.quoted directory ++ ": " ++ e.reason) 2
    | .ok entries =>
        let entries := entries.filter fun (n, _) =>
          a.has 'a' || a.has 'A' || n.toList.head? ≠ some '.'
        let entries := if a.has 'a' then (".", Entry.directory) :: ("..", .directory) :: entries
          else entries
        print ((order entries).map fun (n, e) => marked directory n e)
        return 0
  let names := if a.operands.isEmpty then ["."] else a.operands
  let looked : List (String × Except FileError (Path × Entry)) := names.map fun name =>
    (name, match found? j name with
      | .ok (place, .link target) =>
          if a.has 'd' ∨ !j.isDirectory name then .ok (place, .link target)
          else .ok (place, .directory)
      | r => r)
  let status ← looked.foldlM (fun status (name, r) => do
    match r with
    | .error e =>
        JobM.fail ("ls: cannot access " ++ Job.quoted name ++ ": " ++ e.reason) 2
    | .ok _ => return status) 0
  let files := looked.filterMap fun (name, r) => match r with
    | .ok (_, e) => if e = .directory ∧ !a.has 'd' then none else some (name, e)
    | .error _ => none
  let directories := looked.filterMap fun (name, r) => match r with
    | .ok (_, .directory) => if a.has 'd' then none else some (name, Entry.directory)
    | _ => none
  print ((order files).map fun (n, e) => marked "" n e)
  let directories := (order directories).map (·.1)
  let directories := if a.has 'R' then
      directories.flatMap fun d =>
        d :: below 100 j d (a.has 'a' || a.has 'A')
    else directories
  let headers := 1 < names.length || a.has 'R'
  let (status, _) ← directories.foldlM (fun (status, first) d => do
    if headers then JobM.say ((if first then "" else "\n") ++ d ++ ":\n")
    return (max status (← listing d), false)) (status, files.isEmpty)
  return status
where
  /-- The directories below one, in the order in which they are listed. -/
  below : (fuel : Nat) → Job → String → (hidden : Bool) → List String
    | 0, _, _, _ => []
    | fuel + 1, j, d, hidden =>
        match j.namesIn d with
        | .error _ => []
        | .ok entries => entries.flatMap fun (n, e) =>
            if e = .directory ∧ (hidden ∨ n.toList.head? ≠ some '.') then
              inside d n :: below fuel j (inside d n) hidden
            else []

end ReplyScript.Utility
