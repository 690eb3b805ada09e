import ReplyScript.Shell.Expansion
import ReplyScript.Utility.Programs
import ReplyScript.World.Service

/-! # Running scripts

Commands run in order on the state of the shell. What runs apart (in parentheses, in a pipe, or for
its output) changes nothing of the shell but files. Programs that a utility launches may be shells
again.
-/

namespace ReplyScript.Shell

open Disk (FileError Path Tree)
open ShellM
open Utility (Wildcard)

/-- How many times a loop may go round. -/
def loopLimit : Nat := 1000000

/-- What a utility says when its output goes nowhere, and its status then. -/
def lossOf (utility : String) : String × Nat :=
  match utility with
  | "cat" => ("standard output", 1)
  | "ls" | "sort" | "grep" => ("write error", 2)
  | _ => ("write error", 1)

/-- Run a utility under another name, which is that of a file: its messages begin with that name. -/
def withName (name : String) (body : JobM Nat) : JobM Nat := do
  if !name.toList.contains '/' then body
  else
    let j ← get
    let messages := j.pipes.size
    set ({ j with pipes := j.pipes.push "" }.setStream 2 (some (.pipe messages)))
    let status ← body
    let after ← get
    set { after with channels := j.channels }
    let last := (Utility.lastPart name).toList
    let start := last ++ [':', ' ']
    let renamed (line : String) : String :=
      if start.isPrefixOf line.toList then
        name ++ String.ofList (line.toList.drop last.length)
      else line
    let text := (after.pipes[messages]?).getD ""
    let _ ← JobM.put 2 (Text.unlines ((Text.lines text).map renamed))
    return status

/-- How deep commands may lie in each other. -/
def depthLimit : Nat := 3000

/-- Do a step of a loop, which may leave the loop or others around it. The result tells whether the
loop goes on. -/
def takeTurn (step : ShellM Bool) : ShellM Bool := do
  try step
  catch
    | .break_ n => do
        if n ≤ 1 then return false
        modify fun s => { s with loops := s.loops - 1 }
        throw (.break_ (n - 1))
    | .continue_ n => do
        if n ≤ 1 then return true
        modify fun s => { s with loops := s.loops - 1 }
        throw (.continue_ (n - 1))
    | stop => throw stop

/-- Go round while a test holds. The status is that of the last round. -/
def repeatWhile (test : ShellM Bool) (body : ShellM Unit) : ShellM Unit := do
  modify fun s => { s with loops := s.loops + 1 }
  let mut last := 0
  for _ in [0:loopLimit] do
    let status := last
    let more ← takeTurn do
      if !(← test) then
        setStatus status
        return false
      body
      return true
    if !more then break
    last := (← get).status
  modify fun s => { s with loops := s.loops - 1 }

/-- Go round for each value of a variable. -/
def repeatFor (name : String) (values : List String) (body : ShellM Unit) : ShellM Unit := do
  modify fun s => { s with loops := s.loops + 1 }
  for value in values do
    let more ← takeTurn do
      assign name value
      body
      return true
    if !more then break
  modify fun s => { s with loops := s.loops - 1 }

def testProgram (name : String) (args : List String) : JobM Nat := do
  match conditionHolds (← get) false args with
  | .ok holds => return if holds then 0 else 1
  | .error message => JobM.fail (name ++ ": " ++ message) 2

def bracketProgram (args : List String) : JobM Nat :=
  if args.getLast? = some "]" then testProgram "[" args.dropLast
  else JobM.fail "[: missing ']'" 2

def programs : List (String × Utility) :=
  ("test", fun _ => testProgram "test") :: ("[", fun _ => bracketProgram) :: Utility.programs

/-- What a name of a program leads to. -/
inductive Program where
  | utility (u : Utility)
  | shell
  /-- A file with a script. -/
  | script (place : Path)
  | absent
  | forbidden

def programAt (j : Job) (name : String) : Program :=
  let known : Program :=
    let last := Utility.lastPart name
    if ["sh", "dash", "bash"].contains last then .shell
    else match programs.lookup last with
      | some u => .utility u
      | none => .absent
  match j.walk name with
  | .ok (.found place (.file _)) => if j.isExecutable place then .script place else .forbidden
  | .ok (.found ..) => .forbidden
  | _ => if Utility.programDirectories.contains (Utility.directoryPart name) then known else .absent

/-- The program that a name leads to, and its full name. A name without slashes is looked for in the
directories of a search path; directories among them are passed over. -/
def programNamed (j : Job) (path : Option String) (name : String) : Program × String :=
  if name.toList.contains '/' then (programAt j name, name)
  else if name = "" then (.absent, name)
  else
    let files := match path with
      | some path => (path.toList.splitOn ':').map fun d =>
          Utility.inside (if d = [] then "." else String.ofList d) name
      | none => []
    let candidates := (files.filter fun file => !j.isDirectory file).map fun file =>
      (programAt j file, file)
    let isThere : Program × String → Bool
      | (.absent, _) | (.forbidden, _) => false
      | _ => true
    match candidates.find? isThere with
    | some found => found
    | none =>
        (candidates.find? fun c => c.1 matches .forbidden).getD (.absent, name)

/-- The search path that a program finds in its environment. -/
def searchPath (j : Job) : String :=
  (j.value? "PATH").getD "/bin:/usr/bin"

def programFile? (s : State) (name : String) : Option String :=
  match programNamed s.job (s.value? "PATH") name with
  | (.absent, _) | (.forbidden, _) => none
  | (_, file) => some file

/-- The interpreter that the first line of a script names, with an argument for it. -/
def interpreterOf (text : String) : Option (List String) :=
  match text.toList with
  | '#' :: '!' :: cs =>
      let isBlank (c : Char) : Bool := c = ' ' || c = '\t'
      let line := Text.dropEndWhile isBlank ((cs.takeWhile (· ≠ '\n')).dropWhile isBlank)
      let file := line.takeWhile fun c => !isBlank c
      let argument := (line.drop file.length).dropWhile isBlank
      if file = [] then none
      else some (String.ofList file :: if argument = [] then [] else [String.ofList argument])
  | _ => none

/-- What is said when a file cannot be opened for output. -/
def cannotCreate (name : String) (e : FileError) : String :=
  "cannot create " ++ name ++ ": " ++
    if e = .notFound ∨ e = .notDirectory then "Directory nonexistent" else e.reason

def cannotOpen (name : String) (e : FileError) : String :=
  "cannot open " ++ name ++ ": " ++
    if e = .notFound ∨ e = .notDirectory then "No such file" else e.reason

/-- Lead a channel to a file or to where another channel leads. -/
def redirect (channel : Nat) (opening : Opening) (target : String) : ShellM Unit := do
  let s ← get
  let open_ (access : Access) (complaint : String → FileError → String) : ShellM Unit := do
    match s.job.openFile target access with
    | .ok (stream, j) => set { s with job := j.setStream channel (some stream) }
    | .error e => fail (complaint target e)
  match opening with
  | .read => open_ .read cannotOpen
  | .write =>
      if s.has 'C' ∧ s.job.isFile target then fail (cannotCreate target .alreadyExists)
      open_ .write cannotCreate
  | .overwrite => open_ .write cannotCreate
  | .append => open_ .append cannotCreate
  | .readWrite => open_ .readWrite cannotCreate
  | .duplicate =>
      if target = "-" then setStream channel none
      else match Text.digits? target.toList with
        | none => fail ("Syntax error: Bad fd number")
        | some source =>
            match s.job.stream? source with
            | some stream => setStream channel (some stream)
            | none => fail (toString source ++ ": Bad file descriptor")

def Command.inOrder : Command → List Command
  | .sequence first second => first.inOrder ++ second.inOrder
  | c => [c]

/-- Tell of a program that a signal ended, and let the status be that of the signal. -/
def settle : ShellM Unit := do
  let s ← get
  if signalBase ≤ s.status then
    let signal := s.status - signalBase
    if endingOf signal ≠ "" then job (JobM.complain (endingOf signal))
    setStatus (128 + signal)

/-- The last command's failure ends the shell if the option for that is set. -/
def checkStatus (tested : Bool) : ShellM Unit := do
  let s ← get
  if !tested ∧ s.has 'e' ∧ s.status ≠ 0 then throw .leave

/-- The variables of a shell that starts: those of its environment, and the usual ones. -/
def variablesOf (j : Job) : List Variable :=
  let given := (j.environment.filter fun (name, _) => isName name).map fun (name, value) =>
    ({ name, value := some value, exported := true } : Variable)
  let usual : List (String × String) :=
    [("IFS", " \t\n"), ("OPTIND", "1"), ("PATH", Utility.usualPath),
     ("PS1", "# "), ("PS2", "> "), ("PS4", "+ "), ("PPID", "1")]
  let usual := (usual.filter fun (name, _) => given.all (·.name ≠ name)).map fun (name, value) =>
    ({ name, value := some value } : Variable)
  let here : Variable :=
    { name := "PWD", value := some (Utility.writtenPlace j.here), exported := true }
  given.filter (·.name ≠ "PWD") ++ usual ++ [here]

def State.start (j : Job) (self : String) (arguments : List String) : State where
  job := j
  directory := Utility.writtenPlace j.here
  self := self
  bindings := variablesOf j
  arguments := arguments

/-- What is known of a command name, as `type` and `command -V` say it. -/
def descriptionOf (s : State) (name : String) : Option String :=
  if Keyword.all.any (·.1 = name) then some (name ++ " is a shell keyword")
  else if specialNames.contains name then some (name ++ " is a special shell builtin")
  else if s.functions.any (·.1 = name) then some (name ++ " is a shell function")
  else if isBuiltin name then some (name ++ " is a shell builtin")
  else match s.aliases.lookup name with
    | some text => some (name ++ " is an alias for " ++ text)
    | none => (programFile? s name).map fun file => name ++ " is " ++ file

/-- What `command -v` prints of a command name. -/
def shortDescriptionOf (s : State) (name : String) : Option String :=
  if Keyword.all.any (·.1 = name) then some name
  else match s.aliases.lookup name with
    | some text => some ("alias " ++ name ++ "=" ++ singleQuoted text)
    | none =>
        if s.functions.any (·.1 = name) ∨ isBuiltin name then some name else programFile? s name

/-- The name of the builtin that words perform in the end, behind `command`. -/
def performedName : List String → String
  | "command" :: name :: _ => name
  | name :: _ => name
  | [] => ""

/-- The options and arguments of a call of the shell. -/
structure Call where
  options : List Char := []
  /-- The script is the first argument. -/
  isScript : Bool := false
  rest : List String := []

def Call.read : List String → Call
  | [] => {}
  | arg :: args =>
      match arg.toList with
      | ['-'] | ['-', '-'] => { rest := args }
      | '-' :: cs =>
          let call := Call.read args
          { call with
            options := cs.filter (· ≠ 'c') ++ call.options
            isScript := call.isScript || cs.contains 'c' }
      | _ => { rest := arg :: args }

mutual

/-- Run commands of a script one after the other, as far as it can be read. The fuel bounds how
deep commands lie in each other; `tested` tells that a failure of the commands is looked at. -/
def runText : (fuel : Nat) → (tested : Bool) → String → ShellM Unit
  | 0, _, _ => setStatus 2
  | fuel + 1, tested, text => do
      let s ← get
      let mut reader : Reader :=
        { rest := text.toList, count := s.documentCount, aliases := s.aliases }
      for _ in [0:text.length + 2] do
        match reader.next with
        | .error c =>
            modify fun s => { s with line := c.line }
            fail c.message
        | .ok (none, _) => return
        | .ok (some command, next) =>
            modify fun s => { s with
              documents := next.documents ++ s.documents, documentCount := next.count }
            reader := { next with documents := [], count := (← get).documentCount }
            runCommand fuel tested command
            let s ← get
            reader := { reader with count := s.documentCount, aliases := s.aliases }

/-- Do what was asked for at the end of the shell. -/
def runExitTrap : (fuel : Nat) → ShellM Unit
  | 0 => return
  | fuel + 1 => do
      let s ← get
      match s.traps.lookup "EXIT" with
      | none | some "" => return
      | some action =>
          set { s with traps := s.traps.filter (·.1 ≠ "EXIT"), builtin := none }
          try
            runText fuel false action
            setStatus s.status
          catch
            | .killed => throw .killed
            | .giveBack => setStatus s.status
            | _ => return

/-- Run a body as a shell of its own: it ends in the way it is stopped. -/
def runApart : (fuel : Nat) → ShellM Unit → ShellM Unit
  | 0, _ => setStatus 2
  | fuel + 1, body => do
      let stop ← isolated do
        let stop ← try
            body
            pure none
          catch stop => pure (some stop)
        match stop with
        | some .killed | some .replaced => pure ()
        | _ => runExitTrap fuel
        runWaiting fuel
        match stop with
        | some .killed => throw .killed
        | _ => return
      match stop with
      | some .killed => throw .killed
      | _ => return

/-- Run the commands in the background that have not run yet. -/
def runWaiting : (fuel : Nat) → ShellM Unit
  | 0 => return
  | fuel + 1 => do
      let before := (← get).status
      for w in (← get).waiting do
        modify fun s => { s with waiting := s.waiting.filter (·.number ≠ w.number) }
        runApart fuel do
          modify fun s => { s with
            bindings := w.bindings, arguments := w.arguments, functions := w.functions
            options := w.options, directory := w.directory, tested := false, builtin := none
            job := { s.job with here := w.here, channels := w.channels } }
          setStream 0 (some .nowhere)
          runCommand fuel false w.body
        modify fun s => { s with ended := (w.number, s.status) :: s.ended }
      setStatus before

/-- The output of a command without the newlines at its end. -/
def outputOf : (fuel : Nat) → Command → ShellM String
  | 0, _ => return ""
  | fuel + 1, command => do
      let pipe ← newPipe
      let before := (← get).status
      runApart fuel do
        setStream 1 (some (.pipe pipe))
        setStatus 0
        runCommand fuel false command
      let s ← get
      let text := (s.job.pipes[pipe]?).getD ""
      set { s with outputStatus := s.status, status := before }
      let kept := (Text.dropEndWhile (· == '\n') text.toList).filter (· ≠ '\x00')
      return String.ofList kept

def expand : (fuel : Nat) → (full : Bool) → Word → ShellM (List Letter)
  | 0, _, _ => return []
  | fuel + 1, full, w => do
      lettersOfWord (outputOf fuel) full partLimit (expandTildes (← get) false w)

def expandWords : (fuel : Nat) → List Word → ShellM (List String)
  | 0, _ => return []
  | fuel + 1, ws => do
      let mut all : List String := []
      for w in ws do
        let fields := Splitting.split (← get).separators (← expand fuel true w)
        all := all ++ fields.flatMap (wordsOf (← get))
      return all

def expandValue : (fuel : Nat) → Word → ShellM String
  | 0, _ => return ""
  | fuel + 1, w => do
      return textOf (← lettersOfWord (outputOf fuel) false partLimit (expandTildes (← get) true w))

/-- Lead channels where redirections say. -/
def redirectAll : (fuel : Nat) → List Redirection → ShellM Unit
  | 0, _ => return
  | fuel + 1, rs => do
      for r in rs do
        match r with
        | .file channel opening target =>
            redirect channel opening (textOf (← expand fuel false target))
        | .document channel number =>
            let w := ((← get).documents.lookup number).getD []
            let text := textOf (← lettersOfWord (outputOf fuel) false partLimit w)
            let pipe ← newPipe
            modify fun s => { s with
              job := { s.job with pipes := s.job.pipes.set! pipe text } }
            setStream channel (some (.pipe pipe))

/-- Do something with redirections, and let the channels be as before afterwards. The result tells
whether the redirections could be made. -/
def withRedirections : (fuel : Nat) → List Redirection → ShellM Unit → ShellM Bool
  | 0, _, _ => return false
  | fuel + 1, rs, body => do
      let channels := (← get).job.channels
      let restore : ShellM Unit :=
        modify fun s => { s with job := { s.job with channels } }
      let made ← try
          redirectAll fuel rs
          pure true
        catch
          | .failed => pure false
          | stop => do
              restore
              throw stop
      if made then
        try body
        catch stop =>
          restore
          throw stop
      restore
      return made

/-- Run a command. `tested` tells that its failure is looked at. -/
def runCommand : (fuel : Nat) → (tested : Bool) → Command → ShellM Unit
  | 0, _, _ => setStatus 2
  | fuel + 1, tested, command => do
      if (← get).has 'n' then return
      match command with
      | .nothing => return
      | .simple line assignments words redirections =>
          runSimple fuel tested line assignments words redirections
          settle
          checkStatus tested
      | .redirected line body redirections =>
          modify fun s => { s with line }
          if !(← withRedirections fuel redirections (runCommand fuel tested body)) then setStatus 2
      | .pipe commands =>
          runPipe fuel tested commands
          checkStatus tested
      | .both first second =>
          runCommand fuel true first
          if (← get).status = 0 then runCommand fuel tested second
      | .either first second =>
          runCommand fuel true first
          if (← get).status ≠ 0 then runCommand fuel tested second
      | .sequence first second =>
          for c in (Command.sequence first second).inOrder do
            runCommand fuel tested c
      | .negation body =>
          runCommand fuel true body
          setStatus (if (← get).status = 0 then 1 else 0)
      | .background body =>
          modify fun s =>
            let number := s.lastBackground.getD ownNumber + 1
            { s with
              status := 0, lastBackground := some number
              waiting := s.waiting ++ [{
                number, body, bindings := s.bindings, arguments := s.arguments
                functions := s.functions, options := s.options, here := s.job.here
                directory := s.directory, channels := s.job.channels }] }
      | .subshell body =>
          runApart fuel (runCommand fuel tested body)
          checkStatus tested
      | .conditional test body other =>
          runCommand fuel true test
          if (← get).status = 0 then runCommand fuel tested body
          else
            setStatus 0
            runCommand fuel tested other
      | .loop test body untilSuccess =>
          let holds : ShellM Bool := do
            runCommand fuel true test
            return ((← get).status == 0) != untilSuccess
          repeatWhile holds (runCommand fuel tested body)
      | .each name items body =>
          let values ← expandWords fuel items
          setStatus 0
          repeatFor name values (runCommand fuel tested body)
      | .choose subject cases =>
          let text := textOf (← expand fuel false subject)
          setStatus 0
          for (patterns, body) in cases do
            for p in patterns do
              let pattern := Wildcard.ofLetters (patternOf (← expand fuel false p))
              if Wildcard.fitsAll pattern text.toList then
                runCommand fuel tested body
                return
      | .define name body =>
          modify fun s => { s with
            functions := (name, body) :: s.functions.filter (·.1 ≠ name), status := 0 }

def runPipe : (fuel : Nat) → (tested : Bool) → List Command → ShellM Unit
  | 0, _, _ => setStatus 2
  | fuel + 1, tested, commands => do
      let mut input : Option Nat := none
      for (c, i) in commands.zipIdx do
        let source := input
        let target ← if i + 1 < commands.length then some <$> newPipe else pure none
        runApart fuel do
          match source with
          | some pipe => setStream 0 (some (.pipe pipe))
          | none => pure ()
          match target with
          | some pipe => setStream 1 (some (.pipe pipe))
          | none => pure ()
          runCommand fuel tested c
        input := target

/-- The words of a command. What looks like an assignment to a builtin that makes some is not
split. -/
def expandArguments : (fuel : Nat) → List Word → ShellM (List String)
  | 0, _ => return []
  | fuel + 1, ws => do
      let mut all : List String := []
      for w in ws do
        match if takesAssignments (performedName all) then assignment? w else none with
        | some (name, value) => all := all ++ [name ++ "=" ++ (← expandValue fuel value)]
        | none => all := all ++ (← expandWords fuel [w])
      return all

def runSimple : (fuel : Nat) → (tested : Bool) → (line : Nat) → List (String × Word) →
    List Word → List Redirection → ShellM Unit
  | 0, _, _, _, _, _ => setStatus 2
  | fuel + 1, tested, line, assignments, words, redirections => do
      modify fun s => { s with line, outputStatus := 0 }
      let fields ← expandArguments fuel words
      let s ← get
      let trace (assigned : List (String × String)) : ShellM Unit := do
        if s.has 'x' then
          let texts := assigned.map (fun (n, v) => n ++ "=" ++ v) ++ fields
          let text := (s.value? "PS4").getD "" ++ " ".intercalate texts ++ "\n"
          match s.job.stream? 2 with
          | some stream => modify fun s => { s with job := (s.job.put text stream).2 }
          | none => return
      match fields with
      | [] =>
          let made ← withRedirections fuel redirections do
            let mut assigned : List (String × String) := []
            for (name, value) in assignments do
              let value ← expandValue fuel value
              assigned := assigned ++ [(name, value)]
              assign name value
            if !assigned.isEmpty then trace assigned
          let after ← get
          setStatus (if made then after.outputStatus else 2)
      | name :: args =>
          let special := specialNames.contains name
          let body : ShellM Unit := do
            let mut assigned : List (String × String) := []
            for (n, value) in assignments do
              let value ← expandValue fuel value
              assigned := assigned ++ [(n, value)]
              if !special then
                makeLocal n
              assign n value
              if !special then
                modify fun s => match s.find? n with
                  | some v => s.setVariable { v with exported := true }
                  | none => s
            trace assigned
            modify fun s => { s with tested }
            dispatch fuel true name args
          let body := if special ∨ assignments.isEmpty then body else inScope body
          if name = "exec" ∧ args.isEmpty then
            redirectAll fuel redirections
            body
          else
            let made ← withRedirections fuel redirections body
            if !made then
              setStatus 2
              if special then throw .failed

def dispatch : (fuel : Nat) → (functionsToo : Bool) → String → List String → ShellM Unit
  | 0, _, _, _ => setStatus 2
  | fuel + 1, functionsToo, name, args => do
      let s ← get
      if specialNames.contains name then runBuiltin fuel functionsToo name args
      else match if functionsToo then s.functions.lookup name else none with
        | some body =>
            set { s with arguments := args, loops := 0, functionDepth := s.functionDepth + 1 }
            let restore : ShellM Unit :=
              modify fun after => { after with
                arguments := s.arguments, loops := s.loops, functionDepth := s.functionDepth }
            try
              inScope do
                try runCommand fuel s.tested body
                catch
                  | .giveBack => return
                  | stop => throw stop
              restore
            catch stop =>
              restore
              throw stop
        | none =>
            if isBuiltin name then runBuiltin fuel false name args
            else runProgram fuel (name :: args)

/-- Run a builtin. If it is a special one, an error ends the shell. -/
def runBuiltin : (fuel : Nat) → (special : Bool) → String → List String → ShellM Unit
  | 0, _, _, _ => setStatus 2
  | fuel + 1, special, name, args => do
      let before := (← get).builtin
      let restore : ShellM Unit := modify fun s => { s with builtin := before }
      modify fun s => { s with builtin := some name }
      modify fun s => { s with job := { s.job with lost := false } }
      try
        let status ← perform fuel name args
        setStatus status
        if (← get).job.lost then
          complain (name ++ ": I/O error")
          setStatus (status ||| 1)
          modify fun s => { s with job := { s.job with lost := false } }
        restore
      catch stop =>
        restore
        if stop ≠ .failed ∨ special then throw stop

/-- Perform a builtin; the result is its status. -/
def perform : (fuel : Nat) → String → List String → ShellM Nat
  | 0, _, _ => return 2
  | fuel + 1, name, args => do
      match builtins.lookup name with
      | some b => b args
      | none =>
          match name with
          | "eval" =>
              let text := " ".intercalate args
              if text.toList.all fun c => c = ' ' ∨ c = '\n' ∨ c = '\t' then return 0
              runText fuel (← get).tested text
              return (← get).status
          | "." =>
              match args with
              | [] => return 0
              | file :: _ =>
                  let s ← get
                  let found :=
                    if file.toList.contains '/' then some file
                    else ((((s.value? "PATH").getD "").toList.splitOn ':').map fun d =>
                      Utility.inside (if d = [] then "." else String.ofList d) file).find?
                        s.job.isFile
                  match found with
                  | none => fail (file ++ ": not found")
                  | some name =>
                      match s.job.openFile name .read with
                      | .error e => fail (cannotOpen name e)
                      | .ok (stream, _) =>
                          let text := match s.job.openFile name .read with
                            | .ok (_, j) => (match j.peek stream with
                                | .ok text => text
                                | .error _ => "")
                            | .error _ => ""
                          modify fun s => { s with builtin := some name, status := 0 }
                          try runText fuel false text
                          catch
                            | .giveBack => pure ()
                            | stop => throw stop
                          return (← get).status
          | "exec" =>
              if args.isEmpty then return 0
              let s ← get
              runProgram fuel args
              match (programNamed s.job (s.value? "PATH") (args.headD "")).1 with
              | .absent | .forbidden => throw .leave
              | _ => throw .replaced
          | "command" =>
              let (options, rest) ← splitOptions ['v', 'V', 'p'] args
              match rest with
              | [] => return 0
              | name :: args =>
                  let s ← get
                  if options.contains 'v' then
                    match shortDescriptionOf s name with
                    | some text =>
                        say (text ++ "\n")
                        return 0
                    | none => return 127
                  else if options.contains 'V' then
                    match descriptionOf s name with
                    | some text =>
                        say (text ++ "\n")
                        return 0
                    | none =>
                        say (name ++ ": not found\n")
                        return 127
                  else
                    modify fun s => { s with builtin := none }
                    dispatch fuel false name args
                    return (← get).status
          | "type" =>
              let s ← get
              let mut status := 0
              for name in args do
                match descriptionOf s name with
                | some text => say (text ++ "\n")
                | none =>
                    say (name ++ ": not found\n")
                    status := 127
              return status
          | "kill" =>
              let (status, reaction) ← kill args
              match reaction with
              | .none => return status
              | .action script =>
                  modify fun s => { s with builtin := none }
                  runText fuel false script
                  return status
              | .death signal =>
                  setStatus (signalBase + signal)
                  throw .killed
          | "hash" =>
              let s ← get
              let missing := args.filter fun arg =>
                arg ≠ "-r" ∧ !isBuiltin arg ∧ (s.functions.lookup arg).isNone
                  ∧ (programFile? s arg).isNone
              missing.forM fun arg => complain (arg ++ ": not found")
              return if missing.isEmpty then 0 else 1
          | "wait" =>
              let numbers ← args.mapM fun arg =>
                if arg.toList.head? = some '%' then
                  match Text.digits? arg.toList.tail with
                  | some n => return ownNumber + n
                  | none => fail ("No such job: " ++ arg)
                else numberOf arg
              runWaiting fuel
              let mut status := 0
              for number in numbers do
                let s ← get
                match s.ended.lookup number with
                | none => status := 127
                | some ending =>
                    set { s with ended := s.ended.filter (·.1 ≠ number), status := ending }
                    settle
                    status := (← get).status
              if numbers.isEmpty then modify fun s => { s with ended := [] }
              return status
          | "ulimit" =>
              say "unlimited\n"
              return 0
          | _ => fail "No current job"

def runProgram : (fuel : Nat) → List String → ShellM Unit
  | 0, _ => setStatus 2
  | fuel + 1, words => do
      let s ← get
      let name := words.headD ""
      match programNamed s.job (s.value? "PATH") name with
      | (.absent, _) =>
          complain (if name = "" then ": Permission denied" else name ++ ": not found")
          setStatus 127
      | (.forbidden, _) =>
          complain (name ++ ": Permission denied")
          setStatus (if name.toList.contains '/' then 126 else 127)
      | (program, file) =>
          if name = "sleep" then runWaiting fuel
          let s ← get
          let start := launchAs fuel program name file words.tail
          let (status, j) := start.run { s.job with environment := s.environment }
          set { s with job := { j with
            here := s.job.here, channels := s.job.channels, environment := s.job.environment
            mask := s.job.mask } }
          match status with
          | some status => setStatus status
          | none =>
              complain (name ++ ": not found")
              setStatus 127

def launch : (fuel : Nat) → Launch
  | 0, _ => return some 126
  | _ + 1, [] => return some 0
  | fuel + 1, name :: args => do
      let j ← get
      match programNamed j (some (searchPath j)) name with
      | (program, file) => launchAs fuel program name file args

def launchAs : (fuel : Nat) → Program → (name file : String) → List String → JobM (Option Nat)
  | 0, _, _, _, _ => return some 126
  | fuel + 1, program, name, file, args => do
      match program with
      | .utility u =>
          let j ← get
          set { j with lost := false }
          let status ← withName name (u (launch fuel) args)
          if (← get).lost then
            modify fun j => { j with lost := false }
            let (message, worst) := lossOf (Utility.lastPart name)
            JobM.complain (name ++ ": " ++ message ++ ": Bad file descriptor")
            return some (max status worst)
          return some status
      | .shell => return some (← runShell fuel name args)
      | .script place =>
          match interpreterOf ((← get).textAt place) with
          | some words => launch fuel (words ++ file :: args)
          | none => return some (← runShell fuel "sh" (file :: args))
      | .absent => return none
      | .forbidden => return some (← JobM.fail (name ++ ": Permission denied") 126)

def runWhole : (fuel : Nat) → String → ShellM Unit
  | 0, _ => setStatus 2
  | fuel + 1, text => do
      let stop ← try
          runText fuel false text
          pure none
        catch stop => pure (some stop)
      match stop with
      | some .killed | some .replaced => pure ()
      | _ =>
          try runExitTrap fuel
          catch _ => pure ()
      runWaiting fuel

/-- Run a shell with arguments in a job; the result is its status. -/
def runShell : (fuel : Nat) → (self : String) → List String → JobM Nat
  | 0, _, _ => return 2
  | fuel + 1, self, args => do
      let call := Call.read args
      let start (self : String) (arguments : List String) (text : String) : JobM Nat := do
        let j ← get
        let s := { State.start j self arguments with options := call.options.filter (· ≠ 's') }
        let (_, s) := (runWhole fuel text).run s
        set { s.job with
          here := j.here, channels := j.channels, environment := j.environment, mask := j.mask }
        return s.status
      if call.isScript then
        match call.rest with
        | [] => JobM.fail (self ++ ": 0: -c requires an argument") 2
        | script :: rest => start (rest.headD self) rest.tail script
      else if call.options.contains 's' ∨ call.rest.isEmpty then
        match ← JobM.readAll 0 with
        | .ok text => start self call.rest text
        | .error _ => return 2
      else
        let file := call.rest.headD ""
        match (← get).openFile file .read with
        | .error e => JobM.fail (self ++ ": 0: " ++ cannotOpen file e) 2
        | .ok (stream, j) =>
            match j.peek stream with
            | .ok text => start file call.rest.tail text
            | .error reason => JobM.fail (self ++ ": 0: cannot read " ++ file ++ ": " ++ reason) 2

end

/-- The disk with the directories that every system has, and those of them that were not there. -/
def withSystem (disk : Tree) : Tree × List Path :=
  let missing := Utility.systemDirectories.filter fun place => (disk.entryAt? place).isNone
  (missing.foldl (fun t place => t.set place .directory) disk, missing)

/-- The disk without those of some directories that are empty. -/
def withoutEmpty (disk : Tree) (places : List Path) : Tree :=
  places.reverse.foldl (fun t place =>
    if (t.children place).isEmpty then t.erase place else t) disk

/-- Run a script on a disk, in the directory that a path leads to, with variables that are set and
something to read. The disk, what is left to read, and what the script leaves are the result. -/
def run (environment : List (String × String)) (disk : Tree) (directory : Path) (input : String)
    (script : String) : Tree × String × Output :=
  let here := match disk.walk directory with
    | .ok (.found place _) => place
    | _ => directory
  let environment := environment.map fun (name, value) => (Text.widen name, Text.widen value)
  let usual := ("PATH", Utility.usualPath)
  let environment := if environment.any (·.1 = "PATH") then environment else usual :: environment
  let (disk, system) := withSystem disk
  let job := Job.start disk here environment (Text.widen input)
  let (status, j) := (runShell depthLimit "sh" ["-c", Text.widen script]).run job
  let on (pipe : Nat) : String := Text.narrow ((j.pipes[pipe]?).getD "")
  (withoutEmpty j.disk system, on 0, ⟨status = 0, on 1, on 2⟩)

end ReplyScript.Shell
