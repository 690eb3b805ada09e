import ReplyScript.Shell.Condition
import ReplyScript.Shell.Field
import ReplyScript.Utility.Names
import ReplyScript.Utility.Printing

/-! # Builtins

The commands that a shell performs itself and that need no other commands. The result is the
status.
-/

namespace ReplyScript.Shell

open ShellM

abbrev Builtin := List String → ShellM Nat

def say (text : String) : ShellM Unit :=
  job (JobM.say text)

def numberOf (arg : String) : ShellM Nat :=
  match Text.digits? arg.toList with
  | some n => return n
  | none => fail ("Illegal number: " ++ arg)

/-- A text in quotes, for reading it in again: single quotes stand between double ones, and all else
between single ones. -/
def quotedAgain : (fuel : Nat) → List Char → List Char
  | 0, _ => []
  | fuel + 1, cs =>
      let plain := cs.takeWhile (· ≠ '\'')
      let rest := cs.drop plain.length
      let quotes := rest.takeWhile (· = '\'')
      let rest := rest.drop quotes.length
      ['\''] ++ plain ++ ['\''] ++ (if quotes = [] then [] else ['"'] ++ quotes ++ ['"'])
        ++ (if rest = [] then [] else quotedAgain fuel rest)

def singleQuoted (s : String) : String :=
  String.ofList (quotedAgain (s.length + 1) s.toList)

/-- Split the options of a builtin from its other arguments. The options are letters behind
hyphens. -/
def splitOptions (known : List Char) : List String → ShellM (List Char × List String)
  | arg :: args =>
      match arg.toList with
      | ['-', '-'] => return ([], args)
      | '-' :: c :: cs => do
          match (c :: cs).find? fun c => !known.contains c with
          | some bad => fail ("Illegal option -" ++ String.singleton bad)
          | none =>
              let (more, rest) ← splitOptions known args
              return (c :: cs ++ more, rest)
      | _ => return ([], arg :: args)
  | [] => return ([], [])

def plainEscapes : Utility.EscapeStyle := {}

/-- `echo`: prints its arguments with escapes replaced. -/
def echo : Builtin := fun args => do
  let (newline, args) := match args with
    | "-n" :: rest => (false, rest)
    | args => (true, args)
  let text := " ".intercalate args
  let (cs, on) := plainEscapes.unescape (text.length + 1) text.toList
  say (String.ofList cs ++ if newline ∧ on then "\n" else "")
  return 0

def formatStyle : Utility.FormatStyle where
  escapes := plainEscapes
  floats := Decimal.binary64
  notNumber := fun arg => arg ++ ": expected numeric value"
  leftover := fun arg => arg ++ ": not completely converted"
  outOfRange := fun arg => arg ++ ": Numerical result out of range"
  badDirective := fun d => d ++ ": invalid directive"
  noLetter := fun _ => "missing format character"

/-- `printf`: prints a format. -/
def printf : Builtin := fun args => do
  let (_, args) ← splitOptions [] args
  match args with
  | [] => fail "usage: printf format [arg ...]"
  | format :: args =>
      let r := formatStyle.run format args
      say (String.ofList r.output)
      r.complaints.forM complain
      match r.fatal with
      | some message => fail message
      | none => return if r.complaints.isEmpty then 0 else 1

/-- `test`: succeeds if its arguments state something that holds. -/
def test : Builtin := fun args => do
  match conditionHolds (← get).job false args with
  | .ok holds => return if holds then 0 else 1
  | .error message => fail message

/-- `[`: the same, up to a closing bracket. -/
def bracket : Builtin := fun args =>
  if args.getLast? = some "]" then test args.dropLast else fail "missing ]"

/-- `pwd`: prints the working directory. -/
def pwd : Builtin := fun args => do
  let (options, _) ← splitOptions ['L', 'P'] args
  let s ← get
  say ((if options.getLast? = some 'P' then Utility.writtenPlace s.job.here else s.directory)
    ++ "\n")
  return 0

/-- The names on a path, but for those that lead nowhere else. -/
def pathNames (path : String) : List String :=
  ((path.toList.splitOn '/').map String.ofList).filter fun n => n ≠ "" ∧ n ≠ "."

def pathTop (path : String) : String :=
  match path.toList with
  | '/' :: '/' :: '/' :: _ => "/"
  | '/' :: '/' :: _ => "//"
  | _ => "/"

/-- The directory that a path leads to from another one when `..` takes back the name before it. -/
def directoryAlong (directory path : String) : String :=
  let fromTop := path.toList.head? = some '/'
  let start := if fromTop then [] else pathNames directory
  let names := (pathNames path).foldl (fun ns n => if n = ".." then ns.dropLast else ns ++ [n]) start
  pathTop (if fromTop then path else directory) ++ "/".intercalate names

/-- `cd`: changes the working directory. -/
def cd : Builtin := fun args => do
  let (options, args) ← splitOptions ['L', 'P'] args
  let s ← get
  let (target, shown) := match args with
    | [] => ((s.value? "HOME").getD "", false)
    | "-" :: _ => ((s.value? "OLDPWD").getD "", true)
    | target :: _ => (target, false)
  let target := if target = "" then "." else target
  let searched :=
    if target.toList.head? = some '/' ∨ target.toList.head? = some '.' then none
    else ((((s.value? "CDPATH").getD "").toList.splitOn ':').map fun d =>
        (d != [], if d = [] then target else Utility.inside (String.ofList d) target)).find?
      fun (_, path) => s.job.isDirectory path
  let (shown, path) := match searched with
    | some (named, path) => (shown || named, path)
    | none => (shown, target)
  let physical := options.getLast? = some 'P'
  match s.job.walk (if physical then path else directoryAlong s.directory path) with
  | .ok (.found place .directory) =>
      let directory := if physical then Utility.writtenPlace place
        else directoryAlong s.directory path
      set { s with job := { s.job with here := place }, directory }
      assignExported "OLDPWD" s.directory
      assignExported "PWD" directory
      if shown then say (directory ++ "\n")
      return 0
  | _ => fail ("can't cd to " ++ target)

def nameAndValue (arg : String) : ShellM (String × Option String) := do
  let name := arg.toList.takeWhile (· ≠ '=')
  let value := match arg.toList.drop name.length with
    | _ :: value => some (String.ofList value)
    | [] => none
  let name := String.ofList name
  if !isName name then fail (name ++ ": bad variable name")
  return (name, value)

/-- Print the variables of a kind so that they can be read in again. -/
def printVariables (word : String) (p : Variable → Bool) : ShellM Unit := do
  let vs := ((← get).bindings.filter p).mergeSort fun a b => a.name ≤ b.name
  vs.forM fun v =>
    say (word ++ v.name ++ (v.value.map fun s => "=" ++ singleQuoted s).getD "" ++ "\n")

/-- Mark variables, which may be assigned at the same time. -/
def markVariables (word : String) (p : Variable → Bool) (mark : Variable → Variable) :
    Builtin := fun args => do
  let (_, args) ← splitOptions ['p'] args
  if args = [] then
    printVariables (word ++ " ") p
    return 0
  args.forM fun arg => do
    let (name, value) ← nameAndValue arg
    match value with
    | some value => assign name value
    | none => pure ()
    let v := ((← get).find? name).getD ⟨name, none, false, false⟩
    modify fun s => s.setVariable (mark v)
  return 0

/-- `export`: lets programs find variables in their environment. -/
def export_ : Builtin :=
  markVariables "export" (·.exported) fun v => { v with exported := true }

/-- `readonly`: keeps variables from being assigned. -/
def readonly_ : Builtin :=
  markVariables "readonly" (·.readOnly) fun v => { v with readOnly := true }

/-- `local`: lets the function that runs have variables of its own. -/
def local_ : Builtin := fun args => do
  if (← get).functionDepth = 0 then fail "not in a function"
  args.forM fun arg => do
    if arg = "-" then return
    let (name, value) ← nameAndValue arg
    makeLocal name
    match value with
    | some value => assign name value
    | none => pure ()
  return 0

/-- `unset`: forgets variables or functions. -/
def unset : Builtin := fun args => do
  let (options, args) ← splitOptions ['v', 'f'] args
  args.forM fun name => do
    let s ← get
    if options.contains 'f' then
      set { s with functions := s.functions.filter (·.1 ≠ name) }
    else
      if !isName name then fail (name ++ ": bad variable name")
      if ((s.find? name).map (·.readOnly)).getD false then fail (name ++ ": is read only")
      set (s.removeVariable name)
  return 0

/-- The options of a shell, with the words that stand for them. -/
def optionWords : List (String × Char) :=
  [("errexit", 'e'), ("noglob", 'f'), ("ignoreeof", 'I'), ("interactive", 'i'), ("monitor", 'm'),
   ("noexec", 'n'), ("stdin", 's'), ("xtrace", 'x'), ("verbose", 'v'), ("vi", 'V'),
   ("emacs", 'E'), ("noclobber", 'C'), ("allexport", 'a'), ("notify", 'b'), ("nounset", 'u'),
   ("privileged", 'p'), ("nolog", 'L'), ("debug", 'D')]

def setOption (on : Bool) (option : Char) : ShellM Unit :=
  modify fun s =>
    let others := s.options.filter (· ≠ option)
    { s with options := if on then others ++ [option] else others }

/-- Read the options of a shell; what is left of the arguments, and whether they replace those of
the shell. -/
def readOptions : List String → ShellM (List String × Bool)
  | arg :: args =>
      match arg.toList with
      | ['-', '-'] => return (args, true)
      | ['-'] => do
          setOption false 'x'
          setOption false 'v'
          return (args, !args.isEmpty)
      | [_, 'o'] =>
          if arg = "-o" ∨ arg = "+o" then
            match args with
            | word :: args => do
                match optionWords.lookup word with
                | some option => setOption (arg = "-o") option
                | none => fail ("Illegal option " ++ arg ++ " " ++ word)
                readOptions args
            | [] => do
                let s ← get
                if arg = "-o" then
                  say "Current option settings\n"
                  optionWords.forM fun (word, option) =>
                    say (Utility.padRight 16 word ++ (if s.has option then "on" else "off") ++ "\n")
                else
                  optionWords.forM fun (word, option) =>
                    say ("set " ++ (if s.has option then "-" else "+") ++ "o " ++ word ++ "\n")
                return ([], false)
          else return (arg :: args, true)
      | sign :: c :: cs =>
          if sign = '-' ∨ sign = '+' then do
            (c :: cs).forM fun c => do
              if !(optionWords.any (·.2 = c)) ∨ c = 'L' ∨ c = 'D' then
                fail ("Illegal option " ++ String.ofList [sign, c])
              setOption (sign = '-') c
            readOptions args
          else return (arg :: args, true)
      | _ => return (arg :: args, true)
  | [] => return ([], false)

/-- `set`: sets options and arguments, or prints the variables. -/
def set_ : Builtin := fun args => do
  if args = [] then
    printVariables "" (·.value.isSome)
    return 0
  let (rest, replace) ← readOptions args
  if replace then modify fun s => { s with arguments := rest, optionOffset := 0 }
  return 0

/-- `shift`: leaves out the first arguments. -/
def shift : Builtin := fun args => do
  let n ← match args with
    | [] => pure 1
    | arg :: _ => numberOf arg
  let s ← get
  if s.arguments.length < n then fail "can't shift that many"
  set { s with arguments := s.arguments.drop n }
  return 0

/-- A line of input: its characters, each with whether it stands for itself. Without `raw`,
backslashes take the meaning of characters and join lines. What was used of the text, and whether
the line has an end, come with it. -/
def readCharacters (raw : Bool) : List Char → List (Char × Bool) × Nat × Bool
  | [] => ([], 0, false)
  | ['\\'] => if raw then ([('\\', false)], 1, false) else ([], 1, false)
  | '\\' :: c :: cs =>
      if raw then
        if c = '\n' then ([('\\', false)], 2, true)
        else
          let (line, used, ended) := readCharacters raw (c :: cs)
          (('\\', false) :: line, used + 1, ended)
      else
        let (line, used, ended) := readCharacters raw cs
        (if c = '\n' then line else (c, true) :: line, used + 2, ended)
  | c :: cs =>
      if c = '\n' then ([], 1, true)
      else
        let (line, used, ended) := readCharacters raw cs
        ((c, false) :: line, used + 1, ended)

/-- Split a line among `count` variables; the last one gets all that is left. -/
def splitLine (separators : List Char) : (count : Nat) → List (Char × Bool) → List String
  | 0, _ => []
  | count + 1, line =>
      let separates (p : Char × Bool) : Bool := !p.2 && separators.contains p.1
      let isBlank (p : Char × Bool) : Bool :=
        separates p && (p.1 = ' ' || p.1 = '\t' || p.1 = '\n')
      let text (l : List (Char × Bool)) : String := String.ofList (l.map (·.1))
      let line := line.dropWhile isBlank
      let field := line.takeWhile fun p => !separates p
      let behind := (line.drop field.length).dropWhile isBlank
      let behind := match behind with
        | p :: rest => if separates p then rest.dropWhile isBlank else behind
        | [] => []
      if count = 0 then
        if behind = [] then [text field] else [text (Text.dropEndWhile isBlank line)]
      else text field :: splitLine separators count behind

/-- `read`: reads a line into variables. -/
def read : Builtin := fun args => do
  let args := match args with
    | "-p" :: _ :: rest => rest
    | "-r" :: "-p" :: _ :: rest => "-r" :: rest
    | args => args
  let (options, names) ← splitOptions ['r', 'p'] args
  if names = [] then fail "arg count"
  names.forM fun name => do
    if !isName name then fail (name ++ ": bad variable name")
  let s ← get
  let text := match ← job (JobM.peek 0) with
    | .ok text => text
    | .error _ => ""
  let (line, used, ended) := readCharacters (options.contains 'r') text.toList
  job (JobM.skip 0 used)
  let values := splitLine s.separators.toList names.length line
  (names.zip values).forM fun (name, value) => assign name value
  return if ended then 0 else 1

/-- The signals of programs, with their names and what is said of a program that one of them
ended. -/
def namedSignals : List (Nat × String × String) :=
  [(1, "HUP", "Hangup"), (2, "INT", ""), (3, "QUIT", "Quit"), (4, "ILL", "Illegal instruction"),
   (5, "TRAP", "Trace/breakpoint trap"), (6, "ABRT", "Aborted"), (7, "BUS", "Bus error"),
   (8, "FPE", "Floating point exception"), (9, "KILL", "Killed"),
   (10, "USR1", "User defined signal 1"), (11, "SEGV", "Segmentation fault"),
   (12, "USR2", "User defined signal 2"), (13, "PIPE", ""), (14, "ALRM", "Alarm clock"),
   (15, "TERM", "Terminated"), (16, "16", "Stack fault"), (17, "CHLD", ""), (18, "CONT", ""),
   (19, "STOP", ""), (20, "TSTP", ""), (21, "TTIN", ""), (22, "TTOU", ""), (23, "URG", ""),
   (24, "XCPU", "CPU time limit exceeded"), (25, "XFSZ", "File size limit exceeded"),
   (26, "VTALRM", "Virtual timer expired"), (27, "PROF", "Profiling timer expired"),
   (28, "WINCH", ""), (29, "IO", "I/O possible"), (30, "PWR", "Power failure"),
   (31, "SYS", "Bad system call"), (32, "32", ""), (33, "33", "")]

/-- The signals that are counted from the first and from the last of them. -/
def countedSignals : List (Nat × String × String) :=
  (List.range 31).map fun i =>
    let name := if i = 0 then "RTMIN" else if i = 30 then "RTMAX"
      else if i ≤ 15 then "RTMIN+" ++ toString i else "RTMAX-" ++ toString (30 - i)
    (34 + i, name, "Real-time signal " ++ toString i)

/-- All signals, and the end of the shell in front of them. -/
def signals : List (Nat × String × String) :=
  (0, "EXIT", "") :: namedSignals ++ countedSignals

def endingOf (signal : Nat) : String :=
  ((signals.lookup signal).map (·.2)).getD ""

def signalOf? (s : String) : Option (String × Nat) :=
  let upper := String.ofList (s.toList.map Char.toUpper)
  let found : Option (Nat × String × String) := match Text.digits? s.toList with
    | some number => signals.find? fun (n, _, _) => n = number
    | none => signals.find? fun (_, name, _) => name = upper
  found.map fun (n, name, _) => (name, n)

/-- `trap`: says what is done at signals. -/
def trap : Builtin := fun args => do
  let (_, args) ← splitOptions [] args
  match args with
  | [] =>
      (← get).traps.forM fun (name, action) =>
        say ("trap -- " ++ singleQuoted action ++ " " ++ name ++ "\n")
      return 0
  | action :: names =>
      let (action, names) :=
        if names.isEmpty ∨ (Text.digits? action.toList).isSome then (none, args)
        else if action = "-" then (none, names)
        else (some action, names)
      let known := names.takeWhile fun name => (signalOf? name).isSome
      known.forM fun name =>
        modify fun s =>
          let name := ((signalOf? name).map (·.1)).getD name
          let others := s.traps.filter (·.1 ≠ name)
          { s with traps := match action with
              | some action => others ++ [(name, action)]
              | none => others }
      match names.drop known.length with
      | [] => return 0
      | name :: _ =>
          job (JobM.complain ("trap: " ++ name ++ ": bad trap"))
          return 1

def ownNumber : Nat := 4242

/-- What a signal does to the shell. -/
inductive Reaction where
  | none
  | action (script : String)
  /-- The end of the shell by this signal. -/
  | death (signal : Nat)
  deriving Repr, DecidableEq, BEq, Inhabited

def reactionTo (s : State) (name : String) (n : Nat) : Reaction :=
  if n = 0 then .none
  else match s.traps.lookup name with
    | some "" => if n = 9 then .death n else .none
    | some action => if n = 9 then .death n else .action action
    | Option.none => if [17, 18, 19, 20, 21, 22, 23, 28].contains n then .none else .death n

/-- A program that a signal ended is left with a status that says so: the signal beyond this
number. -/
def signalBase : Nat := 1000000000

/-- The signal and the numbers of programs in the arguments of `kill`. -/
def killTarget (args : List String) : ShellM ((String × Nat) × List String) := do
  let named (name : String) : ShellM (String × Nat) :=
    match signalOf? name with
    | some signal => return signal
    | none => fail ("invalid signal number or name: " ++ name)
  match args with
  | ["-s"] => fail "No arg for -s option"
  | "-s" :: name :: rest => return (← named name, rest)
  | arg :: rest =>
      match arg.toList with
      | ['-', '-'] => return (("TERM", 15), rest)
      | '-' :: c :: cs =>
          match signalOf? (String.ofList (c :: cs)) with
          | some signal => return (signal, rest)
          | none =>
              if c = 's' then return (← named (String.ofList cs), rest)
              fail ("Illegal option -" ++ String.singleton c)
      | _ => return (("TERM", 15), args)
  | [] => return (("TERM", 15), [])

/-- The name of a signal, or of the signal that a status tells of. -/
def signalName (arg : String) : ShellM String := do
  let n ← numberOf arg
  let signal := if 128 < n then n - 128 else n
  match if signal = 0 ∨ n = 128 then none else signals.lookup signal with
  | some (name, _) => return name
  | none => fail ("invalid signal number or exit status: " ++ arg)

/-- `kill`: sends a signal. What the shell itself has to do then comes with the status. -/
def kill (args : List String) : ShellM (Nat × Reaction) := do
  if args.head? = some "-l" then
    match args.tail with
    | [] => say (String.join ("0\n" :: (signals.drop 1).map (·.2.1 ++ "\n")))
    | arg :: _ =>
        match arg.toList with
        | '-' :: c :: _ => fail ("Illegal option -" ++ String.singleton c)
        | _ => say ((← signalName arg) ++ "\n")
    return (0, .none)
  let ((name, n), targets) ← killTarget args
  if targets = [] then
    fail "Usage: kill [-s sigspec | -signum | -sigspec] [pid | job]... or\nkill -l [exitstatus]"
  targets.foldlM (fun (status, reaction) target => do
    let s ← get
    let digits := match target.toList with
      | '-' :: cs => cs
      | cs => cs
    match Text.digits? digits with
    | none =>
        if target.toList.head? = some '%' then fail ("No such job: " ++ target)
        fail ("Illegal number: " ++ target)
    | some number =>
        if number = ownNumber ∨ target = "0" then return (status, reactionTo s name n)
        if s.waiting.any (·.number = number) then
          match reactionTo { s with traps := [] } name n with
          | .death signal =>
              set { s with
                waiting := s.waiting.filter (·.number ≠ number)
                ended := (number, signalBase + signal) :: s.ended }
          | _ => pure ()
          return (status, reaction)
        complain "No such process\n"
        return (1, reaction)) (0, .none)

/-- The options that `getopts` looks for, and whether each needs a value. -/
def optionNeeds : List Char → List (Char × Bool)
  | c :: ':' :: cs => (c, true) :: optionNeeds cs
  | c :: cs => (c, false) :: optionNeeds cs
  | [] => []

/-- `getopts`: takes the next option from the arguments. While an argument has more options, the
number of the next argument is known already. -/
def getopts : Builtin := fun args => do
  match args with
  | wanted :: name :: rest =>
      let s ← get
      let arguments := if rest.isEmpty then s.arguments else rest
      let quiet := wanted.toList.head? = some ':'
      let needs := optionNeeds (if quiet then wanted.toList.tail else wanted.toList)
      let next := ((s.value? "OPTIND").bind Text.numeral?).getD 1
      let within (index : Nat) : Bool :=
        s.optionOffset ≠ 0 && s.optionOffset < ((arguments[index - 1]?).getD "").length
      let (index, offset) := if 1 < next ∧ within (next - 1) then (next - 1, s.optionOffset)
        else (next, 1)
      let arg := ((arguments[index - 1]?).getD "").toList
      let goOn (index offset status : Nat) : ShellM Nat := do
        assign "OPTIND" (toString index)
        modify fun s => { s with optionOffset := offset }
        return status
      let finish (index : Nat) : ShellM Nat := do
        assign name "?"
        goOn index 0 1
      match arg with
      | ['-', '-'] => finish (index + 1)
      | '-' :: _ :: _ =>
          let c := (arg[offset]?).getD '?'
          let rest := arg.drop (offset + 1)
          let offset := if rest = [] then 0 else offset + 1
          match needs.lookup c with
          | none =>
              assign name "?"
              if quiet then assign "OPTARG" (String.singleton c)
              else
                job (JobM.complain ("Illegal option -" ++ String.singleton c))
                modify fun s => s.removeVariable "OPTARG"
              goOn (index + 1) offset 0
          | some false =>
              assign name (String.singleton c)
              modify fun s => s.removeVariable "OPTARG"
              goOn (index + 1) offset 0
          | some true =>
              if rest ≠ [] then
                assign name (String.singleton c)
                assign "OPTARG" (String.ofList rest)
                goOn (index + 1) 0 0
              else match arguments[index]? with
                | some value =>
                    assign name (String.singleton c)
                    assign "OPTARG" value
                    goOn (index + 2) 0 0
                | none =>
                    if quiet then
                      assign name ":"
                      assign "OPTARG" (String.singleton c)
                    else
                      assign name "?"
                      job (JobM.complain ("No arg for -" ++ String.singleton c ++ " option"))
                      modify fun s => s.removeVariable "OPTARG"
                    goOn (index + 1) 0 0
      | _ => finish index
  | _ => fail "Usage: getopts optstring var [arg...]"

/-- `umask`: prints or sets which permissions new files lack. -/
def umask : Builtin := fun args => do
  let (options, args) ← splitOptions ['S'] args
  let mask := (← get).job.mask
  match args with
  | [] =>
      if options.contains 'S' then
        let who (mark : Char) (shift : Nat) : String :=
          let bits := 7 - mask / shift % 8
          String.ofList (mark :: '=' :: ((if bits / 4 % 2 = 1 then ['r'] else [])
            ++ (if bits / 2 % 2 = 1 then ['w'] else []) ++ (if bits % 2 = 1 then ['x'] else [])))
        say (who 'u' 64 ++ "," ++ who 'g' 8 ++ "," ++ who 'o' 1 ++ "\n")
      else
        let digits := Utility.octal mask
        say (String.ofList (List.replicate (4 - digits.length) '0') ++ digits ++ "\n")
      return 0
  | arg :: _ =>
      let set_ (mask : Nat) : ShellM Unit :=
        modify fun s => { s with job := { s.job with mask := mask % 512 } }
      if arg.toList.head?.any Char.isDigit then
        match Utility.octal? arg with
        | some n => set_ n
        | none => fail ("Illegal number: " ++ arg)
      else
        match Utility.changedMode? arg false 0 (511 - mask) with
        | some mode => set_ (511 - mode % 512)
        | none => fail ("Illegal mode: " ++ arg)
      return 0

/-- `alias`: lets words stand for texts at the start of commands. -/
def alias_ : Builtin := fun args => do
  let shown (name text : String) : String := name ++ "=" ++ singleQuoted text ++ "\n"
  if args = [] then
    (← get).aliases.forM fun (name, text) => say (shown name text)
    return 0
  args.foldlM (fun status arg => do
    let name := arg.toList.takeWhile (· ≠ '=')
    let text := arg.toList.drop (name.length + 1)
    let name := String.ofList name
    let s ← get
    if name ≠ "" ∧ name ≠ arg then
      let others := s.aliases.filter (·.1 ≠ name)
      set { s with aliases := others ++ [(name, String.ofList text)] }
      return status
    match s.aliases.lookup arg with
    | some text =>
        say (shown arg text)
        return status
    | none =>
        job (JobM.complain ("alias: " ++ arg ++ " not found"))
        return 1) 0

/-- `unalias`: forgets words that stand for texts. -/
def unalias : Builtin := fun args => do
  let (options, args) ← splitOptions ['a'] args
  if options.contains 'a' then
    modify fun s => { s with aliases := [] }
    return 0
  args.foldlM (fun status name => do
    let s ← get
    if (s.aliases.lookup name).isNone then
      job (JobM.complain ("unalias: " ++ name ++ " not found"))
      return 1
    set { s with aliases := s.aliases.filter (·.1 ≠ name) }
    return status) 0

/-- `times`: prints how much time was used, which is none. -/
def times : Builtin := fun _ => do
  say "0m0.000000s 0m0.000000s\n0m0.000000s 0m0.000000s\n"
  return 0

/-- `exit`: leaves the shell. -/
def exit : Builtin := fun args => do
  match args with
  | [] => pure ()
  | arg :: _ => setStatus ((← numberOf arg) % 256)
  throw .leave

/-- `return`: leaves a function. -/
def return_ : Builtin := fun args => do
  match args with
  | [] => pure ()
  | arg :: _ => setStatus (← numberOf arg)
  throw .giveBack

/-- `break` and `continue`: leave loops. -/
def leaveLoops (stop : Nat → Stop) : Builtin := fun args => do
  let n ← match args with
    | [] => pure 1
    | arg :: _ => numberOf arg
  if n = 0 then fail ("Illegal number: " ++ args.headD "")
  let loops := (← get).loops
  if loops = 0 then return 0
  setStatus 0
  throw (stop (min n loops))

/-- The builtins of this module. -/
def builtins : List (String × Builtin) :=
  [("echo", echo), ("printf", printf), ("test", test), ("[", bracket), ("pwd", pwd), ("cd", cd),
   ("chdir", cd), ("export", export_), ("readonly", readonly_), ("local", local_),
   ("unset", unset), ("set", set_), ("shift", shift), ("read", read), ("trap", trap),
   ("getopts", getopts), ("umask", umask), ("exit", exit), ("return", return_),
   ("break", leaveLoops .break_), ("continue", leaveLoops .continue_),
   (":", fun _ => return 0), ("true", fun _ => return 0), ("false", fun _ => return 1),
   ("jobs", fun _ => return 0), ("alias", alias_), ("unalias", unalias), ("times", times)]

/-- The builtins that perform commands. -/
def performers : List String :=
  [".", "command", "eval", "exec", "kill", "type", "hash", "wait", "fg", "bg", "ulimit"]

def isBuiltin (name : String) : Bool :=
  builtins.any (·.1 = name) || performers.contains name

/-- Whether arguments of a builtin that look like assignments are expanded as such. -/
def takesAssignments (name : String) : Bool :=
  ["export", "readonly", "local", "alias"].contains name

end ReplyScript.Shell
