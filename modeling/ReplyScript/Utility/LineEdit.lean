import ReplyScript.Utility.EditScript
import ReplyScript.Utility.Input

/-! # The line editor

`sed` runs a script on each line of its input. A line goes through the pattern space, where commands
change it, and is printed at the end of the script.
-/

namespace ReplyScript.Utility

/-- A line of input: its text, whether a newline ends it, the name of its file, and whether it is
the last one. -/
structure EditLine where
  text : String
  ended : Bool
  file : String
  isLast : Bool
  deriving Repr, DecidableEq, BEq, Inhabited

/-- Whether a range is open, and up to which line. -/
inductive RangeState where
  | outside
  | inside (stop : Option Nat)
  deriving Repr, DecidableEq, BEq, Inhabited

/-- What an edit script works on. -/
structure Editing where
  script : Array EditCommand
  quiet : Bool
  /-- The number of the line in the pattern space, and the line. -/
  number : Nat := 0
  line : EditLine := ⟨"", true, "-", false⟩
  /-- The lines that are still to come. -/
  ahead : List EditLine
  pattern : List Char := []
  held : List Char := []
  ranges : Array RangeState
  lastFinder : Option Finder := none
  /-- Whether something was replaced since the last line was read or the last jump. -/
  replaced : Bool := false
  /-- What is to be printed at the end of the script: texts, and names of files. -/
  queue : List (String ⊕ String) := []
  /-- What was printed, latest first: to a file or to the output. -/
  printed : List (Option String × String) := []
  /-- The last thing printed lacks its newline. -/
  unended : Bool := false
  status : Nat := 0

abbrev EditM := StateT Editing JobM

namespace EditM

def say (text : String) (ended : Bool := true) : EditM Unit :=
  modify fun e => { e with
    printed := (none, (if e.unended then "\n" else "") ++ text ++ (if ended then "\n" else ""))
      :: e.printed
    unended := !ended }

def sayPattern : EditM Unit := do
  let e ← get
  say (String.ofList e.pattern) e.line.ended

def sayTo (name text : String) : EditM Unit :=
  if name = "/dev/stdout" then say text
  else modify fun e => { e with printed := (some name, text ++ "\n") :: e.printed }

/-- Print what waits for the end of the script. -/
def emptyQueue : EditM Unit := do
  let queue := (← get).queue
  modify fun e => { e with queue := [] }
  queue.forM fun
    | .inl text => modify fun e => { e with
        printed := (none, (if e.unended then "\n" else "") ++ text) :: e.printed, unended := false }
    | .inr name => do
        match ← (JobM.inputOf name : JobM _) with
        | .ok text => modify fun e => { e with
            printed := (none, (if e.unended ∧ text ≠ "" then "\n" else "") ++ text) :: e.printed
            unended := e.unended && text = "" }
        | .error _ => pure ()

/-- Read the next line into the pattern space, behind `before`; `false` at the end of the input. -/
def readLine (before : List Char := []) : EditM Bool := do
  let e ← get
  match e.ahead with
  | [] => return false
  | l :: ahead =>
      set { e with
        ahead, line := l, number := e.number + 1, pattern := before ++ l.text.toList }
      return true

/-- The expression that is meant: this one, or the one used last. -/
def expression (f : Option Finder) : EditM (Option Finder) := do
  match f with
  | some f =>
      modify fun e => { e with lastFinder := some f }
      return some f
  | none => return (← get).lastFinder

def fits (a : LineAddress) : EditM Bool := do
  let e ← get
  match a with
  | .number n => return e.number = n
  | .last => return e.line.isLast
  | .step first by_ => return first ≤ e.number && (e.number - first) % by_ == 0
  | .matching f =>
      match ← expression f with
      | some f => return (f.find e.pattern).isSome
      | none => return false

def isMeant (place : Nat) (c : EditCommand) : EditM Bool := do
  let mark (s : RangeState) : EditM Unit :=
    modify fun e => { e with ranges := e.ranges.set! place s }
  let n := (← get).number
  let inside ← match c.first, c.second with
    | none, _ => pure true
    | some a, none => fits a
    | some a, some stop =>
        match ((← get).ranges[place]?).getD .outside with
        | .outside =>
            if !(← fits a) then pure false
            else
              match stop with
              | .address (.number m) => if n < m then mark (.inside (some m))
              | .plus m => if 0 < m then mark (.inside (some (n + m)))
              | .multiple m => if m ≠ 0 ∧ n % m ≠ 0 then mark (.inside (some (n + m - n % m)))
              | _ => mark (.inside none)
              pure true
        | .inside (some m) =>
            if m ≤ n then mark .outside
            pure (n ≤ m)
        | .inside none =>
            match stop with
            | .address a => if ← fits a then mark .outside
            | _ => pure ()
            pure true
  return inside != c.negated

/-- A letter as the changes of case want it, and the changes that are left. -/
def changeLetter (lasting once : Option CaseChange) (c : Char) : Char :=
  match once.or lasting with
  | some .upper | some .upperOnce => c.toUpper
  | some .lower | some .lowerOnce => c.toLower
  | _ => c

/-- Letters with changes of case: a lasting one, and one for the first letter. -/
def changeCase (lasting once : Option CaseChange) : List Char → List Char × Option CaseChange
  | [] => ([], once)
  | c :: cs => (changeLetter lasting once c :: cs.map (changeLetter lasting none), none)

/-- What a match is replaced by. -/
def replacement (text : List Char) (hit : Finder.Hit) : (lasting once : Option CaseChange) →
    List ReplacementPiece → List Char
  | _, _, [] => []
  | lasting, once, piece :: rest =>
      let put (cs : List Char) : List Char :=
        let (cs, once) := changeCase lasting once cs
        cs ++ replacement text hit lasting once rest
      match piece with
      | .text cs => put cs
      | .group i =>
          match hit.span? i with
          | some (start, stop) => put ((text.drop start).take (stop - start))
          | none => put []
      | .change .stop => replacement text hit none none rest
      | .change .upperOnce => replacement text hit lasting (some .upperOnce) rest
      | .change .lowerOnce => replacement text hit lasting (some .lowerOnce) rest
      | .change c => replacement text hit (some c) none rest

/-- A text with its matches replaced from an offset on; `count` is the number of the next match and
`last` is where the last one ended. -/
def substitute (s : Substitution) (f : Finder) (text : List Char) : (fuel : Nat) →
    (offset count : Nat) → (last : Option Nat) → List Char × Bool
  | 0, offset, _, _ => (text.drop offset, false)
  | fuel + 1, offset, count, last =>
      match f.find text offset with
      | none => (text.drop offset, false)
      | some hit =>
          let before := (text.drop offset).take (hit.start - offset)
          if hit.start = hit.stop ∧ last = some hit.start then
            match text[hit.start]? with
            | none => (before, false)
            | some c =>
                let (rest, changed) := substitute s f text fuel (hit.start + 1) count none
                (before ++ c :: rest, changed)
          else
            let counts := s.nth ≤ count
            let taken := (text.drop hit.start).take (hit.stop - hit.start)
            let put := if counts then replacement text hit none none s.replacement else taken
            if counts ∧ !s.all then (before ++ put ++ text.drop hit.stop, true)
            else if hit.start = hit.stop then
              match text[hit.start]? with
              | none => (before ++ put, counts)
              | some c =>
                  let (rest, changed) :=
                    substitute s f text fuel (hit.start + 1) (count + 1) none
                  (before ++ put ++ c :: rest, counts || changed)
            else
              let (rest, changed) :=
                substitute s f text fuel hit.stop (count + 1) (some hit.stop)
              (before ++ put ++ rest, counts || changed)

def listed (c : Char) : String :=
  match c with
  | '\\' => "\\\\"
  | '\x07' => "\\a"
  | '\x08' => "\\b"
  | '\x0c' => "\\f"
  | '\n' => "\\n"
  | '\r' => "\\r"
  | '\t' => "\\t"
  | '\x0b' => "\\v"
  | c =>
      if 32 ≤ c.toNat ∧ c.toNat < 127 then String.singleton c
      else "\\" ++ String.ofList (Job.octal c.toNat)

/-- Pieces on lines of at most 69 columns, which end in backslashes but for the last one. -/
def wrapped : (column : Nat) → List String → String
  | _, [] => "$"
  | column, p :: ps =>
      if 69 < column + p.length then "\\\n" ++ p ++ wrapped p.length ps
      else p ++ wrapped (column + p.length) ps

/-- What comes after a command. -/
inductive Onward where
  | next
  | jump (place : Nat)
  /-- End the script; the pattern space is printed if that is usual. -/
  | finish
  /-- End the script without printing the pattern space. -/
  | drop
  /-- Start again with what is left in the pattern space. -/
  | restart
  | quit (prints : Bool)

/-- The place of a label; the end of the script without a name. -/
def placeOf (e : Editing) (name : String) : Nat :=
  if name = "" then e.script.size
  else (e.script.findIdx? fun c => match c.action with
    | .label n => n = name
    | _ => false).getD e.script.size

def perform (place : Nat) (c : EditCommand) : EditM Onward := do
  let e ← get
  let firstLine := e.pattern.takeWhile (· ≠ '\n')
  match c.action with
  | .block _ | .endBlock | .label _ => return .next
  | .append text =>
      set { e with queue := e.queue ++ [Sum.inl text] }
      return .next
  | .insert text =>
      modify fun e => { e with
        printed := (none, (if e.unended then "\n" else "") ++ text) :: e.printed
        unended := false }
      return .next
  | .change text =>
      let ends := match e.ranges[place]? with
        | some (.inside _) => c.second.isNone || c.negated
        | _ => true
      if ends then
        modify fun e => { e with
          printed := (none, (if e.unended then "\n" else "") ++ text) :: e.printed
          unended := false }
      return .drop
  | .delete => return .drop
  | .deleteFirst =>
      if firstLine.length = e.pattern.length then return .drop
      set { e with pattern := e.pattern.drop (firstLine.length + 1) }
      return .restart
  | .get =>
      set { e with pattern := e.held }
      return .next
  | .getAppend =>
      set { e with pattern := e.pattern ++ '\n' :: e.held }
      return .next
  | .hold =>
      set { e with held := e.pattern }
      return .next
  | .holdAppend =>
      set { e with held := e.held ++ '\n' :: e.pattern }
      return .next
  | .exchange =>
      set { e with pattern := e.held, held := e.pattern }
      return .next
  | .list =>
      say (wrapped 0 (e.pattern.map listed))
      return .next
  | .next =>
      if e.ahead.isEmpty then return .quit true
      if !e.quiet then sayPattern
      emptyQueue
      let _ ← readLine
      return .next
  | .nextAppend =>
      if e.ahead.isEmpty then return .quit true
      emptyQueue
      let _ ← readLine (e.pattern ++ ['\n'])
      return .next
  | .print =>
      sayPattern
      return .next
  | .printFirst =>
      say (String.ofList firstLine)
      return .next
  | .number =>
      say (toString e.number)
      return .next
  | .fileName =>
      say e.line.file
      return .next
  | .quit status =>
      set { e with status }
      return .quit true
  | .quitSilently status =>
      set { e with status }
      return .quit false
  | .readFile name =>
      set { e with queue := e.queue ++ [Sum.inr name] }
      return .next
  | .write name =>
      sayTo name (String.ofList e.pattern)
      return .next
  | .writeFirst name =>
      sayTo name (String.ofList firstLine)
      return .next
  | .substitute s =>
      match ← expression s.finder with
      | none => return .next
      | some f =>
          let (text, changed) := substitute s f e.pattern (e.pattern.length + 2) 0 1 none
          if changed then
            modify fun e => { e with pattern := text, replaced := true }
            if s.print then sayPattern
            match s.target with
            | some name => sayTo name (String.ofList text)
            | none => pure ()
          return .next
  | .map table =>
      set { e with pattern := e.pattern.map fun c => (table.lookup c).getD c }
      return .next
  | .clear =>
      set { e with pattern := [] }
      return .next
  | .jump name => return .jump (placeOf e name)
  | .jumpIfReplaced name =>
      set { e with replaced := false }
      return if e.replaced then .jump (placeOf e name) else .next
  | .jumpUnlessReplaced name =>
      set { e with replaced := false }
      return if e.replaced then .next else .jump (placeOf e name)

/-- Run the script from a place on. The fuel bounds the commands. -/
def runFrom : (fuel : Nat) → (place : Nat) → EditM Onward
  | 0, _ => return .quit true
  | fuel + 1, place => do
      match (← get).script[place]? with
      | none => return .finish
      | some c =>
          if ← isMeant place c then
            match ← perform place c with
            | .next => runFrom fuel (place + 1)
            | .jump place => runFrom fuel place
            | onward => return onward
          else match c.action with
            | .block stop => runFrom fuel stop
            | _ => runFrom fuel (place + 1)

def commandLimit : Nat := 100000

/-- Run the script on the lines that are still to come. -/
def runLines : (fuel : Nat) → (fresh : Bool) → EditM Unit
  | 0, _ => return
  | fuel + 1, fresh => do
      if fresh then
        if !(← readLine) then return
        modify fun e => { e with replaced := false }
      let onward ← runFrom commandLimit 0
      let quiet := (← get).quiet
      match onward with
      | .quit prints =>
          if prints ∧ !quiet then sayPattern
          if prints then emptyQueue
      | .restart =>
          emptyQueue
          runLines fuel false
      | .drop =>
          emptyQueue
          runLines fuel true
      | _ =>
          if !quiet then sayPattern
          emptyQueue
          runLines fuel true

end EditM

def editLines (file text : String) : List EditLine :=
  let ls := linesOf text
  let ended := text.toList.getLast? = some '\n'
  let all : List EditLine := ls.map fun l => ⟨l, true, file, false⟩
  match all.getLast? with
  | some l => all.dropLast ++ [{ l with ended }]
  | none => []

def markLast (ls : List EditLine) : List EditLine :=
  match ls.getLast? with
  | some l => ls.dropLast ++ [{ l with isLast := true }]
  | none => []

/-- Run a script on lines; what was printed comes in order with the status. -/
def runEdit (script : Array EditCommand) (quiet : Bool) (ls : List EditLine) :
    JobM (List (Option String × String) × Nat) := do
  let e : Editing := {
    script, quiet, ahead := markLast ls
    ranges := script.map fun c => if c.fromStart then .inside none else .outside }
  let steps := ls.length + (ls.map fun l => l.text.length).foldl (· + ·) 0 + 2
  let (_, e) ← (EditM.runLines (4 * steps) true).run e
  return (e.printed.reverse, e.status)

/-- The files that a script writes to. -/
def targetsOf (script : Array EditCommand) : List String :=
  (script.toList.filterMap fun c => match c.action with
    | .write name | .writeFirst name => some name
    | .substitute s => s.target
    | _ => none).eraseDups

def missingLabels (script : Array EditCommand) : List String :=
  let labels := script.toList.filterMap fun c => match c.action with
    | .label name => some name
    | _ => none
  script.toList.filterMap fun c => match c.action with
    | .jump name | .jumpIfReplaced name | .jumpUnlessReplaced name =>
        if name = "" ∨ labels.contains name then none else some name
    | _ => none

/-- The help of `sed`, which it gives when it is called without a script. -/
def editUsage : String :=
  "Usage: sed [OPTION]... \x7bscript-only-if-no-other-script\x7d [input-file]..."

/-- Read the pieces of a script in turn: texts, and texts of files. -/
def readEdits (extended : Bool) (pieces : List String) : Except String (Array EditCommand) := do
  let (script, open_) ← (pieces.zipIdx 1).foldlM (fun before (piece, n) =>
    match readEdit extended before piece with
    | .ok after => .ok after
    | .error (at_, message) =>
        .error ("-e expression #" ++ toString n ++ ", char " ++ toString at_ ++ ": " ++ message))
    (#[], [])
  if !open_.isEmpty then throw "-e expression #1, char 0: unmatched \x60\x7b'"
  match missingLabels script with
  | [] => return script
  | name :: _ => throw ("-e expression #1, char 0: can't find label for jump to \x60" ++ name ++ "'")

/-- Deliver what was printed: to the output, or to the file that takes its place. -/
def deliver (printed : List (Option String × String)) (output : Option Stream)
    (streams : List (String × Stream)) : JobM Unit :=
  printed.forM fun (target, text) => do
    let stream := match target with
      | none => output
      | some name => streams.lookup name
    match stream with
    | some stream => modify fun j => (j.put text stream).2
    | none => if target.isNone then JobM.say text

def editOptions : List KnownOption :=
  [⟨'n', "quiet", .nothing⟩, ⟨'!', "silent", .nothing⟩, ⟨'e', "expression", .value⟩,
   ⟨'f', "file", .value⟩, ⟨'E', "regexp-extended", .nothing⟩, ⟨'r', "", .nothing⟩,
   ⟨'i', "in-place", .perhaps⟩, ⟨'s', "separate", .nothing⟩, ⟨'u', "unbuffered", .nothing⟩,
   ⟨'z', "null-data", .nothing⟩, ⟨'p', "posix", .nothing⟩]

/-- `sed`: edits lines by a script. -/
def sed : Utility := fun _ args => do
  match readArguments editOptions false args with
  | .error problem => do
      JobM.complain ("sed: " ++ problem.message)
      JobM.fail editUsage
  | .ok a =>
      let hasScript := a.has 'e' || a.has 'f'
      if !hasScript ∧ a.operands = [] then return ← JobM.fail editUsage
      let given ← (a.options.filter fun (k, _) => k = 'e' ∨ k = 'f').mapM fun (key, value) => do
        if key = 'e' then return Except.ok value
        match ← JobM.inputOf value with
        | .ok text => return Except.ok text
        | .error reason => return Except.error ("couldn't open file " ++ value ++ ": " ++ reason)
      let pieces := if hasScript then given else [.ok (a.operands.headD "")]
      let names := namesOr (if hasScript then a.operands else a.operands.tail)
      match pieces.mapM id >>= readEdits (a.has 'E' || a.has 'r') with
      | .error message => JobM.fail ("sed: " ++ message)
      | .ok script =>
          let quiet := a.has 'n' || a.has '!'
          let inPlace := a.has 'i'
          let streams ← (targetsOf script).filterMapM fun name => do
            match (← get).openFile name .write with
            | .ok (stream, j) =>
                set j
                return some (name, stream)
            | .error _ => return none
          let complain (name reason : String) : JobM Nat := do
            JobM.complain ("sed: " ++ (if reason = Disk.FileError.isDirectory.reason then
              if inPlace then "couldn't edit " ++ name ++ ": not a regular file"
              else "couldn't read " ++ name ++ ": " ++ reason
              else "can't read " ++ name ++ ": " ++ reason))
            return 2
          if inPlace ∨ a.has 's' then
            names.foldlM (fun status name => do
              match ← JobM.inputOf name with
              | .error reason => complain name reason
              | .ok text =>
                  let (printed, ended) ← runEdit script quiet (editLines name text)
                  let backup := ((a.options.find? (·.1 = 'i')).map (·.2)).getD ""
                  if inPlace then
                    if backup ≠ "" then
                      match (← get).openFile (name ++ backup) .write with
                      | .ok (stream, j) => set (j.put text stream).2
                      | .error _ => pure ()
                    match (← get).openFile name .write with
                    | .ok (stream, j) =>
                        set j
                        deliver printed (some stream) streams
                    | .error _ => pure ()
                  else deliver printed none streams
                  return if status = 0 then ended else status) 0
          else
            let (status, ls) ← names.foldlM (fun (status, ls) name => do
              match ← JobM.inputOf name with
              | .ok text => return (status, ls ++ editLines name text)
              | .error reason => return (← complain name reason, ls)) (0, [])
            let (printed, ended) ← runEdit script quiet ls
            deliver printed none streams
            return if ended = 0 then status else ended

end ReplyScript.Utility
