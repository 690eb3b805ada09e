import ReplyScript.Utility.Files
import ReplyScript.Utility.Wildcard

/-! # Finding files -/

namespace ReplyScript.Utility

open Disk (Entry)

/-- What `find` asks of each file, and does with it. -/
inductive FindTest where
  | yes
  | no
  | name (pattern : String) (ignoresCase : Bool)
  | path (pattern : String)
  | kind (letters : List Char)
  | empty
  | size (sign : Char) (count : Nat) (unit : Nat)
  | newer
  | print (ending : String)
  | format (s : String)
  | delete
  | prune
  | quit
  | run (command : List String)
  /-- Run a command on all files at once. -/
  | runAll (index : Nat)
  | not (t : FindTest)
  | both (a b : FindTest)
  | either (a b : FindTest)
  deriving Repr, BEq, Inhabited

/-- What is known from the arguments of `find`. -/
structure FindReader where
  rest : List String
  least : Nat := 0
  most : Option Nat := none
  depthFirst : Bool := false
  /-- Whether something is done with files that were found. -/
  acts : Bool := false
  /-- The commands that run on all files at once. -/
  commands : List (List String) := []

abbrev ReadFind := StateT FindReader (Except String)

namespace ReadFind

def argument (name : String) : ReadFind String := do
  let r ← get
  match r.rest with
  | [] => throw ("missing argument to \x60" ++ name ++ "'")
  | arg :: rest =>
      set { r with rest }
      return arg

def number (name : String) : ReadFind Nat := do
  let arg ← argument name
  match Text.numeral? arg with
  | some n => return n
  | none => throw ("Expected a positive decimal integer argument to " ++ name ++ ", but got "
      ++ Job.quoted arg)

/-- Note that something is done. -/
def act (t : FindTest) : ReadFind FindTest := do
  modify fun r => { r with acts := true }
  return t

def readSize (arg : String) : FindTest :=
  let cs := arg.toList
  let (sign, cs) := match cs with
    | '+' :: cs => ('+', cs)
    | '-' :: cs => ('-', cs)
    | cs => ('=', cs)
  let unit := match cs.dropWhile Char.isDigit with
    | 'c' :: _ => 1
    | 'w' :: _ => 2
    | 'k' :: _ => 1024
    | 'M' :: _ => 1048576
    | _ => 512
  .size sign (Text.digitsValue (cs.takeWhile Char.isDigit)) unit

mutual

def anyOf : (fuel : Nat) → ReadFind FindTest
  | 0 => return .yes
  | fuel + 1 => do
      let first ← allOf fuel
      let r ← get
      match r.rest with
      | op :: rest =>
          if op = "-o" ∨ op = "-or" then
            set { r with rest }
            return .either first (← anyOf fuel)
          else return first
      | [] => return first

def allOf : (fuel : Nat) → ReadFind FindTest
  | 0 => return .yes
  | fuel + 1 => do
      let first ← one fuel
      let r ← get
      match r.rest with
      | [] => return first
      | op :: rest =>
          if op = "-o" ∨ op = "-or" ∨ op = ")" then return first
          if op = "-a" ∨ op = "-and" then set { r with rest }
          return .both first (← allOf fuel)

def one : (fuel : Nat) → ReadFind FindTest
  | 0 => return .yes
  | fuel + 1 => do
      let r ← get
      match r.rest with
      | [] => throw "invalid expression; expected to find a test but didn't see one"
      | test :: rest =>
          set { r with rest }
          match test with
          | "(" =>
              let t ← anyOf fuel
              let r ← get
              match r.rest with
              | ")" :: rest =>
                  set { r with rest }
                  return t
              | _ => throw "invalid expression; I was expecting to find a ')' somewhere but did not see one."
          | "!" | "-not" => return .not (← one fuel)
          | "-name" => return .name (← argument test) false
          | "-iname" => return .name (← argument test) true
          | "-path" | "-wholename" => return .path (← argument test)
          | "-type" => return .kind (((← argument test).toList).filter (· ≠ ','))
          | "-empty" => return .empty
          | "-size" => return readSize (← argument test)
          | "-newer" =>
              let _ ← argument test
              return .newer
          | "-true" => return .yes
          | "-false" => return .no
          | "-maxdepth" =>
              let n ← number test
              modify fun r => { r with most := some n }
              return .yes
          | "-mindepth" =>
              let n ← number test
              modify fun r => { r with least := n }
              return .yes
          | "-depth" =>
              modify fun r => { r with depthFirst := true }
              return .yes
          | "-print" => act (.print "\n")
          | "-print0" => act (.print "\x00")
          | "-printf" => act (.format (← argument test))
          | "-delete" =>
              modify fun r => { r with depthFirst := true }
              act .delete
          | "-prune" => return .prune
          | "-quit" => act .quit
          | "-exec" | "-ok" | "-execdir" =>
              let r ← get
              let words := r.rest.takeWhile fun w => w ≠ ";"
              let upToPlus := r.rest.takeWhile fun w => w ≠ "+"
              if upToPlus.length < words.length ∧ upToPlus.getLast? = some "\x7b\x7d" then
                set { r with
                  rest := r.rest.drop (upToPlus.length + 1)
                  commands := r.commands ++ [upToPlus.dropLast] }
                act (.runAll r.commands.length)
              else if words.length = r.rest.length then
                throw ("missing argument to \x60" ++ test ++ "'")
              else
                set { r with rest := r.rest.drop (words.length + 1) }
                act (.run words)
          | _ =>
              if test.toList.head? = some '-' then throw ("unknown predicate \x60" ++ test ++ "'")
              else throw ("paths must precede expression: \x60" ++ test ++ "'")

end

end ReadFind

/-- A file that was found: how it is named, what it is, and how deep it lies. -/
structure FoundFile where
  name : String
  entry : Entry
  depth : Nat
  start : String

/-- What a walk has collected: files for commands that run once, whether to stop, and the status. -/
structure FindState where
  collected : List (Nat × String) := []
  stopped : Bool := false
  pruned : Bool := false
  status : Nat := 0

/-- A step of a walk. -/
abbrev FindM := StateT FindState JobM

/-- A text with another one in place of the braces that stand for a file. -/
def withName (name : String) : List Char → List Char
  | '\x7b' :: '\x7d' :: cs => name.toList ++ withName name cs
  | c :: cs => c :: withName name cs
  | [] => []

def fileSize : Entry → Nat
  | .file content => content.bytes.length
  | .link target => target.utf8ByteSize
  | .directory => 4096

def formatFile (f : FoundFile) : List Char → List Char
  | '%' :: c :: cs =>
      (match c with
        | 'p' => f.name.toList
        | 'f' => (lastPart f.name).toList
        | 'h' =>
            let cs := f.name.toList.reverse.dropWhile (· ≠ '/')
            if cs = [] then ['.'] else cs.tail.reverse
        | 'P' => (f.name.toList.drop f.start.length).dropWhile (· == '/')
        | 's' => (toString (fileSize f.entry)).toList
        | 'd' => (toString f.depth).toList
        | 'y' => [match f.entry with
            | .directory => 'd'
            | .link _ => 'l'
            | .file _ => 'f']
        | c => if c = '%' then ['%'] else ['%', c]) ++ formatFile f cs
  | '\\' :: c :: cs =>
      (match c with
        | 'n' => ['\n']
        | 't' => ['\t']
        | '0' => ['\x00']
        | c => if c = '\\' then [c] else ['\\', c]) ++ formatFile f cs
  | c :: cs => c :: formatFile f cs
  | [] => []

def FindTest.holds (launch : Launch) (f : FoundFile) : FindTest → FindM Bool
  | yes => return true
  | no | newer => return false
  | name pattern ignoresCase =>
      let lower (s : String) : String :=
        if ignoresCase then String.ofList (s.toList.map Char.toLower) else s
      return Wildcard.fits (lower pattern) (lower (lastPart f.name))
  | path pattern => return Wildcard.fits pattern f.name
  | kind letters =>
      return letters.contains (match f.entry with
        | .directory => 'd'
        | .link _ => 'l'
        | .file _ => 'f')
  | empty => do
      match f.entry with
      | .directory =>
          match (← getThe Job).namesIn f.name with
          | .ok names => return names.isEmpty
          | .error _ => return false
      | e => return fileSize e == 0
  | size sign count unit =>
      let n := (fileSize f.entry + unit - 1) / unit
      return if sign = '+' then count < n else if sign = '-' then n < count else n = count
  | print ending => do
      (JobM.say (f.name ++ ending) : JobM Unit)
      return true
  | format s => do
      (JobM.say (String.ofList (formatFile f s.toList)) : JobM Unit)
      return true
  | delete => do
      if f.name = "." then return true
      let j ← getThe Job
      match found? j f.name with
      | .ok (place, entry) =>
          if entry = .directory ∧ !(j.disk.children place).isEmpty then
            (JobM.complain ("find: cannot delete " ++ Job.quoted f.name
              ++ ": Directory not empty") : JobM Unit)
            modify fun s => { s with status := 1 }
            return false
          modifyThe Job fun j => { j with disk := j.disk.erase place }
          return true
      | .error _ => return false
  | prune => do
      modify fun s => { s with pruned := true }
      return true
  | quit => do
      modify fun s => { s with stopped := true }
      return true
  | run command => do
      let words := command.map fun w => String.ofList (withName f.name w.toList)
      match ← (launch words : JobM (Option Nat)) with
      | some status => return status = 0
      | none => do
          (JobM.complain ("find: " ++ Job.quoted (words.headD "")
            ++ ": No such file or directory") : JobM Unit)
          return false
  | runAll index => do
      modify fun s => { s with collected := s.collected ++ [(index, f.name)] }
      return true
  | not t => do return !(← t.holds launch f)
  | both a b => do
      if ← a.holds launch f then
        if (← get).stopped then return true
        b.holds launch f
      else return false
  | either a b => do
      if ← a.holds launch f then return true
      b.holds launch f

/-- Walk through a directory. The fuel bounds the depth. -/
def walkFiles (launch : Launch) (r : FindReader) (test : FindTest) :
    (fuel : Nat) → FoundFile → FindM Unit
  | 0, _ => return
  | fuel + 1, f => do
      if (← get).stopped then return
      let visit : FindM Unit := do
        if r.least ≤ f.depth then
          let _ ← test.holds launch f
      modify fun s => { s with pruned := false }
      if !r.depthFirst then visit
      let pruned := (← get).pruned
      if f.entry = .directory ∧ (r.most.map fun most => decide (f.depth < most)).getD true
          ∧ !pruned then
        match (← getThe Job).namesIn f.name with
        | .ok names =>
            names.forM fun (n, e) =>
              walkFiles launch r test fuel ⟨inside f.name n, e, f.depth + 1, f.start⟩
        | .error _ => pure ()
      if r.depthFirst ∧ !(← get).stopped then visit

/-- `find`: finds files and does something with them. -/
def find : Utility := fun launch args => do
  let isTest (arg : String) : Bool :=
    arg = "(" || arg = "!" || (arg.toList.head? = some '-' && arg ≠ "-")
  let args := args.dropWhile fun arg => arg = "-L" ∨ arg = "-P" ∨ arg = "-H"
  let paths := args.takeWhile fun arg => !isTest arg
  let rest := args.drop paths.length
  let read : ReadFind FindTest := do
    if rest = [] then return .yes
    let t ← ReadFind.anyOf (4 * rest.length + 4)
    match (← get).rest with
    | [] => return t
    | ")" :: _ => throw "invalid expression; you have too many ')'"
    | arg :: _ => throw ("paths must precede expression: \x60" ++ arg ++ "'")
  match read.run { rest } with
  | .error message => JobM.fail ("find: " ++ message)
  | .ok (test, r) =>
      let test := if r.acts then test else .both test (.print "\n")
      let walk : FindM Unit :=
        (if paths.isEmpty then ["."] else paths).forM fun path => do
          match found? (← getThe Job) path with
          | .ok (_, e) => walkFiles launch r test 200 ⟨path, e, 0, path⟩
          | .error e => do
              (JobM.complain ("find: " ++ Job.quoted path ++ ": " ++ e.reason) : JobM Unit)
              modify fun s => { s with status := 1 }
      let (_, s) ← walk.run {}
      let (status, _) ← r.commands.foldlM (fun (status, n) command => do
        let names := (s.collected.filter (·.1 = n)).map (·.2)
        if names.isEmpty then return (status, n + 1)
        let result ← launch (command ++ names)
        return (if result = some 0 then status else 1, n + 1)) (s.status, 0)
      return status

end ReplyScript.Utility
