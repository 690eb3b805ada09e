import ReplyScript.Disk.Tree
import ReplyScript.Text.Utf8

/-! # Jobs

A job is a program that runs: it has a disk to work on, a working directory, variables and channels
that lead somewhere. All texts of a job are texts of bytes.
-/

namespace ReplyScript

open Disk (Content Entry FileError Path Target Tree)

/-- Where a channel leads. -/
inductive Stream where
  /-- What is written is lost, and there is nothing to read. -/
  | nowhere
  /-- What is written can be read once, from its start. -/
  | pipe (number : Nat)
  | file (number : Nat)
  deriving Repr, DecidableEq, BEq, Inhabited

/-- A file that is open, and where it is read or written next. -/
structure OpenFile where
  place : Path
  offset : Nat := 0
  readable : Bool := true
  writable : Bool := false
  /-- All is written to the end. -/
  appends : Bool := false
  deriving Repr, DecidableEq, BEq, Inhabited

/-- What a file is opened for. -/
inductive Access where
  | read
  /-- Write from the start, after making the file empty. -/
  | write
  | append
  | readWrite
  deriving Repr, DecidableEq, BEq, Inhabited

/-- A program that runs. -/
structure Job where
  disk : Tree
  /-- The working directory. -/
  here : Path
  environment : List (String × String)
  channels : List (Nat × Stream)
  /-- What can still be read from each pipe. -/
  pipes : Array String
  files : Array OpenFile
  /-- The permissions that new files do not get. -/
  mask : Nat := 0o022
  /-- Whether something was written to channel 1 that went nowhere. -/
  lost : Bool := false
  deriving Inhabited

abbrev JobM := StateM Job

def Disk.FileError.reason : FileError → String
  | .notFound => "No such file or directory"
  | .alreadyExists => "File exists"
  | .notDirectory => "Not a directory"
  | .isDirectory => "Is a directory"
  | .nameTooLong => "File name too long"
  | .tooManyLinks => "Too many levels of symbolic links"
  | .nulInName | .notText => "Invalid argument"

namespace Job

/-- A job with input on channel 0, output on channel 1 and messages on channel 2. -/
def start (disk : Tree) (here : Path) (environment : List (String × String)) (input : String) :
    Job where
  disk := disk
  here := here
  environment := environment
  channels := [(0, .pipe 0), (1, .pipe 1), (2, .pipe 2)]
  pipes := #[input, "", ""]
  files := #[]

def path (j : Job) (name : String) : Path :=
  Path.ofText j.here (Text.narrow name)

/-- Where a name leads. Without `follow`, a link at its end is not followed. -/
def walk (j : Job) (name : String) (follow : Bool := true) : Except FileError Target :=
  if name = "" then .error .notFound else j.disk.walk (j.path name) follow

def isDirectory (j : Job) (name : String) : Bool :=
  match j.walk name with
  | .ok (.found _ .directory) => true
  | _ => false

def isFile (j : Job) (name : String) : Bool :=
  match j.walk name with
  | .ok (.found _ (.file _)) => true
  | _ => false

def isLink (j : Job) (name : String) : Bool :=
  match j.walk name false with
  | .ok (.found _ (.link _)) => true
  | _ => false

def reaches (j : Job) (name : String) : Bool :=
  match j.walk name with
  | .ok (.found ..) => true
  | _ => false

/-- Whether what is at a place may be run. -/
def isExecutable (j : Job) (place : Path) : Bool :=
  j.disk.mode place &&& 0o111 != 0

/-- Make an entry at a place, with the permissions that new entries get. -/
def create (j : Job) (place : Path) (entry : Entry) : Job :=
  let disk := j.disk.set place entry
  let given := disk.mode place
  let usual := if given = 0o755 then 0o777 else 0o666
  let mode := usual - (usual &&& j.mask)
  { j with disk := if mode = given then disk else disk.setMode place mode }

def namesIn (j : Job) (name : String) : Except FileError (List (String × Entry)) :=
  match j.walk name with
  | .ok (.found place .directory) =>
      .ok ((j.disk.children place).map fun (n, e) => (Text.widen n, e))
  | .ok (.found ..) => .error .notDirectory
  | .ok (.free _) => .error .notFound
  | .error e => .error e

def bytesOf (content : Content) : String :=
  match content with
  | .text s => Text.widen s
  | .binary bytes => Text.ofBytes bytes

def contentOf (s : String) : Content :=
  .ofBytes (Text.toBytes s)

def textAt (j : Job) (place : Path) : String :=
  match j.disk.entryAt? place with
  | some (.file content) => bytesOf content
  | _ => ""

def value? (j : Job) (name : String) : Option String :=
  j.environment.lookup name

def stream? (j : Job) (channel : Nat) : Option Stream :=
  j.channels.lookup channel

/-- Lead a channel somewhere, or close it. -/
def setStream (j : Job) (channel : Nat) (stream : Option Stream) : Job :=
  let others := j.channels.filter (·.1 ≠ channel)
  { j with channels := match stream with
      | some stream => (channel, stream) :: others
      | none => others }

/-- The channel that the name of a device stands for, or none if the device is empty. -/
def device? (path : Path) : Option (Option Nat) :=
  match path with
  | ["dev", "null"] => some none
  | ["dev", "stdin"] => some (some 0)
  | ["dev", "stdout"] => some (some 1)
  | ["dev", "stderr"] => some (some 2)
  | ["dev", "fd", n] => (n.toNat?).map some
  | _ => none

/-- Let the file at a place hold something. A file that is gone stays so. -/
def setText (j : Job) (place : Path) (text : String) : Job :=
  match j.disk.entryAt? place with
  | some (.file _) => { j with disk := j.disk.set place (.file (contentOf text)) }
  | _ => j

def openFile (j : Job) (name : String) (access : Access) : Except FileError (Stream × Job) := do
  match device? (j.path name) with
  | some none => return (.nowhere, j)
  | some (some channel) =>
      match j.stream? channel with
      | some stream => return (stream, j)
      | none => throw .notFound
  | none => pure ()
  let file (place : Path) : OpenFile :=
    { place, readable := access matches .read | .readWrite, writable := !(access matches .read)
      appends := access matches .append }
  let opened (j : Job) (place : Path) : Stream × Job :=
    (.file j.files.size, { j with files := j.files.push (file place) })
  match ← j.walk name with
  | .found place (.file _) => return opened (if access = .write then j.setText place "" else j) place
  | .found place .directory => if access = .read then return opened j place else throw .isDirectory
  | .found _ (.link _) => throw .tooManyLinks
  | .free place =>
      if access = .read then throw .notFound
      if (Text.narrow name).toList.getLast? = some '/' then throw .isDirectory
      return opened (j.create place (.file (.text ""))) place

/-- What is left to read of a stream; `none` if it cannot be read. -/
def peek (j : Job) : Stream → Except String String
  | .nowhere => .ok ""
  | .pipe n => .ok ((j.pipes[n]?).getD "")
  | .file n =>
      match j.files[n]? with
      | some f =>
          if !f.readable then .error "Bad file descriptor"
          else if j.disk.entryAt? f.place = some .directory then .error FileError.isDirectory.reason
          else .ok (String.ofList ((j.textAt f.place).toList.drop f.offset))
      | none => .error "Bad file descriptor"

/-- Go on in a stream after reading `count` bytes. -/
def skip (j : Job) (count : Nat) : Stream → Job
  | .nowhere => j
  | .pipe n =>
      { j with pipes := j.pipes.modify n fun s => String.ofList (s.toList.drop count) }
  | .file n => { j with files := j.files.modify n fun f => { f with offset := f.offset + count } }

/-- A text with another one written over it from an offset on. -/
def overwrite (old new : String) (offset : Nat) : String :=
  let cs := old.toList
  let gap := List.replicate (offset - cs.length) '\x00'
  String.ofList (cs.take offset ++ gap ++ new.toList ++ cs.drop (offset + new.length))

/-- Write to a stream; `false` if that cannot be done. -/
def put (j : Job) (text : String) : Stream → Bool × Job
  | .nowhere => (true, j)
  | .pipe n => (true, { j with pipes := j.pipes.modify n (· ++ text) })
  | .file n =>
      match j.files[n]? with
      | some f =>
          if !f.writable then (false, j)
          else
            let old := j.textAt f.place
            let offset := if f.appends then old.length else f.offset
            let j := if text = "" then j else j.setText f.place (overwrite old text offset)
            (true, { j with
              files := j.files.set! n { f with offset := offset + text.length } })
      | none => (false, j)

end Job

namespace JobM

/-- Look at what is left to read on a channel. -/
def peek (channel : Nat) : JobM (Except String String) := do
  let j ← get
  match j.stream? channel with
  | some stream => return j.peek stream
  | none => return .error "Bad file descriptor"

/-- Go on after reading `count` bytes of a channel. -/
def skip (channel count : Nat) : JobM Unit := do
  let j ← get
  match j.stream? channel with
  | some stream => set (j.skip count stream)
  | none => return

def readAll (channel : Nat) : JobM (Except String String) := do
  match ← peek channel with
  | .ok text =>
      skip channel text.length
      return .ok text
  | .error e => return .error e

/-- Write to a channel; `false` if that cannot be done. -/
def put (channel : Nat) (text : String) : JobM Bool := do
  let j ← get
  let (done, j) := match j.stream? channel with
    | some stream => j.put text stream
    | none => (false, j)
  set { j with lost := j.lost || (channel == 1 && !done && text != "") }
  return done

def say (text : String) : JobM Unit := do
  let _ ← put 1 text

def complain (line : String) : JobM Unit := do
  let _ ← put 2 (line ++ "\n")

def fail (line : String) (status : Nat := 1) : JobM Nat := do
  complain line
  return status

/-- Do something to the disk that may fail. -/
def change (op : Tree → Except FileError Tree) : JobM (Option FileError) := do
  let j ← get
  match op j.disk with
  | .ok disk =>
      set { j with disk }
      return none
  | .error e => return some e

/-- The bytes of a named file; a hyphen names the input. -/
def inputOf (name : String) : JobM (Except String String) := do
  if name = "-" then readAll 0
  else
    let j ← get
    match j.openFile name .read with
    | .ok (stream, j) =>
        set j
        let text := j.peek stream
        match text with
        | .ok s => set (j.skip s.length stream)
        | .error _ => pure ()
        return text
    | .error e => return .error e.reason

end JobM

/-- A way to launch a program by its name and arguments; there is no status if there is no such
program. -/
abbrev Launch := List String → JobM (Option Nat)

/-- What a utility does with its arguments. It can launch other programs; the result is the exit
status. -/
abbrev Utility := Launch → List String → JobM Nat

/-! ## Names in messages

Messages of utilities put names in quotes, always or only where a name could be misread.
-/

namespace Job

/-- Whether a character of a name could be misread. -/
def isDelicate (c : Char) : Bool :=
  c.toNat < 33 || c.toNat > 126 || "!\"#$&'()*;<=>?[\\]^\x60\x7b|\x7d~".toList.contains c

/-- The three octal digits of a byte. -/
def octal (n : Nat) : List Char :=
  [Char.ofNat (48 + n / 64 % 8), Char.ofNat (48 + n / 8 % 8), Char.ofNat (48 + n % 8)]

/-- How a character that cannot be printed is written between its own quotes. -/
def escaped (c : Char) : Option (List Char) :=
  match c with
  | '\n' => some ['\\', 'n']
  | '\t' => some ['\\', 't']
  | '\r' => some ['\\', 'r']
  | c => if c.toNat < 32 ∨ 126 < c.toNat then some ('\\' :: octal c.toNat) else none

/-- A name between quotes from a place on; `special` tells that the place is between the quotes of
characters that cannot be printed. -/
def quotedFrom (special : Bool) : List Char → List Char
  | [] => []
  | c :: cs =>
      match escaped c with
      | some code =>
          (if special then [] else "'$'".toList) ++ code ++ quotedFrom true cs
      | none =>
          (if special then "''".toList else [])
            ++ (if c = '\'' then "'\\''".toList else [c]) ++ quotedFrom false cs

def quoted (name : String) : String :=
  let cs := name.toList
  if cs.contains '\'' ∧ cs.all fun c => (escaped c).isNone ∧ !"\"$\\\x60".toList.contains c then
    "\"" ++ name ++ "\""
  else "'" ++ String.ofList (quotedFrom false cs) ++ "'"

/-- A name, in quotes only if it could be misread. -/
def shown (name : String) : String :=
  let isSafe (p : Char × Nat) : Bool :=
    !isDelicate p.1 || (p.2 ≠ 0 && (p.1 = '#' || p.1 = '~'))
      || (1 < name.length && (p.1 = '\x7b' || p.1 = '\x7d'))
  if name ≠ "" ∧ name.toList.zipIdx.all isSafe then name else quoted name

end Job

end ReplyScript
