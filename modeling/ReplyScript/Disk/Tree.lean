import ReplyScript.Disk.Content
import ReplyScript.Keyed

/-! # Directory trees

A tree of directories, files and links, as a map from places to entries. A place is the list of
names on the way from the top, which is always a directory. A path is a list of names too, but names
on it may be links, `.` and `..`; `Tree.walk` finds the place that a path leads to.
-/

namespace ReplyScript.Disk

abbrev Path := List String

/-- What is at a place. -/
inductive Entry where
  | file (content : Content)
  | link (target : String)
  | directory
  deriving Repr, DecidableEq, BEq, Inhabited

/-- The entries below the top. -/
structure Tree where
  entries : List (Path × Entry)
  /-- The permissions of entries that do not have the usual ones. -/
  modes : List (Path × Nat) := []
  deriving Repr, DecidableEq, BEq, Inhabited

/-- Where a path leads. -/
inductive Target where
  | found (place : Path) (entry : Entry)
  /-- Nothing is there, but its directory is. -/
  | free (place : Path)
  deriving Repr, DecidableEq, BEq, Inhabited

/-- A written path, taken from a directory. A slash at its end asks for a directory. -/
def Path.ofText (base : Path) (text : String) : Path :=
  let names := (text.toList.splitOn '/').map String.ofList
  let relative := names.filter (· ≠ "") ++ (if names.getLast? = some "" then ["."] else [])
  if text.toList.head? = some '/' then relative else base ++ relative

/-- Names may not be longer than this many bytes. -/
def nameLimit : Nat := 255

/-- A path may not lead through more links than this. -/
def linkLimit : Nat := 40

namespace Tree

/-- Nothing but the top. -/
def empty : Tree := ⟨[], []⟩

def entryAt? (t : Tree) (place : Path) : Option Entry :=
  if place = [] then some .directory else t.entries.lookup place

def set (t : Tree) (place : Path) (entry : Entry) : Tree :=
  { t with entries := Keyed.put place entry t.entries }

/-- The permissions at a place: nine bits for reading, writing and running, of the owner, of the
group and of all others. -/
def mode (t : Tree) (place : Path) : Nat :=
  (t.modes.lookup place).getD <| match t.entryAt? place with
    | some (.file _) => 0o644
    | some (.link _) => 0o777
    | _ => 0o755

def setMode (t : Tree) (place : Path) (mode : Nat) : Tree :=
  { t with modes := (place, mode) :: t.modes.filter (·.1 ≠ place) }

/-- Follow names from a place. `jump` follows a link's target together with the names left. -/
def walkFrom (t : Tree) (follow : Bool) (jump : Path → Path → Except FileError Target)
    (here : Path) : Path → Except FileError Target
  | [] => .ok (.found here .directory)
  | name :: rest =>
      if name = "." ∨ name = "" then t.walkFrom follow jump here rest
      else if name = ".." then t.walkFrom follow jump here.dropLast rest
      else if nameLimit < name.utf8ByteSize then .error .nameTooLong
      else
        let place := here ++ [name]
        match t.entryAt? place with
        | none => if rest = [] then .ok (.free place) else .error .notFound
        | some (.file content) =>
            if rest = [] then .ok (.found place (.file content)) else .error .notDirectory
        | some .directory => t.walkFrom follow jump place rest
        | some (.link target) =>
            if rest = [] ∧ !follow then .ok (.found place (.link target))
            else jump here (Path.ofText here target ++ rest)

/-- Where a path from the top leads when at most `links` links are followed. -/
def walkWith (t : Tree) (follow : Bool) : (links : Nat) → Path → Except FileError Target
  | 0 => t.walkFrom follow (fun _ _ => .error .tooManyLinks) []
  | links + 1 => t.walkFrom follow (fun _ path => t.walkWith follow links path) []

/-- Where a path from the top leads. Without `follow`, a link at its end is not followed. -/
def walk (t : Tree) (path : Path) (follow : Bool := true) : Except FileError Target :=
  if path.any fun name => '\x00' ∈ name.toList then .error .nulInName
  else t.walkWith follow linkLimit path

def isDirectory (t : Tree) (path : Path) : Bool :=
  match t.walk path with
  | .ok (.found _ .directory) => true
  | _ => false

def isFile (t : Tree) (path : Path) : Bool :=
  match t.walk path with
  | .ok (.found _ (.file _)) => true
  | _ => false

def reaches (t : Tree) (path : Path) : Bool :=
  match t.walk path with
  | .ok (.found ..) => true
  | _ => false

def read (t : Tree) (path : Path) : Except FileError Content :=
  match t.walk path with
  | .ok (.found _ (.file content)) => .ok content
  | .ok (.found ..) => .error .isDirectory
  | .ok (.free _) => .error .notFound
  | .error e => .error e

def readText (t : Tree) (path : Path) : Except FileError String :=
  match t.read path with
  | .ok (.text s) => .ok s
  | .ok (.binary _) => .error .notText
  | .error e => .error e

/-- The text of the file that a written path leads to, taken from a directory. The empty path leads
nowhere. -/
def textAt (t : Tree) (here : Path) (written : String) : Except FileError String :=
  if written = "" then .error .notFound else t.readText (Path.ofText here written)

/-- Let the file that a path leads to have a content. The file is made if need be. -/
def write (t : Tree) (path : Path) (content : Content) : Except FileError Tree :=
  match t.walk path with
  | .ok (.found place (.file _)) => .ok (t.set place (.file content))
  | .ok (.found ..) => .error .isDirectory
  | .ok (.free place) => .ok (t.set place (.file content))
  | .error e => .error e

/-- Let the file that a written path leads to, taken from a directory, have a content. A path that
ends in a slash names no file. -/
def writeAt (t : Tree) (here : Path) (written : String) (content : Content) :
    Except FileError Tree :=
  let path := Path.ofText here written
  if written = "" then .error .notFound
  else if written.toList.getLast? = some '/' then
    match t.walk (path.filter (· ≠ ".")).dropLast with
    | .ok (.found _ .directory) => .error .isDirectory
    | .ok (.found ..) => .error .notDirectory
    | .ok (.free _) => .error .notFound
    | .error e => .error e
  else t.write path content

def makeDirectory (t : Tree) (path : Path) : Except FileError Tree :=
  match t.walk path false with
  | .ok (.found ..) => .error .alreadyExists
  | .ok (.free place) => .ok (t.set place .directory)
  | .error e => .error e

/-- Make a directory whose path is given backwards, and the directories on the way to it. What was
made stays even if a later one cannot be made. -/
def makeDirectoriesBack (t : Tree) : Path → Tree × Option FileError
  | [] => (t, none)
  | name :: above =>
      let path := (name :: above).reverse
      match t.makeDirectory path with
      | .ok t => (t, none)
      | .error .notFound =>
          match t.makeDirectoriesBack above with
          | (t, some e) => (t, some e)
          | (t, none) =>
              match t.makeDirectory path with
              | .ok t => (t, none)
              | .error e => if t.isDirectory path then (t, none) else (t, some e)
      | .error e => if t.isDirectory path then (t, none) else (t, some e)

def makeDirectories (t : Tree) (path : Path) : Tree × Option FileError :=
  t.makeDirectoriesBack path.reverse

/-- The entries of a directory, by name. -/
def children (t : Tree) (place : Path) : List (String × Entry) :=
  (t.entries.filterMap fun (p, e) =>
    match p.getLast? with
    | some name => if p.dropLast = place then some (name, e) else none
    | none => none).mergeSort fun a b => a.1 ≤ b.1

/-- The entries of the directory a path leads to, by name. -/
def list (t : Tree) (path : Path) : Except FileError (List (String × Entry)) :=
  match t.walk path with
  | .ok (.found place .directory) => .ok (t.children place)
  | .ok (.found ..) => .error .notDirectory
  | .ok (.free _) => .error .notFound
  | .error e => .error e

/-- The tree without a place and all below it. -/
def erase (t : Tree) (place : Path) : Tree :=
  ⟨t.entries.filter fun (p, _) => !place.isPrefixOf p,
    t.modes.filter fun (p, _) => !place.isPrefixOf p⟩

/-- The tree with an entry at a place and directories on the way to it. -/
def plant (t : Tree) (place : Path) (entry : Entry) : Tree :=
  (t.makeDirectories place.dropLast).1.set place entry

/-- The files below a place: the rest of the path to them, and what they hold. -/
def filesBelow (t : Tree) (place : Path) : List (Path × Content) :=
  t.entries.filterMap fun (p, e) =>
    match e with
    | .file content => if place.isPrefixOf p then some (p.drop place.length, content) else none
    | _ => none

end Tree

end ReplyScript.Disk
