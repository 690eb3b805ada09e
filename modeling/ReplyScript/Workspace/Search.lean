import ReplyScript.Pattern.Search
import ReplyScript.Text.Utf8
import ReplyScript.Workspace.Basic
import ReplyScript.Workspace.Ignore

/-! # Searching a workspace

A search goes through the files of a workspace line by line. Files come in the order of their names.
-/

namespace ReplyScript

open Disk (Path Tree)
open Pattern (Match)

/-- A match in a file: its line, its column and its length in characters. -/
structure Hit where
  file : String
  line : Nat
  column : Nat
  length : Nat
  deriving Repr, DecidableEq, BEq, Inhabited

namespace Workspace

/-- A search stops after this many hits. -/
def hitLimit : Nat := 500

/-- How files are named in hits: with slashes only. -/
def hitName (path : Path) : String :=
  String.ofList (("/".intercalate path).toList.map fun c => if c = '\\' then '/' else c)

/-- The hits in the lines of a file. `find` gives the matches in one line. -/
def hitsIn (find : List Char → List Match) (file text : String) : List Hit :=
  (Text.lines text).zipIdx.flatMap fun (line, i) =>
    (find line.toList).map fun m => ⟨file, i, m.start, m.length⟩

def hitsInFiles (find : List Char → List Match) (files : List (String × String)) : List Hit :=
  (files.flatMap fun (file, text) => hitsIn find file text).take hitLimit

/-- The text files that a search goes through, by name. -/
def searchedFiles (w : Workspace) : List (String × String) :=
  match w.disk.walk w.root with
  | .ok (.found place .directory) =>
      let files := (w.disk.filesBelow place).filterMap fun (path, content) =>
        match content.text? with
        | some text =>
            if isSearched w.disk place (place ++ path) then some (hitName path, text) else none
        | none => none
      files.mergeSort fun a b => a.1 ≤ b.1
  | .ok (.found _ (.file (.text text))) => [("", text)]
  | _ => []

/-- Search the files of the workspace for a pattern, without regard to case. -/
def search (pattern : String) : WorkspaceM (List Hit) := do
  match Pattern.Machine.ofPattern { ignoreCase := true } pattern with
  | .ok machine => return hitsInFiles machine.findAll (← get).searchedFiles
  | .error e => throw (.invalidInput ("bad search pattern: " ++ e.message pattern))

end Workspace

/-! ## Searching by bytes

Matches may be given by the bytes they take up. The characters before a match and those of a match
are then counted in what is cut out of the line. Hits are added one by one, until there are enough.
-/

/-- A match in a line: its bytes, without the one at `stop`. -/
structure ByteMatch where
  start : Nat
  stop : Nat
  deriving Repr, DecidableEq, BEq, Inhabited

namespace Workspace

/-- Why a search does not go on. -/
inductive SearchStop where
  | enough (hits : List Hit)
  /-- A match starts or stops within a character. -/
  | offBoundary
  deriving Repr, DecidableEq, BEq, Inhabited

def hitOf? (file line : String) (number : Nat) (m : ByteMatch) : Option Hit := do
  let before ← Text.slice? line 0 m.start
  let found ← Text.slice? line m.start m.stop
  return ⟨file, number, before.length, found.length⟩

def addMatch (file line : String) (number : Nat) (hits : List Hit) (m : ByteMatch) :
    Except SearchStop (List Hit) :=
  match hitOf? file line number m with
  | none => .error .offBoundary
  | some h =>
      let hits := hits ++ [h]
      if hitLimit ≤ hits.length then .error (.enough hits) else .ok hits

def addFile (find : String → List ByteMatch) (hits : List Hit) (file : String × String) :
    Except SearchStop (List Hit) :=
  (Text.lines file.2).zipIdx.foldlM (fun hits (line, i) =>
    (find line).foldlM (addMatch file.1 line i) hits) hits

/-- The hits in files. There is no result if a match starts or stops within a character. -/
def hitsInBytes? (find : String → List ByteMatch) (files : List (String × String)) :
    Option (List Hit) :=
  match files.foldlM (addFile find) [] with
  | .ok hits | .error (.enough hits) => some hits
  | .error .offBoundary => none

end Workspace

end ReplyScript
