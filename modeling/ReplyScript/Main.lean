import ReplyScript.CommandLine.Program

/-! # The command line program

Takes the working directory, the input and the environment in, runs the program on them, prints what
it printed and writes back what it changed. Input is read to its end before the program starts.
-/

namespace ReplyScript

open CommandLine (Context Ending Environment)
open Console (Printed)
open Disk (Content Entry Path Tree)

/-- The written form of a place. -/
def placeText (place : Path) : String :=
  "/" ++ "/".intercalate place

/-- The entries below a directory. Links are taken to lead where they end. -/
partial def loadBelow (place : Path) : IO (List (Path × Entry)) := do
  let directory ← IO.FS.realPath (placeText place)
  let mut entries := []
  for item in (← directory.readDir) do
    let inner := place ++ [item.fileName]
    match (← item.path.symlinkMetadata).type with
    | .dir => entries := entries ++ (inner, .directory) :: (← loadBelow inner)
    | .symlink =>
        entries := entries ++ [(inner, .link (← IO.FS.realPath item.path).toString)]
    | .file =>
        let bytes ← IO.FS.readBinFile item.path
        entries := entries ++ [(inner, .file (Content.ofBytes bytes.toList))]
    | .other => pure ()
  return entries

/-- The environment as the system describes it; empty if it does not. -/
def loadEnvironment : IO Environment := do
  try
    let bytes ← IO.FS.readBinFile "/proc/self/environ"
    let settings := (Text.decodeLossy bytes.toList).toList.splitOn '\x00'
    return settings.filterMap fun setting =>
      if setting.contains '=' then
        some (String.ofList (setting.takeWhile (· ≠ '=')),
          String.ofList ((setting.dropWhile (· ≠ '=')).drop 1))
      else none
  catch _ => return []

/-- Remove what is no longer there, then write what is new or different. -/
def writeBack (before after : Tree) : IO Unit := do
  for (place, entry) in before.entries.reverse do
    if (after.entryAt? place).isNone then
      if entry = .directory then IO.FS.removeDirAll (placeText place)
      else IO.FS.removeFile (placeText place)
  for (place, entry) in after.entries do
    if before.entryAt? place ≠ some entry then
      match entry with
      | .directory => IO.FS.createDirAll (placeText place)
      | .file content => IO.FS.writeBinFile (placeText place) ⟨content.bytes.toArray⟩
      | .link _ => pure ()

def printPiece : Printed → IO Unit
  | .output text => IO.print text
  | .message text => IO.eprint text

/-- A directory above the working directory, or the working directory itself. -/
def above (here : Path) : List (Path × Entry) :=
  (List.range here.length).map fun (n : Nat) => (here.take (n + 1), .directory)

end ReplyScript

open ReplyScript in
/-- Run the program on its arguments. -/
def main (args : List String) : IO UInt32 := do
  let here := Disk.Path.ofText [] (← IO.FS.realPath ".").toString
  let disk : Disk.Tree := ⟨above here ++ (← loadBelow here), []⟩
  let input ← (← IO.getStdin).readToEnd
  let context : CommandLine.Context := ⟨disk, here, input, ← loadEnvironment, []⟩
  let ending := CommandLine.program context args
  writeBack disk ending.disk
  ending.printed.forM printPiece
  return ending.status.toUInt32
