import ReplyScript.Disk.Tree

/-! # Categories of trials

Trial files lie in a directory and its subdirectories. The subdirectory is the category of a file;
files at the top are in the category with the empty name.
-/

namespace ReplyScript.Trial

open Disk (Path Tree)

/-- How the name of a trial file ends. -/
def suffix : String := ".test.md"

def joinPath (path name : String) : String :=
  if path = "" ∨ path.toList.getLast? = some '/' then path ++ name else path ++ "/" ++ name

/-- The category of the files in a subdirectory, given by its names. -/
def categoryName (below : List String) : String :=
  String.ofList (("/".intercalate below).toList.map fun c => if c = '\\' then '/' else c)

/-- The trial files in and below a directory, with their categories. `below` is how far the
directory is below the top; `fuel` bounds how much deeper the directories go. -/
def collect (t : Tree) (here : Path) : (fuel : Nat) → (dir : String) → (below : List String) →
    List (String × String)
  | 0, _, _ => []
  | fuel + 1, dir, below =>
      match t.list (Path.ofText here dir) with
      | .error _ => []
      | .ok entries => entries.flatMap fun (name, _) =>
          let path := joinPath dir name
          if t.isDirectory (Path.ofText here path) then
            collect t here fuel path (below ++ [name])
          else if suffix.toList.isSuffixOf name.toList then [(categoryName below, path)]
          else []

/-- Categories by name, with their files by name. -/
abbrev Categories := List (String × List String)

def Categories.ofFiles (files : List (String × String)) : Categories :=
  let names := ((files.map (·.1)).eraseDups).mergeSort fun a b => a ≤ b
  names.map fun name =>
    (name, ((files.filter (·.1 = name)).map (·.2)).mergeSort fun a b => a ≤ b)

/-- The trial files in and below a directory. -/
def discover (t : Tree) (here : Path) (dir : String) : Categories :=
  if dir = "" then []
  else .ofFiles (collect t here ((t.entries.length + 1) * (Disk.linkLimit + 1)) dir [])

def shownCategory (name : String) : String :=
  if name = "" then "(root)" else name

/-- A name of a category as it is asked for: slashes around it do not matter. -/
def trimSlashes (name : String) : String :=
  let isSlash (c : Char) : Bool := c = '/'
  String.ofList ((name.toList.dropWhile isSlash).reverse.dropWhile isSlash).reverse

/-- Whether a category is the one that was asked for, or lies below it. -/
def isAskedFor (name category : String) : Bool :=
  category = name || (name.toList ++ ['/']).isPrefixOf category.toList

/-- The categories chosen so far, and the names that added none. -/
structure Choice where
  chosen : List String := []
  unknown : List String := []
  deriving Repr, DecidableEq, BEq, Inhabited

/-- Choose the categories of one more name. -/
def Choice.add (all : List String) (c : Choice) (name : String) : Choice :=
  let name := trimSlashes name
  let new := all.filter fun category => isAskedFor name category && !c.chosen.contains category
  if new = [] then { c with unknown := c.unknown ++ [name] }
  else { c with chosen := c.chosen ++ new }

/-- The categories to run, and the names that were asked for without effect. Without any names all
categories run. -/
def Categories.select (all : Categories) (names : List String) : Categories × List String :=
  if names = [] then (all, [])
  else
    let c := names.foldl (Choice.add (all.map (·.1))) {}
    (all.filter fun category => c.chosen.contains category.1, c.unknown)

end ReplyScript.Trial
