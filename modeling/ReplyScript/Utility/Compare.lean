import ReplyScript.Utility.Input

/-! # Comparing files -/

namespace ReplyScript.Utility

/-- The lengths of the longest common parts of lists from each place of the second one on, given
those one place further in the first one. -/
def commonRow [BEq α] (a : α) : List α → List Nat → List Nat
  | b :: bs, n :: ns =>
      let rest := commonRow a bs ns
      (if a == b then 1 + ns.headD 0 else max n (rest.headD 0)) :: rest
  | _, _ => [0]

def commonTable [BEq α] (bs : List α) : List α → List (List Nat)
  | [] => [List.replicate (bs.length + 1) 0]
  | a :: as =>
      let rest := commonTable bs as
      commonRow a bs (rest.headD []) :: rest

/-- A step from one list to another. -/
inductive DiffStep (α : Type) where
  | same (a : α)
  | drop (a : α)
  | add (a : α)

/-- The steps from one list to another that keep as much as possible. -/
def diffSteps [BEq α] : (fuel : Nat) → List (List Nat) → List α → List α → List (DiffStep α)
  | 0, _, _, _ => []
  | _ + 1, _, [], bs => bs.map .add
  | _ + 1, _, as, [] => as.map .drop
  | fuel + 1, table, a :: as, b :: bs =>
      if a == b then
        .same a :: diffSteps fuel (table.tail.map List.tail) as bs
      else
        let below := (table.tail.headD []).headD 0
        let beside := (table.headD []).tail.headD 0
        if beside ≤ below then .drop a :: diffSteps fuel table.tail as (b :: bs)
        else .add b :: diffSteps fuel (table.map List.tail) (a :: as) bs

/-- A change: where it starts in both lists, what goes and what comes. -/
structure Hunk where
  start : Nat
  target : Nat
  gone : List String
  come : List String
  deriving Repr, Inhabited

/-- Put steps together to changes. -/
def hunksOf : (n m : Nat) → Option Hunk → List (DiffStep String) → List Hunk
  | _, _, h, [] => h.toList
  | n, m, h, .same _ :: steps => h.toList ++ hunksOf (n + 1) (m + 1) none steps
  | n, m, h, .drop a :: steps =>
      let h := h.getD ⟨n, m, [], []⟩
      hunksOf (n + 1) m (some { h with gone := h.gone ++ [a] }) steps
  | n, m, h, .add b :: steps =>
      let h := h.getD ⟨n, m, [], []⟩
      hunksOf n (m + 1) (some { h with come := h.come ++ [b] }) steps

/-- A range of lines that starts behind some lines. -/
def writtenRange (before count : Nat) : String :=
  if count = 0 then toString before
  else if count = 1 then toString (before + 1)
  else toString (before + 1) ++ "," ++ toString (before + count)

/-- The note behind a line that has no newline. -/
def noNewline : String := "\n\\ No newline at end of file\n"

def markedLine (mark l : String) : String :=
  mark ++ l ++ (if l.toList.getLast? = some '\n' then "" else noNewline)

def Hunk.print (h : Hunk) : String :=
  let letter := if h.gone.isEmpty then "a" else if h.come.isEmpty then "d" else "c"
  writtenRange h.start h.gone.length ++ letter ++ writtenRange h.target h.come.length ++ "\n"
    ++ String.join (h.gone.map (markedLine "< "))
    ++ (if letter = "c" then "---\n" else "")
    ++ String.join (h.come.map (markedLine "> "))

/-- The name of a file, which is inside a directory if the other name is no directory. -/
def besideFile (j : Job) (name other : String) : String :=
  if j.isDirectory name ∧ !j.isDirectory other then
    name ++ "/" ++ String.ofList (other.toList.reverse.takeWhile (· ≠ '/')).reverse
  else name

/-- `diff`: prints how files differ. -/
def diff : Utility := fun _ args =>
  JobM.withArgumentsOr 2 "diff"
    [⟨'q', "brief", .nothing⟩, ⟨'s', "report-identical-files", .nothing⟩,
     ⟨'i', "ignore-case", .nothing⟩, ⟨'w', "ignore-all-space", .nothing⟩,
     ⟨'b', "ignore-space-change", .nothing⟩, ⟨'r', "recursive", .nothing⟩,
     ⟨'N', "new-file", .nothing⟩, ⟨'u', "", .nothing⟩, ⟨'a', "text", .nothing⟩] args fun a => do
  match a.operands with
  | [first, second] =>
      let j ← get
      let first := besideFile j first second
      let second := besideFile j second first
      match ← JobM.inputOf first, ← JobM.inputOf second with
      | .error e, r => do
          JobM.complain (plainly "diff" first e)
          match r with
          | .error e => JobM.fail (plainly "diff" second e) 2
          | .ok _ => return 2
      | _, .error e => JobM.fail (plainly "diff" second e) 2
      | .ok s, .ok t =>
          let view (l : String) : String :=
            let l := if a.has 'i' then String.ofList (l.toList.map Char.toLower) else l
            if a.has 'w' then String.ofList (l.toList.filter fun c => c ≠ ' ' ∧ c ≠ '\t')
            else if a.has 'b' then
              " ".intercalate (((l.toList.splitOnP fun c => c = ' ' ∨ c = '\t').map String.ofList))
            else l
          if (fullLines s).map view = (fullLines t).map view then
            if a.has 's' then
              JobM.say ("Files " ++ first ++ " and " ++ second ++ " are identical\n")
            return 0
          if a.has 'q' then
            JobM.say ("Files " ++ first ++ " and " ++ second ++ " differ\n")
            return 1
          if s.toList.contains '\x00' ∨ t.toList.contains '\x00' then
            JobM.say ("Binary files " ++ first ++ " and " ++ second ++ " differ\n")
            return 1
          let ls := fullLines s
          let ms := fullLines t
          let table := commonTable (ms.map view) (ls.map view)
          let steps := diffSteps (ls.length + ms.length + 2) table (ls.map view) (ms.map view)
          let written := steps.foldl (fun (out, ls, ms) step => match step with
            | .same _ => (DiffStep.same (ls.headD "") :: out, ls.tail, ms.tail)
            | .drop _ => (.drop (ls.headD "") :: out, ls.tail, ms)
            | .add _ => (.add (ms.headD "") :: out, ls, ms.tail))
            (([] : List (DiffStep String)), ls, ms)
          JobM.say (String.join ((hunksOf 0 0 none written.1.reverse).map Hunk.print))
          return 1
  | [] => JobM.refuse "diff" "missing operand after 'diff'" 2
  | [first] => JobM.refuse "diff" ("missing operand after " ++ Job.quoted first) 2
  | _ :: _ :: extra :: _ => JobM.refuse "diff" ("extra operand " ++ Job.quoted extra) 2

def firstDifference : (byte line : Nat) → List Char → List Char → Option (Nat × Nat)
  | byte, line, a :: as, b :: bs =>
      if a = b then firstDifference (byte + 1) (if a = '\n' then line + 1 else line) as bs
      else some (byte, line)
  | _, _, _, _ => none

/-- `cmp`: tells whether files differ. -/
def cmp : Utility := fun _ args =>
  JobM.withArgumentsOr 2 "cmp"
    [⟨'s', "quiet", .nothing⟩, ⟨'!', "silent", .nothing⟩, ⟨'l', "verbose", .nothing⟩,
     ⟨'b', "print-bytes", .nothing⟩] args fun a => do
  let quiet := a.has 's' || a.has '!'
  let complain (name reason : String) : JobM Nat :=
    if quiet then return 2 else JobM.fail (plainly "cmp" name reason) 2
  match a.operands with
  | first :: more =>
      let second := more.headD "-"
      match ← JobM.inputOf first with
      | .error e => complain first e
      | .ok s =>
          match ← JobM.inputOf second with
          | .error e => complain second e
          | .ok t =>
              if s = t then return 0
              if quiet then return 1
              match firstDifference 1 1 s.toList t.toList with
              | some (byte, line) =>
                  JobM.say (first ++ " " ++ second ++ " differ: byte " ++ toString byte ++ ", line "
                    ++ toString line ++ "\n")
                  return 1
              | none =>
                  let (name, short) := if s.length < t.length then (first, s) else (second, t)
                  if short = "" then
                    return ← JobM.fail ("cmp: EOF on " ++ name ++ " which is empty")
                  let lines := (short.toList.filter (· == '\n')).length
                  JobM.fail ("cmp: EOF on " ++ name ++ " after byte " ++ toString short.length
                    ++ (if short.toList.getLast? = some '\n' then ", line " ++ toString lines
                      else ", in line " ++ toString (lines + 1)))
  | [] => JobM.refuse "cmp" "missing operand after 'cmp'" 2

end ReplyScript.Utility
