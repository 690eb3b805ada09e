import ReplyScript.Utility.Input

/-! # Programs that launch others -/

namespace ReplyScript.Utility

def setVariable (name value : String) (environment : List (String × String)) :
    List (String × String) :=
  if environment.any (·.1 = name) then
    environment.map fun (n, v) => if n = name then (n, value) else (n, v)
  else environment ++ [(name, value)]

def definition? (s : String) : Option (String × String) :=
  match s.toList.dropWhile (· ≠ '=') with
  | '=' :: value => some (String.ofList (s.toList.takeWhile (· ≠ '=')), String.ofList value)
  | _ => none

/-- Launch a program on behalf of a utility, which complains if there is no such program. -/
def launchFor (utility : String) (launch : Launch) (words : List String) : JobM Nat := do
  match ← launch words with
  | some status => return status
  | none =>
      JobM.fail (utility ++ ": " ++ Job.quoted (words.headD "") ++ ": No such file or directory") 127

def withEnvironment (environment : List (String × String)) (body : JobM Nat) : JobM Nat := do
  let before := (← get).environment
  modify fun j => { j with environment }
  let status ← body
  modify fun j => { j with environment := before }
  return status

/-- `env`: launches a program with other variables, or prints the variables. -/
def env : Utility := fun launch args => do
  match readArguments
    [⟨'i', "ignore-environment", .nothing⟩, ⟨'u', "unset", .value⟩, ⟨'0', "null", .nothing⟩,
     ⟨'-', "", .nothing⟩] true args with
  | .error problem => JobM.refuse "env" problem.message 125
  | .ok a =>
      let operands := if a.operands.head? = some "-" then a.operands.tail else a.operands
      let empty := a.has 'i' || a.operands.head? = some "-"
      let current := (← get).environment
      let start := if empty then [] else current
      let start := start.filter fun (n, _) => !(a.values 'u').contains n
      let defined := operands.takeWhile fun w => (definition? w).isSome
      let environment := (defined.filterMap definition?).foldl
        (fun e (n, v) => setVariable n v e) start
      match operands.drop defined.length with
      | [] =>
          JobM.say (ofLines (environment.map fun (n, v) => n ++ "=" ++ v))
          return 0
      | words => withEnvironment environment (launchFor "env" launch words)

/-- `printenv`: prints variables. -/
def printenv : Utility := fun _ args => do
  let environment := (← get).environment
  match args with
  | [] =>
      JobM.say (ofLines (environment.map fun (n, v) => n ++ "=" ++ v))
      return 0
  | names =>
      JobM.say (ofLines (names.filterMap fun n => environment.lookup n))
      return if names.all fun n => (environment.lookup n).isSome then 0 else 1

/-- The words of a text, where quotes and backslashes keep blanks together; `none` if a quote is not
closed. `word` is the word that is going on, backwards. -/
def quotedWords : (quote : Option Char) → (word : Option (List Char)) → List Char →
    Option (List String)
  | none, word, [] => some (word.map fun w => String.ofList w.reverse).toList
  | some _, _, [] => none
  | none, word, '\\' :: c :: cs => quotedWords none (some (c :: word.getD [])) cs
  | some q, word, c :: cs =>
      if c = q then quotedWords none (some (word.getD [])) cs
      else quotedWords (some q) (some (c :: word.getD [])) cs
  | none, word, c :: cs =>
      if c = '"' ∨ c = '\'' then quotedWords (some c) (some (word.getD [])) cs
      else if c = ' ' ∨ c = '\t' ∨ c = '\n' then
        (quotedWords none none cs).map fun ws =>
          (word.map fun w => String.ofList w.reverse).toList ++ ws
      else quotedWords none (some (c :: word.getD [])) cs

/-- Lists of at most `n` elements. -/
def chunks (n : Nat) : (fuel : Nat) → List α → List (List α)
  | 0, _ | _, [] => []
  | fuel + 1, l => l.take n :: chunks n fuel (l.drop n)

/-- A text with another one in place of a third one. -/
def replaceAll (old new : List Char) : (fuel : Nat) → List Char → List Char
  | 0, cs => cs
  | _ + 1, [] => []
  | fuel + 1, c :: cs =>
      if old ≠ [] ∧ old.isPrefixOf (c :: cs) then
        new ++ replaceAll old new fuel ((c :: cs).drop old.length)
      else c :: replaceAll old new fuel cs

/-- `xargs`: launches a program on the words of the input. -/
def xargs : Utility := fun launch args => do
  match readArguments
    [⟨'n', "max-args", .value⟩, ⟨'I', "", .value⟩, ⟨'i', "replace", .perhaps⟩,
     ⟨'0', "null", .nothing⟩, ⟨'d', "delimiter", .value⟩, ⟨'r', "no-run-if-empty", .nothing⟩,
     ⟨'L', "max-lines", .value⟩, ⟨'l', "", .perhaps⟩, ⟨'t', "verbose", .nothing⟩,
     ⟨'P', "max-procs", .value⟩, ⟨'s', "max-chars", .value⟩, ⟨'x', "exit", .nothing⟩,
     ⟨'a', "arg-file", .value⟩] true args with
  | .error problem => JobM.refuse "xargs" problem.message
  | .ok a =>
      let command := if a.operands.isEmpty then ["echo"] else a.operands
      let text := match ← JobM.inputOf ((a.value? 'a').getD "-") with
        | .ok text => text
        | .error _ => ""
      let place := (a.value? 'I').or
        ((a.value? 'i').map fun s => if s = "" then "\x7b\x7d" else s)
      let pieces (d : Char) : List String :=
        let ps := text.toList.splitOn d
        (if ps.getLast? = some [] then ps.dropLast else ps).map String.ofList
      let delimiter : Option Char :=
        if a.has '0' then some '\x00'
        else (a.value? 'd').bind fun s => match s.toList with
          | ['\\', 'n'] => some '\n'
          | ['\\', 't'] => some '\t'
          | ['\\', '0'] => some '\x00'
          | cs => cs.head?
      let natural (key : Char) : Option Nat := (a.value? key).bind Text.numeral?
      let lineWords (l : String) : Option (List String) := quotedWords none none l.toList
      let groups : Option (List (List String)) :=
        match delimiter, place with
        | some d, some _ => some ((pieces d).map fun p => [p])
        | some d, none =>
            let ws := pieces d
            some (match natural 'n' with
              | some n => chunks (max n 1) (ws.length + 1) ws
              | none => if ws.isEmpty then [] else [ws])
        | none, some _ =>
            (((linesOf text).map fun l => String.ofList (l.toList.dropWhile fun c =>
              c = ' ' ∨ c = '\t')).filter (· ≠ "")).mapM fun l =>
                (quotedWords none none (l.toList.flatMap fun c =>
                  if c = ' ' ∨ c = '\t' then ['\\', c] else [c])).map fun ws => [String.join ws]
        | none, none =>
            match natural 'L' with
            | some n =>
                ((linesOf text).mapM lineWords).map fun ls =>
                  (chunks (max n 1) (ls.length + 1) (ls.filter (· ≠ []))).map List.flatten
            | none =>
                (lineWords text).map fun ws => match natural 'n' with
                  | some n => chunks (max n 1) (ws.length + 1) ws
                  | none => if ws.isEmpty then [] else [ws]
      match groups with
      | none =>
          JobM.fail ("xargs: unmatched " ++ (if text.toList.contains '"' then "double" else "single")
            ++ " quote; by default quotes are special to xargs unless you use the -0 option")
      | some groups =>
          let groups := if groups.isEmpty ∧ !a.has 'r' ∧ place.isNone then [[]] else groups
          groups.foldlM (fun status group => do
            if 124 ≤ status then return status
            let words := match place with
              | some p =>
                  let value := (group.headD "").toList
                  command.map fun w =>
                    String.ofList (replaceAll p.toList value (w.length + 1) w.toList)
              | none => command ++ group
            if a.has 't' then JobM.complain (" ".intercalate words)
            let result ← match ← launch words with
              | some status => pure status
              | none => JobM.fail ("xargs: " ++ words.headD "" ++ ": No such file or directory") 127
            return if result = 0 then status
              else if result = 127 ∨ result = 126 then result
              else if result = 255 then 124
              else 123) 0

/-- A utility that launches what stands behind its options and a number of arguments. -/
def launchRest (utility : String) (count : Nat) : Utility := fun launch args => do
  match (args.dropWhile fun arg => arg.toList.head? = some '-').drop count with
  | [] => JobM.refuse utility "missing operand" 125
  | words => launchFor utility launch words

end ReplyScript.Utility
