import ReplyScript.Utility.Order

/-! # Columns of lines

`cut` takes columns out of lines, `paste` puts lines side by side, and `tr` maps characters.
-/

namespace ReplyScript.Utility

/-- Ranges of columns counted from 1; without an end a range goes on. -/
abbrev Columns := List (Nat × Option Nat)

def inColumns (ranges : Columns) (n : Nat) : Bool :=
  ranges.any fun (low, high) => low ≤ n && (high.map fun high => decide (n ≤ high)).getD true

def Columns.read (what : String) (s : String) : Except String Columns :=
  (s.toList.splitOnP fun c => c = ',' ∨ c = ' ' ∨ c = '\t').mapM fun piece => do
    let text := String.ofList piece
    let number (cs : List Char) : Except String Nat :=
      match Text.digits? cs with
      | some 0 => throw (what ++ "s are numbered from 1")
      | some n => return n
      | none => throw ("invalid " ++ what ++ " value " ++ Job.quoted text)
    match piece.splitOn '-' with
    | [cs] =>
        if cs = [] then throw (what ++ "s are numbered from 1")
        let n ← number cs
        return (n, some n)
    | [[], []] => throw "invalid range with no endpoint: -"
    | [low, []] => return (← number low, none)
    | [[], high] => return (1, some (← number high))
    | [low, high] =>
        let low ← number low
        let high ← number high
        if high < low then throw "invalid decreasing range"
        return (low, some high)
    | _ => throw ("invalid " ++ what ++ " range")

def chosenRuns (chosen : Nat → Bool) (cs : List Char) : List String :=
  let step (runs : List (List Char)) (p : Char × Nat) : List (List Char) :=
    if !chosen p.2 then if runs.head? = some [] then runs else [] :: runs
    else match runs with
      | run :: runs => (p.1 :: run) :: runs
      | [] => [[p.1]]
  ((((cs.zipIdx 1).foldl step []).filter (· ≠ [])).reverse).map fun run =>
    String.ofList run.reverse

/-- `cut`: takes columns out of lines. -/
def cut : Utility := fun _ args =>
  JobM.withArguments "cut"
    [⟨'b', "bytes", .value⟩, ⟨'c', "characters", .value⟩, ⟨'f', "fields", .value⟩,
     ⟨'d', "delimiter", .value⟩, ⟨'s', "only-delimited", .nothing⟩, ⟨'n', "", .nothing⟩,
     ⟨'!', "complement", .nothing⟩, ⟨'o', "output-delimiter", .value⟩] args fun a => do
  let lists := a.options.filter fun (key, _) => ['b', 'c', 'f'].contains key
  match lists with
  | [] => JobM.refuse "cut" "you must specify a list of bytes, characters, or fields"
  | _ :: _ :: _ => JobM.refuse "cut" "only one list may be specified"
  | [(key, ranges)] =>
      let byField := key = 'f'
      match Columns.read (if byField then "field" else "byte/character position") ranges with
      | .error message =>
          JobM.refuse "cut" (if byField ∨ message ≠ "byte/character positions are numbered from 1"
            then message else "byte/character positions are numbered from 1")
      | .ok columns =>
          let chosen (n : Nat) : Bool := inColumns columns n != a.has '!'
          if !byField then
            if a.has 'd' then
              return ← JobM.refuse "cut"
                "an input delimiter may be specified only when operating on fields"
            if a.has 's' then
              return ← JobM.refuse "cut" ("suppressing non-delimited lines makes sense\n\tonly when "
                ++ "operating on fields")
            filter "cut" a.operands fun text =>
              ofLines <| (linesOf text).map fun l =>
                match a.value? 'o' with
                | some between => between.intercalate (chosenRuns chosen l.toList)
                | none => String.join (chosenRuns chosen l.toList)
          else
            match (a.value? 'd').map String.toList with
            | some (_ :: _ :: _) =>
                JobM.refuse "cut" "the delimiter must be a single character"
            | delimiter =>
                let delimiter := match delimiter with
                  | some [c] => c
                  | some _ => '\x00'
                  | none => '\t'
                let between := (a.value? 'o').getD (String.singleton delimiter)
                filter "cut" a.operands fun text =>
                  ofLines <| (linesOf text).filterMap fun l =>
                    if l.toList.contains delimiter then
                      let fields := (l.toList.splitOn delimiter).map String.ofList
                      some (between.intercalate
                        (((fields.zipIdx 1).filter fun (_, n) => chosen n).map (·.1)))
                    else if a.has 's' then none
                    else some l

def delimitersOf : List Char → List String
  | [] => []
  | '\\' :: c :: cs =>
      (match c with
        | 'n' => "\n"
        | 't' => "\t"
        | '0' => ""
        | c => String.singleton c) :: delimitersOf cs
  | c :: cs => String.singleton c :: delimitersOf cs

def joinInTurn (delimiters : List String) : (n : Nat) → List String → String
  | _, [] => ""
  | _, [s] => s
  | n, s :: rest =>
      s ++ (delimiters[n % delimiters.length]?).getD "" ++ joinInTurn delimiters (n + 1) rest

/-- Take a line of each input in turn; inputs of the same name share their lines. -/
def takeRow (names : List String) (left : List (String × List String)) :
    List (Option String) × List (String × List String) :=
  names.foldl (fun (row, left) name =>
    match left.lookup name with
    | some (l :: ls) =>
        (row ++ [some l], left.map fun (n, old) => if n = name then (n, ls) else (n, old))
    | _ => (row ++ [none], left)) ([], left)

/-- The rows of inputs side by side. -/
def rowsOf (names : List String) : (fuel : Nat) → List (String × List String) →
    List (List String)
  | 0, _ => []
  | fuel + 1, left =>
      let (row, left) := takeRow names left
      if row.all (·.isNone) then [] else row.map (·.getD "") :: rowsOf names fuel left

/-- `paste`: puts lines side by side. -/
def paste : Utility := fun _ args =>
  JobM.withArguments "paste"
    [⟨'d', "delimiters", .value⟩, ⟨'s', "serial", .nothing⟩] args fun a => do
  let delimiters := delimitersOf ((a.value? 'd').getD "\t").toList
  let delimiters := if delimiters.isEmpty then [""] else delimiters
  if a.has 's' then
    forInputs (plainly "paste") a.operands fun _ text =>
      JobM.say (joinInTurn delimiters 0 (linesOf text) ++ "\n")
  else
    let names := namesOr a.operands
    let (status, left) ← names.eraseDups.foldlM (fun (status, left) name => do
      match ← JobM.inputOf name with
      | .ok text => return (status, left ++ [(name, linesOf text)])
      | .error reason => return (← JobM.fail (plainly "paste" name reason), left)) (0, [])
    if status ≠ 0 then return status
    let fuel := (left.map fun (_, ls) => ls.length).foldl (· + ·) 0 + 1
    JobM.say (ofLines ((rowsOf names fuel left).map (joinInTurn delimiters 0)))
    return 0

inductive SetPiece where
  | chars (cs : List Char)
  /-- A class whose letters can be mapped to those of the other case. -/
  | cases (upper : Bool)
  /-- A character as often as it is needed, or a number of times. -/
  | repetition (c : Char) (count : Nat)
  deriving Repr, DecidableEq, BEq, Inhabited

/-- A character of a set; it may be written with a backslash. -/
def readSetChar : List Char → Option (Char × List Char)
  | [] => none
  | ['\\'] => some ('\\', [])
  | '\\' :: c :: cs =>
      match c with
      | 'a' => some ('\x07', cs)
      | 'b' => some ('\x08', cs)
      | 'f' => some ('\x0c', cs)
      | 'n' => some ('\n', cs)
      | 'r' => some ('\r', cs)
      | 't' => some ('\t', cs)
      | 'v' => some ('\x0b', cs)
      | c =>
          let isOctal (c : Char) : Bool := '0' ≤ c && c ≤ '7'
          let digits := ((c :: cs).take 3).takeWhile isOctal
          if digits = [] then some (c, cs)
          else
            let n := digits.foldl (fun n d => 8 * n + Text.digitValue d) 0
            some (Char.ofNat (n % 256), (c :: cs).drop digits.length)
  | c :: cs => some (c, cs)

def readSet : (fuel : Nat) → List Char → Except String (List SetPiece)
  | 0, _ | _, [] => .ok []
  | fuel + 1, cs => do
      let named : Option (Except String (SetPiece × List Char)) := match cs with
        | '[' :: ':' :: rest =>
            (upToPair ':' rest).map fun (name, rest) =>
              match String.ofList name with
              | "upper" => .ok (.cases true, rest)
              | "lower" => .ok (.cases false, rest)
              | name =>
                  match classNamed? name with
                  | some s =>
                      .ok (.chars (((List.range 256).filter s.containsCode).map Char.ofNat), rest)
                  | none => .error ("invalid character class " ++ Job.quoted name)
        | '[' :: '=' :: rest =>
            (upToPair '=' rest).map fun (name, rest) =>
              match name with
              | [c] => .ok (.chars [c], rest)
              | name => .error (String.ofList name
                  ++ ": equivalence class operand must be a single character")
        | '[' :: rest =>
            match readSetChar rest with
            | some (c, '*' :: rest) =>
                let digits := rest.takeWhile Char.isDigit
                match rest.drop digits.length with
                | ']' :: rest =>
                    let base := if digits.head? = some '0' then 8 else 10
                    some (.ok (.repetition c
                      (digits.foldl (fun n d => base * n + Text.digitValue d) 0), rest))
                | _ => none
            | _ => none
        | _ => none
      match named with
      | some piece =>
          let (piece, rest) ← piece
          return piece :: (← readSet fuel rest)
      | none =>
          match readSetChar cs with
          | none => return []
          | some (c, '-' :: rest) =>
              match readSetChar rest with
              | none => return .chars [c, '-'] :: []
              | some (last, rest) =>
                  if last < c then
                    throw ("range-endpoints of '" ++ String.singleton c ++ "-"
                      ++ String.singleton last ++ "' are in reverse collating sequence order")
                  let range := (List.range (last.toNat + 1 - c.toNat)).map fun (n : Nat) =>
                    Char.ofNat (c.toNat + n)
                  return .chars range :: (← readSet fuel rest)
          | some (c, rest) => return .chars [c] :: (← readSet fuel rest)

def lettersOf (upper : Bool) : List Char :=
  (List.range 26).map fun (n : Nat) => Char.ofNat ((if upper then 65 else 97) + n)

/-- The characters of a set of which `length` are needed. -/
def charsOfSet (length : Nat) (pieces : List SetPiece) : List Char :=
  let fixed := (pieces.map fun
    | .chars cs => cs.length
    | .cases _ => 26
    | .repetition _ n => n).foldl (· + ·) 0
  pieces.flatMap fun
    | .chars cs => cs
    | .cases upper => lettersOf upper
    | .repetition c 0 => List.replicate (length - fixed) c
    | .repetition c n => List.replicate n c

/-- A list made longer with its last element. -/
def stretch (length : Nat) (cs : List Char) : List Char :=
  match cs.getLast? with
  | some c => cs ++ List.replicate (length - cs.length) c
  | none => cs

/-- Write runs of some characters as one character. -/
def squeezeRuns (squeezed : Char → Bool) : (before : Option Char) → List Char → List Char
  | _, [] => []
  | before, c :: cs =>
      if squeezed c ∧ before = some c then squeezeRuns squeezed before cs
      else c :: squeezeRuns squeezed (some c) cs

/-- `tr`: maps, deletes or squeezes characters. -/
def tr : Utility := fun _ args => do
  match readArguments
    [⟨'c', "complement", .nothing⟩, ⟨'C', "", .nothing⟩, ⟨'d', "delete", .nothing⟩,
     ⟨'s', "squeeze-repeats", .nothing⟩, ⟨'t', "truncate-set1", .nothing⟩] true args with
  | .error problem => JobM.refuse "tr" problem.message
  | .ok a =>
      let isDeleting := a.has 'd'
      let squeezes := a.has 's'
      let needed := if isDeleting = squeezes then 2 else 1
      let most := if isDeleting ∧ !squeezes then 1 else 2
      match a.operands with
      | [] => JobM.refuse "tr" "missing operand"
      | first :: more =>
          if more.length + 1 < needed then
            JobM.complain ("tr: missing operand after " ++ Job.quoted first)
            JobM.complain (if isDeleting then
                "Two strings must be given when both deleting and squeezing repeats."
              else "Two strings must be given when translating.")
            return ← JobM.fail "Try 'tr --help' for more information."
          if most < more.length + 1 then
            JobM.complain ("tr: extra operand " ++ Job.quoted ((more[most - 1]?).getD ""))
            if isDeleting ∧ most = 1 ∧ more.length = 1 then
              JobM.complain ("Only one string may be given when deleting without squeezing repeats.")
            return ← JobM.fail "Try 'tr --help' for more information."
          let second := more.head?
          match readSet (first.length + 1) first.toList,
              readSet ((second.getD "").length + 1) (second.getD "").toList with
          | .error message, _ | _, .error message => JobM.fail ("tr: " ++ message)
          | .ok p, .ok q =>
              let all := (List.range 256).map Char.ofNat
              let plain := charsOfSet 0 p
              let complemented := a.has 'c' ∨ a.has 'C'
              let from_ := if complemented then all.filter (!plain.contains ·) else plain
              let onto := charsOfSet from_.length q
              if second.isSome ∧ !isDeleting ∧ onto = [] ∧ from_ ≠ [] ∧ !a.has 't' then
                return ← JobM.fail "tr: when not truncating set1, string2 must be non-empty"
              match ← JobM.readAll 0 with
              | .error reason => JobM.fail ("tr: read error: " ++ reason)
              | .ok text =>
                  let cs := text.toList
                  let cs := if isDeleting then cs.filter (!from_.contains ·)
                    else if second.isNone then cs
                    else
                      let onto := if a.has 't' then onto else stretch from_.length onto
                      let map := (from_.zip onto).foldl
                        (fun (m : Array Char) (p : Char × Char) => m.set! p.1.toNat p.2)
                        all.toArray
                      cs.map fun c => (map[c.toNat]?).getD c
                  let cs := if !squeezes then cs
                    else
                      let squeezed := if second.isNone then from_ else onto
                      squeezeRuns squeezed.contains none cs
                  JobM.say (String.ofList cs)
                  return 0

end ReplyScript.Utility
