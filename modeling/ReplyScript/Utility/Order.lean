import ReplyScript.Utility.Input
import ReplyScript.Utility.Expression

/-! # Lines in order

`sort` puts lines into an order that is given by keys; `uniq`, `comm` and `join` work on lines that
are in order.
-/

namespace ReplyScript.Utility

/-- What parts of lines are compared as. -/
inductive Comparison where
  | bytes
  | numbers
  /-- Numbers that may have exponents. -/
  | general
  /-- Numbers with letters for their size. -/
  | sizes
  | months
  | versions
  deriving Repr, DecidableEq, BEq, Inhabited

/-- How parts of lines are compared. -/
structure SortRule where
  comparison : Comparison := .bytes
  reverse : Bool := false
  foldCase : Bool := false
  skipBlanks : Bool := false
  skipEndBlanks : Bool := false
  /-- Only letters, digits and blanks count. -/
  dictionary : Bool := false
  /-- Only what can be printed counts. -/
  printable : Bool := false
  deriving Repr, DecidableEq, BEq, Inhabited

/-- A part of a line: from a character of a field to a character of a field. Character 0 of the last
field is its end. -/
structure SortKey where
  field : Nat := 0
  char : Nat := 0
  stop : Option (Nat × Nat) := none
  rule : SortRule := {}
  /-- Whether the key says itself how it is compared. -/
  own : Bool := false
  deriving Repr, DecidableEq, BEq, Inhabited

/-- Blanks between fields. -/
def isGap (c : Char) : Bool := c = ' ' ∨ c = '\t' ∨ c = '\n'

def behindFields (separator : Option Char) : Nat → List Char → List Char
  | 0, cs => cs
  | n + 1, cs =>
      match separator with
      | some t => behindFields separator n ((cs.dropWhile (· ≠ t)).drop 1)
      | none => behindFields separator n ((cs.dropWhile isGap).dropWhile (!isGap ·))

def SortKey.part (k : SortKey) (separator : Option Char) (line : List Char) : List Char :=
  let start := behindFields separator k.field line
  let start := if k.rule.skipBlanks then start.dropWhile isGap else start
  let start := start.drop k.char
  let left := match k.stop with
    | none => 0
    | some (field, 0) =>
        match separator with
        | some t =>
            let before := behindFields separator field line
            (before.dropWhile (· ≠ t)).length
        | none => (behindFields separator (field + 1) line).length
    | some (field, char) =>
        let before := behindFields separator field line
        let before := if k.rule.skipEndBlanks then before.dropWhile isGap else before
        (before.drop char).length
  start.take (start.length - left)

/-- A decimal number: a whole number divided by a power of ten. -/
structure Numeric where
  value : Int
  places : Nat

/-- Whether a decimal is less than another one. -/
def Numeric.lt (a b : Numeric) : Bool :=
  a.value * Nat.pow 10 b.places < b.value * Nat.pow 10 a.places

/-- The number at the start of a text, and what follows it. -/
def leadingDecimal (cs : List Char) : Numeric × List Char :=
  let (negative, cs) := match cs with
    | '-' :: cs => (true, cs)
    | cs => (false, cs)
  let whole := cs.takeWhile Char.isDigit
  let rest := cs.dropWhile Char.isDigit
  let (fraction, rest) := match rest with
    | '.' :: rest => (rest.takeWhile Char.isDigit, rest.dropWhile Char.isDigit)
    | rest => ([], rest)
  let n : Int := Text.digitsValue (whole ++ fraction)
  (⟨if negative then -n else n, fraction.length⟩, rest)

/-- A number that may have an exponent, at the start of a text. -/
def generalNumber? (cs : List Char) : Option Numeric :=
  let cs := cs.dropWhile isGap
  let cs := match cs with
    | '+' :: cs => cs
    | cs => cs
  let digits := match cs with
    | '-' :: cs => cs
    | cs => cs
  if !(digits.takeWhile fun c => c.isDigit ∨ c = '.').any Char.isDigit then none
  else
    let (d, rest) := leadingDecimal cs
    match rest with
    | e :: rest =>
        let (negative, power) := match rest with
          | '-' :: power => (true, power)
          | '+' :: power => (false, power)
          | power => (false, power)
        let digits := power.takeWhile Char.isDigit
        if (e = 'e' ∨ e = 'E') ∧ digits ≠ [] then
          let n := min (Text.digitsValue digits) 400
          some (if negative then { d with places := d.places + n }
            else { d with value := d.value * Nat.pow 10 n })
        else some d
    | [] => some d

def compareBy (less : α → α → Bool) (a b : α) : Ordering :=
  if less a b then .lt else if less b a then .gt else .eq

def compareChars : List Char → List Char → Ordering
  | [], [] => .eq
  | [], _ :: _ => .lt
  | _ :: _, [] => .gt
  | a :: as, b :: bs => if a < b then .lt else if b < a then .gt else compareChars as bs

/-- The place of a character among versions: a tilde comes before the end, and letters before other
characters. -/
def versionRank (c : Option Char) : Nat :=
  match c with
  | none => 1
  | some '~' => 0
  | some c => if c.isDigit then 1 else if c.isAlpha then c.toNat + 2 else c.toNat + 300

/-- Compare versions: numbers in them count as numbers. -/
def compareVersions : (fuel : Nat) → List Char → List Char → Ordering
  | 0, _, _ => .eq
  | _ + 1, [], [] => .eq
  | fuel + 1, a, b =>
      let isDigit (cs : List Char) : Bool := (cs.head?.map Char.isDigit).getD false
      if isDigit a ∧ isDigit b then
        let n := Text.digitsValue (a.takeWhile Char.isDigit)
        let m := Text.digitsValue (b.takeWhile Char.isDigit)
        (compare n m).then
          (compareVersions fuel (a.dropWhile Char.isDigit) (b.dropWhile Char.isDigit))
      else if isDigit a ∧ b = [] then .gt
      else if isDigit b ∧ a = [] then .lt
      else
        let rest (cs : List Char) : List Char := if isDigit cs then cs else cs.drop 1
        (compare (versionRank a.head?) (versionRank b.head?)).then
          (compareVersions fuel (rest a) (rest b))

def months : List String :=
  ["JAN", "FEB", "MAR", "APR", "MAY", "JUN", "JUL", "AUG", "SEP", "OCT", "NOV", "DEC"]

/-- The number of the month that a text starts with; 0 if it starts with none. -/
def monthOf (cs : List Char) : Nat :=
  let name := String.ofList (((cs.dropWhile isGap).take 3).map Char.toUpper)
  ((months.findIdx? (· = name)).map (· + 1)).getD 0

/-- The rank of the letter behind a size, and the size. -/
def sizeOf (cs : List Char) : Int × Numeric :=
  let (d, rest) := leadingDecimal (cs.dropWhile isGap)
  let rank : Nat := match rest with
    | c :: _ => (("KMGTPEZY".toList.findIdx? (· = c.toUpper)).map (· + 1)).getD 0
    | [] => 0
  (if d.value = 0 then 0 else if d.value < 0 then -(rank + 1 : Int) else (rank + 1 : Int), d)

def SortRule.compare (r : SortRule) (a b : List Char) : Ordering :=
  let translate (cs : List Char) : List Char :=
    let cs := if r.dictionary then cs.filter fun c => c.isAlphanum || isGap c else cs
    let cs := if r.printable then cs.filter fun c => 32 ≤ c.toNat && c.toNat < 127 else cs
    if r.foldCase then cs.map Char.toUpper else cs
  let number (cs : List Char) : Numeric := (leadingDecimal (cs.dropWhile isGap)).1
  let result : Ordering := match r.comparison with
    | .bytes => compareChars (translate a) (translate b)
    | .numbers => compareBy Numeric.lt (number a) (number b)
    | .general =>
        match generalNumber? a, generalNumber? b with
        | none, none => .eq
        | none, some _ => .lt
        | some _, none => .gt
        | some n, some m => compareBy Numeric.lt n m
    | .sizes => (Ord.compare (sizeOf a).1 (sizeOf b).1).then
        (compareBy Numeric.lt (sizeOf a).2 (sizeOf b).2)
    | .months => Ord.compare (monthOf a) (monthOf b)
    | .versions => compareVersions (a.length + b.length + 1) a b
  if r.reverse then result.swap else result

def SortRule.apply (r : SortRule) (letter : Char) : SortRule :=
  match letter with
  | 'n' => { r with comparison := .numbers }
  | 'g' => { r with comparison := .general }
  | 'h' => { r with comparison := .sizes }
  | 'M' => { r with comparison := .months }
  | 'V' => { r with comparison := .versions }
  | 'r' => { r with reverse := true }
  | 'f' => { r with foldCase := true }
  | 'd' => { r with dictionary := true }
  | 'i' => { r with printable := true }
  | 'b' => { r with skipBlanks := true, skipEndBlanks := true }
  | _ => r

def ruleLetters : List Char := "nghMVrfdib".toList

/-- A field, perhaps with a character, and the letters behind it. -/
def readField (cs : List Char) : Option (Nat × Option Nat × List Char × List Char) := do
  let field ← Text.digits? (cs.takeWhile Char.isDigit)
  let rest := cs.dropWhile Char.isDigit
  let (char, rest) ← match rest with
    | '.' :: rest => do
        let char ← Text.digits? (rest.takeWhile Char.isDigit)
        pure (some char, rest.dropWhile Char.isDigit)
    | rest => pure (none, rest)
  return (field, char, rest.takeWhile ruleLetters.contains, rest.dropWhile ruleLetters.contains)

def SortKey.read (s : String) : Except String SortKey := do
  let bad (reason : String) : Except String SortKey :=
    throw (reason ++ ": invalid field specification " ++ Job.quoted s)
  let (field, char, letters, rest) ← match readField s.toList with
    | some r => pure r
    | none => throw ("invalid number at field start: invalid count at start of " ++ Job.quoted s)
  if field = 0 then bad "field number is zero"
  else if char = some 0 then bad "character offset is zero"
  else
    let rule := (letters.filter (· ≠ 'b')).foldl SortRule.apply {}
    let rule := { rule with skipBlanks := letters.contains 'b' }
    let key : SortKey := { field := field - 1, char := char.getD 1 - 1, rule
                           own := letters ≠ [] }
    match rest with
    | [] => return key
    | ',' :: rest =>
        match readField rest with
        | some (field, char, letters, []) =>
            if field = 0 then bad "field number is zero"
            else
              let rule := (letters.filter (· ≠ 'b')).foldl SortRule.apply rule
              return { key with
                stop := some (match char with
                  | none | some 0 => (field - 1, 0)
                  | some n => (field - 1, n))
                rule := { rule with skipEndBlanks := letters.contains 'b' }
                own := key.own || letters ≠ [] }
        | some _ => bad "stray character in field spec"
        | none => throw ("invalid number after ',': invalid count at start of "
            ++ Job.quoted (String.ofList rest))
    | _ => bad "stray character in field spec"

structure Sorting where
  keys : List SortKey
  separator : Option Char
  reverse : Bool
  /-- Lines with equal keys stay in their order. -/
  stable : Bool
  unique : Bool

def Sorting.compareKeys (s : Sorting) (a b : List Char) : Ordering :=
  s.keys.foldl (fun o k =>
    o.then (k.rule.compare (k.part s.separator a) (k.part s.separator b))) .eq

def Sorting.compare (s : Sorting) (a b : List Char) : Ordering :=
  let o := s.compareKeys a b
  if s.keys ≠ [] ∧ (s.stable || s.unique) then o
  else
    let last := compareChars a b
    o.then (if s.reverse then last.swap else last)

/-- Keep the first of lines that follow each other and are the same. -/
def keepFirst (same : α → α → Bool) : List α → List α
  | [] => []
  | [a] => [a]
  | a :: b :: rest =>
      if same a b then keepFirst same (a :: rest) else a :: keepFirst same (b :: rest)
termination_by l => l.length

def Sorting.sort (s : Sorting) (ls : List (List Char)) : List (List Char) :=
  let sorted := ls.mergeSort fun a b => s.compare a b ≠ .gt
  if s.unique then keepFirst (fun a b => s.compare a b = .eq) sorted else sorted

/-- The number of the first line that comes before the line in front of it, and the line. -/
def Sorting.disorder (s : Sorting) : (number : Nat) → List (List Char) →
    Option (Nat × List Char)
  | n, a :: b :: rest =>
      let o := s.compare a b
      if o = .gt ∨ (s.unique ∧ o = .eq) then some (n + 1, b) else s.disorder (n + 1) (b :: rest)
  | _, _ => none

def sortOptions : List KnownOption :=
  [⟨'n', "numeric-sort", .nothing⟩, ⟨'g', "general-numeric-sort", .nothing⟩,
   ⟨'h', "human-numeric-sort", .nothing⟩, ⟨'M', "month-sort", .nothing⟩,
   ⟨'V', "version-sort", .nothing⟩, ⟨'r', "reverse", .nothing⟩, ⟨'f', "ignore-case", .nothing⟩,
   ⟨'d', "dictionary-order", .nothing⟩, ⟨'i', "ignore-nonprinting", .nothing⟩,
   ⟨'b', "ignore-leading-blanks", .nothing⟩, ⟨'u', "unique", .nothing⟩,
   ⟨'s', "stable", .nothing⟩, ⟨'m', "merge", .nothing⟩, ⟨'c', "check", .nothing⟩,
   ⟨'C', "", .nothing⟩, ⟨'z', "zero-terminated", .nothing⟩, ⟨'k', "key", .value⟩,
   ⟨'t', "field-separator", .value⟩, ⟨'o', "output", .value⟩]

/-- How options ask for lines to be sorted. -/
def Sorting.ofArguments (a : Arguments) : Except String Sorting := do
  let letters := (a.options.map (·.1)).filter ruleLetters.contains
  let overall := letters.foldl SortRule.apply {}
  let keys ← (a.values 'k').mapM SortKey.read
  let keys := keys.map fun k => if k.own then k else { k with rule := overall }
  let keys := if keys.isEmpty ∧ letters.any (· ≠ 'r') then [{ rule := overall }] else keys
  let separator ← match a.value? 't' with
    | none => pure none
    | some s =>
        match s.toList with
        | [] => throw "empty tab"
        | [c] => pure (some c)
        | ['\\', '0'] => pure (some '\x00')
        | _ => throw ("multi-character tab " ++ Job.quoted s)
  return ⟨keys, separator, overall.reverse, a.has 's', a.has 'u'⟩

/-- `sort`: puts lines into order. -/
def sort : Utility := fun _ args =>
  JobM.withArgumentsOr 2 "sort" sortOptions args fun a =>
  match Sorting.ofArguments a with
  | .error message => JobM.fail ("sort: " ++ message) 2
  | .ok s => do
      let (failed, text) ← (namesOr a.operands).foldlM (fun (failed, text) name => do
        if failed then return (failed, text)
        match ← JobM.inputOf name with
        | .ok more =>
            return (false, text ++ more
              ++ (if more.toList.getLast?.any (· ≠ '\n') then "\n" else ""))
        | .error reason =>
            JobM.complain ("sort: " ++ (if reason = Disk.FileError.isDirectory.reason then
              "read failed: " else "cannot read: ") ++ Job.shown name ++ ": " ++ reason)
            return (true, text)) (false, "")
      if failed then return 2
      let ls := (linesOf text).map String.toList
      if a.has 'c' ∨ a.has 'C' then
        match s.disorder 1 ls with
        | none => return 0
        | some (n, l) =>
            if a.has 'c' then
              JobM.complain ("sort: " ++ a.operands.headD "-" ++ ":" ++ toString n ++ ": disorder: "
                ++ String.ofList l)
            return 1
      let sorted := ofLines ((s.sort ls).map String.ofList)
      match a.value? 'o' with
      | none =>
          JobM.say sorted
          return 0
      | some name =>
          match (← get).openFile name .write with
          | .ok (stream, j) =>
              set (j.put sorted stream).2
              return 0
          | .error e => JobM.fail ("sort: open failed: " ++ Job.shown name ++ ": " ++ e.reason) 2

/-- Lines that follow each other and are the same, put together. -/
def groupSame (same : α → α → Bool) : List α → List (List α)
  | [] => []
  | a :: rest =>
      match groupSame same rest with
      | (b :: bs) :: groups =>
          if same a b then (a :: b :: bs) :: groups else [a] :: (b :: bs) :: groups
      | groups => [a] :: groups

/-- `uniq`: prints lines that repeat only once. -/
def uniq : Utility := fun _ args =>
  JobM.withArguments "uniq"
    [⟨'c', "count", .nothing⟩, ⟨'d', "repeated", .nothing⟩, ⟨'u', "unique", .nothing⟩,
     ⟨'i', "ignore-case", .nothing⟩, ⟨'D', "", .nothing⟩, ⟨'f', "skip-fields", .value⟩,
     ⟨'s', "skip-chars", .value⟩, ⟨'w', "check-chars", .value⟩] args fun a => do
  let natural (key : Char) : Option Nat := (a.value? key).bind Text.numeral?
  let key (l : String) : List Char :=
    let rest := behindFields none ((natural 'f').getD 0) l.toList
    let rest := rest.drop ((natural 's').getD 0)
    let rest := match natural 'w' with
      | some n => rest.take n
      | none => rest
    if a.has 'i' then rest.map Char.toUpper else rest
  let name := a.operands.headD "-"
  match ← JobM.inputOf name with
  | .error reason => JobM.fail (plainly "uniq" name reason)
  | .ok text =>
      let groups := groupSame (fun l m => key l = key m) (linesOf text)
      let groups := if a.has 'd' ∨ a.has 'D' then groups.filter (1 < ·.length) else groups
      let groups := if a.has 'u' then groups.filter (·.length = 1) else groups
      let result := ofLines <| groups.flatMap fun group =>
        if a.has 'D' then group
        else
          let first := group.headD ""
          [if a.has 'c' then padLeft 7 (toString group.length) ++ " " ++ first else first]
      match a.operands[1]? with
      | none =>
          JobM.say result
          return 0
      | some target =>
          match (← get).openFile target .write with
          | .ok (stream, j) =>
              set (j.put result stream).2
              return 0
          | .error e => JobM.fail (plainly "uniq" target e.reason)

/-- The lines of two texts in order, each with where it comes from: 0 for the first text alone, 1
for the second one alone, 2 for both. -/
def mergeSorted : (fuel : Nat) → List String → List String → List (Nat × String)
  | 0, _, _ => []
  | _ + 1, [], ms => ms.map fun m => (1, m)
  | _ + 1, ls, [] => ls.map fun l => (0, l)
  | fuel + 1, l :: ls, m :: ms =>
      match compareChars l.toList m.toList with
      | .lt => (0, l) :: mergeSorted fuel ls (m :: ms)
      | .gt => (1, m) :: mergeSorted fuel (l :: ls) ms
      | .eq => (2, l) :: mergeSorted fuel ls ms

/-- `comm`: compares two texts line by line. -/
def comm : Utility := fun _ args =>
  JobM.withArguments "comm"
    [⟨'1', "", .nothing⟩, ⟨'2', "", .nothing⟩, ⟨'3', "", .nothing⟩] args fun a =>
  match a.operands with
  | [] => JobM.refuse "comm" "missing operand"
  | [first] => JobM.refuse "comm" ("missing operand after " ++ Job.quoted first)
  | [first, second] => do
      match ← JobM.inputOf first with
      | .error reason => JobM.fail (plainly "comm" first reason)
      | .ok s =>
          match ← JobM.inputOf second with
          | .error reason => JobM.fail (plainly "comm" second reason)
          | .ok t =>
              let hidden : Nat → Bool
                | 0 => a.has '1'
                | 1 => a.has '2'
                | _ => a.has '3'
              let merged := mergeSorted (s.length + t.length + 2) (linesOf s) (linesOf t)
              JobM.say <| ofLines <| merged.filterMap fun (column, l) =>
                if hidden column then none
                else
                  let tabs := ((List.range column).filter (!hidden ·)).length
                  some (String.ofList (List.replicate tabs '\t') ++ l)
              return 0
  | _ :: _ :: extra :: _ => JobM.refuse "comm" ("extra operand " ++ Job.quoted extra)

def fieldsOf (separator : Option Char) (l : String) : List String :=
  match separator with
  | some t => (l.toList.splitOn t).map String.ofList
  | none => ((l.toList.splitOnP isGap).filter (· ≠ [])).map String.ofList

/-- `join`: puts lines together whose first fields agree. -/
def join : Utility := fun _ args =>
  JobM.withArguments "join"
    [⟨'t', "", .value⟩, ⟨'1', "", .value⟩, ⟨'2', "", .value⟩, ⟨'j', "", .value⟩,
     ⟨'a', "", .value⟩, ⟨'v', "", .value⟩] args fun a =>
  match a.operands with
  | [first, second] => do
      let separator := (a.value? 't').bind fun s => s.toList.head?
      let between := String.singleton (separator.getD ' ')
      let place (key : Char) : Nat :=
        (((a.value? key).or (a.value? 'j')).bind Text.numeral?).getD 1 - 1
      let split (field : Nat) (text : String) : List (String × List String) :=
        (linesOf text).map fun l =>
          let fields := fieldsOf separator l
          ((fields[field]?).getD "", fields.eraseIdx field)
      match ← JobM.inputOf first with
      | .error reason => JobM.fail (plainly "join" first reason)
      | .ok s =>
          match ← JobM.inputOf second with
          | .error reason => JobM.fail (plainly "join" second reason)
          | .ok t =>
              let ls := split (place '1') s
              let ms := split (place '2') t
              let row (fields : List String) : String := between.intercalate fields
              let paired := if a.has 'v' then [] else ls.flatMap fun (k, fields) =>
                (ms.filter (·.1 = k)).map fun (_, more) => (k, row (k :: fields ++ more))
              let alone (number : String) : Bool :=
                (a.values 'a').contains number || (a.values 'v').contains number
              let left := if alone "1" then
                (ls.filter fun l => ms.all (·.1 ≠ l.1)).map fun (k, fields) => (k, row (k :: fields))
                else []
              let right := if alone "2" then
                (ms.filter fun m => ls.all (·.1 ≠ m.1)).map fun (k, fields) => (k, row (k :: fields))
                else []
              let all := (paired ++ left ++ right).mergeSort fun x y =>
                compareChars x.1.toList y.1.toList ≠ .gt
              JobM.say (ofLines (all.map (·.2)))
              return 0
  | operands => JobM.refuse "join" (match operands with
      | [] => "missing operand"
      | [first] => "missing operand after " ++ Job.quoted first
      | _ => "extra operand " ++ Job.quoted ((operands[2]?).getD ""))

end ReplyScript.Utility
