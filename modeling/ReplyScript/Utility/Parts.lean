import ReplyScript.Utility.Input

/-! # Parts of files

`cat`, `head`, `tail` and others that print files or parts of them.
-/

namespace ReplyScript.Utility

/-- How `cat` prints. -/
structure CatStyle where
  numberAll : Bool
  numberFull : Bool
  squeeze : Bool
  showEnds : Bool
  showTabs : Bool
  showControls : Bool

/-- A character with marks for those that cannot be seen. -/
def visible (n : Nat) : String :=
  if n < 32 then "^" ++ String.singleton (Char.ofNat (n + 64))
  else if n < 127 then String.singleton (Char.ofNat n)
  else "^?"

/-- A byte as `cat` shows it. -/
def CatStyle.char (s : CatStyle) (c : Char) : String :=
  if c = '\t' then if s.showTabs then "^I" else "\t"
  else if !s.showControls then String.singleton c
  else if c.toNat < 128 then visible c.toNat
  else "M-" ++ visible (c.toNat - 128)

/-- Print lines, counting them. `blank` tells that the line before was empty. -/
def CatStyle.print (s : CatStyle) : (number : Nat) → (blank : Bool) → List String → List String
  | _, _, [] => []
  | number, blank, l :: ls =>
      let isBlank := l = "\n"
      if s.squeeze ∧ blank ∧ isBlank then s.print number true ls
      else
        let counts := if s.numberFull then !isBlank else s.numberAll
        let cs := l.toList
        let ends := cs.getLast? = some '\n'
        let body := String.join ((if ends then cs.dropLast else cs).map s.char)
        ((if counts then padLeft 6 (toString number) ++ "\t" else "") ++ body
          ++ (if ends then (if s.showEnds then "$\n" else "\n") else ""))
          :: s.print (if counts then number + 1 else number) isBlank ls

/-- Whether the output goes to a file that is being read. -/
def readsOutput (name : String) : JobM Bool := do
  let j ← get
  let place? : Option Disk.Path :=
    if name = "-" then
      match j.stream? 0 with
      | some (.file n) => (j.files[n]?).map (·.place)
      | _ => none
    else match j.walk name with
      | .ok (.found place (.file _)) => some place
      | _ => none
  match place?, j.stream? 1 with
  | some place, some (.file n) =>
      return (j.files[n]?).any (·.place = place) && j.textAt place ≠ ""
  | _, _ => return false

/-- `cat`: prints files. -/
def cat : Utility := fun _ args =>
  JobM.withArguments "cat"
    [⟨'n', "number", .nothing⟩, ⟨'b', "number-nonblank", .nothing⟩,
     ⟨'s', "squeeze-blank", .nothing⟩, ⟨'E', "show-ends", .nothing⟩, ⟨'T', "show-tabs", .nothing⟩,
     ⟨'A', "show-all", .nothing⟩, ⟨'v', "show-nonprinting", .nothing⟩, ⟨'e', "", .nothing⟩,
     ⟨'t', "", .nothing⟩, ⟨'u', "", .nothing⟩] args fun a => do
  let any (keys : List Char) : Bool := keys.any a.has
  let style : CatStyle := ⟨a.has 'n', a.has 'b', a.has 's', any ['E', 'A', 'e'],
    any ['T', 'A', 't'], any ['v', 'A', 'e', 't']⟩
  let (status, text) ← (namesOr a.operands).foldlM (fun (status, text) name => do
    if ← readsOutput name then
      return (← JobM.fail (plainly "cat" name "input file is output file"), text)
    match ← JobM.inputOf name with
    | .ok more =>
        if a.options.isEmpty then
          JobM.say more
          return (status, "")
        else return (status, text ++ more)
    | .error reason => return (← JobM.fail (plainly "cat" name reason), text)) (0, "")
  JobM.say (String.join (style.print 1 false (fullLines text)))
  return status

/-- `tac`: prints lines from the last to the first. -/
def tac : Utility := fun _ args =>
  JobM.withArguments "tac" [] args fun a =>
    forInputs (fun name reason => "tac: failed to open " ++ Job.quoted name ++ " for reading: "
      ++ reason) a.operands fun _ text => JobM.say (String.join (fullLines text).reverse)

/-- `rev`: prints each line backwards. -/
def rev : Utility := fun _ args =>
  forInputs (fun name reason => "rev: cannot open " ++ name ++ ": " ++ reason) args fun _ text =>
    JobM.say <| String.join <| (fullLines text).map fun l =>
      let cs := l.toList
      if cs.getLast? = some '\n' then String.ofList (cs.dropLast.reverse ++ ['\n'])
      else String.ofList cs.reverse

/-- A part of a text, counted in lines or in bytes. -/
structure Portion where
  lines : Bool
  count : Nat
  /-- The count is of what is left out at the other end, or where to start. -/
  without : Bool

def Portion.start (p : Portion) (text : String) : String :=
  if p.lines then
    let ls := fullLines text
    String.join (ls.take (if p.without then ls.length - p.count else p.count))
  else
    let cs := text.toList
    String.ofList (cs.take (if p.without then cs.length - p.count else p.count))

/-- The end of a text. With `without`, the count says which piece is the first one. -/
def Portion.stop (p : Portion) (text : String) : String :=
  if p.lines then
    let ls := fullLines text
    String.join (ls.drop (if p.without then p.count - 1 else ls.length - p.count))
  else
    let cs := text.toList
    String.ofList (cs.drop (if p.without then p.count - 1 else cs.length - p.count))

/-- The arguments with a number such as `-5` at their start written as an option. -/
def withCount (plusToo : Bool) : List String → List String
  | arg :: rest =>
      match arg.toList with
      | '-' :: c :: cs =>
          if c.isDigit then
            match (c :: cs).dropWhile Char.isDigit with
            | [] => "-n" :: String.ofList (c :: cs) :: rest
            | ['c'] => "-c" :: String.ofList ((c :: cs).takeWhile Char.isDigit) :: rest
            | _ => arg :: rest
          else arg :: rest
      | '+' :: c :: cs =>
          if plusToo ∧ c.isDigit then "-n" :: String.ofList ('+' :: c :: cs) :: rest
          else arg :: rest
      | _ => arg :: rest
  | [] => []

/-- Print portions of files, with headers if there are several. -/
def printPortions (utility : String) (a : Arguments) (part : String → String) : JobM Nat := do
  let names := namesOr a.operands
  let headers := !a.has 'q' && (a.has 'v' || 1 < names.length)
  let header (first : Bool) (name : String) : JobM Unit := do
    if headers then
      JobM.say ((if first then "" else "\n") ++ "==> "
        ++ (if name = "-" then "standard input" else name) ++ " <==\n")
  let (status, _) ← names.foldlM (fun (status, first) name => do
    let j ← get
    if name = "-" then
      match ← JobM.peek 0 with
      | .error reason =>
          return (← JobM.fail (utility ++ ": error reading 'standard input': " ++ reason), first)
      | .ok text =>
          header first name
          let printed := part text
          JobM.say printed
          let isFile : Bool := match j.stream? 0 with
            | some (.file _) => true
            | _ => false
          JobM.skip 0 (if isFile && utility == "head" then printed.length else text.length)
          return (status, false)
    else if j.isDirectory name then
      header first name
      return (← JobM.fail (utility ++ ": error reading " ++ Job.quoted name ++ ": Is a directory"),
        false)
    else match ← JobM.inputOf name with
      | .ok text =>
          header first name
          JobM.say (part text)
          return (status, false)
      | .error reason =>
          return (← JobM.fail (utility ++ ": cannot open " ++ Job.quoted name ++ " for reading: "
            ++ reason), first)) ((0, true) : Nat × Bool)
  return status

def portionOptions : List KnownOption :=
  [⟨'n', "lines", .value⟩, ⟨'c', "bytes", .value⟩, ⟨'q', "quiet", .nothing⟩,
   ⟨'v', "verbose", .nothing⟩]

/-- The portion that options ask for, where one sign turns its meaning around. -/
def portionOf (utility : String) (a : Arguments) (turning : Char) :
    Except String Portion :=
  match a.last? ['n', 'c'] with
  | none => .ok ⟨true, 10, false⟩
  | some key =>
      let written := (a.value? key).getD ""
      let turned := written.toList.head? = some turning
      let digits := match written.toList with
        | c :: cs => if c = '-' ∨ c = '+' then String.ofList cs else written
        | [] => ""
      match count? digits with
      | some n => .ok ⟨key = 'n', n, turned⟩
      | none => .error (utility ++ ": invalid number of " ++ (if key = 'n' then "lines" else "bytes")
          ++ ": " ++ Job.quoted (if turned then digits else written))

/-- `head`: prints the start of files. -/
def head : Utility := fun _ args =>
  JobM.withArguments "head" portionOptions (withCount false args) fun a => do
    match portionOf "head" a '-' with
    | .error message => JobM.fail message
    | .ok p => printPortions "head" a p.start

/-- `tail`: prints the end of files. -/
def tail : Utility := fun _ args =>
  JobM.withArguments "tail"
    (⟨'f', "follow", .nothing⟩ :: portionOptions) (withCount true args) fun a => do
    match portionOf "tail" a '+' with
    | .error message => JobM.fail message
    | .ok p => printPortions "tail" a p.stop

/-- What `wc` counts, in the order of its columns. -/
structure Count where
  lines : Nat := 0
  words : Nat := 0
  chars : Nat := 0
  bytes : Nat := 0
  widest : Nat := 0

/-- The number of words and the greatest width of a line. -/
def scanWords : (inWord : Bool) → (words width widest : Nat) → List Char → Nat × Nat
  | inWord, words, width, widest, [] => (words + inWord.toNat, max width widest)
  | inWord, words, width, widest, c :: cs =>
      if c = '\n' ∨ c = '\r' ∨ c = '\x0c' then
        scanWords false (words + inWord.toNat) 0 (max width widest) cs
      else if c = '\t' then
        scanWords false (words + inWord.toNat) (width + 8 - width % 8) widest cs
      else if c = ' ' then scanWords false (words + inWord.toNat) (width + 1) widest cs
      else if c = '\x0b' then scanWords false (words + inWord.toNat) width widest cs
      else if 32 < c.toNat ∧ c.toNat < 127 then scanWords true words (width + 1) widest cs
      else scanWords inWord words width widest cs

def Count.ofText (text : String) : Count :=
  let cs := text.toList
  let (words, widest) := scanWords false 0 0 0 cs
  ⟨(cs.filter (· == '\n')).length, words, cs.length, cs.length, widest⟩

/-- The counts of several texts. -/
def Count.add (a b : Count) : Count :=
  ⟨a.lines + b.lines, a.words + b.words, a.chars + b.chars, a.bytes + b.bytes,
    max a.widest b.widest⟩

/-- `wc`: counts lines, words and bytes. -/
def wc : Utility := fun _ args =>
  JobM.withArguments "wc"
    [⟨'l', "lines", .nothing⟩, ⟨'w', "words", .nothing⟩, ⟨'m', "chars", .nothing⟩,
     ⟨'c', "bytes", .nothing⟩, ⟨'L', "max-line-length", .nothing⟩] args fun a => do
  let any := !a.options.isEmpty
  let columns (c : Count) : List Nat :=
    (if !any || a.has 'l' then [c.lines] else []) ++ (if !any || a.has 'w' then [c.words] else [])
      ++ (if a.has 'm' then [c.chars] else []) ++ (if !any || a.has 'c' then [c.bytes] else [])
      ++ (if a.has 'L' then [c.widest] else [])
  let names := namesOr a.operands
  let j ← get
  let size (name : String) : Option Nat :=
    if name = "-" then
      match j.stream? 0 with
      | some (.file n) => (j.files[n]?).map fun f => (j.textAt f.place).length
      | _ => none
    else match j.walk name with
      | .ok (.found place (.file _)) => some (j.textAt place).length
      | .ok (.found ..) => none
      | _ => some 0
  let width :=
    if names.length = 1 ∧ (columns {}).length = 1 then 1
    else
      let total := names.foldl (fun n name => n + (size name).getD 0) 0
      max (toString total).length (if names.any fun name => (size name).isNone then 7 else 1)
  let row (c : Count) (name : Option String) : JobM Unit :=
    JobM.say (" ".intercalate ((columns c).map fun n => padLeft width (toString n))
      ++ (name.map (" " ++ ·)).getD "" ++ "\n")
  let (status, total) ← names.foldlM (fun (status, total) name => do
    let shownName := if a.operands.isEmpty then none else some name
    match ← JobM.inputOf name with
    | .ok text =>
        let c := Count.ofText text
        row c shownName
        return (status, total.add c)
    | .error reason =>
        JobM.complain (plainly "wc" name reason)
        if reason = Disk.FileError.isDirectory.reason then row {} shownName
        return (1, total)) ((0, {}) : Nat × Count)
  if 1 < names.length then row total (some "total")
  return status

/-- How `nl` numbers lines. -/
structure Numbering where
  all : Bool
  width : Nat
  separator : String
  increment : Nat
  /-- Where the number stands, and whether zeros come before it. -/
  leftAligned : Bool
  zeros : Bool

def Numbering.number (s : Numbering) : (n : Nat) → List String → List String
  | _, [] => []
  | n, l :: ls =>
      if s.all ∨ l ≠ "" then
        let digits := toString n
        let text := if s.leftAligned then padRight s.width digits
          else if s.zeros then String.ofList (List.replicate (s.width - digits.length) '0') ++ digits
          else padLeft s.width digits
        (text ++ s.separator ++ l) :: s.number (n + s.increment) ls
      else (padLeft (s.width + s.separator.length) "" ++ l) :: s.number n ls

/-- `nl`: numbers lines. -/
def nl : Utility := fun _ args =>
  JobM.withArguments "nl"
    [⟨'b', "body-numbering", .value⟩, ⟨'w', "number-width", .value⟩,
     ⟨'s', "number-separator", .value⟩, ⟨'v', "starting-line-number", .value⟩,
     ⟨'i', "line-increment", .value⟩, ⟨'n', "number-format", .value⟩] args fun a => do
  let natural (key : Char) (usual : Nat) : Nat := ((a.value? key).bind Text.numeral?).getD usual
  let format := (a.value? 'n').getD "rn"
  let s : Numbering := ⟨a.value? 'b' = some "a", natural 'w' 6, (a.value? 's').getD "\t",
    natural 'i' 1, format = "ln", format = "rz"⟩
  let (status, text) ← joinedInputs (plainly "nl") a.operands
  JobM.say (ofLines (s.number (natural 'v' 1) (linesOf text)))
  return status

/-- A line broken after at most `width` columns. With `atBlanks`, breaks come behind blanks if
there are any. `current` is held backwards. -/
def foldLine (width : Nat) (atBlanks : Bool) : (fuel : Nat) → (current : List Char) → List Char →
    List String
  | 0, current, cs => [String.ofList (current.reverse ++ cs)]
  | _ + 1, current, [] => [String.ofList current.reverse]
  | fuel + 1, current, c :: cs =>
      if current.length < width then foldLine width atBlanks fuel (c :: current) cs
      else
        let tail := current.takeWhile fun c => c ≠ ' ' ∧ c ≠ '\t'
        if atBlanks ∧ tail.length < current.length then
          String.ofList (current.drop tail.length).reverse
            :: foldLine width atBlanks fuel tail (c :: cs)
        else String.ofList current.reverse :: foldLine width atBlanks fuel [] (c :: cs)

/-- `fold`: breaks long lines. -/
def fold : Utility := fun _ args =>
  JobM.withArguments "fold"
    [⟨'w', "width", .value⟩, ⟨'s', "spaces", .nothing⟩, ⟨'b', "bytes", .nothing⟩] args fun a =>
  match ((a.value? 'w').map Text.numeral?).getD (some 80) with
  | none => JobM.fail ("fold: invalid number of columns: " ++ Job.quoted ((a.value? 'w').getD ""))
  | some width =>
      filter "fold" a.operands fun text =>
        String.join <| (fullLines text).map fun l =>
          let cs := l.toList
          let ends := cs.getLast? = some '\n'
          let body := if ends then cs.dropLast else cs
          "\n".intercalate (foldLine width (a.has 's') (2 * body.length + 2) [] body)
            ++ (if ends then "\n" else "")

/-- A line with blanks in place of tabs. -/
def expandTabs (width column : Nat) : List Char → List Char
  | [] => []
  | '\t' :: cs =>
      List.replicate (width - column % width) ' '
        ++ expandTabs width (column + width - column % width) cs
  | '\n' :: cs => '\n' :: expandTabs width 0 cs
  | c :: cs => c :: expandTabs width (column + 1) cs

/-- `expand`: writes blanks in place of tabs. -/
def expand : Utility := fun _ args =>
  JobM.withArguments "expand" [⟨'t', "tabs", .value⟩, ⟨'i', "initial", .nothing⟩] args fun a =>
    let width := ((a.value? 't').bind Text.numeral?).getD 8
    filter "expand" a.operands fun text =>
      String.ofList (if width = 0 then text.toList else expandTabs width 0 text.toList)

end ReplyScript.Utility
