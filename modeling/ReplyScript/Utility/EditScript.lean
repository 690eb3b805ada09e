import ReplyScript.Utility.Expression
import ReplyScript.Utility.Format

/-! # Scripts of the line editor

A script of `sed` is a list of commands. A command may be meant for some lines only; blocks of
commands and jumps are held as places in the list.
-/

namespace ReplyScript.Utility

/-- The lines that a command is meant for. -/
inductive LineAddress where
  | number (n : Nat)
  | last
  /-- The lines that match; without an expression the one used last is meant. -/
  | matching (f : Option Finder)
  /-- Every so many lines from one on. -/
  | step (first by_ : Nat)
  deriving Inhabited

inductive RangeEnd where
  | address (a : LineAddress)
  /-- So many lines later. -/
  | plus (n : Nat)
  /-- At the next multiple. -/
  | multiple (n : Nat)
  deriving Inhabited

/-- What letters of a replacement are changed to. -/
inductive CaseChange where
  | upper
  | lower
  | upperOnce
  | lowerOnce
  | stop
  deriving Repr, DecidableEq, BEq, Inhabited

inductive ReplacementPiece where
  | text (s : List Char)
  /-- What a group has taken; group 0 is the whole match. -/
  | group (index : Nat)
  | change (c : CaseChange)
  deriving Repr, DecidableEq, BEq, Inhabited

/-- How matches are replaced. -/
structure Substitution where
  /-- Without an expression the one used last is meant. -/
  finder : Option Finder
  replacement : List ReplacementPiece
  /-- Replace this match, and the later ones if `all`. -/
  nth : Nat := 1
  all : Bool := false
  print : Bool := false
  target : Option String := none
  deriving Inhabited

/-- What a command of an edit script does. -/
inductive EditAction where
  /-- A block up to the place of its end. -/
  | block (stop : Nat)
  | endBlock
  | append (text : String)
  | insert (text : String)
  | change (text : String)
  | delete
  | deleteFirst
  | get
  | getAppend
  | hold
  | holdAppend
  | exchange
  | list
  | next
  | nextAppend
  | print
  | printFirst
  | number
  | fileName
  | quit (status : Nat)
  | quitSilently (status : Nat)
  | readFile (name : String)
  | write (name : String)
  | writeFirst (name : String)
  | substitute (s : Substitution)
  | map (table : List (Char × Char))
  | clear
  /-- Go on behind a label; without one the end of the script is meant. -/
  | jump (label : String)
  | jumpIfReplaced (label : String)
  | jumpUnlessReplaced (label : String)
  | label (name : String)
  deriving Inhabited

structure EditCommand where
  first : Option LineAddress := none
  /-- The end of a range that starts with the first address. -/
  second : Option RangeEnd := none
  /-- The range is open before the first line. -/
  fromStart : Bool := false
  negated : Bool := false
  action : EditAction
  deriving Inhabited

/-- Where the reading of an edit script is. -/
structure EditReader where
  rest : List Char
  extended : Bool
  /-- How many characters the script has. -/
  length : Nat
  /-- The commands so far, and the places of blocks that are open. -/
  commands : Array EditCommand
  open_ : List Nat

abbrev ReadEdit := StateT EditReader (Except (Nat × String))

namespace ReadEdit

def fail (message : String) : ReadEdit α := do
  let r ← get
  throw (r.length - r.rest.length, message)

def next? : ReadEdit (Option Char) := do
  let r ← get
  match r.rest with
  | [] => return none
  | c :: rest =>
      set { r with rest }
      return some c

def peek? : ReadEdit (Option Char) := do
  return (← get).rest.head?

/-- Read characters as long as they are of a kind. -/
def takeWhile (p : Char → Bool) : ReadEdit (List Char) := do
  let r ← get
  set { r with rest := r.rest.dropWhile p }
  return r.rest.takeWhile p

def skipBlanks : ReadEdit Unit := do
  let _ ← takeWhile fun c => c = ' ' ∨ (9 ≤ c.toNat ∧ c.toNat ≤ 13 ∧ c ≠ '\n')

def number? : ReadEdit (Option Nat) := do
  return Text.digits? (← takeWhile Char.isDigit)

/-- Read up to a delimiter that has no backslash before it; `none` if there is none. In an
expression, `\n` is a newline. -/
def delimited (delimiter : Char) (inExpression : Bool) : (fuel : Nat) →
    ReadEdit (Option (List Char))
  | 0 => return none
  | fuel + 1 => do
      match ← next? with
      | none => return none
      | some c =>
          let more (cs : List Char) : ReadEdit (Option (List Char)) := do
            return (← delimited delimiter inExpression fuel).map (cs ++ ·)
          if c = delimiter then return some []
          else if c = '\\' then
            match ← next? with
            | none => return none
            | some d =>
                if d = delimiter then more (if !inExpression ∧ d = '&' then ['\\', d] else [d])
                else if d = 'n' ∧ inExpression then more ['\n']
                else if d = '\n' then more (if inExpression then ['\n'] else ['\\', '\n'])
                else more ['\\', d]
          else if c = '\n' ∧ inExpression then return none
          else more [c]

def upTo (delimiter : Char) (inExpression : Bool) : ReadEdit (Option (List Char)) := do
  delimited delimiter inExpression ((← get).rest.length + 1)

/-- Make an expression; the empty one stands for the one used last. -/
def finder (cs : List Char) (ignoresCase manyLines : Bool) : ReadEdit (Option Finder) := do
  if cs = [] then return none
  let extended := (← get).extended
  match Finder.read { extended, ignoresCase, escapes := true, manyLines } (String.ofList cs) with
  | .ok f => return some f
  | .error m => fail m.message

/-- Read an expression between delimiters, with the flags behind it. -/
def expression (delimiter : Char) : ReadEdit (Option Finder) := do
  match ← upTo delimiter true with
  | none => fail "unterminated address regex"
  | some cs =>
      let flags ← takeWhile fun c => c = 'I' ∨ c = 'M'
      finder cs (flags.contains 'I') (flags.contains 'M')

/-- Read an address, if there is one. -/
def address? : ReadEdit (Option LineAddress) := do
  match ← peek? with
  | some '$' =>
      let _ ← next?
      return some .last
  | some '/' =>
      let _ ← next?
      return some (.matching (← expression '/'))
  | some '\\' =>
      let _ ← next?
      match ← next? with
      | some c => return some (.matching (← expression c))
      | none => fail "unexpected \x60,'"
  | some c =>
      if !c.isDigit then return none
      let n := (← number?).getD 0
      skipBlanks
      if (← peek?) = some '~' then
        let _ ← next?
        let by_ := (← number?).getD 0
        return some (if by_ = 0 then .number n else .step n by_)
      return some (.number n)
  | none => return none

/-- Read the end of a range. -/
def rangeEnd : ReadEdit RangeEnd := do
  match ← peek? with
  | some '+' =>
      let _ ← next?
      match ← number? with
      | some n => return .plus n
      | none => fail "expected number"
  | some '~' =>
      let _ ← next?
      match ← number? with
      | some n => return .multiple n
      | none => fail "expected number"
  | _ =>
      match ← address? with
      | some a => return .address a
      | none => do
          let _ ← next?
          fail "unexpected \x60,'"

def finish : ReadEdit Unit := do
  skipBlanks
  match ← peek? with
  | none | some '\x7d' | some '#' => return
  | some c =>
      let _ ← next?
      if c ≠ '\n' ∧ c ≠ ';' then fail "extra characters after command"

/-- Read a label or a name: what stands up to a blank or a semicolon. -/
def word : ReadEdit String := do
  skipBlanks
  return String.ofList (← takeWhile fun c => c ≠ ' ' ∧ c ≠ ';' ∧ c ≠ '\n' ∧ c ≠ '\t')

/-- Read the name of a file: what stands up to the end of the line. -/
def fileName : ReadEdit String := do
  skipBlanks
  let cs ← takeWhile (· ≠ '\n')
  if cs = [] then fail "missing filename in r/R/w/W commands"
  let _ ← next?
  return String.ofList cs

/-- The lines of a text: a backslash goes on to the next line and else does not count. -/
def textLines : (fuel : Nat) → ReadEdit (List Char)
  | 0 => return []
  | fuel + 1 => do
      match ← next? with
      | none | some '\n' => return ['\n']
      | some '\\' =>
          match ← next? with
          | none => return ['\n']
          | some c => return (control? c).getD c :: (← textLines fuel)
      | some c => return c :: (← textLines fuel)

def text : ReadEdit String := do
  skipBlanks
  match ← peek? with
  | none => fail "expected \\ after \x60a', \x60c' or \x60i'"
  | some '\\' =>
      let _ ← next?
      skipBlanks
      match ← peek? with
      | some '\n' =>
          let _ ← next?
      | none => fail "expected \\ after \x60a', \x60c' or \x60i'"
      | some _ => pure ()
  | some _ => pure ()
  return String.ofList (← textLines ((← get).rest.length + 1))

def replacementEscapes : EscapeStyle := ⟨[], false, true⟩

/-- The pieces of a replacement. -/
def pieces : (fuel : Nat) → List Char → List ReplacementPiece
  | 0, _ | _, [] => []
  | fuel + 1, '\\' :: c :: cs =>
      if c.isDigit then .group (Text.digitValue c) :: pieces fuel cs
      else match c with
        | 'U' => .change .upper :: pieces fuel cs
        | 'L' => .change .lower :: pieces fuel cs
        | 'u' => .change .upperOnce :: pieces fuel cs
        | 'l' => .change .lowerOnce :: pieces fuel cs
        | 'E' => .change .stop :: pieces fuel cs
        | c =>
            if c = 'b' ∨ c = '\\' then .text [c] :: pieces fuel cs
            else match replacementEscapes.read (c :: cs) with
              | some (c, cs) => .text [c] :: pieces fuel cs
              | none => .text [c] :: pieces fuel cs
  | fuel + 1, '&' :: cs => .group 0 :: pieces fuel cs
  | fuel + 1, c :: cs => .text [c] :: pieces fuel cs

/-- Read the flags of a substitution. -/
def flags (ignoresCase manyLines : Bool) (numbered : Bool) (s : Substitution) : (fuel : Nat) →
    ReadEdit (Bool × Bool × Substitution)
  | 0 => return (ignoresCase, manyLines, s)
  | fuel + 1 => do
      match ← peek? with
      | none | some '\x7d' | some '#' => return (ignoresCase, manyLines, s)
      | some c =>
          if c.isDigit then
            let n := (← number?).getD 0
            if n = 0 then fail "number option to \x60s' command may not be zero"
            if numbered then fail "multiple number options to \x60s' command"
            return ← flags ignoresCase manyLines true { s with nth := n } fuel
          let _ ← next?
          match c with
          | '\n' | ';' => return (ignoresCase, manyLines, s)
          | ' ' | '\r' | '\t' => flags ignoresCase manyLines numbered s fuel
          | 'i' | 'I' => flags true manyLines numbered s fuel
          | 'm' | 'M' => flags ignoresCase true numbered s fuel
          | 'g' =>
              if s.all then fail "multiple \x60g' options to \x60s' command"
              flags ignoresCase manyLines numbered { s with all := true } fuel
          | 'p' =>
              if s.print then fail "multiple \x60p' options to \x60s' command"
              flags ignoresCase manyLines numbered { s with print := true } fuel
          | 'w' => return (ignoresCase, manyLines, { s with target := some (← fileName) })
          | _ => fail "unknown option to \x60s'"

def substitution : ReadEdit Substitution := do
  let some delimiter ← next? | fail "unterminated \x60s' command"
  let some pattern ← upTo delimiter true | fail "unterminated \x60s' command"
  let some replacement ← upTo delimiter false | fail "unterminated \x60s' command"
  let parts := pieces (replacement.length + 1) replacement
  let fuel := (← get).rest.length + 1
  let (ignoresCase, manyLines, s) ←
    flags false false false { finder := none, replacement := parts } fuel
  let finder ← finder pattern ignoresCase manyLines
  let highest := parts.foldl (fun n p => match p with
    | .group i => max n i
    | _ => n) 0
  match finder with
  | some f =>
      if f.groups < highest then
        fail ("invalid reference \\" ++ toString highest ++ " on \x60s' command's RHS")
  | none => pure ()
  return { s with finder }

def tableChars : List Char → List Char
  | '\\' :: 'n' :: cs => '\n' :: tableChars cs
  | '\\' :: '\\' :: cs => '\\' :: tableChars cs
  | '\\' :: c :: cs =>
      match control? c with
      | some control => control :: tableChars cs
      | none => '\\' :: c :: tableChars cs
  | c :: cs => c :: tableChars cs
  | [] => []

def table : ReadEdit (List (Char × Char)) := do
  let some delimiter ← next? | fail "unterminated \x60y' command"
  let some first ← upTo delimiter false | fail "unterminated \x60y' command"
  let some second ← upTo delimiter false | fail "unterminated \x60y' command"
  let keys := tableChars first
  let values := tableChars second
  if keys.length ≠ values.length then
    fail "strings for \x60y' command are different lengths"
  return keys.zip values

def status : ReadEdit Nat := do
  skipBlanks
  let n := (← number?).getD 0
  finish
  return n

def add (c : EditCommand) : ReadEdit Unit :=
  modify fun r => { r with commands := r.commands.push c }

def action (c : EditCommand) (letter : Char) : ReadEdit Unit := do
  let simple (a : EditAction) : ReadEdit Unit := do
    finish
    add { c with action := a }
  match letter with
  | '\x7b' =>
      modify fun r => { r with open_ := r.commands.size :: r.open_ }
      add { c with action := .block 0 }
  | '\x7d' =>
      match (← get).open_ with
      | [] => fail "unexpected \x60\x7d'"
      | start :: open_ =>
          if c.first.isSome then fail "\x7d doesn't want any addresses"
          finish
          modify fun r => { r with
            open_, commands := r.commands.modify start fun b =>
              { b with action := .block r.commands.size } }
          add { action := .endBlock }
  | ':' =>
      if c.first.isSome then fail ": doesn't want any addresses"
      let name ← word
      if name = "" then fail "\":\" lacks a label"
      finish
      add { action := .label name }
  | 'a' => add { c with action := .append (← text) }
  | 'i' => add { c with action := .insert (← text) }
  | 'c' => add { c with action := .change (← text) }
  | 'd' => simple .delete
  | 'D' => simple .deleteFirst
  | 'g' => simple .get
  | 'G' => simple .getAppend
  | 'h' => simple .hold
  | 'H' => simple .holdAppend
  | 'x' => simple .exchange
  | 'l' =>
      skipBlanks
      let _ ← number?
      simple .list
  | 'n' => simple .next
  | 'N' => simple .nextAppend
  | 'p' => simple .print
  | 'P' => simple .printFirst
  | '=' => simple .number
  | 'F' => simple .fileName
  | 'z' => simple .clear
  | 'q' =>
      if c.second.isSome then fail "command only uses one address"
      add { c with action := .quit (← status) }
  | 'Q' =>
      if c.second.isSome then fail "command only uses one address"
      add { c with action := .quitSilently (← status) }
  | 'r' => add { c with action := .readFile (← fileName) }
  | 'w' => add { c with action := .write (← fileName) }
  | 'W' => add { c with action := .writeFirst (← fileName) }
  | 's' => add { c with action := .substitute (← substitution) }
  | 'y' => do
      let t ← table
      simple (.map t)
  | 'b' => do
      let name ← word
      simple (.jump name)
  | 't' => do
      let name ← word
      simple (.jumpIfReplaced name)
  | 'T' => do
      let name ← word
      simple (.jumpUnlessReplaced name)
  | c => fail ("unknown command: \x60" ++ String.singleton c ++ "'")

def commands : (fuel : Nat) → ReadEdit Unit
  | 0 => return
  | fuel + 1 => do
      let _ ← takeWhile fun c => c = ' ' ∨ c = ';' ∨ (9 ≤ c.toNat ∧ c.toNat ≤ 13)
      match ← peek? with
      | none => return
      | some '#' =>
          let _ ← takeWhile (· ≠ '\n')
          commands fuel
      | some _ =>
          let first ← address?
          skipBlanks
          let second ← do
            if first.isSome ∧ (← peek?) = some ',' then
              let _ ← next?
              skipBlanks
              pure (some (← rangeEnd))
            else pure none
          let fromStart : Bool := match first with
            | some (.number 0) => true
            | _ => false
          let endsByMatch : Bool := match second with
            | some (.address (.matching _)) => true
            | _ => false
          if fromStart ∧ !endsByMatch then fail "invalid usage of line address 0"
          skipBlanks
          let negated := (← peek?) = some '!'
          let _ ← takeWhile fun c => c = '!' ∨ c = ' '
          match ← next? with
          | none => fail "missing command"
          | some letter =>
              if letter = '#' then fail "comments don't accept any addresses"
              action { first, second, fromStart, negated, action := .endBlock } letter
              commands fuel

end ReadEdit

/-- Add the commands of a piece of script. The number of the character where reading stopped comes
with what is wrong. -/
def readEdit (extended : Bool) (before : Array EditCommand × List Nat) (s : String) :
    Except (Nat × String) (Array EditCommand × List Nat) := do
  let cs := s.toList
  let (_, r) ← (ReadEdit.commands (cs.length + 1)).run ⟨cs, extended, cs.length, before.1, before.2⟩
  return (r.commands, r.open_)

end ReplyScript.Utility
