import ReplyScript.Job.Basic
import ReplyScript.Text.Numeral

/-! # Conditions

The arguments of `test` state something about texts, numbers and files. How they are read depends on
how many there are, because a text may look like an operator.
-/

namespace ReplyScript.Shell

/-- The operators of conditions. -/
inductive TestOperator where
  | fileTest (letter : Char)
  | isEmpty
  | isFull
  | compareTexts (p : Ordering → Bool)
  | compareNumbers (p : Ordering → Bool)
  | sameFile
  | newerFile
  | olderFile
  | not
  | and
  | or
  | open_
  | close

namespace TestOperator

/-- Whether an operator stands in front of one operand. -/
def isUnary : TestOperator → Bool
  | fileTest _ | isEmpty | isFull => true
  | _ => false

/-- Whether an operator stands between two operands. -/
def isBinary : TestOperator → Bool
  | compareTexts _ | compareNumbers _ | sameFile | newerFile | olderFile => true
  | _ => false

def read? (s : String) : Option TestOperator :=
  match s with
  | "=" => some (compareTexts (· == .eq))
  | "!=" => some (compareTexts (· != .eq))
  | "<" => some (compareTexts (· == .lt))
  | ">" => some (compareTexts (· == .gt))
  | "-eq" => some (compareNumbers (· == .eq))
  | "-ne" => some (compareNumbers (· != .eq))
  | "-ge" => some (compareNumbers (· != .lt))
  | "-gt" => some (compareNumbers (· == .gt))
  | "-le" => some (compareNumbers (· != .gt))
  | "-lt" => some (compareNumbers (· == .lt))
  | "-nt" => some newerFile
  | "-ot" => some olderFile
  | "-ef" => some sameFile
  | "!" => some not
  | "-a" => some and
  | "-o" => some or
  | "(" => some open_
  | ")" => some close
  | "-z" => some isEmpty
  | "-n" => some isFull
  | s =>
      match s.toList with
      | ['-', c] => if "rwxefdcbpugkstGhOLS".toList.contains c then some (fileTest c) else none
      | _ => none

end TestOperator

/-- The number that an operand is; blanks around it do not count. -/
def testNumber (s : String) : Except String Int :=
  let isBlank (c : Char) : Bool := c = ' ' || (9 ≤ c.toNat && c.toNat ≤ 13)
  let cs := s.toList.dropWhile isBlank
  let (negative, cs) := match cs with
    | '-' :: cs => (true, cs)
    | '+' :: cs => (false, cs)
    | cs => (false, cs)
  let digits := cs.takeWhile Char.isDigit
  if digits = [] ∨ !(cs.drop digits.length).all isBlank then .error ("Illegal number: " ++ s)
  else
    let n : Int := Text.digitsValue digits
    let n := if negative then -n else n
    if n < -0x8000000000000000 ∨ 0x8000000000000000 ≤ n then .error ("Illegal number: " ++ s)
    else .ok n

def fileHolds (j : Job) (letter : Char) (name : String) : Bool :=
  let isDevice := (Job.device? (j.path name)).isSome
  match letter with
  | 'e' | 'r' | 'w' | 'u' | 'g' | 'k' | 'O' | 'G' =>
      (isDevice || j.reaches name) && !(['u', 'g', 'k'].contains letter)
  | 'f' => j.isFile name
  | 'd' => j.isDirectory name
  | 'c' => isDevice
  | 'h' | 'L' => j.isLink name
  | 's' =>
      match j.walk name with
      | .ok (.found _ (.file content)) => !content.bytes.isEmpty
      | .ok (.found ..) => true
      | _ => false
  | 'x' =>
      match j.walk name with
      | .ok (.found _ .directory) => true
      | .ok (.found place _) => j.isExecutable place
      | _ => false
  | _ => false

/-- Where the reading of a condition is: the arguments from the current one on. -/
abbrev ReadTest := StateT (List String) (Except String)

namespace ReadTest

/-- What an argument is where the arguments from it on are known: an operator or an operand, or
nothing at the end. -/
inductive Lexeme where
  | stop
  | operand
  | operator (op : TestOperator)

/-- What the first argument is. An operator in front of one operand is an operand itself if nothing
follows it, or an operator between operands does. -/
def lexeme (args : List String) : Lexeme :=
  match args with
  | [] => .stop
  | s :: rest =>
      match TestOperator.read? s with
      | none => .operand
      | some op =>
          let isOperand := match rest with
            | [] => true
            | [_] => false
            | t :: _ => ((TestOperator.read? t).map TestOperator.isBinary).getD false
          match op with
          | .open_ => if rest = [] then .operand else .operator op
          | op => if op.isUnary && isOperand then .operand else .operator op

def wrong (arg message : String) : ReadTest α :=
  throw (if arg = "" then message else arg ++ ": " ++ message)

def current : ReadTest String := do
  return (← get).headD ""

/-- Go on to the next argument. -/
def step : ReadTest Unit :=
  modify List.tail

mutual

/-- Read conditions of which any has to hold. The reading stays at the last argument used. -/
def anyOf (j : Job) : (fuel : Nat) → Lexeme → ReadTest Bool
  | 0, _ => return false
  | fuel + 1, l => do
      let first ← allOf j fuel l
      match lexeme (← get).tail with
      | .operator .or =>
          step
          step
          let rest ← anyOf j fuel (lexeme (← get))
          return first || rest
      | _ => return first

def allOf (j : Job) : (fuel : Nat) → Lexeme → ReadTest Bool
  | 0, _ => return false
  | fuel + 1, l => do
      let first ← negation j fuel l
      match lexeme (← get).tail with
      | .operator .and =>
          step
          step
          let rest ← allOf j fuel (lexeme (← get))
          return first && rest
      | _ => return first

def negation (j : Job) : (fuel : Nat) → Lexeme → ReadTest Bool
  | 0, _ => return false
  | fuel + 1, l => do
      match l with
      | .operator .not =>
          let l := lexeme (← get).tail
          match l with
          | .stop => pure ()
          | _ => step
          return !(← negation j fuel l)
      | l => primary j fuel l

def primary (j : Job) : (fuel : Nat) → Lexeme → ReadTest Bool
  | 0, _ => return false
  | fuel + 1, l => do
      match l with
      | .stop => return false
      | .operator .open_ =>
          step
          match lexeme (← get) with
          | .operator .close => return false
          | l =>
              let inner ← anyOf j fuel l
              step
              match lexeme (← get) with
              | .operator .close => return inner
              | _ => wrong "" "closing paren expected"
      | l =>
          let here ← current
          let unary : Option TestOperator := match l with
            | .operator op => if op.isUnary then some op else none
            | _ => none
          match unary with
          | some op =>
              step
              if (← get) = [] then wrong here "argument expected"
              let operand ← current
              match op with
              | .isEmpty => return operand = ""
              | .isFull => return operand ≠ ""
              | .fileTest 't' =>
                  let _ ← (testNumber operand : Except String Int)
                  return false
              | .fileTest letter => return fileHolds j letter operand
              | _ => return false
          | none =>
              match lexeme (← get).tail with
              | .operator op =>
                  if !op.isBinary then return here ≠ ""
                  step
                  let name ← current
                  step
                  if (← get) = [] then wrong name "argument expected"
                  let second ← current
                  match op with
                  | .compareTexts p => return p (compare here second)
                  | .compareNumbers p =>
                      let n ← (testNumber here : Except String Int)
                      let m ← (testNumber second : Except String Int)
                      return p (compare n m)
                  | .sameFile =>
                      match j.walk here, j.walk second with
                      | .ok (.found p _), .ok (.found q _) => return p = q
                      | _, _ => return false
                  | _ => return false
              | _ => return here ≠ ""

end

def all (j : Job) (l : Lexeme) (negated : Bool) (args : List String) : Except String Bool := do
  let (holds, rest) ← (anyOf j (6 * args.length + 12) l).run args
  match rest with
  | here :: _ :: _ => throw (if here = "" then "unexpected operator"
      else here ++ ": unexpected operator")
  | _ => return holds != negated

end ReadTest

/-- Whether the condition that arguments state holds. `negated` tells that marks of negation have
been read. -/
def conditionHolds (j : Job) (negated : Bool) : List String → Except String Bool
  | [] => .ok negated
  | args =>
      let middle := (args[1]?).bind TestOperator.read?
      if args.length = 3 ∧ (middle.map TestOperator.isBinary).getD false then
        ReadTest.all j .operand negated args
      else if args.length = 3 ∨ args.length = 4 then
        match args with
        | "(" :: rest =>
            if rest.getLast? = some ")" then
              ReadTest.all j (ReadTest.lexeme rest.dropLast) negated rest.dropLast
            else ReadTest.all j (ReadTest.lexeme args) negated args
        | "!" :: rest => conditionHolds j (!negated) rest
        | args => ReadTest.all j (ReadTest.lexeme args) negated args
      else ReadTest.all j (ReadTest.lexeme args) negated args

end ReplyScript.Shell
