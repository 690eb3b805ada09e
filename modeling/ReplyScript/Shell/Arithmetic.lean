import ReplyScript.Utility.Format

/-! # Shell arithmetic

Expressions over 64-bit whole numbers, which may assign variables. Comparisons give 1 or 0; what
cannot make a difference is read but not evaluated.
-/

namespace ReplyScript.Shell

/-- The operators between two operands. -/
inductive Operator where
  | or | and | bitOr | bitXor | bitAnd | equal | unequal | less | greater | atMost | atLeast
  | shiftLeft | shiftRight | add | subtract | multiply | divide | remainder
  deriving Repr, DecidableEq, BEq, Inhabited

namespace Operator

def level : Operator → Nat
  | or => 0
  | and => 1
  | bitOr => 2
  | bitXor => 3
  | bitAnd => 4
  | equal | unequal => 5
  | less | greater | atMost | atLeast => 6
  | shiftLeft | shiftRight => 7
  | add | subtract => 8
  | multiply | divide | remainder => 9

/-- A whole number as a 64-bit one. -/
def wrap (n : Int) : Int :=
  Int.bmod n UInt64.size

/-- The bits of a 64-bit number as a natural number. -/
def bits (n : Int) : Nat :=
  (n % UInt64.size).toNat

def truth (b : Bool) : Int := if b then 1 else 0

/-- Apply an operator; nothing if that is a division by zero. -/
def apply (op : Operator) (a b : Int) : Option Int :=
  match op with
  | or => some (truth (a ≠ 0 ∨ b ≠ 0))
  | and => some (truth (a ≠ 0 ∧ b ≠ 0))
  | bitOr => some (wrap (bits a ||| bits b : Nat))
  | bitXor => some (wrap (bits a ^^^ bits b : Nat))
  | bitAnd => some (wrap (bits a &&& bits b : Nat))
  | equal => some (truth (a = b))
  | unequal => some (truth (a ≠ b))
  | less => some (truth (a < b))
  | greater => some (truth (b < a))
  | atMost => some (truth (a ≤ b))
  | atLeast => some (truth (b ≤ a))
  | shiftLeft => some (wrap (a * Nat.pow 2 (bits b % 64)))
  | shiftRight => some (a / Nat.pow 2 (bits b % 64))
  | add => some (wrap (a + b))
  | subtract => some (wrap (a - b))
  | multiply => some (wrap (a * b))
  | divide => if b = 0 then none else some (wrap (Int.tdiv a b))
  | remainder => if b = 0 then none else some (Int.tmod a b)

end Operator

/-- A token of an expression. -/
inductive Sign where
  | stop
  | number (n : Int)
  | name (s : String)
  | binary (op : Operator)
  /-- Assign, perhaps after applying an operator. -/
  | assign (op : Option Operator)
  | not
  | complement
  | open_
  | close
  | question
  | colon
  /-- Something that has no meaning. -/
  | other
  deriving Repr, DecidableEq, BEq, Inhabited

/-- The operators as they are written, longer ones first. -/
def signs : List (String × Sign) :=
  [("<<=", .assign (some .shiftLeft)), (">>=", .assign (some .shiftRight)),
   ("||", .binary .or), ("&&", .binary .and), ("==", .binary .equal), ("!=", .binary .unequal),
   ("<=", .binary .atMost), (">=", .binary .atLeast), ("<<", .binary .shiftLeft),
   (">>", .binary .shiftRight), ("+=", .assign (some .add)), ("-=", .assign (some .subtract)),
   ("*=", .assign (some .multiply)), ("/=", .assign (some .divide)),
   ("%=", .assign (some .remainder)), ("&=", .assign (some .bitAnd)),
   ("^=", .assign (some .bitXor)), ("|=", .assign (some .bitOr)), ("=", .assign none),
   ("|", .binary .bitOr), ("^", .binary .bitXor), ("&", .binary .bitAnd), ("<", .binary .less),
   (">", .binary .greater), ("+", .binary .add), ("-", .binary .subtract),
   ("*", .binary .multiply), ("/", .binary .divide), ("%", .binary .remainder), ("!", .not),
   ("~", .complement), ("(", .open_), (")", .close), ("?", .question), (":", .colon)]

/-- Cut an expression into tokens. -/
def cutSigns : (fuel : Nat) → List Char → List Sign
  | 0, _ | _, [] => []
  | fuel + 1, c :: cs =>
      if c = ' ' ∨ c = '\t' ∨ c = '\n' then cutSigns fuel cs
      else if c.isDigit then
        let (n, rest) := Utility.readWhole (String.ofList (c :: cs))
        .number (min n 0x7fffffffffffffff) :: cutSigns fuel rest
      else if c.isAlpha ∨ c = '_' then
        let isNameChar (c : Char) : Bool := c.isAlphanum || c == '_'
        .name (String.ofList ((c :: cs).takeWhile isNameChar))
          :: cutSigns fuel (cs.dropWhile isNameChar)
      else match signs.find? fun (text, _) => text.toList.isPrefixOf (c :: cs) with
        | some (text, sign) => sign :: cutSigns fuel ((c :: cs).drop text.length)
        | none => .other :: cutSigns fuel cs

/-- What an evaluation works on: the tokens that are left, and the variables. -/
structure Evaluation where
  rest : List Sign
  /-- The values of variables; nothing where there is none. -/
  values : String → Option String
  /-- The variables that were assigned, latest first. -/
  assigned : List (String × Int) := []

/-- Why an expression has no value. -/
inductive ArithmeticProblem where
  | expecting (what : String)
  | divisionByZero
  | notNumber (value : String)
  deriving Repr, DecidableEq, BEq, Inhabited

def ArithmeticProblem.message (expression : String) : ArithmeticProblem → String
  | expecting what => "arithmetic expression: expecting " ++ what ++ ": \"" ++ expression ++ "\""
  | divisionByZero => "arithmetic expression: division by zero: \"" ++ expression ++ "\""
  | notNumber value => "Illegal number: " ++ value

abbrev Evaluate := StateT Evaluation (Except ArithmeticProblem)

namespace Evaluate

def peek : Evaluate Sign := do
  return (← get).rest.headD .stop

/-- Go on behind the next token. -/
def skip : Evaluate Unit :=
  modify fun e => { e with rest := e.rest.tail }

/-- The value of a variable; one that is not set or empty counts as zero. -/
def valueOf (name : String) : Evaluate Int := do
  let e ← get
  match e.assigned.lookup name with
  | some n => return n
  | none =>
      let value := (e.values name).getD ""
      let (n, rest) := Utility.readWhole value
      let isBlank (c : Char) : Bool := c = ' ' || (9 ≤ c.toNat && c.toNat ≤ 13)
      if rest.all isBlank then return n else throw (.notNumber value)

def apply (wanted : Bool) (op : Operator) (a b : Int) : Evaluate Int :=
  if !wanted then return b
  else match op.apply a b with
    | some n => return n
    | none => throw .divisionByZero

mutual

def assignment (wanted : Bool) : (fuel : Nat) → Evaluate Int
  | 0 => throw (.expecting "primary")
  | fuel + 1 => do
      match (← get).rest with
      | .name name :: .assign op :: _ =>
          skip
          skip
          let value ← assignment wanted fuel
          if !wanted then return value
          let value ← match op with
            | some op => do apply true op (← valueOf name) value
            | none => pure value
          modify fun e => { e with assigned := (name, value) :: e.assigned }
          return value
      | _ => condition wanted fuel

/-- Evaluate a value, or a choice between two. -/
def condition (wanted : Bool) : (fuel : Nat) → Evaluate Int
  | 0 => throw (.expecting "primary")
  | fuel + 1 => do
      let test ← binary wanted fuel 0
      match ← peek with
      | .question =>
          skip
          let first ← assignment (wanted && test ≠ 0) fuel
          match ← peek with
          | .colon => skip
          | _ => throw (.expecting "':'")
          let second ← condition (wanted && test = 0) fuel
          return if test ≠ 0 then first else second
      | _ => return test

/-- Evaluate what operators join that bind at least as tightly as a level. -/
def binary (wanted : Bool) : (fuel level : Nat) → Evaluate Int
  | 0, _ => throw (.expecting "primary")
  | fuel + 1, level => do
      if level = 10 then primary wanted fuel
      else
        let first ← binary wanted fuel (level + 1)
        operators wanted fuel level first

/-- Apply the operators of a level from left to right. -/
def operators (wanted : Bool) : (fuel level : Nat) → Int → Evaluate Int
  | 0, _, n => return n
  | fuel + 1, level, n => do
      match ← peek with
      | .binary op =>
          if op.level ≠ level then return n
          skip
          let needed := wanted &&
            (if op = .or then n = 0 else if op = .and then n ≠ 0 else true)
          let m ← binary needed fuel (level + 1)
          let result ← apply wanted op n m
          operators wanted fuel level result
      | _ => return n

/-- Evaluate a number, a variable or something in parentheses. -/
def primary (wanted : Bool) : (fuel : Nat) → Evaluate Int
  | 0 => throw (.expecting "primary")
  | fuel + 1 => do
      let sign ← peek
      skip
      match sign with
      | .number n => return n
      | .name name => if wanted then valueOf name else return 0
      | .binary .add => primary wanted fuel
      | .binary .subtract => return Operator.wrap (-(← primary wanted fuel))
      | .not => return Operator.truth ((← primary wanted fuel) = 0)
      | .complement => return -(← primary wanted fuel) - 1
      | .open_ =>
          let n ← assignment wanted fuel
          match ← peek with
          | .close =>
              skip
              return n
          | _ => throw (.expecting "')'")
      | _ => throw (.expecting "primary")

end

end Evaluate

/-- The value of an expression, and the variables that it assigns, latest first. -/
def evaluate (values : String → Option String) (expression : String) :
    Except ArithmeticProblem (Int × List (String × Int)) := do
  let cs := expression.toList
  let tokens := cutSigns (cs.length + 1) cs
  let (n, e) ← (Evaluate.assignment true (24 * tokens.length + 40)).run { rest := tokens, values }
  if e.rest = [] then return (n, e.assigned) else throw (.expecting "EOF")

end ReplyScript.Shell
