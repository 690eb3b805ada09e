import ReplyScript.Utility.Expression
import ReplyScript.Job.Options

/-! # Evaluating arguments

`expr` takes its arguments for an expression and prints its value.
-/

namespace ReplyScript.Utility

inductive ExprValue where
  | text (s : String)
  | number (n : Int)
  deriving Repr, DecidableEq, BEq, Inhabited

namespace ExprValue

def written : ExprValue → String
  | text s => s
  | number n => toString n

def number? : ExprValue → Option Int
  | number n => some n
  | text s =>
      match s.toList with
      | '-' :: cs => (Text.digits? cs).map fun n => -(n : Int)
      | cs => (Text.digits? cs).map Int.ofNat

/-- Whether a value is empty or zero. -/
def isNull : ExprValue → Bool
  | number n => n = 0
  | text s =>
      let digits := match s.toList with
        | '-' :: cs => cs
        | cs => cs
      s = "" || (digits ≠ [] && digits.all (· == '0'))

end ExprValue

/-- The arguments that are left. -/
abbrev ReadExpr := StateT (List String) (Except String)

namespace ReadExpr

/-- Give up for want of an argument or because of one. -/
def missing (after : String) : ReadExpr α :=
  throw ("syntax error: missing argument after " ++ Job.quoted after)

/-- The binary operators that bind as tightly as each other, loosest first. -/
def levels : List (List String) :=
  [["|"], ["&"], ["<", "<=", "=", "==", "!=", ">=", ">"], ["+", "-"], ["*", "/", "%"], [":"]]

def truth (b : Bool) : ExprValue := .number (if b then 1 else 0)

/-- Match a text with an expression that starts where the text starts. The value is what the first
group took, or how many characters matched. -/
def matchStart (text pattern : String) : ReadExpr ExprValue := do
  match Finder.read {} pattern with
  | .error m => throw m.message
  | .ok f =>
      let cs := text.toList
      match f.matchAt cs 0 none cs with
      | some hit =>
          if f.groups = 0 then return .number hit.stop
          match hit.span? 1 with
          | some (start, stop) => return .text (String.ofList ((cs.drop start).take (stop - start)))
          | none => return .text ""
      | none => return if f.groups = 0 then .number 0 else .text ""

def apply (op : String) (a b : ExprValue) : ReadExpr ExprValue := do
  let arithmetic (f : Int → Int → Int) : ReadExpr ExprValue := do
    match a.number?, b.number? with
    | some n, some m => return .number (f n m)
    | _, _ => throw "non-integer argument"
  let comparison (p : Ordering → Bool) : ReadExpr ExprValue := do
    match a.number?, b.number? with
    | some n, some m => return truth (p (compare n m))
    | _, _ => return truth (p (compare a.written b.written))
  match op with
  | "|" => return if !a.isNull then a else if !b.isNull then b else .number 0
  | "&" => return if a.isNull ∨ b.isNull then .number 0 else a
  | "<" => comparison (· == .lt)
  | "<=" => comparison (· != .gt)
  | "=" | "==" => comparison (· == .eq)
  | "!=" => comparison (· != .eq)
  | ">=" => comparison (· != .lt)
  | ">" => comparison (· == .gt)
  | "+" => arithmetic (· + ·)
  | "-" => arithmetic (· - ·)
  | "*" => arithmetic (· * ·)
  | "/" | "%" =>
      if b.number? = some 0 ∧ a.number?.isSome then throw "division by zero"
      arithmetic (if op = "/" then Int.tdiv else Int.tmod)
  | _ => matchStart a.written b.written

mutual

/-- Read a value that binds at least as tightly as some levels. -/
def level : (fuel : Nat) → List (List String) → ReadExpr ExprValue
  | 0, _ => return .number 0
  | fuel + 1, [] => do
      let args ← get
      match args with
      | [] => throw "syntax error: missing argument"
      | "(" :: rest =>
          if rest = [] then missing "("
          set rest
          let v ← level fuel levels
          match ← get with
          | ")" :: rest =>
              set rest
              return v
          | [] =>
              throw ("syntax error: expecting ')' after " ++ Job.quoted (rest.getLast?.getD ""))
          | arg :: _ => throw ("syntax error: expecting ')' instead of " ++ Job.quoted arg)
      | ")" :: _ => throw "syntax error: unexpected ')'"
      | "+" :: rest =>
          match rest with
          | [] => missing "+"
          | arg :: rest =>
              set rest
              return .text arg
      | "length" :: rest =>
          if rest = [] then missing "length"
          set rest
          let v ← level fuel []
          return .number v.written.length
      | "match" :: rest =>
          if rest = [] then missing "match"
          set rest
          let text ← level fuel []
          let pattern ← level fuel []
          matchStart text.written pattern.written
      | "index" :: rest =>
          if rest = [] then missing "index"
          set rest
          let text ← level fuel []
          let chars ← level fuel []
          let found := text.written.toList.findIdx? chars.written.toList.contains
          return .number ((found.map fun n => (n : Int) + 1).getD 0)
      | "substr" :: rest =>
          if rest = [] then missing "substr"
          set rest
          let text ← level fuel []
          let start ← level fuel []
          let count ← level fuel []
          match start.number?, count.number? with
          | some start, some count =>
              if start ≤ 0 ∨ count ≤ 0 then return .text ""
              return .text (String.ofList
                ((text.written.toList.drop (start.toNat - 1)).take count.toNat))
          | _, _ => return .text ""
      | arg :: rest =>
          set rest
          return .text arg
  | fuel + 1, ops :: tighter => do
      let first ← level fuel tighter
      operators fuel ops tighter first

/-- Apply operators of a level from left to right. -/
def operators : (fuel : Nat) → List String → List (List String) → ExprValue → ReadExpr ExprValue
  | 0, _, _, v => return v
  | fuel + 1, ops, tighter, v => do
      match ← get with
      | op :: rest =>
          if !ops.contains op then return v
          if rest = [] then missing op
          set rest
          let second ← level fuel tighter
          operators fuel ops tighter (← apply op v second)
      | [] => return v

end

end ReadExpr

/-- `expr`: prints the value of its arguments. -/
def expr : Utility := fun _ args => do
  let args := if args.head? = some "--" then args.tail else args
  if args = [] then return ← JobM.refuse "expr" "missing operand" 2
  match (ReadExpr.level (12 * args.length + 20) ReadExpr.levels).run args with
  | .error message => JobM.fail ("expr: " ++ message) 2
  | .ok (v, []) =>
      JobM.say (v.written ++ "\n")
      return if v.isNull then 1 else 0
  | .ok (_, arg :: _) =>
      JobM.fail ("expr: syntax error: unexpected argument " ++ Job.quoted arg) 2

end ReplyScript.Utility
