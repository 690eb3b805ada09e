import ReplyScript.Utility.Format
import ReplyScript.Utility.Order

/-! # Printing

`echo` and `printf` as programs of their own, and `seq`, which prints numbers.
-/

namespace ReplyScript.Utility

open Decimal (binary64)

def echoEscapes : EscapeStyle := ⟨[('e', '\x1b')], false, true⟩

/-- The options of `echo`: whether a newline ends the output, and whether escapes count. -/
def echoOptions : (newline escapes : Bool) → List String → Bool × Bool × List String
  | newline, escapes, arg :: args =>
      match arg.toList with
      | '-' :: c :: cs =>
          if (c :: cs).all "neE".toList.contains then
            let escapes := (c :: cs).foldl (fun escapes c =>
              if c = 'e' then true else if c = 'E' then false else escapes) escapes
            echoOptions (newline && !(c :: cs).contains 'n') escapes args
          else (newline, escapes, arg :: args)
      | _ => (newline, escapes, arg :: args)
  | newline, escapes, [] => (newline, escapes, [])

/-- `echo`: prints its arguments. -/
def echo : Utility := fun _ args => do
  let (newline, escapes, args) := echoOptions true false args
  let text := " ".intercalate args
  if escapes then
    let (cs, on) := echoEscapes.unescape (text.length + 1) text.toList
    JobM.say (String.ofList cs ++ if newline ∧ on then "\n" else "")
  else JobM.say (text ++ if newline then "\n" else "")
  return 0

def formatStyle : FormatStyle where
  escapes := ⟨[('"', '"'), ('e', '\x1b')], true, true⟩
  floats := binary80
  notNumber := fun arg => Job.quoted arg ++ ": expected a numeric value"
  leftover := fun arg => Job.quoted arg ++ ": value not completely converted"
  outOfRange := fun arg => Job.quoted arg ++ ": Numerical result out of range"
  badDirective := fun d => d ++ ": invalid conversion specification"
  noLetter := fun d => d ++ ": invalid conversion specification"

/-- `printf`: prints a format. -/
def printf : Utility := fun _ args => do
  match if args.head? = some "--" then args.tail else args with
  | [] => JobM.refuse "printf" "missing operand"
  | format :: args =>
      let r := formatStyle.run format args
      JobM.say (String.ofList r.output)
      r.complaints.forM fun c => JobM.complain ("printf: " ++ c)
      match r.fatal with
      | some message => JobM.fail ("printf: " ++ message)
      | none => return if r.complaints.isEmpty then 0 else 1

/-- A number that `seq` counts with; whether it could be read. -/
def exactNumber? (s : String) : Option Numeric :=
  let cs := s.toList
  let body := match cs with
    | '+' :: body => body
    | body => body
  let (d, rest) := leadingDecimal body
  let hasDigits := (body.takeWhile fun c => c.isDigit ∨ c = '.' ∨ c = '-').any Char.isDigit
  if !hasDigits then none
  else if rest = [] then some d
  else
    let (power, used) := exponentPart rest
    if used = rest.length then
      some (if power < 0 then { d with places := d.places + power.natAbs }
        else if power.natAbs ≤ d.places then { d with places := d.places - power.natAbs }
        else ⟨d.value * Nat.pow 10 (power.natAbs - d.places), 0⟩)
    else none

/-- The value in units of the last of some places. -/
def Numeric.inPlaces (d : Numeric) (places : Nat) : Int :=
  d.value * Nat.pow 10 (places - d.places)

def writePlaces (places : Nat) (n : Int) : String :=
  (if n < 0 then "-" else "") ++ withPoint false places n.natAbs

/-- `seq`: prints numbers in steps. -/
def seq : Utility := fun _ args => do
  let isNumber (arg : String) : Bool := (exactNumber? arg).isSome
  let options := args.takeWhile fun arg => !isNumber arg
  let rest := args.drop options.length
  let isSeparate (arg : String) : Bool := ["-s", "-f", "--separator", "--format"].contains arg
  let (options, rest) :=
    if options.getLast?.any isSeparate then (options ++ rest.take 1, rest.drop 1)
    else (options, rest)
  match readArguments
    [⟨'s', "separator", .value⟩, ⟨'f', "format", .value⟩, ⟨'w', "equal-width", .nothing⟩] true
    (options ++ "--" :: rest) with
  | .error problem => JobM.refuse "seq" problem.message
  | .ok a =>
      let operands := if a.operands.head? = some "--" then a.operands.tail else a.operands
      match operands.find? fun arg => !isNumber arg with
      | some arg =>
          JobM.refuse "seq" ("invalid floating point argument: " ++ Job.quoted arg)
      | none =>
          let numbers := operands.filterMap exactNumber?
          let run (first step last : Numeric) : JobM Nat := do
            if step.value = 0 then
              return ← JobM.refuse "seq"
                ("invalid Zero increment value: " ++ Job.quoted ((operands[1]?).getD "0"))
            let places := max first.places step.places
            let wide := max places last.places
            let start := first.inPlaces wide
            let by_ := step.inPlaces wide
            let stop := last.inPlaces wide
            let count := if 0 ≤ (stop - start) * by_.sign then ((stop - start) / by_).toNat + 1 else 0
            let values := (List.range count).map fun (i : Nat) => start + by_ * (i : Int)
            let texts := match a.value? 'f' with
              | some format => values.map fun n =>
                  String.ofList (formatStyle.run format [writePlaces wide n]).output
              | none => values.map fun n => writePlaces places (n / Nat.pow 10 (wide - places))
            let width := (texts.map String.length).foldl max 0
            let texts := if a.has 'w' then texts.map fun t =>
                let zeros := String.ofList (List.replicate (width - t.length) '0')
                match t.toList with
                | '-' :: digits => "-" ++ zeros ++ String.ofList digits
                | _ => zeros ++ t
              else texts
            if !texts.isEmpty then
              JobM.say (((a.value? 's').getD "\n").intercalate texts ++ "\n")
            return 0
          let one : Numeric := ⟨1, 0⟩
          match numbers with
          | [last] => run one one last
          | [first, last] => run first one last
          | [first, step, last] => run first step last
          | [] => JobM.refuse "seq" "missing operand"
          | _ =>
              JobM.refuse "seq"
                ("extra operand " ++ Job.quoted ((operands[3]?).getD ""))

end ReplyScript.Utility
