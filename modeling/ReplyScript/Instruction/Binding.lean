import ReplyScript.Instruction.Basic
import ReplyScript.Script.Argument
import ReplyScript.Text.Numeral

/-! # Binding arguments

`Instruction.bind` checks arguments against the slots of an instruction, in order; surplus arguments
are ignored. The first slot that cannot be filled is the error.
-/

namespace ReplyScript

open Script (Argument)

/-- What fills a slot. -/
inductive Filling where
  | text (s : String)
  /-- `none` where an optional number was left out. -/
  | index (n : Option Nat)
  deriving Repr, DecidableEq, BEq, Inhabited

/-- Why arguments do not fit. -/
inductive BindError where
  | missing (slot : String)
  | notIndex (slot : String) (argument : Argument)
  deriving Repr, DecidableEq, BEq, Inhabited

def BindError.message : BindError → String
  | missing slot => "missing argument <" ++ slot ++ ">"
  | notIndex slot argument =>
      "<" ++ slot ++ "> must be a non-negative integer, got " ++ argument.typeName ++ " `"
        ++ argument.display ++ "`"

def maxIndex : Nat := UInt64.size - 1

/-- A number that is whole and not negative, up to the rounded index limit, as an index. -/
def indexOfFloat? (x : Decimal.Binary) : Option Nat :=
  match x.toNat? with
  | some n => if n ≤ maxIndex + 1 then some (min n maxIndex) else none
  | none => none

/-- An argument as an index. -/
def index? : Argument → Option Nat
  | .integer n => if 0 ≤ n then some n.toNat else none
  | .float x => indexOfFloat? x
  | .text s => Text.numeral? (Text.trim s)
  | .boolean _ => none

/-- Fill one slot. -/
def Slot.fill : Slot → Option Argument → Except BindError Filling
  | .text _, some a => .ok (.text a.display)
  | .index slot, some a | .optionalIndex slot, some a =>
      match index? a with
      | some n => .ok (.index (some n))
      | none => .error (.notIndex slot a)
  | .optionalIndex _, none => .ok (.index none)
  | .text slot, none | .index slot, none => .error (.missing slot)

def fillSlots : List Slot → List Argument → Except BindError (List Filling)
  | [], _ => .ok []
  | slot :: slots, arguments =>
      match slot.fill arguments.head? with
      | .error e => .error e
      | .ok filling => (fillSlots slots arguments.tail).map (filling :: ·)

/-- The fillings of the slots of an instruction. -/
def Instruction.bind (i : Instruction) (arguments : List Argument) :
    Except BindError (List Filling) :=
  fillSlots i.slots arguments

end ReplyScript
