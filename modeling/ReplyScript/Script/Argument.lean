import ReplyScript.Decimal.Shortest
import ReplyScript.Json.Reader

/-! # Arguments

A directive's argument is a text, a whole number, a floating-point number or a truth value. A token
that is a JSON scalar has the scalar's value; any other token stands for itself.
-/

namespace ReplyScript.Script

open Decimal

/-- One argument of a directive. -/
inductive Argument where
  | text (s : String)
  | integer (n : Int)
  | float (x : Binary)
  | boolean (b : Bool)
  deriving Repr, DecidableEq, BEq, Inhabited

namespace Argument

/-- Least and greatest whole number of an argument: those of a signed 64-bit word. -/
def inWord (n : Int) : Bool :=
  -0x8000000000000000 ≤ n && n < 0x8000000000000000

/-- A number as an argument: whole numbers beyond a signed word become floating-point. -/
def ofNumber : Json.Number → Option Argument
  | .integer n => if inWord n then some (.integer n) else (Binary.ofInt n).map .float
  | .float x => some (.float x)

/-- The value of a token that is a JSON string, number or truth value. -/
def decode? (token : String) : Option Argument :=
  match Json.scalar? token with
  | some (.text s) => some (.text s)
  | some (.boolean b) => some (.boolean b)
  | some (.number n) => ofNumber n
  | some .null => none
  | none => none

/-- The value of a token; one that is no JSON scalar is kept as text. -/
def decode (token : String) : Argument :=
  (decode? token).getD (.text token)

def text? : Argument → Option String
  | text s => some s
  | _ => none

def typeName : Argument → String
  | text _ => "text"
  | integer _ => "integer"
  | float _ => "float"
  | boolean _ => "boolean"

def display : Argument → String
  | text s => s
  | integer n => toString n
  | float x => x.plain
  | boolean b => if b then "true" else "false"

def json : Argument → String
  | text s => String.ofList (Json.quoted s)
  | integer n => toString n
  | float x => x.asData
  | boolean b => if b then "true" else "false"

/-- Equality of arguments. A whole number equals the floating-point number it rounds to. -/
def same : Argument → Argument → Bool
  | text a, text b => a == b
  | integer a, integer b => a == b
  | float a, float b => a.sameValue b
  | integer a, float b | float b, integer a =>
      match Binary.ofInt a with
      | some x => x.sameValue b
      | none => false
  | boolean a, boolean b => a == b
  | _, _ => false

end Argument

end ReplyScript.Script
