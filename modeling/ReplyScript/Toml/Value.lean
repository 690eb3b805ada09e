import ReplyScript.Decimal.Binary

/-! # TOML values

A document is a table, and every line of it adds to the table. `Members.assign` puts a value under a
dotted key, `Members.openTable` and `Members.openItem` start the table of a header. What may still
be added to a table depends on how it came to be.
-/

namespace ReplyScript.Toml

open Decimal (Binary)

/-- A floating-point number. -/
inductive Float where
  | finite (x : Binary)
  | infinite (negative : Bool)
  | notANumber
  deriving Repr, DecidableEq, BEq, Inhabited

/-- How a table came to be. -/
inductive Origin where
  /-- A header names it. -/
  | header
  /-- It is on the way to a table that a header names. -/
  | implied
  /-- It is on the way to a dotted key. -/
  | dotted
  /-- It is written in braces, and nothing is added to it. -/
  | closed
  deriving Repr, DecidableEq, BEq, Inhabited

inductive Value where
  | text (s : String)
  | integer (n : Int)
  | float (x : Float)
  | boolean (b : Bool)
  /-- A date, a time or both. -/
  | moment
  /-- Values in brackets. -/
  | array (items : List Value)
  /-- The tables of headers in double brackets. -/
  | tables (items : List Value)
  | table (origin : Origin) (members : List (String × Value))
  deriving Repr, Inhabited

/-- The members of a table: every key once. -/
abbrev Members := List (String × Value)

namespace Members

def replace (key : String) (v : Value) (ms : Members) : Members :=
  ms.map fun (k, old) => (k, if k = key then v else old)

def add (key : String) (v : Value) (ms : Members) : Option Members :=
  if (ms.lookup key).isSome then none else some (ms ++ [(key, v)])

/-- Put a value under a dotted key. Tables on the way are made, or are passed if no header names
them; the table that gets the value must itself have been made by dotted keys. -/
def assign (v : Value) : List String → Members → Option Members
  | [], _ => none
  | [key], ms => ms.add key v
  | key :: rest, ms =>
      match ms.lookup key with
      | none => (assign v rest []).bind fun inner => ms.add key (.table .dotted inner)
      | some (.table origin inner) =>
          if origin = .dotted ∨ (origin = .implied ∧ rest.length ≠ 1) then
            (assign v rest inner).map fun inner => ms.replace key (.table origin inner)
          else none
      | some (.tables items) =>
          match items.getLast? with
          | some (.table origin inner) =>
              if rest.length = 1 then none
              else (assign v rest inner).map fun inner =>
                ms.replace key (.tables (items.dropLast ++ [.table origin inner]))
          | _ => none
      | some _ => none

/-- Change the members of the table at the end of a header's path. Tables on the way are made as
needed; of the tables under one key the last is meant. -/
def within (change : Members → Option Members) : List String → Members → Option Members
  | [], ms => change ms
  | key :: rest, ms =>
      match ms.lookup key with
      | none => (within change rest []).bind fun inner => ms.add key (.table .implied inner)
      | some (.table origin inner) =>
          if origin = .closed then none
          else (within change rest inner).map fun inner => ms.replace key (.table origin inner)
      | some (.tables items) =>
          match items.getLast? with
          | some (.table origin inner) =>
              (within change rest inner).map fun inner =>
                ms.replace key (.tables (items.dropLast ++ [.table origin inner]))
          | _ => none
      | some _ => none

/-- Start the table of a header in single brackets. It may only have been implied before. -/
def openTable (path : List String) (ms : Members) : Option Members :=
  match path.getLast? with
  | none => none
  | some key =>
      within (fun ms => match ms.lookup key with
        | none => ms.add key (.table .header [])
        | some (.table .implied inner) => some (ms.replace key (.table .header inner))
        | some _ => none) path.dropLast ms

/-- Start the next table of a header in double brackets. -/
def openItem (path : List String) (ms : Members) : Option Members :=
  match path.getLast? with
  | none => none
  | some key =>
      within (fun ms => match ms.lookup key with
        | none => ms.add key (.tables [.table .header []])
        | some (.tables items) => some (ms.replace key (.tables (items ++ [.table .header []])))
        | some _ => none) path.dropLast ms

end Members

namespace Value

def text? : Value → Option String
  | text s => some s
  | _ => none

def boolean? : Value → Option Bool
  | boolean b => some b
  | _ => none

/-- A whole number that is not negative. -/
def nat? : Value → Option Nat
  | integer n => if 0 ≤ n then some n.toNat else none
  | _ => none

def items? : Value → Option (List Value)
  | array items | tables items => some items
  | _ => none

def members? : Value → Option Members
  | table _ members => some members
  | _ => none

def texts? (v : Value) : Option (List String) := do
  (← v.items?).mapM text?

def textTable? (v : Value) : Option (List (String × String)) := do
  (← v.members?).mapM fun (key, v) => return (key, ← v.text?)

end Value

/-- Decode the value of a key, which may be missing. The outer `none` is a value of the wrong
kind. -/
def Members.optional (ms : Members) (key : String) (decode : Value → Option α) :
    Option (Option α) :=
  match ms.lookup key with
  | none => some none
  | some v => (decode v).map some

/-- Decode the value of a key, with a value for when it is missing. -/
def Members.field (ms : Members) (key : String) (decode : Value → Option α) (default : α) :
    Option α :=
  (ms.optional key decode).map (·.getD default)

end ReplyScript.Toml
