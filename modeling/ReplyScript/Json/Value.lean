import ReplyScript.Decimal.Shortest
import ReplyScript.Json.Number
import ReplyScript.Json.Quoted

/-! # JSON values and their written forms

Values keep the members of an object in order, repeated names included. `Value.compact` writes
without blanks, `Value.pretty` with two blanks of indentation per level.
-/

namespace ReplyScript.Json

inductive Value where
  | null
  | boolean (b : Bool)
  | number (n : Number)
  | text (s : String)
  | array (items : List Value)
  | object (members : List (String × Value))
  deriving Repr, Inhabited

def Number.write : Number → String
  | .integer n => toString n
  | .float x => x.asData

def Value.ofNat (n : Nat) : Value :=
  .number (.integer n)

def Value.ofTexts (texts : List String) : Value :=
  .array (texts.map .text)

mutual

/-- The written form without blanks. -/
def Value.compact : Value → String
  | .null => "null"
  | .boolean b => if b then "true" else "false"
  | .number n => n.write
  | .text s => String.ofList (quoted s)
  | .array items => "[" ++ ",".intercalate (compactItems items) ++ "]"
  | .object members => "\x7b" ++ ",".intercalate (compactMembers members) ++ "\x7d"

/-- The written forms of the items of an array. -/
def compactItems : List Value → List String
  | [] => []
  | v :: vs => v.compact :: compactItems vs

/-- The written forms of the members of an object. -/
def compactMembers : List (String × Value) → List String
  | [] => []
  | (name, v) :: ms => (String.ofList (quoted name) ++ ":" ++ v.compact) :: compactMembers ms

end

/-- A line break and the indentation of a level. -/
def newlineAt (level : Nat) : String :=
  "\n" ++ String.ofList (List.replicate (2 * level) ' ')

mutual

/-- The written form over several lines, from a level of indentation on. -/
def Value.prettyAt (level : Nat) : Value → String
  | .null => "null"
  | .boolean b => if b then "true" else "false"
  | .number n => n.write
  | .text s => String.ofList (quoted s)
  | .array [] => "[]"
  | .array (v :: vs) =>
      "[" ++ ",".intercalate (prettyItems (level + 1) (v :: vs)) ++ newlineAt level ++ "]"
  | .object [] => "\x7b\x7d"
  | .object (m :: ms) =>
      "\x7b" ++ ",".intercalate (prettyMembers (level + 1) (m :: ms)) ++ newlineAt level ++ "\x7d"

/-- The items of an array, each on lines of its own. -/
def prettyItems (level : Nat) : List Value → List String
  | [] => []
  | v :: vs => (newlineAt level ++ v.prettyAt level) :: prettyItems level vs

/-- The members of an object, each on lines of its own. -/
def prettyMembers (level : Nat) : List (String × Value) → List String
  | [] => []
  | (name, v) :: ms =>
      (newlineAt level ++ String.ofList (quoted name) ++ ": " ++ v.prettyAt level)
        :: prettyMembers level ms

end

/-- The written form over several lines. -/
def Value.pretty (v : Value) : String :=
  v.prettyAt 0

/-- The first member of an object with a name. -/
def Value.member? (name : String) : Value → Option Value
  | .object members => members.lookup name
  | _ => none

def Value.text? : Value → Option String
  | .text s => some s
  | _ => none

def Value.items? : Value → Option (List Value)
  | .array items => some items
  | _ => none

def Value.boolean? : Value → Option Bool
  | .boolean b => some b
  | _ => none

/-- The value of a number written without fraction and exponent. -/
def Value.integer? : Value → Option Int
  | .number (.integer n) => some n
  | _ => none

end ReplyScript.Json
