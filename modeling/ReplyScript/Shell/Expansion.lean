import ReplyScript.Shell.Arithmetic
import ReplyScript.Shell.Builtin

/-! # Expansion

The parts of a word are replaced by what they stand for. The output of commands, which a word may
stand for, is a parameter of the expansion.
-/

namespace ReplyScript.Shell

open ShellM
open Utility (Wildcard)

inductive Holding where
  | nothing
  | text (s : String)
  /-- The arguments, as one text when they are quoted or as many. -/
  | arguments (all : List String) (asOne : Bool)
  deriving Repr, DecidableEq, BEq, Inhabited

def State.holding (s : State) (name : String) : Holding :=
  let ofOption : Option String → Holding
    | some value => .text value
    | none => .nothing
  match name with
  | "@" => .arguments s.arguments false
  | "*" => .arguments s.arguments true
  | "#" => .text (toString s.arguments.length)
  | "?" => .text (toString s.status)
  | "$" => .text (toString ownNumber)
  | "!" => ofOption (s.lastBackground.map toString)
  | "-" => .text (String.ofList s.options)
  | "0" => .text s.self
  | name =>
      match Text.digits? name.toList with
      | some n => ofOption (s.arguments[n - 1]?)
      | none => ofOption (s.value? name)

/-- What stands between arguments that are put together. -/
def State.joint (s : State) : String :=
  match s.find? "IFS" with
  | some v => String.ofList ((v.value.getD " ").toList.take 1)
  | none => " "

def Holding.text? (s : State) : Holding → Option String
  | .nothing => none
  | .text t => some t
  | .arguments [] _ => none
  | .arguments all _ => some (s.joint.intercalate all)

/-- The letters of what a parameter holds. If `full`, arguments stay apart and fields may be
split. -/
def Holding.letters (s : State) (quoted full : Bool) : Holding → List Letter
  | .nothing => lettersOf "" quoted false
  | .text t => lettersOf t quoted full
  | .arguments all asOne =>
      if quoted ∧ !asOne ∧ full then
        ((all.map fun a => lettersOf a true false).intersperse [.next]).flatten
      else if !quoted ∧ full then
        ((all.map fun a => lettersOf a false true).intersperse [.gap]).flatten
      else lettersOf (s.joint.intercalate all) quoted false

abbrev OutputOf := Command → ShellM String

mutual

/-- The letters of a word. If `full`, fields may be split. The fuel bounds the parts. -/
def lettersOfWord (output : OutputOf) (full : Bool) : (fuel : Nat) → Word → ShellM (List Letter)
  | 0, _ => return []
  | _ + 1, [] => return []
  | fuel + 1, part :: parts => do
      let ls ← lettersOfPart output full fuel part
      return ls ++ (← lettersOfWord output full fuel parts)

def lettersOfPart (output : OutputOf) (full : Bool) : (fuel : Nat) → Part → ShellM (List Letter)
  | 0, _ => return []
  | fuel + 1, part => do
      match part with
      | .text s quoted => return lettersOf s quoted false
      | .output body quoted => return lettersOf (← output body) quoted full
      | .arithmetic e quoted =>
          let expression := textOf (← lettersOfWord output false fuel e)
          match evaluate (← get).value? expression with
          | .error problem => fail (problem.message expression)
          | .ok (n, assigned) =>
              assigned.reverse.forM fun (name, value) => assign name (toString value)
              return lettersOf (toString n) quoted full
      | .parameter name use quoted =>
          let s ← get
          let held := s.holding name
          let text := held.text? s
          let missing : ShellM Unit := do
            match held with
            | .nothing => if s.has 'u' then fail (name ++ ": parameter not set")
            | _ => return
          let isThere (orEmpty : Bool) : Bool :=
            match text with
            | some t => !(orEmpty && t = "")
            | none => false
          let word (w : Word) : ShellM (List Letter) := do
            let ls ← lettersOfWord output full fuel w
            return (if quoted then [.quote] else []) ++ (if full ∧ !quoted then withSplits ls else ls)
          let trimmed (trim : List Wildcard → List Char → List Char) (w : Word) :
              ShellM (List Letter) := do
            missing
            let pattern := Wildcard.ofLetters (patternOf (← lettersOfWord output false fuel w))
            match held with
            | .arguments all asOne =>
                let all := all.map fun a => String.ofList (trim pattern a.toList)
                return (Holding.arguments all asOne).letters s quoted full
            | _ => return lettersOf (String.ofList (trim pattern (text.getD "").toList)) quoted full
          match use with
          | .value =>
              missing
              return held.letters s quoted full
          | .length =>
              missing
              return lettersOf (toString (match held with
                | .arguments all _ => (s.joint.intercalate all).length
                | _ => (text.getD "").length)) quoted full
          | .instead orEmpty w =>
              if isThere orEmpty then return held.letters s quoted full else word w
          | .alternative orEmpty w =>
              if isThere orEmpty then word w else return lettersOf "" quoted full
          | .assign orEmpty w =>
              if isThere orEmpty then return held.letters s quoted full
              if !isName name then fail (name ++ ": bad variable name")
              let value := textOf (← lettersOfWord output false fuel w)
              assign name value
              return lettersOf value quoted full
          | .demand orEmpty w =>
              if isThere orEmpty then return held.letters s quoted full
              if w.isEmpty then
                fail (name ++ ": parameter not set" ++ if orEmpty then " or null" else "")
              fail (name ++ ": " ++ textOf (← lettersOfWord output false fuel w))
          | .dropStart longest w => trimmed (dropStart longest) w
          | .dropEnd longest w => trimmed (dropEnd longest) w
          | .bad => fail "Bad substitution"

end

/-- A word may not have more parts than this. -/
def partLimit : Nat := 100000

/-- The home directory in place of tildes at the start of a word and, in a value, behind colons. -/
def expandTildes (s : State) (inValue : Bool) (w : Word) : Word :=
  match w with
  | .text t false :: rest =>
      let pieces := if inValue then t.toList.splitOn ':' else [t.toList]
      let count := pieces.length
      let parts := pieces.zipIdx.map fun (p, i) =>
        let piece := String.ofList p
        match withHome s piece with
        | some (home, after) =>
            if after = "" ∧ i + 1 = count ∧ rest ≠ [] then [Part.text piece false]
            else [.text home true, .text after false]
        | none => [.text piece false]
      (parts.intersperse [.text ":" false]).flatten ++ rest
  | w => w

end ReplyScript.Shell
