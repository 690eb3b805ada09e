import ReplyScript.Utility.Expression

/-! # Wildcards

A star stands for any text, a question mark for any character and brackets for one of some
characters.
-/

namespace ReplyScript.Utility

/-- A piece of a pattern with wildcards. -/
inductive Wildcard where
  | char (c : Char)
  | any
  | many
  | set (s : Text.CharSet)
  deriving Repr, BEq, Inhabited

namespace Wildcard

/-- A character of a pattern, and whether it may be a wildcard. -/
abbrev Letter := Char × Bool

/-- The members of brackets up to their end, and what follows. `first` tells that a closing bracket
would be a member. -/
def members : (fuel : Nat) → (first : Bool) → List Letter → Option (Text.CharSet × List Letter)
  | 0, _, _ | _, _, [] => none
  | fuel + 1, first, (c, active) :: ls =>
      if c = ']' ∧ active ∧ !first then some (.empty, ls)
      else
        let join (s : Text.CharSet) (ls : List Letter) : Option (Text.CharSet × List Letter) :=
          (members fuel false ls).map fun (more, ls) => (s.union more, ls)
        let named := if c = '[' ∧ active ∧ (ls.head?.map (·.1)) = some ':' then
            (upToPair ':' ((ls.drop 1).map (·.1))).bind fun (name, rest) =>
              (classNamed? (String.ofList name)).map fun s => (s, ls.length - rest.length)
          else none
        match named, ls with
        | some (s, used), _ => join s (ls.drop used)
        | none, ('-', true) :: (d, q) :: rest =>
            if d = ']' ∧ q then join (.single c) ls else join (.range c d) rest
        | none, ls => join (.single c) ls

/-- Read a pattern. Brackets that are not closed stand for themselves. -/
def read : (fuel : Nat) → List Letter → List Wildcard
  | 0, _ | _, [] => []
  | fuel + 1, (c, active) :: ls =>
      if !active then char c :: read fuel ls
      else match c with
        | '*' => many :: read fuel ls
        | '?' => any :: read fuel ls
        | '[' =>
            let (negated, rest) := match ls with
              | (m, true) :: rest => if m = '!' ∨ m = '^' then (true, rest) else (false, ls)
              | ls => (false, ls)
            match members (rest.length + 1) true rest with
            | some (s, rest) => set (if negated then otherBytes s else s) :: read fuel rest
            | none => char '[' :: read fuel ls
        | c => char c :: read fuel ls

/-- Read a pattern whose letters may be wildcards. -/
def ofLetters (ls : List Letter) : List Wildcard :=
  read (ls.length + 1) ls

/-- Whether a text fits a pattern from its start to its end. -/
def fitsAll : List Wildcard → List Char → Bool
  | [], cs => cs.isEmpty
  | many :: ws, [] => fitsAll ws []
  | many :: ws, c :: cs => fitsAll ws (c :: cs) || fitsAll (many :: ws) cs
  | any :: ws, _ :: cs => fitsAll ws cs
  | char a :: ws, c :: cs => a == c && fitsAll ws cs
  | set s :: ws, c :: cs => s.contains c && fitsAll ws cs
  | _, [] => false
termination_by ws cs => (ws.length + cs.length)

/-- The letters of a pattern where backslashes take meanings away. -/
def letters : List Char → List Letter
  | '\\' :: c :: cs => (c, false) :: letters cs
  | c :: cs => (c, true) :: letters cs
  | [] => []

def fits (pattern text : String) : Bool :=
  fitsAll (ofLetters (letters pattern.toList)) text.toList

end Wildcard

end ReplyScript.Utility
