import ReplyScript.Job.Basic

/-! # Options of utilities

An option is a letter behind a hyphen or a word behind two. Letters may be put together, and options
may stand behind other arguments; two hyphens end them.
-/

namespace ReplyScript

/-- Whether an option has a value. -/
inductive Need where
  | nothing
  | value
  /-- A value only if it stands in the same argument. -/
  | perhaps
  deriving Repr, DecidableEq, BEq, Inhabited

/-- An option that a utility knows. Options that have no letter are known by some other
character. -/
structure KnownOption where
  key : Char
  word : String := ""
  need : Need := .nothing
  deriving Repr, DecidableEq, BEq, Inhabited

inductive OptionProblem where
  | unknownLetter (letter : Char)
  | unknownWord (word : String)
  | ambiguous (word : String) (candidates : List String)
  | letterNeedsValue (letter : Char)
  | wordNeedsValue (word : String)
  | needsNoValue (word : String)
  deriving Repr, DecidableEq, BEq, Inhabited

def OptionProblem.message : OptionProblem → String
  | unknownLetter letter => "invalid option -- '" ++ String.singleton letter ++ "'"
  | unknownWord word => "unrecognized option '--" ++ word ++ "'"
  | ambiguous word candidates =>
      "option '--" ++ word ++ "' is ambiguous; possibilities:"
        ++ String.join (candidates.map fun c => " '--" ++ c ++ "'")
  | letterNeedsValue letter =>
      "option requires an argument -- '" ++ String.singleton letter ++ "'"
  | wordNeedsValue word => "option '--" ++ word ++ "' requires an argument"
  | needsNoValue word => "option '--" ++ word ++ "' doesn't allow an argument"

/-- The arguments of a utility: its options in order with their values, and the rest. -/
structure Arguments where
  options : List (Char × String) := []
  operands : List String := []
  deriving Repr, DecidableEq, BEq, Inhabited

namespace Arguments

def option (a : Arguments) (key : Char) (value : String) : Arguments :=
  { a with options := (key, value) :: a.options }

def operand (a : Arguments) (s : String) : Arguments :=
  { a with operands := s :: a.operands }

/-- Whether an option was given. -/
def has (a : Arguments) (key : Char) : Bool :=
  a.options.any (·.1 = key)

/-- The value of the last option of a kind. -/
def value? (a : Arguments) (key : Char) : Option String :=
  (a.options.reverse.find? (·.1 = key)).map (·.2)

def values (a : Arguments) (key : Char) : List String :=
  (a.options.filter (·.1 = key)).map (·.2)

/-- The last of some options that exclude each other. -/
def last? (a : Arguments) (keys : List Char) : Option Char :=
  (a.options.reverse.find? fun o => keys.contains o.1).map (·.1)

end Arguments

/-- The options that letters stand for, and the value of the last one as far as it is known. -/
def readLetters (known : List KnownOption) :
    List Char → Except OptionProblem (List (Char × String) × Option Char)
  | [] => .ok ([], none)
  | c :: cs =>
      match known.find? (·.key = c) with
      | none => .error (.unknownLetter c)
      | some o =>
          match o.need with
          | .nothing => do
              let (options, open_) ← readLetters known cs
              return ((c, "") :: options, open_)
          | .perhaps => .ok ([(c, String.ofList cs)], none)
          | .value =>
              if cs = [] then .ok ([], some c) else .ok ([(c, String.ofList cs)], none)

/-- The option that a word stands for; it may be shortened. -/
def readWord (known : List KnownOption) (word : String) : Except OptionProblem KnownOption :=
  match known.find? (·.word = word) with
  | some o => .ok o
  | none =>
      match known.filter fun o => o.word ≠ "" && word.isPrefixOf o.word with
      | [] => .error (.unknownWord word)
      | [o] => .ok o
      | os => .error (.ambiguous word (os.map (·.word)))

/-- Read the arguments of a utility. If `inOrder`, the options end at the first operand. -/
def readArguments (known : List KnownOption) (inOrder : Bool := false) :
    List String → Except OptionProblem Arguments
  | [] => .ok {}
  | arg :: rest =>
      match arg.toList, rest with
      | ['-', '-'], rest => .ok { operands := rest }
      | '-' :: '-' :: cs, rest => do
          let word := String.ofList (cs.takeWhile (· ≠ '='))
          let o ← readWord known word
          match cs.dropWhile (· ≠ '='), o.need, rest with
          | _ :: _, .nothing, _ => throw (.needsNoValue o.word)
          | _ :: value, _, rest =>
              return (← readArguments known inOrder rest).option o.key (String.ofList value)
          | [], .value, value :: rest =>
              return (← readArguments known inOrder rest).option o.key value
          | [], .value, [] => throw (.wordNeedsValue o.word)
          | [], _, rest => return (← readArguments known inOrder rest).option o.key ""
      | '-' :: c :: cs, rest => do
          let (options, open_) ← readLetters known (c :: cs)
          match open_, rest with
          | none, rest =>
              let a ← readArguments known inOrder rest
              return { a with options := options ++ a.options }
          | some key, value :: rest =>
              let a ← readArguments known inOrder rest
              return { a with options := options ++ (key, value) :: a.options }
          | some key, [] => throw (.letterNeedsValue key)
      | _, rest =>
          if inOrder then .ok { operands := arg :: rest }
          else do return (← readArguments known inOrder rest).operand arg

namespace JobM

/-- What is said of a problem with the arguments of a utility. -/
def refuse (utility message : String) (status : Nat := 1) : JobM Nat := do
  complain (utility ++ ": " ++ message)
  fail ("Try '" ++ utility ++ " --help' for more information.") status

/-- Go on with the arguments of a utility, unless there is something wrong with them, which ends in
a status. -/
def withArgumentsOr (status : Nat) (utility : String) (known : List KnownOption)
    (args : List String) (body : Arguments → JobM Nat) : JobM Nat :=
  match readArguments known false args with
  | .ok a => body a
  | .error problem => refuse utility problem.message status

/-- Go on with the arguments of a utility, unless there is something wrong with them. -/
def withArguments : (utility : String) → List KnownOption → List String →
    (Arguments → JobM Nat) → JobM Nat :=
  withArgumentsOr 1

end JobM

end ReplyScript
