/-! # Shell scripts

The commands of a shell: words with expansions, redirections, pipes, lists, conditions, loops and
functions. Texts in the shell hold bytes, each as the character with its number.
-/

namespace ReplyScript.Shell

/-- What is done to a channel. The names of files and the numbers of channels are words, which are
kept by the redirection. -/
inductive Opening where
  | read
  | write
  /-- Write, also if files are kept from being overwritten. -/
  | overwrite
  | append
  | readWrite
  /-- The channel leads where another one does. -/
  | duplicate
  deriving Repr, DecidableEq, BEq, Inhabited

mutual

/-- A piece of a word. What is not quoted is split into fields and may hold wildcards. -/
inductive Part where
  | text (s : String) (quoted : Bool)
  | parameter (name : String) (use : Use) (quoted : Bool)
  /-- The output of commands. -/
  | output (body : Command) (quoted : Bool)
  | arithmetic (expression : List Part) (quoted : Bool)

/-- What a parameter is used for. The flag `orEmpty` says that an empty value counts as none. -/
inductive Use where
  | value
  | length
  | instead (orEmpty : Bool) (word : List Part)
  | assign (orEmpty : Bool) (word : List Part)
  | demand (orEmpty : Bool) (word : List Part)
  | alternative (orEmpty : Bool) (word : List Part)
  | dropStart (longest : Bool) (pattern : List Part)
  | dropEnd (longest : Bool) (pattern : List Part)
  /-- Something that is not known. -/
  | bad

/-- Where a channel of a command is led. -/
inductive Redirection where
  | file (channel : Nat) (opening : Opening) (target : List Part)
  /-- The input is a text of the script, by its number. -/
  | document (channel : Nat) (number : Nat)

/-- A command line after reading. Commands that can fail know their line. -/
inductive Command where
  | nothing
  | simple (line : Nat) (assignments : List (String × List Part)) (words : List (List Part))
      (redirections : List Redirection)
  | redirected (line : Nat) (body : Command) (redirections : List Redirection)
  | pipe (commands : List Command)
  | both (first second : Command)
  | either (first second : Command)
  | sequence (first second : Command)
  | negation (body : Command)
  | background (body : Command)
  /-- What happens inside changes no variables outside. -/
  | subshell (body : Command)
  | conditional (test body other : Command)
  /-- While the test succeeds, or until it does. -/
  | loop (test body : Command) (untilSuccess : Bool)
  | each (name : String) (items : List (List Part)) (body : Command)
  | choose (subject : List Part) (cases : List (List (List Part) × Command))
  | define (name : String) (body : Command)

end

instance : Inhabited Part := ⟨.text "" false⟩

instance : Inhabited Command := ⟨.nothing⟩

instance : Inhabited Redirection := ⟨.document 0 0⟩

/-- The parts of a word, which are put together without blanks. -/
abbrev Word := List Part

/-- The words with a meaning of their own where a command may start. -/
inductive Keyword where
  | not | case | do_ | done | elif | else_ | esac | fi | for_ | if_ | in_ | then_ | until_ | while_
  | open_ | close
  deriving Repr, DecidableEq, BEq, Inhabited

namespace Keyword

def all : List (String × Keyword) :=
  [("!", not), ("case", case), ("do", do_), ("done", done), ("elif", elif), ("else", else_),
   ("esac", esac), ("fi", fi), ("for", for_), ("if", if_), ("in", in_), ("then", then_),
   ("until", until_), ("while", while_), ("\x7b", open_), ("\x7d", close)]

def text (k : Keyword) : String :=
  ((all.find? (·.2 == k)).map (·.1)).getD ""

def endsList : Keyword → Bool
  | do_ | done | elif | else_ | esac | fi | then_ | close => true
  | _ => false

end Keyword

inductive Token where
  | stop
  | newline
  | semicolon
  | ampersand
  | andIf
  | orIf
  | bar
  | open_
  | close
  | endCase
  /-- A redirection, but for its target. -/
  | redirection (channel : Nat) (opening : Opening)
  /-- A text of the script; `stripTabs` says that tabs at the start of its lines do not count. -/
  | document (channel : Nat) (stripTabs : Bool)
  | word (w : Word)
  | keyword (k : Keyword)

instance : Inhabited Token := ⟨.stop⟩

namespace Token

/-- A token as it is named in error messages. -/
def name : Token → String
  | stop => "end of file"
  | newline => "newline"
  | semicolon => "\";\""
  | ampersand => "\"&\""
  | andIf => "\"&&\""
  | orIf => "\"||\""
  | bar => "\"|\""
  | open_ => "\"(\""
  | close => "\")\""
  | endCase => "\";;\""
  | redirection .. | document .. => "redirection"
  | word _ => "word"
  | keyword k => "\"" ++ k.text ++ "\""

def endsList : Token → Bool
  | stop | close | endCase => true
  | keyword k => k.endsList
  | _ => false

end Token

/-- The text of a word without quotes and expansions. -/
def plainText? : Word → Option String
  | [.text s false] => some s
  | _ => none

def Keyword.ofWord? (w : Word) : Option Keyword :=
  (plainText? w).bind fun s => Keyword.all.lookup s

def isQuoted (w : Word) : Bool :=
  w.any fun
    | .text _ quoted | .parameter _ _ quoted | .output _ quoted | .arithmetic _ quoted => quoted

end ReplyScript.Shell
