import ReplyScript.Shell.Syntax
import ReplyScript.Text.Lines

/-! # Reading shell scripts

A script is read one complete command at a time. Words and commands are read by functions that call
each other, because a word may hold commands whose output it stands for. A text of the script that
is the input of a command stands behind the line of the command.
-/

namespace ReplyScript.Shell

/-- What is wrong with a script, and on which line. -/
structure Complaint where
  line : Nat
  message : String
  deriving Repr, DecidableEq, BEq, Inhabited

/-- A text of the script that has been announced but not yet read. -/
structure Announced where
  number : Nat
  stripTabs : Bool
  /-- The text stands for itself if its last line was announced with quotes. -/
  literal : Bool
  lastLine : String
  deriving Repr, DecidableEq, BEq, Inhabited

structure Reader where
  rest : List Char
  line : Nat := 1
  /-- A token that was read but not used. -/
  pushed : Option Token := none
  announced : List Announced := []
  documents : List (Nat × Word) := []
  /-- The number of the next text. -/
  count : Nat := 0
  /-- The words that stand for texts at the start of commands. -/
  aliases : List (String × String) := []
  /-- The words whose texts are being read, with how much of the script is left behind them. -/
  inUse : List (String × Nat) := []
  /-- The word behind a text may stand for a text too: how much of the script is left before it. -/
  goesOn : Option Nat := none

abbrev Read := StateT Reader (Except Complaint)

/-- A character that may begin the name of a variable. -/
def isNameStart (c : Char) : Bool := c.isAlpha || c == '_'

/-- A character that may continue the name of a variable. -/
def isNameChar (c : Char) : Bool := c.isAlphanum || c == '_'

/-- Whether a text is the name of a variable. -/
def isName (s : String) : Bool :=
  match s.toList with
  | c :: cs => isNameStart c && cs.all isNameChar
  | [] => false

/-- The parameters that are named by one character. -/
def isSpecial (c : Char) : Bool := c.isDigit || "!#$*-?@".toList.contains c

def endsWord (c : Char) : Bool := " \t\n;&|<>()".toList.contains c

namespace Read

/-- Give up because of the script. -/
def fail (message : String) : Read α := do
  throw ⟨(← get).line, "Syntax error: " ++ message⟩

/-- Give up at a token; `expected` is what should have come. -/
def unexpected (t : Token) (expected : Option Token := none) : Read α :=
  fail (t.name ++ " unexpected" ++ match expected with
    | none => ""
    | some e => " (expecting " ++ e.name ++ ")")

/-- Go `n` characters on, which are not line ends. -/
def advance (n : Nat) : Read Unit :=
  modify fun r => { r with rest := r.rest.drop n }

def step : Read Unit :=
  modify fun r =>
    { r with rest := r.rest.tail, line := if r.rest.head? = some '\n' then r.line + 1 else r.line }

/-- Leave a token to be read again. -/
def unread (t : Token) : Read Unit :=
  modify fun r => { r with pushed := some t }

/-- The text that a word stands for where a command may start, put in place of the word. -/
def substitute (startsCommand : Bool) (w : Word) : Read Bool := do
  let r ← get
  let left := r.rest.length
  let isNext := (r.goesOn.map fun before => decide (left < before)).getD false
  if isNext then modify fun r => { r with goesOn := none }
  match w with
  | [.text name false] =>
      if !(startsCommand || isNext) || r.inUse.any fun (n, behind) => n = name ∧ behind ≤ left then
        return false
      match r.aliases.lookup name with
      | none => return false
      | some text =>
          let goesOn : Bool := text.toList.getLast?.any fun c => c = ' ' ∨ c = '\t'
          modify fun r => { r with
            rest := text.toList ++ r.rest
            inUse := (name, left) :: r.inUse
            goesOn := if goesOn then some left else none }
          return true
  | _ => return false

/-- Announce a text whose last line is given; its number is returned. -/
def announce (stripTabs literal : Bool) (lastLine : String) : Read Nat := do
  let number := (← get).count
  modify fun r => { r with
    count := number + 1, announced := r.announced ++ [⟨number, stripTabs, literal, lastLine⟩] }
  return number

end Read

open Read

/-- What a word is being read as part of. -/
inductive Mode where
  | word
  /-- Between double quotes. -/
  | quotes
  /-- A text of the script. -/
  | document
  /-- Behind a parameter in braces; perhaps between double quotes. -/
  | braces (quoted : Bool)
  /-- Between double parentheses, of which some more single ones are open. -/
  | arithmetic (depth : Nat)
  deriving Repr, DecidableEq, BEq, Inhabited

namespace Mode

def isQuoted : Mode → Bool
  | word | braces false => false
  | _ => true

/-- What is said when a script ends too early. -/
def unclosed : Mode → Option String
  | word | document => none
  | quotes | braces true => some "Unterminated quoted string"
  | braces false => some "Missing '\x7d'"
  | arithmetic _ => some "Missing '))'"

/-- The characters that a backslash takes the meaning of; elsewhere it stands for itself. -/
def escapable : Mode → Char → Bool
  | word, _ | braces false, _ => true
  | quotes, c | arithmetic _, c => "$\x60\"\\".toList.contains c
  | document, c => "$\x60\\".toList.contains c
  | braces true, c => "$\x60\"\\\x7d".toList.contains c

end Mode

/-- A text in front of the parts that follow it. The text is held latest first. -/
def flush (text : List Char) (quoted : Bool) (parts : List Part) : List Part :=
  if text = [] then parts else .text (String.ofList text.reverse) quoted :: parts

/-- The commands between backquotes: backslashes before some characters do not count. -/
def backquoted (quoted : Bool) : List Char → Option (List Char × List Char)
  | [] => none
  | '\x60' :: rest => some ([], rest)
  | '\\' :: '\n' :: rest => backquoted quoted rest
  | '\\' :: c :: rest =>
      (backquoted quoted rest).map fun (inner, rest) =>
        (if c = '\\' ∨ c = '\x60' ∨ c = '$' ∨ (quoted ∧ c = '"') then c :: inner
          else '\\' :: c :: inner, rest)
  | c :: rest => (backquoted quoted rest).map fun (inner, rest) => (c :: inner, rest)

/-- The name of a parameter that is written in braces, and whether its length is meant. The braces
have been opened. `none` is something that names no parameter. -/
def parameterName (cs : List Char) : Option (Bool × String × List Char) :=
  let named (isLength : Bool) (cs : List Char) : Option (Bool × String × List Char) :=
    match cs with
    | c :: _ =>
        if isNameStart c then
          some (isLength, String.ofList (cs.takeWhile isNameChar), cs.dropWhile isNameChar)
        else if c.isDigit then
          some (isLength, String.ofList (cs.takeWhile Char.isDigit), cs.dropWhile Char.isDigit)
        else none
    | [] => none
  match named false cs, cs with
  | some found, _ => some found
  | none, '#' :: '\x7d' :: rest => some (false, "#", '\x7d' :: rest)
  | none, '#' :: rest =>
      match named true rest, rest with
      | some found, _ => some found
      | none, c :: '\x7d' :: after =>
          if isSpecial c then some (true, String.singleton c, '\x7d' :: after)
          else some (false, "#", rest)
      | none, _ => some (false, "#", rest)
  | none, c :: rest => if isSpecial c then some (false, String.singleton c, rest) else none
  | none, [] => none

/-- A number of characters at the start that are blanks, comments and joined lines between
tokens. -/
def skipGap : (fuel : Nat) → Read Unit
  | 0 => return
  | fuel + 1 => do
      match (← get).rest with
      | ' ' :: _ | '\t' :: _ =>
          advance 1
          skipGap fuel
      | '\\' :: '\n' :: _ =>
          advance 1
          step
          skipGap fuel
      | '#' :: rest =>
          advance (rest.takeWhile (· ≠ '\n')).length
          advance 1
          skipGap fuel
      | _ => return

/-- The operators, longer ones first. -/
def operators : List (String × Token) :=
  [("&&", .andIf), ("||", .orIf), (";;", .endCase), ("&", .ampersand), ("|", .bar),
   (";", .semicolon), ("(", .open_), (")", .close)]

/-- The redirections, longer ones first, with the channel that they are for by themselves. -/
def openings : List (String × Nat × Opening) :=
  [(">>", 1, .append), (">|", 1, .overwrite), (">&", 1, .duplicate), (">", 1, .write),
   ("<&", 0, .duplicate), ("<>", 0, .readWrite), ("<", 0, .read)]

/-- The channel that a word in front of a redirection names: a digit, or nothing. -/
def channelOf? : Word → Option (Option Nat)
  | [] => some none
  | [.text s false] =>
      match s.toList with
      | [c] => if c.isDigit then some (some (c.toNat - 48)) else none
      | _ => none
  | _ => none

/-- Read a redirection behind the word in front of it, if there is one. -/
def readOpening (channel : Option Nat) : Read (Option Token) := do
  let cs := (← get).rest
  match cs with
  | '<' :: '<' :: rest =>
      let strip := rest.head? = some '-'
      advance (if strip then 3 else 2)
      return some (.document (channel.getD 0) strip)
  | _ =>
      match openings.find? fun (text, _) => text.toList.isPrefixOf cs with
      | some (text, usual, opening) =>
          advance text.length
          return some (.redirection (channel.getD usual) opening)
      | none => return none

/-- A word as the last line of a text: quotes do not count. -/
def lineOfWord (w : Word) : String :=
  String.join <| w.map fun
    | .text s _ => s
    | .parameter name _ _ => "$" ++ name
    | _ => ""

/-- An assignment in front of a command: a name, an equals sign and a value. -/
def assignment? : Word → Option (String × Word)
  | .text s false :: parts =>
      match s.toList.dropWhile isNameChar with
      | '=' :: value =>
          let name := String.ofList (s.toList.takeWhile isNameChar)
          if isName name then
            some (name, if value = [] then parts else .text (String.ofList value) false :: parts)
          else none
      | _ => none
  | _ => none

/-- The builtins whose names functions may not have. -/
def specialNames : List String :=
  [".", ":", "break", "continue", "eval", "exec", "exit", "export", "readonly", "return", "set",
   "shift", "times", "trap", "unset"]

/-- The lines of a text up to its last line, and what follows them. -/
def takeDocument (stripTabs : Bool) (lastLine : String) : (fuel : Nat) → List Char →
    List Char × List Char
  | 0, cs => ([], cs)
  | fuel + 1, cs =>
      let cs := if stripTabs then cs.dropWhile (· == '\t') else cs
      let line := cs.takeWhile (· ≠ '\n')
      let rest := cs.drop line.length
      if cs = [] then ([], [])
      else if String.ofList line = lastLine then ([], rest.drop 1)
      else
        let ending := rest.take 1
        let (more, rest) := takeDocument stripTabs lastLine fuel (rest.drop 1)
        (line ++ ending ++ more, rest)

mutual

/-- Read the parts of a word. `text` is read but not yet a part, latest first. The fuel bounds the
steps. -/
def readParts : (fuel : Nat) → Mode → (text : List Char) → Read (List Part)
  | 0, mode, text => return flush text mode.isQuoted []
  | fuel + 1, mode, text => do
      let quoted := mode.isQuoted
      let goOn (c : Char) : Read (List Part) := do
        step
        readParts fuel mode (c :: text)
      let behind (part : Part) : Read (List Part) := do
        return flush text quoted (part :: (← readParts fuel mode []))
      match (← get).rest with
      | [] =>
          match mode.unclosed with
          | some message => fail message
          | none => return flush text quoted []
      | ['\\'] => goOn '\\'
      | '\\' :: '\n' :: _ =>
          advance 1
          step
          readParts fuel mode text
      | '\\' :: c :: _ =>
          if mode.escapable c then
            advance 1
            step
            if quoted then readParts fuel mode (c :: text)
            else behind (.text (String.singleton c) true)
          else
            advance 1
            step
            readParts fuel mode (c :: '\\' :: text)
      | '$' :: _ =>
          advance 1
          match ← readExpansion fuel quoted with
          | some part => behind part
          | none => readParts fuel mode ('$' :: text)
      | '\x60' :: rest =>
          match backquoted quoted rest with
          | none => fail "EOF in backquote substitution"
          | some (inner, after) =>
              let outer ← get
              set { outer with rest := inner, pushed := none, announced := [] }
              let body ← readItems fuel true none
              readDocuments fuel
              let inside ← get
              set { inside with
                rest := after, pushed := outer.pushed, announced := outer.announced }
              behind (.output body quoted)
      | '"' :: _ =>
          match mode with
          | .quotes =>
              advance 1
              return flush text true []
          | .document | .arithmetic _ => goOn '"'
          | .word | .braces _ =>
              advance 1
              let inner ← readParts fuel .quotes []
              let inner := if inner.isEmpty then [.text "" true] else inner
              return flush text quoted (inner ++ (← readParts fuel mode []))
      | '\'' :: rest =>
          if quoted then goOn '\''
          else
            let inner := rest.takeWhile (· ≠ '\'')
            let lineEnds := (inner.filter (· == '\n')).length
            if inner.length = rest.length then
              modify fun r => { r with rest := [], line := r.line + lineEnds }
              fail "Unterminated quoted string"
            modify fun r =>
              { r with rest := rest.drop (inner.length + 1), line := r.line + lineEnds }
            behind (.text (String.ofList inner) true)
      | c :: rest =>
          match mode with
          | .word => if endsWord c then return flush text false [] else goOn c
          | .braces _ =>
              if c = '\x7d' then
                advance 1
                return flush text quoted []
              else goOn c
          | .arithmetic depth =>
              match c, depth with
              | '(', _ =>
                  advance 1
                  readParts fuel (.arithmetic (depth + 1)) (c :: text)
              | ')', depth + 1 =>
                  advance 1
                  readParts fuel (.arithmetic depth) (c :: text)
              | ')', 0 =>
                  if rest.head? = some ')' then
                    advance 2
                    return flush text true []
                  else goOn c
              | _, _ => goOn c
          | _ => goOn c

/-- Read what follows a dollar sign; `none` if that stands for itself. -/
def readExpansion : (fuel : Nat) → (quoted : Bool) → Read (Option Part)
  | 0, _ => return none
  | fuel + 1, quoted => do
      match (← get).rest with
      | '(' :: '(' :: _ =>
          advance 2
          return some (.arithmetic (← readParts fuel (.arithmetic 0) []) quoted)
      | '(' :: _ =>
          advance 1
          let outer ← get
          set { outer with pushed := none, announced := [] }
          let body ← readItems fuel true none
          let t ← readToken fuel false false
          match t with
          | .close => pure ()
          | t => unexpected t (some .close)
          modify fun r => { r with announced := outer.announced ++ r.announced }
          return some (.output body quoted)
      | '\x7b' :: rest =>
          match parameterName rest with
          | none =>
              advance 1
              let _ ← readParts fuel (.braces quoted) []
              return some (.parameter "" .bad quoted)
          | some (isLength, name, after) =>
              modify fun r => { r with rest := after }
              return some (.parameter name (← readUse fuel isLength quoted) quoted)
      | c :: rest =>
          if isNameStart c then
            advance ((c :: rest).takeWhile isNameChar).length
            return some (.parameter (String.ofList ((c :: rest).takeWhile isNameChar)) .value
              quoted)
          else if isSpecial c then
            advance 1
            return some (.parameter (String.singleton c) .value quoted)
          else return none
      | [] => return none

/-- Read what follows the name of a parameter in braces, up to the closing brace. -/
def readUse : (fuel : Nat) → (isLength quoted : Bool) → Read Use
  | 0, _, _ => return .bad
  | fuel + 1, isLength, quoted => do
      let bad : Read Use := do
        let _ ← readParts fuel (.braces quoted) []
        return .bad
      let word (skip : Nat) : Read Word := do
        advance skip
        readParts fuel (.braces quoted) []
      let pattern (skip : Nat) : Read Word := do
        advance skip
        readParts fuel (.braces false) []
      match (← get).rest with
      | '\x7d' :: _ =>
          advance 1
          return if isLength then .length else .value
      | cs =>
          if isLength then bad
          else match cs with
            | '-' :: _ => return .instead false (← word 1)
            | '=' :: _ => return .assign false (← word 1)
            | '?' :: _ => return .demand false (← word 1)
            | '+' :: _ => return .alternative false (← word 1)
            | ':' :: '-' :: _ => return .instead true (← word 2)
            | ':' :: '=' :: _ => return .assign true (← word 2)
            | ':' :: '?' :: _ => return .demand true (← word 2)
            | ':' :: '+' :: _ => return .alternative true (← word 2)
            | '#' :: '#' :: _ => return .dropStart true (← pattern 2)
            | '#' :: _ => return .dropStart false (← pattern 1)
            | '%' :: '%' :: _ => return .dropEnd true (← pattern 2)
            | '%' :: _ => return .dropEnd false (← pattern 1)
            | _ => bad

def readDocuments : (fuel : Nat) → Read Unit
  | 0 => return
  | fuel + 1 => do
      let r ← get
      match r.announced with
      | [] => return
      | a :: announced =>
          let (body, rest) := takeDocument a.stripTabs a.lastLine (r.rest.length + 1) r.rest
          let lineEnds := ((r.rest.take (r.rest.length - rest.length)).filter (· == '\n')).length
          let parts ← if a.literal then pure [.text (String.ofList body) true]
            else do
              set { r with rest := body, announced := [], pushed := none }
              readParts fuel .document []
          modify fun inner => { inner with
            rest, announced, pushed := r.pushed, line := r.line + lineEnds
            documents := (a.number, parts) :: inner.documents }
          readDocuments fuel

def cutToken : (fuel : Nat) → Read Token
  | 0 => return .stop
  | fuel + 1 => do
      skipGap ((← get).rest.length + 1)
      let cs := (← get).rest
      match cs with
      | [] => return .stop
      | '\n' :: _ =>
          step
          return .newline
      | _ =>
          match operators.find? fun (text, _) => text.toList.isPrefixOf cs with
          | some (text, t) =>
              advance text.length
              return t
          | none =>
              let w ← readParts fuel .word []
              match channelOf? w with
              | some channel =>
                  match ← readOpening channel with
                  | some t => return t
                  | none => return .word w
              | none => return .word w

/-- Read a token, which may be a keyword; line ends before it may not count. -/
def readToken : (fuel : Nat) → (keywords newlines : Bool) → Read Token
  | 0, _, _ => return .stop
  | fuel + 1, keywords, newlines => do
      let isFresh := (← get).pushed.isNone
      let t ← match (← get).pushed with
        | some t => do
            modify fun r => { r with pushed := none }
            pure t
        | none => cutToken fuel
      match t with
      | .newline =>
          if newlines then
            readDocuments fuel
            readToken fuel keywords newlines
          else return .newline
      | .word w =>
          match if keywords then Keyword.ofWord? w else none with
          | some k => return .keyword k
          | none =>
              if isFresh ∧ (← substitute keywords w) then readToken fuel keywords newlines
              else return .word w
      | t => return t

/-- Read commands one after the other. `mayEnd` tells whether a token that ends a list may come
next; `before` is what was read so far. -/
def readItems : (fuel : Nat) → (mayEnd : Bool) → (before : Option Command) → Read Command
  | 0, _, before => return before.getD .nothing
  | fuel + 1, mayEnd, before => do
      let t ← readToken fuel true true
      unread t
      match t with
      | .stop => return before.getD .nothing
      | t =>
          if mayEnd && t.endsList then return before.getD .nothing
          let (item, t) ← readItem fuel
          let all := match before with
            | none => item
            | some before => .sequence before item
          match t with
          | .newline =>
              unread t
              readItems fuel true (some all)
          | .semicolon | .ampersand => readItems fuel true (some all)
          | t =>
              unread t
              return all

/-- Read pipelines with the token behind them, which may put them into the background. -/
def readItem : (fuel : Nat) → Read (Command × Token)
  | 0 => return (.nothing, .stop)
  | fuel + 1 => do
      let first ← readPipeline fuel false
      let item ← readChain fuel first
      let t ← readToken fuel false false
      match t with
      | .ampersand => return (.background item, t)
      | t => return (item, t)

/-- Read the pipelines joined to a first one. -/
def readChain : (fuel : Nat) → Command → Read Command
  | 0, first => return first
  | fuel + 1, first => do
      match ← readToken fuel false false with
      | .andIf => readChain fuel (.both first (← readPipeline fuel true))
      | .orIf => readChain fuel (.either first (← readPipeline fuel true))
      | t =>
          unread t
          return first

/-- Read commands joined by pipes. `fresh` tells that they start a line of thought, where keywords
and line ends are expected. -/
def readPipeline : (fuel : Nat) → (fresh : Bool) → Read Command
  | 0, _ => return .nothing
  | fuel + 1, fresh => do
      match ← readToken fuel fresh fresh with
      | .keyword .not =>
          let first ← readCommand fuel true false
          return .negation (← readPipes fuel [first])
      | t =>
          unread t
          let first ← readCommand fuel false false
          readPipes fuel [first]

/-- Read the commands behind pipes. Those before are held latest first. -/
def readPipes : (fuel : Nat) → List Command → Read Command
  | 0, _ => return .nothing
  | fuel + 1, before => do
      match ← readToken fuel false false with
      | .bar => readPipes fuel ((← readCommand fuel true true) :: before)
      | t =>
          unread t
          return match before with
            | [only] => only
            | before => .pipe before.reverse

def readCommand : (fuel : Nat) → (keywords newlines : Bool) → Read Command
  | 0, _, _ => return .nothing
  | fuel + 1, keywords, newlines => do
      let t ← readToken fuel keywords newlines
      let line := (← get).line
      let close (expected : Token) (body : Command) : Read Command := do
        let t ← readToken fuel false false
        if t.name ≠ expected.name then unexpected t (some expected)
        readTargets fuel line body
      match t with
      | .word _ | .redirection .. | .document .. =>
          unread t
          readSimple fuel line true [] [] []
      | .open_ => close .close (.subshell (← readItems fuel false none))
      | .keyword .open_ => close (.keyword .close) (← readItems fuel false none)
      | .keyword .if_ => close (.keyword .fi) (← readConditional fuel)
      | .keyword .while_ => close (.keyword .done) (← readLoop fuel false)
      | .keyword .until_ => close (.keyword .done) (← readLoop fuel true)
      | .keyword .for_ => close (.keyword .done) (← readEach fuel)
      | .keyword .case => do
          let subject ← match ← readToken fuel false false with
            | .word w => pure w
            | t => unexpected t (some (.word []))
          match ← readToken fuel true true with
          | .keyword .in_ => pure ()
          | t => unexpected t (some (.keyword .in_))
          readTargets fuel line (.choose subject (← readCases fuel))
      | t => unexpected t

def readTargets : (fuel : Nat) → (line : Nat) → Command → Read Command
  | 0, _, body => return body
  | fuel + 1, line, body => do
      let redirections ← readRedirections fuel true
      return if redirections.isEmpty then body else .redirected line body redirections

def readRedirections : (fuel : Nat) → (keywords : Bool) → Read (List Redirection)
  | 0, _ => return []
  | fuel + 1, keywords => do
      let t ← readToken fuel keywords false
      match ← readTarget fuel t with
      | some r => return r :: (← readRedirections fuel keywords)
      | none =>
          unread t
          return []

def readTarget : (fuel : Nat) → Token → Read (Option Redirection)
  | 0, _ => return none
  | fuel + 1, t => do
      let word : Read Word := do
        match ← readToken fuel false false with
        | .word w => return w
        | t => unexpected t
      match t with
      | .redirection channel opening => return some (.file channel opening (← word))
      | .document channel stripTabs =>
          let w ← word
          return some (.document channel (← announce stripTabs (isQuoted w) (lineOfWord w)))
      | _ => return none

/-- Read the rest of a simple command. What was read of it is held latest first. `first` tells that
no word has come yet that is not an assignment. -/
def readSimple : (fuel : Nat) → (line : Nat) → (first : Bool) → List (String × Word) →
    List Word → List Redirection → Read Command
  | 0, _, _, _, _, _ => return .nothing
  | fuel + 1, line, first, assignments, words, redirections => do
      let t ← readToken fuel false false
      let finished : Read Command := do
        unread t
        return .simple line assignments.reverse words.reverse redirections.reverse
      match t with
      | .word w =>
          match if first then assignment? w else none with
          | some a => readSimple fuel line true (a :: assignments) words redirections
          | none => readSimple fuel line false assignments (w :: words) redirections
      | .open_ =>
          match assignments, words, redirections with
          | [], [w], [] =>
              match ← readToken fuel false false with
              | .close => pure ()
              | t => unexpected t (some .close)
              match plainText? w with
              | some name =>
                  if !isName name || specialNames.contains name then fail "Bad function name"
                  return .define name (← readCommand fuel true true)
              | none => fail "Bad function name"
          | _, _, _ => finished
      | t =>
          match ← readTarget fuel t with
          | some r => readSimple fuel line first assignments words (r :: redirections)
          | none => finished

/-- Read a conditional behind its keyword, up to the keyword that ends it. -/
def readConditional : (fuel : Nat) → Read Command
  | 0 => return .nothing
  | fuel + 1 => do
      let test ← readItems fuel false none
      match ← readToken fuel false false with
      | .keyword .then_ => pure ()
      | t => unexpected t (some (.keyword .then_))
      let body ← readItems fuel false none
      match ← readToken fuel false false with
      | .keyword .elif => return .conditional test body (← readConditional fuel)
      | .keyword .else_ => return .conditional test body (← readItems fuel false none)
      | t =>
          unread t
          return .conditional test body .nothing

/-- Read a loop behind its keyword, up to the keyword that ends it. -/
def readLoop : (fuel : Nat) → (untilSuccess : Bool) → Read Command
  | 0, _ => return .nothing
  | fuel + 1, untilSuccess => do
      let test ← readItems fuel false none
      match ← readToken fuel false false with
      | .keyword .do_ => pure ()
      | t => unexpected t (some (.keyword .do_))
      return .loop test (← readItems fuel false none) untilSuccess

/-- Read a loop over words behind its keyword, up to the keyword that ends it. Without words it goes
over the arguments. -/
def readEach : (fuel : Nat) → Read Command
  | 0 => return .nothing
  | fuel + 1 => do
      let name ← match ← readToken fuel false false with
        | .word w =>
            match (plainText? w).filter isName with
            | some name => pure name
            | none => fail "Bad for loop variable"
        | _ => fail "Bad for loop variable"
      let items ← match ← readToken fuel true true with
        | .keyword .in_ => do
            let items ← readWords fuel
            match ← readToken fuel false false with
            | .newline | .semicolon => pure items
            | t => unexpected t
        | .semicolon => pure [[.parameter "@" .value true]]
        | t => do
            unread t
            pure [[.parameter "@" .value true]]
      match ← readToken fuel true true with
      | .keyword .do_ => pure ()
      | t => unexpected t (some (.keyword .do_))
      return .each name items (← readItems fuel false none)

def readWords : (fuel : Nat) → Read (List Word)
  | 0 => return []
  | fuel + 1 => do
      match ← readToken fuel false false with
      | .word w => return w :: (← readWords fuel)
      | t =>
          unread t
          return []

/-- Read the cases of a choice, up to the keyword that ends it. -/
def readCases : (fuel : Nat) → Read (List (List Word × Command))
  | 0 => return []
  | fuel + 1 => do
      let t ← readToken fuel true true
      match t with
      | .keyword .esac => return []
      | t =>
          let t ← match t with
            | .open_ => readToken fuel false false
            | t => pure t
          let patterns ← readPatterns fuel t
          let body ← readItems fuel true none
          match ← readToken fuel true true with
          | .keyword .esac => return [(patterns, body)]
          | .endCase => return (patterns, body) :: (← readCases fuel)
          | t => unexpected t (some .endCase)

/-- Read the patterns of a case, of which the first token has been read, and the parenthesis behind
them. -/
def readPatterns : (fuel : Nat) → Token → Read (List Word)
  | 0, _ => return []
  | fuel + 1, t => do
      let pattern : Word := match t with
        | .word w => w
        | .keyword k => [.text k.text false]
        | _ => []
      match ← readToken fuel false false with
      | .bar => return pattern :: (← readPatterns fuel (← readToken fuel false false))
      | .close => return [pattern]
      | t => unexpected t (some .close)

end

/-- Read commands up to the end of a line; `none` at the end of the script. -/
def readLine : (fuel : Nat) → (before : Option Command) → Read (Option Command)
  | 0, before => return before
  | fuel + 1, before => do
      match ← readToken fuel true false with
      | .newline =>
          readDocuments fuel
          return some (before.getD .nothing)
      | .stop =>
          if before.isSome then
            readDocuments fuel
            unread .stop
          return before
      | t =>
          unread t
          let (item, t) ← readItem fuel
          let all := match before with
            | none => item
            | some before => .sequence before item
          match t with
          | .newline | .stop =>
              unread t
              readLine fuel (some all)
          | .semicolon | .ampersand => readLine fuel (some all)
          | t => unexpected t

namespace Reader

/-- How many steps it may take to read what is left. -/
def fuel (r : Reader) : Nat :=
  8 * (r.rest.length + 1) * ((r.aliases.map fun (_, text) => text.length).foldl (· + ·) 0 + 1) + 64

/-- Read the next complete command of a script; `none` at its end. -/
def next (r : Reader) : Except Complaint (Option Command × Reader) :=
  (readLine r.fuel none).run r

end Reader

end ReplyScript.Shell
