import ReplyScript.Script.Argument
import ReplyScript.Text.Blank
import ReplyScript.Text.Utf8

/-! # Directive lines

A line is a directive when it starts with `@` and at least one token follows. A token is a run of
non-blank characters and of double-quoted segments, which may hold blanks. Quotes stay attached. A
quote without a partner separates tokens like a blank.
-/

namespace ReplyScript.Script

/-! ## Tokens -/

/-- Cut at blanks outside quotes and at a quote without a partner. `quoted` tells whether a quote
is open; one is opened only when its partner follows. -/
def cutTokens : (quoted : Bool) → List Char → List (List Char)
  | _, [] => [[]]
  | quoted, c :: cs =>
      if c = '"' then
        if quoted then (cutTokens false cs).modifyHead (c :: ·)
        else if '"' ∈ cs then (cutTokens true cs).modifyHead (c :: ·)
        else [] :: cutTokens false cs
      else if !quoted && Text.isBlank c then [] :: cutTokens false cs
      else (cutTokens quoted cs).modifyHead (c :: ·)

/-- The tokens of a text, in order. -/
def tokenize (s : String) : List String :=
  ((cutTokens false s.toList).filter (· ≠ [])).map String.ofList

/-! ## Tokens by bytes

A text can be gone over byte by byte, too: one loop looks for the start of a token, another for its
end. There is no result if the text would be cut within a character, or if a loop goes on for more
turns than `fuel`.
-/

/-- The characters from a byte on. -/
def charsFrom? (text : String) (i : Nat) : Option (List Char) :=
  (Text.cut? i text.toList).map Prod.snd

/-- The byte of the next quote behind a byte, if there is one. -/
def closingQuote? (text : String) (i : Nat) : Option (Option Nat) := do
  let behind ← charsFrom? text (i + 1)
  return if '"' ∈ behind then some (i + 1 + Text.byteCount (behind.takeWhile (· ≠ '"'))) else none

/-- Whether the character at a byte is a quote without a partner. -/
def isStray? (text : String) (i : Nat) (c : Char) : Option Bool :=
  if c = '"' then (closingQuote? text i).map Option.isNone else some false

def tokenEnd? (text : String) : (fuel i : Nat) → Option Nat
  | 0, _ => none
  | fuel + 1, i =>
      if i < text.utf8ByteSize then do
        let c := (← charsFrom? text i).headD ' '
        if Text.isBlank c then return i
        else if c = '"' then
          match ← closingQuote? text i with
          | some stop => tokenEnd? text fuel (stop + 1)
          | none => return i
        else tokenEnd? text fuel (i + c.utf8Size)
      else return i

def scanTokens? (text : String) : (fuel i : Nat) → Option (List String)
  | 0, _ => none
  | fuel + 1, i =>
      if i < text.utf8ByteSize then do
        let c := (← charsFrom? text i).headD ' '
        if Text.isBlank c then scanTokens? text fuel (i + c.utf8Size)
        else if ← isStray? text i c then scanTokens? text fuel (i + 1)
        else
          let stop ← tokenEnd? text (fuel + 1) i
          let token ← Text.slice? text i stop
          return token :: (← scanTokens? text fuel stop)
      else return []

/-- Remove one pair of surrounding double quotes, if there is one. -/
def unquote (token : String) : String :=
  match token.toList with
  | '"' :: rest => if rest.getLast? = some '"' then String.ofList rest.dropLast else token
  | _ => token

/-! ## Directives -/

/-- A directive line: a name and raw argument tokens. -/
structure Directive where
  name : String
  tokens : List String
  deriving Repr, DecidableEq, BEq, Inhabited

namespace Directive

def ofLine? (line : String) : Option Directive :=
  match line.toList with
  | '@' :: rest =>
      match tokenize (String.ofList rest) with
      | name :: tokens => some ⟨name, tokens⟩
      | [] => none
  | _ => none

/-- The one directive whose tokens must all be JSON scalars. -/
def strictName : String := "input"

/-- The value of a token where any text will do: a token that is no JSON scalar loses its quotes. -/
def argument (token : String) : Argument :=
  (Argument.decode? token).getD (.text (unquote token))

/-- The values of tokens that must be JSON scalars, or the first that is none. -/
def strictArguments : List String → Except String (List Argument)
  | [] => .ok []
  | token :: tokens =>
      match Argument.decode? token with
      | none => .error token
      | some a => (strictArguments tokens).map (a :: ·)

def arguments (d : Directive) : Except String (List Argument) :=
  if d.name = strictName then strictArguments d.tokens else .ok (d.tokens.map argument)

end Directive

end ReplyScript.Script
