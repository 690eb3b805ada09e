import ReplyScript.Pattern.Syntax
import ReplyScript.Text.Property

/-! # Reading characters and escapes of patterns

A reader moves over the text of a pattern. `readEscape` reads what follows a backslash, both inside
and outside of bracketed classes.
-/

namespace ReplyScript.Pattern

/-- Where the reader is and what it has seen. -/
structure Reader where
  rest : List Char
  offset : Nat := 0
  /-- Whether blanks and comments do not count. -/
  ignoreBlanks : Bool := false
  captures : Nat := 0
  names : List (String × Nat × Extent) := []

/-- A reading step: it moves the reader forward or stops with the first error. -/
abbrev Parse := StateT Reader (Except PatternError)

namespace Parse

def refuse (problem : Problem) (start stop : Nat) (other : Option Extent := none) : Parse α :=
  throw (.unreadable problem ⟨start, stop⟩ other)

/-- The next character, left where it is. -/
def current : Parse (Option Char) :=
  return (← get).rest.head?

/-- The character after the next one. -/
def next : Parse (Option Char) :=
  return (← get).rest.tail.head?

/-- How many characters lie before the next one. -/
def offset : Parse Nat :=
  return (← get).offset

def atEnd : Parse Bool :=
  return (← get).rest.isEmpty

def advance (n : Nat) : Parse Unit :=
  modify fun r =>
    { r with rest := r.rest.drop n, offset := r.offset + min n r.rest.length }

def blankLength : (inComment : Bool) → List Char → Nat
  | _, [] => 0
  | true, c :: cs => blankLength (c ≠ '\n') cs + 1
  | false, c :: cs =>
      if Text.isBlank c then blankLength false cs + 1
      else if c = '#' then blankLength true cs + 1
      else 0

/-- Skip blanks if they do not count. -/
def skipBlanks : Parse Unit := do
  if (← get).ignoreBlanks then advance (blankLength false (← get).rest)

/-- Go one character on and skip blanks; tells whether something is left. -/
def step : Parse Bool := do
  advance 1
  skipBlanks
  return !(← atEnd)

def takeWord (word : String) : Parse Bool := do
  if word.toList.isPrefixOf (← get).rest then
    advance word.length
    return true
  else return false

/-- What comes first once blanks, and at most one number sign among them, are passed over. -/
def pastBlanks (cs : List Char) : Option Char :=
  let rest := match cs.dropWhile Text.isBlank with
    | '#' :: rest => rest.dropWhile Text.isBlank
    | rest => rest
  rest.head?.or cs.head?

/-- The next character that counts after the current one. -/
def afterCurrent : Parse (Option Char) := do
  let r ← get
  return if r.ignoreBlanks then pastBlanks r.rest.tail else r.rest.tail.head?

end Parse

open Parse

/-- The characters that are special in a pattern. -/
def isMeta (c : Char) : Bool :=
  "\\.+*?()|[]\x7b\x7d^$#&-~".toList.contains c

/-- Other characters that a backslash leaves as they are. -/
def isPlainEscape (c : Char) : Bool :=
  c.toNat < 128 && !c.isAlphanum && c != '<' && c != '>'

/-- A digit of base sixteen, in either case. -/
def isHexDigit (c : Char) : Bool :=
  c.isDigit || ('a' ≤ c && c ≤ 'f') || ('A' ≤ c && c ≤ 'F')

/-- The character with a code point written in hexadecimal. -/
def charOfHex? (digits : List Char) : Option Char :=
  let n := Text.hexValue digits
  if n.isValidChar then some (Char.ofNat n) else none

/-- Read `count` hexadecimal digits; the first of them is the current character. -/
def readHexDigits : (count : Nat) → Parse (List Char)
  | 0 => return []
  | count + 1 => do
      match ← current with
      | none => refuse .escapeUnexpectedEnd (← offset) (← offset)
      | some c =>
          if !isHexDigit c then refuse .escapeHexInvalidDigit (← offset) ((← offset) + 1)
          let _ ← step
          return c :: (← readHexDigits count)

/-- Read hexadecimal digits up to a closing brace; the fuel bounds their number. -/
def readBracedDigits : (fuel : Nat) → Parse (List Char)
  | 0 => return []
  | fuel + 1 => do
      match ← current with
      | none | some '\x7d' => return []
      | some c =>
          if !isHexDigit c then refuse .escapeHexInvalidDigit (← offset) ((← offset) + 1)
          let _ ← step
          return c :: (← readBracedDigits fuel)

/-- Read a hexadecimal escape; the current character is its letter, `start` is the backslash. -/
def readHexEscape (start : Nat) (letter : Char) : Parse Literal := do
  if !(← step) then refuse .escapeUnexpectedEnd (← offset) (← offset)
  if (← current) = some '\x7b' then
    let brace ← offset
    let inner := brace + 1
    let _ ← step
    let digits ← readBracedDigits (← get).rest.length
    if ← atEnd then refuse .escapeUnexpectedEnd brace (← offset)
    let stop ← offset
    let _ ← step
    if digits.isEmpty then refuse .escapeHexEmpty brace (← offset)
    match charOfHex? digits with
    | some c => return { char := c, extent := ⟨start, ← offset⟩ }
    | none => refuse .escapeHexInvalid inner stop
  else
    let inner ← offset
    let digits ← readHexDigits (match letter with | 'x' => 2 | 'u' => 4 | _ => 8)
    match charOfHex? digits with
    | some c => return { char := c, extent := ⟨start, ← offset⟩, byCode := letter = 'x' }
    | none => refuse .escapeHexInvalid inner (← offset)

/-- What a pattern is made of at the lowest level. -/
inductive Primitive where
  | literal (l : Literal)
  | dot (extent : Extent)
  | anchor (extent : Extent) (a : Anchor)
  | letter (extent : Extent) (letter : LetterClass) (negated : Bool)
  | property (extent : Extent) (query : PropertyQuery) (negated : Bool)

def Primitive.extent : Primitive → Extent
  | literal l => l.extent
  | dot e | anchor e _ | letter e .. | property e .. => e

/-- A text before and after the first place where a separator stands, if there is one. -/
def cutAt (separator : List Char) : List Char → Option (List Char × List Char)
  | [] => none
  | c :: cs =>
      if separator.isPrefixOf (c :: cs) then some ([], (c :: cs).drop separator.length)
      else (cutAt separator cs).map fun (before, after) => (c :: before, after)

def PropertyQuery.ofBody (body : List Char) : PropertyQuery :=
  match ((cutAt ['!', '='] body).or (cutAt [':'] body)).or (cutAt ['='] body) with
  | some (name, value) => valued (String.ofList name) (String.ofList value)
  | none => named (String.ofList body)

/-- Read the text up to a closing brace; the fuel bounds its length. -/
def readBraced : (fuel : Nat) → Parse (List Char)
  | 0 => return []
  | fuel + 1 => do
      match ← current with
      | none | some '\x7d' => return []
      | some c =>
          let _ ← step
          return c :: (← readBraced fuel)

/-- Read a Unicode property; the current character is its letter, `start` is the backslash. -/
def readProperty (start : Nat) : Parse Primitive := do
  let negated := (← current) = some 'P'
  if !(← step) then refuse .escapeUnexpectedEnd (← offset) (← offset)
  match ← current with
  | some '\x7b' =>
      let _ ← step
      let body ← readBraced (← get).rest.length
      if ← atEnd then refuse .escapeUnexpectedEnd (← offset) (← offset)
      advance 1
      return .property ⟨start, ← offset⟩ (.ofBody body) negated
  | some '\\' => refuse .unicodeClassInvalid (← offset) ((← offset) + 1)
  | some c =>
      let _ ← step
      return .property ⟨start, ← offset⟩ (.named (String.singleton c)) negated
  | none => refuse .escapeUnexpectedEnd (← offset) (← offset)

/-- Read the letters and hyphens of a name; the fuel bounds their number. -/
def readBoundaryName : (fuel : Nat) → Parse (List Char)
  | 0 => return []
  | fuel + 1 => do
      match ← current with
      | some c =>
          if c.isAlpha || c == '-' then
            let _ ← step
            return c :: (← readBoundaryName fuel)
          else return []
      | none => return []

/-- Read what follows a word boundary in braces, if it names a kind of boundary. -/
def readWordBoundary (start : Nat) : Parse Anchor := do
  if (← current) ≠ some '\x7b' then return .wordBoundary
  let before ← get
  let brace ← offset
  if !(← step) then refuse .wordBoundaryOrCountUnclosed start (← offset)
  let nameStart ← offset
  let name ← readBoundaryName (← get).rest.length
  if name.isEmpty then
    set before
    return .wordBoundary
  if (← current) ≠ some '\x7d' then refuse .wordBoundaryUnclosed brace (← offset)
  let stop ← offset
  advance 1
  match String.ofList name with
  | "start" => return .wordStart
  | "end" => return .wordEnd
  | "start-half" => return .wordStartHalf
  | "end-half" => return .wordEndHalf
  | _ => refuse .wordBoundaryUnrecognized nameStart stop

/-- The class of a letter behind a backslash, and whether the letter negates it. -/
def letterClass? : Char → Option (LetterClass × Bool)
  | 'd' => some (.digit, false)
  | 's' => some (.space, false)
  | 'w' => some (.word, false)
  | 'D' => some (.digit, true)
  | 'S' => some (.space, true)
  | 'W' => some (.word, true)
  | _ => none

/-- The control that a letter behind a backslash stands for. -/
def controlByLetter? : Char → Option Char
  | 'a' => some '\x07'
  | 'f' => some '\x0c'
  | 't' => some '\t'
  | 'n' => some '\n'
  | 'r' => some '\r'
  | 'v' => some '\x0b'
  | _ => none

/-- The condition that a character behind a backslash stands for. -/
def anchorByLetter? : Char → Option Anchor
  | 'A' => some .textStart
  | 'z' => some .textEnd
  | 'B' => some .notWordBoundary
  | '<' => some .wordStart
  | '>' => some .wordEnd
  | _ => none

/-- Read an escape; the current character is the backslash. -/
def readEscape : Parse Primitive := do
  let start ← offset
  advance 1
  match ← current with
  | none => refuse .escapeUnexpectedEnd start (← offset)
  | some c =>
      if c.isDigit then refuse .backreference start ((← offset) + 1)
      if c = 'x' ∨ c = 'u' ∨ c = 'U' then return .literal (← readHexEscape start c)
      if c = 'p' ∨ c = 'P' then readProperty start
      else
        advance 1
        let extent : Extent := ⟨start, ← offset⟩
        if let some (letter, negated) := letterClass? c then return .letter extent letter negated
        if isMeta c || isPlainEscape c then return .literal { char := c, extent }
        if let some control := controlByLetter? c then return .literal { char := control, extent }
        if let some a := anchorByLetter? c then return .anchor extent a
        if c = 'b' then
          let a ← readWordBoundary start
          return .anchor ⟨start, ← offset⟩ a
        refuse .escapeUnrecognized start (← offset)

end ReplyScript.Pattern
