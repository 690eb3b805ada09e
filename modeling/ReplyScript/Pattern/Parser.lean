import ReplyScript.Pattern.ClassReader
import ReplyScript.Text.Numeral

/-! # Reading patterns

`Syntax.ofPattern` reads the text of a pattern. A flag that makes blanks not count already matters
here; the other flags are only written down.
-/

namespace ReplyScript.Pattern

open Parse

/-- Read decimal digits; the fuel bounds their number. -/
def readDigits : (fuel : Nat) → Parse (List Char)
  | 0 => return []
  | fuel + 1 => do
      match ← current with
      | some c =>
          if c.isDigit then
            let _ ← step
            return c :: (← readDigits fuel)
          else return []
      | none => return []

/-- Pass over blanks behind a count; the fuel bounds their number. -/
def passBlanks : (fuel : Nat) → Parse Unit
  | 0 => return
  | fuel + 1 => do
      if ((← current).map Text.isBlank).getD false then
        let _ ← step
        passBlanks fuel

/-- Read a decimal count. A count that is wrong is reported by whoever needs it. -/
def readCount : Parse (Except PatternError Nat) := do
  advance ((← get).rest.takeWhile Text.isBlank).length
  let start ← offset
  let digits ← readDigits (← get).rest.length
  let stop ← offset
  passBlanks (← get).rest.length
  let n := Text.digitsValue digits
  return if digits.isEmpty then
      .error (.unreadable .repetitionCountDecimalEmpty ⟨start, stop⟩ none)
    else if UInt32.size ≤ n then .error (.unreadable .decimalInvalid ⟨start, stop⟩ none)
    else .ok n

/-- Read the bounds of a counted repetition; the current character is its brace. -/
def readBounds : Parse (Nat × Option Nat) := do
  let start ← offset
  let unclosed : Parse Unit := do refuse .repetitionCountUnclosed start (← offset)
  if !(← step) then unclosed
  let least ← readCount
  if ← atEnd then unclosed
  let bounds ← if (← current) = some ',' then do
      if !(← step) then unclosed
      if (← current) = some '\x7d' then pure (← liftM least, none)
      else
        let least ← liftM least
        let most ← readCount
        pure (least, some (← liftM most))
    else do
      let n ← liftM least
      pure (n, some n)
  if (← current) ≠ some '\x7d' then unclosed
  let _ ← step
  return bounds

/-- Repeat the last of the parts read so far, which are held latest first. -/
def repeatLast (parts : List Syntax) (bounds : Parse (Nat × Option Nat)) : Parse (List Syntax) := do
  let missing : Parse (List Syntax) := do refuse .repetitionMissing (← offset) (← offset)
  match parts with
  | [] | .empty :: _ | .flags .. :: _ => missing
  | part :: parts =>
      let start ← offset
      let (least, most) ← bounds
      let isLazy := (← current) = some '?'
      if isLazy then advance 1
      let stop ← offset
      if (most.map (decide <| · < least)).getD false then
        refuse .repetitionCountInvalid start stop
      return .repetition ⟨part.start start, stop⟩ part least most (!isLazy) :: parts

def flagLetters : List Char := ['i', 'm', 's', 'U', 'u', 'R', 'x']

/-- Read the flags of a group up to a colon or parenthesis. `seen` holds what was read so far,
latest first, with its places. -/
def readFlags : (fuel : Nat) → (on : Bool) → (seen : List (Char × Nat)) → FlagChanges →
    Parse FlagChanges
  | 0, _, _, changes => return changes.reverse
  | fuel + 1, on, seen, changes => do
      let here ← offset
      match ← current with
      | none => refuse .flagUnexpectedEnd here here
      | some c =>
          if c = ':' ∨ c = ')' then
            match seen with
            | ('-', place) :: _ => refuse .flagDanglingNegation place (place + 1)
            | _ => return changes.reverse
          if c ≠ '-' ∧ c ∉ flagLetters then refuse .flagUnrecognized here (here + 1)
          if let some first := seen.lookup c then
            refuse (if c = '-' then .flagRepeatedNegation else .flagDuplicate) here (here + 1)
              (some ⟨first, first + 1⟩)
          advance 1
          if ← atEnd then refuse .flagUnexpectedEnd (← offset) (← offset)
          readFlags fuel (on && c != '-') ((c, here) :: seen)
            (if c = '-' then changes else (c, on) :: changes)

/-- Whether a character may stand in the name of a capture. -/
def isNameChar (first : Bool) (c : Char) : Bool :=
  c == '_' || c.isAlpha || Text.alphabetic.contains c
    || (!first && (c == '.' || c == '[' || c == ']' || Text.isAlphanumeric c))

def readCaptureName (index : Nat) : Parse Unit := do
  let start ← offset
  if ← atEnd then refuse .groupNameUnexpectedEnd start start
  let name := (← get).rest.takeWhile (· ≠ '>')
  match name.zipIdx.find? fun (c, i) => !isNameChar (i == 0) c with
  | some (_, i) => refuse .groupNameInvalid (start + i) (start + i + 1)
  | none => pure ()
  advance name.length
  let stop ← offset
  if ← atEnd then refuse .groupNameUnexpectedEnd stop stop
  advance 1
  if name.isEmpty then refuse .groupNameEmpty start start
  let name := String.ofList name
  match (← get).names.find? (·.1 == name) with
  | some (_, _, first) => refuse .groupNameDuplicate start stop (some first)
  | none => modify fun r => { r with names := r.names ++ [(name, index, ⟨start, stop⟩)] }

/-- How a group opens. -/
inductive GroupStart where
  | group (kind : GroupKind)
  | flagsOnly (changes : FlagChanges)

/-- Read the opening of a group; the current character is its parenthesis. -/
def readGroupStart : Parse GroupStart := do
  let start ← offset
  let _ ← step
  for look in ["?=", "?!", "?<=", "?<!"] do
    if ← takeWord look then refuse .lookAround start (← offset)
  let inner ← offset
  let count := (← get).captures + 1
  if (← takeWord "?P<") || (← takeWord "?<") then
    modify fun r => { r with captures := count }
    readCaptureName count
    return .group (.capture count)
  else if ← takeWord "?" then
    if ← atEnd then refuse .groupUnclosed start (start + 1)
    let changes ← readFlags ((← get).rest.length + 1) true [] []
    let closed := (← current) = some ')'
    advance 1
    if closed then
      if changes = [] then refuse .repetitionMissing inner inner
      return .flagsOnly changes
    else return .group (.flagged changes)
  else
    modify fun r => { r with captures := count }
    return .group (.capture count)

/-- Let a change of flags decide whether blanks count. -/
def heedBlanks (changes : FlagChanges) : Parse Unit :=
  modify fun r => { r with ignoreBlanks := (changes.lookup 'x').getD r.ignoreBlanks }

/-- Read one character of a pattern, or a dot, an anchor or an escape. -/
def readPrimitive (c : Char) : Parse Syntax := do
  let start ← offset
  let extent : Extent := ⟨start, start + 1⟩
  match c with
  | '\\' =>
      match ← readEscape with
      | .literal l => return .literal l
      | .dot e => return .dot e
      | .anchor e a => return .anchor e a
      | .letter e l negated => return .letter e l negated
      | .property e query negated => return .property e query negated
  | '.' =>
      advance 1
      return .dot extent
  | '^' =>
      advance 1
      return .anchor extent .lineStart
  | '$' =>
      advance 1
      return .anchor extent .lineEnd
  | c =>
      advance 1
      return .literal { char := c, extent }

/-- The alternatives read so far and the parts of the current one, latest first, with the places
where they start. -/
structure Unfinished where
  start : Nat
  before : List Syntax
  partStart : Nat
  parts : List Syntax

/-- Nothing read yet at a place. -/
def Unfinished.at (place : Nat) : Unfinished := ⟨place, [], place, []⟩

def Unfinished.finish (u : Unfinished) (place : Nat) : Syntax :=
  let last := Syntax.ofParts ⟨u.partStart, place⟩ u.parts.reverse
  match u.before with
  | [] => last
  | before => .alternatives ⟨u.start, place⟩ (last :: before).reverse

/-- Read alternatives up to a closing parenthesis or the end. The fuel bounds the steps. -/
def readAlternatives : (fuel : Nat) → Unfinished → Parse Syntax
  | 0, u => return u.finish 0
  | fuel + 1, u => do
      skipBlanks
      let place ← offset
      let goOn (parts : List Syntax) : Parse Syntax := readAlternatives fuel { u with parts }
      match ← current with
      | none | some ')' => return u.finish place
      | some '|' =>
          let branch := Syntax.ofParts ⟨u.partStart, place⟩ u.parts.reverse
          advance 1
          readAlternatives fuel ⟨u.start, branch :: u.before, place + 1, []⟩
      | some '(' =>
          let outer := (← get).ignoreBlanks
          match ← readGroupStart with
          | .flagsOnly changes =>
              heedBlanks changes
              goOn (.flags ⟨place, ← offset⟩ changes :: u.parts)
          | .group kind =>
              if let .flagged changes := kind then heedBlanks changes
              let body ← readAlternatives fuel (.at (← offset))
              if ← atEnd then refuse .groupUnclosed place (place + 1)
              modify fun r => { r with ignoreBlanks := outer }
              advance 1
              goOn (.group ⟨place, ← offset⟩ kind body :: u.parts)
      | some '[' =>
          let item ← readClass (2 * (← get).rest.length + 2)
          match item with
          | .bracketed e negated body => goOn (.bracketed e negated body :: u.parts)
          | _ => goOn u.parts
      | some '?' => goOn (← repeatLast u.parts (do advance 1; return (0, some 1)))
      | some '*' => goOn (← repeatLast u.parts (do advance 1; return (0, none)))
      | some '+' => goOn (← repeatLast u.parts (do advance 1; return (1, none)))
      | some '\x7b' => goOn (← repeatLast u.parts readBounds)
      | some c => goOn ((← readPrimitive c) :: u.parts)

/-- Read a pattern. The names of its captures come with their numbers. -/
def Syntax.ofPattern (pattern : String) : Except PatternError (Syntax × List (String × Nat)) := do
  let cs := pattern.toList
  let (body, r) ← (readAlternatives (cs.length + 1) (.at 0)).run { rest := cs }
  if !r.rest.isEmpty then throw (.unreadable .groupUnopened ⟨r.offset, r.offset + 1⟩ none)
  if let some place := body.tooDeep 0 then
    throw (.unreadable (.nestLimitExceeded nestLimit) place none)
  return (body, r.names.map fun (name, index, _) => (name, index))

end ReplyScript.Pattern
