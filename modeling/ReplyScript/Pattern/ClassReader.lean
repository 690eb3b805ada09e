import ReplyScript.Pattern.Reader

/-! # Reading bracketed classes

A class is a list of characters, ranges, named sets and further classes between brackets, with
operators between parts of it. Operators have one strength and group to the left.
-/

namespace ReplyScript.Pattern

open Parse

/-- Read a character or an escape of a class. -/
def readClassItem (c : Char) : Parse Primitive := do
  if c = '\\' then readEscape
  else
    let start ← offset
    advance 1
    return .literal { char := c, extent := ⟨start, start + 1⟩ }

def Primitive.bound : Primitive → Parse Literal
  | .literal l => return l
  | p => refuse .classRangeLiteral p.extent.start p.extent.stop

def Primitive.classItem : Primitive → Parse ClassSyntax
  | .literal l => return .literal l
  | .letter e l negated => return .letter e l negated
  | .property e query negated => return .property e query negated
  | p => refuse .classEscapeInvalid p.extent.start p.extent.stop

def readClassRange (c : Char) (opened : Extent) : Parse ClassSyntax := do
  let first ← readClassItem c
  skipBlanks
  if ← atEnd then refuse .classUnclosed opened.start opened.stop
  let after ← afterCurrent
  if (← current) ≠ some '-' ∨ after = some ']' ∨ after = some '-' then first.classItem
  else
    if !(← step) then refuse .classUnclosed opened.start opened.stop
    match ← current with
    | none => refuse .classUnclosed opened.start opened.stop
    | some c =>
        let last ← readClassItem c
        let low ← first.bound
        let high ← last.bound
        let extent : Extent := ⟨first.extent.start, last.extent.stop⟩
        if high.char < low.char then refuse .classRangeInvalid extent.start extent.stop
        return .range extent low high

def classNames : List String :=
  ["alnum", "alpha", "ascii", "blank", "cntrl", "digit", "graph", "lower", "print", "punct",
   "space", "upper", "word", "xdigit"]

/-- Read a class named between colons, if there is one here. -/
def readNamedClass : Parse (Option ClassSyntax) := do
  match (← get).rest with
  | '[' :: ':' :: rest =>
      let (negated, rest) := match rest with
        | '^' :: r => (true, r)
        | r => (false, r)
      let name := rest.takeWhile (· ≠ ':')
      match rest.drop name.length with
      | ':' :: ']' :: _ =>
          if String.ofList name ∈ classNames then
            let start ← offset
            advance (name.length + 4 + (if negated then 1 else 0))
            return some (.named ⟨start, ← offset⟩ (String.ofList name) negated)
          else return none
      | _ => return none
  | _ => return none

/-- Read hyphens that stand for themselves at the start of a class; the fuel bounds their
number. -/
def readLeadingHyphens (opened : Nat) : (fuel : Nat) → Parse (List ClassSyntax)
  | 0 => return []
  | fuel + 1 => do
      if (← current) = some '-' then
        let here ← offset
        if !(← step) then refuse .classUnclosed opened opened
        let hyphen : Literal := { char := '-', extent := ⟨here, here + 1⟩ }
        return .literal hyphen :: (← readLeadingHyphens opened fuel)
      else return []

/-- Items that come one after the other; they are held latest first. `place` is where they
start if there are none. -/
def classOfItems (place : Nat) (items : List ClassSyntax) : ClassSyntax :=
  let items := items.reverse
  let here : Extent := ⟨place, place⟩
  let start := (items.head?.map fun i => (i.extent here).start).getD place
  let stop := (items.getLast?.map fun i => (i.extent here).stop).getD place
  .ofItems ⟨start, stop⟩ items

abbrev LeftOperand := Option (ClassSyntax × ClassOperator)

/-- Join the part of a class before an operator with the part after it. -/
def joinOperands (place : Nat) (left : LeftOperand) (right : ClassSyntax) : ClassSyntax :=
  match left with
  | none => right
  | some (l, op) =>
      let here : Extent := ⟨place, place⟩
      .operation ⟨(l.extent here).start, (right.extent here).stop⟩ op l right

mutual

/-- Read a bracketed class; the current character is its bracket. The fuel bounds the steps. -/
def readClass : (fuel : Nat) → Parse ClassSyntax
  | 0 => return .nothing
  | fuel + 1 => do
      let start ← offset
      if !(← step) then refuse .classUnclosed start (← offset)
      let negated := (← current) = some '^'
      if negated then
        if !(← step) then refuse .classUnclosed start (← offset)
      let hyphens ← readLeadingHyphens start (← get).rest.length
      let mut items := hyphens.reverse
      if hyphens.isEmpty && (← current) = some ']' then
        let here ← offset
        items := [.literal { char := ']', extent := ⟨here, here + 1⟩ }]
        if !(← step) then refuse .classUnclosed start (← offset)
      let body ← readClassBody fuel ⟨start, ← offset⟩ none items
      return .bracketed ⟨start, ← offset⟩ negated body

/-- Read the rest of a class up to its closing bracket. -/
def readClassBody : (fuel : Nat) → (opened : Extent) → LeftOperand → List ClassSyntax →
    Parse ClassSyntax
  | 0, _, _, _ => return .nothing
  | fuel + 1, opened, left, items => do
      skipBlanks
      let place ← offset
      let operator (op : ClassOperator) : Parse ClassSyntax := do
        advance 2
        let joined := joinOperands place left (classOfItems place items)
        readClassBody fuel opened (some (joined, op)) []
      match ← current, ← next with
      | none, _ => refuse .classUnclosed opened.start opened.stop
      | some '[', _ =>
          match ← readNamedClass with
          | some item => readClassBody fuel opened left (item :: items)
          | none =>
              let item ← readClass fuel
              readClassBody fuel opened left (item :: items)
      | some ']', _ =>
          let joined := joinOperands place left (classOfItems place items)
          advance 1
          return joined
      | some '&', some '&' => operator .intersection
      | some '-', some '-' => operator .difference
      | some '~', some '~' => operator .symmetricDifference
      | some c, _ =>
          let item ← readClassRange c opened
          readClassBody fuel opened left (item :: items)

end

end ReplyScript.Pattern
