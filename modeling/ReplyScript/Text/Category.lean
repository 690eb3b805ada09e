import ReplyScript.Text.CharSet
import ReplyScript.Text.CharacterData

/-! # Unicode general categories

The general category of a character, the sets that are unions of categories, and the characters
that have a visible form of their own.
-/

namespace ReplyScript.Text

/-- The Unicode general categories. -/
inductive Category where
  | uppercaseLetter | lowercaseLetter | titlecaseLetter | modifierLetter | otherLetter
  | nonspacingMark | spacingMark | enclosingMark
  | decimalNumber | letterNumber | otherNumber
  | connectorPunctuation | dashPunctuation | openPunctuation | closePunctuation
  | initialPunctuation | finalPunctuation | otherPunctuation
  | mathSymbol | currencySymbol | modifierSymbol | otherSymbol
  | spaceSeparator | lineSeparator | paragraphSeparator
  | control | format | surrogate | privateUse | unassigned
  deriving Repr, DecidableEq, BEq, Inhabited

namespace Category

/-- The two-letter codes of the standard. -/
def codes : List (String × Category) :=
  [("Lu", uppercaseLetter), ("Ll", lowercaseLetter), ("Lt", titlecaseLetter),
   ("Lm", modifierLetter), ("Lo", otherLetter),
   ("Mn", nonspacingMark), ("Mc", spacingMark), ("Me", enclosingMark),
   ("Nd", decimalNumber), ("Nl", letterNumber), ("No", otherNumber),
   ("Pc", connectorPunctuation), ("Pd", dashPunctuation), ("Ps", openPunctuation),
   ("Pe", closePunctuation), ("Pi", initialPunctuation), ("Pf", finalPunctuation),
   ("Po", otherPunctuation),
   ("Sm", mathSymbol), ("Sc", currencySymbol), ("Sk", modifierSymbol), ("So", otherSymbol),
   ("Zs", spaceSeparator), ("Zl", lineSeparator), ("Zp", paragraphSeparator),
   ("Cc", control), ("Cf", format), ("Cs", surrogate), ("Co", privateUse), ("Cn", unassigned)]

def ofCode? (code : String) : Option Category :=
  codes.lookup code

def code (category : Category) : String :=
  ((codes.find? (·.2 == category)).map (·.1)).getD ""

def isLetter : Category → Bool
  | uppercaseLetter | lowercaseLetter | titlecaseLetter | modifierLetter | otherLetter => true
  | _ => false

def isMark : Category → Bool
  | nonspacingMark | spacingMark | enclosingMark => true
  | _ => false

def isNumber : Category → Bool
  | decimalNumber | letterNumber | otherNumber => true
  | _ => false

/-- Separators, controls, formats and code points without a character. -/
def isOther : Category → Bool
  | control | format | surrogate | privateUse | unassigned => true
  | _ => false

/-- The characters that separate words, lines and paragraphs. -/
def isSeparator : Category → Bool
  | spaceSeparator | lineSeparator | paragraphSeparator => true
  | _ => false

end Category

/-- The categories of a run, on the code points at even and at odd distance from its start. -/
structure CategoryPair where
  even : Category
  odd : Category
  deriving Inhabited

/-- Read one or two codes of categories. -/
def CategoryPair.ofCodes (codes : List Char) : CategoryPair :=
  let even := (Category.ofCode? (String.ofList (codes.take 2))).getD .unassigned
  ⟨even, (Category.ofCode? (String.ofList (codes.drop 2))).getD even⟩

def categoryTable : Array (Run CategoryPair) :=
  (Run.ofWords CategoryPair.ofCodes (tableWords categoryRuns)).toArray

def categoryOfCode (n : Nat) : Category :=
  match runAt? categoryTable n with
  | some run => if (n - run.start) % 2 = 0 then run.value.even else run.value.odd
  | none => .unassigned

def category (c : Char) : Category :=
  categoryOfCode c.toNat

def everySecond (low high : Nat) : List (Nat × Nat) :=
  (List.range ((high - low) / 2 + 1)).map fun i => (low + 2 * i, low + 2 * i)

/-- The code points whose category satisfies a condition. -/
def categorySet (p : Category → Bool) : CharSet :=
  .ofRanges ((runRanges categoryTable.toList).flatMap fun ((low, high), pair) =>
    match p pair.even, p pair.odd with
    | true, true => [(low, high)]
    | true, false => everySecond low high
    | false, true => if low < high then everySecond (low + 1) high else []
    | false, false => [])

/-- Characters with a visible form; of the separators only the plain space counts. -/
def isPrintable (c : Char) : Bool :=
  c == ' ' || !((category c).isOther || (category c).isSeparator)

end ReplyScript.Text
