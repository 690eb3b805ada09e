import ReplyScript.Text.Category
import ReplyScript.Text.CharacterData
import ReplyScript.Text.Numeral

/-! # Properties of characters

The sets of characters that the standard gives names to: those of scripts, those that its editions
have, and those of properties. Most properties follow from the general category and a short list of
exceptions.
-/

namespace ReplyScript.Text

/-! ## Scripts

The writing systems that characters belong to, named by their four-letter codes. Some characters
are used with several scripts; `scriptExtension` counts them to each of those.
-/

/-- The scripts: the code and the further names of each. -/
def scripts : List (List String) :=
  (tableWords scriptNames).map fun word => (word.splitOn '=').map String.ofList

def scriptTable : List (Run String) :=
  Run.ofWords String.ofList (tableWords scriptRuns)

def script (code : String) : CharSet :=
  (CharSet.ofRuns (· == code) scriptTable).inter
    (categorySet fun k => k != .unassigned && k != .privateUse && k != .surrogate)

def scriptsOf (codes : List String) : CharSet :=
  (CharSet.ofRuns (codes.contains ·) scriptTable).inter
    (categorySet fun k => k != .unassigned && k != .privateUse && k != .surrogate)

def sharedOfWords : List (List Char) → List (List (Nat × Nat) × List String)
  | range :: codes :: rest =>
      (rangesOfWord range, (codes.splitOn '+').map String.ofList) :: sharedOfWords rest
  | _ => []

/-- The ranges of characters used with several scripts. -/
def sharedTable : List (List (Nat × Nat) × List String) :=
  sharedOfWords (tableWords sharedScripts)

def scriptExtension (code : String) : CharSet :=
  let shared := CharSet.ofRanges (sharedTable.flatMap (·.1))
  let used := CharSet.ofRanges
    ((sharedTable.filter fun (_, codes) => codes.contains code).flatMap (·.1))
  ((script code).diff shared).union used

/-! ## Ages

The standard grows by editions. `knownIn` is the set of the characters that an edition has.
-/

/-- An edition of the standard. -/
structure Edition where
  major : Nat
  minor : Nat
  deriving Repr, DecidableEq, BEq, Inhabited

namespace Edition

/-- Whether an edition came no later than another one. -/
def upTo (a b : Edition) : Bool :=
  a.major < b.major || (a.major == b.major && a.minor ≤ b.minor)

/-- Read two numbers with a point between them. -/
def ofDigits (word : List Char) : Edition :=
  ⟨digitsValue (word.takeWhile (· ≠ '.')), digitsValue ((word.dropWhile (· ≠ '.')).drop 1)⟩

end Edition

def ageTable : List (Run Edition) :=
  Run.ofWords Edition.ofDigits (tableWords ageRuns)

/-- The code points that never get a character. -/
def noncharacters : CharSet :=
  .ofRanges ((0xFDD0, 0xFDEF) ::
    (List.range 17).map fun plane => (0x10000 * plane + 0xFFFE, 0x10000 * plane + 0xFFFF))

/-- The code points that have a meaning in the latest edition. -/
def taken : CharSet :=
  (categorySet (· != .unassigned)).union noncharacters

/-- The code points that have a meaning in an edition. -/
def knownIn (edition : Edition) : CharSet :=
  (CharSet.ofRuns (·.upTo edition) ageTable).inter taken

def editions : List Edition :=
  [⟨1, 1⟩, ⟨2, 0⟩, ⟨2, 1⟩, ⟨3, 0⟩, ⟨3, 1⟩, ⟨3, 2⟩, ⟨4, 0⟩, ⟨4, 1⟩, ⟨5, 0⟩, ⟨5, 1⟩, ⟨5, 2⟩, ⟨6, 0⟩,
   ⟨6, 1⟩, ⟨6, 2⟩, ⟨6, 3⟩, ⟨7, 0⟩, ⟨8, 0⟩, ⟨9, 0⟩, ⟨10, 0⟩, ⟨11, 0⟩, ⟨12, 0⟩, ⟨12, 1⟩, ⟨13, 0⟩,
   ⟨14, 0⟩, ⟨15, 0⟩, ⟨15, 1⟩, ⟨16, 0⟩, ⟨17, 0⟩]

/-! ## Properties -/

def codeSet (table : String) : CharSet := .ofTable table

/-- White_Space. -/
def blanks : CharSet := codeSet "9-D 20 85 A0 1680 2000-200A 2028-2029 202F 205F 3000"

/-- Lowercase: the lowercase letters and some others. -/
def lowercase : CharSet :=
  (categorySet (· == .lowercaseLetter)).union (codeSet otherLowercaseRanges)

/-- Uppercase: the uppercase letters and some others. -/
def uppercase : CharSet :=
  (categorySet (· == .uppercaseLetter)).union (codeSet otherUppercaseRanges)

/-- Cased: lowercase, uppercase and titlecase characters. -/
def cased : CharSet :=
  .unions [lowercase, uppercase, categorySet (· == .titlecaseLetter)]

/-- Alphabetic: letters, letter-like numbers and the marks that carry it. -/
def alphabetic : CharSet :=
  .unions [cased, categorySet fun k => k.isLetter || k == .letterNumber,
    codeSet otherAlphabeticRanges]

/-- Join_Control. -/
def joiners : CharSet := codeSet "200C-200D"

/-- Word characters: alphabetic characters, marks, decimal digits, connectors and joiners. -/
def wordChars : CharSet :=
  .unions [alphabetic, joiners,
    categorySet fun k => k.isMark || k == .decimalNumber || k == .connectorPunctuation]

/-- Grapheme_Extend: the marks without a width of their own and some others. -/
def graphemeExtend : CharSet :=
  (categorySet fun k => k == .nonspacingMark || k == .enclosingMark).union
    (codeSet otherExtendRanges)

/-- Grapheme_Base: what has a visible form and extends nothing. -/
def graphemeBase : CharSet :=
  (categorySet fun k => !k.isOther && k != .lineSeparator && k != .paragraphSeparator).diff
    graphemeExtend

def math : CharSet :=
  (categorySet (· == .mathSymbol)).union (codeSet otherMathRanges)

def variationSelectors : CharSet := codeSet variationRanges

def prependedMarks : CharSet := codeSet prependedMarkRanges

/-- Default_Ignorable_Code_Point: formats and selectors that are not shown. -/
def ignorables : CharSet :=
  (CharSet.unions [codeSet otherIgnorableRanges, categorySet (· == .format), variationSelectors]).diff
    (.unions [blanks, codeSet "FFF9-FFFB 13430-13440", prependedMarks])

def patternSyntax : CharSet := codeSet patternSyntaxRanges

/-- Pattern_White_Space. -/
def patternBlanks : CharSet := codeSet "9-D 20 85 200E-200F 2028-2029"

/-- ID_Start: what identifiers start with. -/
def idStart : CharSet :=
  ((categorySet fun k => k.isLetter || k == .letterNumber).union (codeSet otherIdStartRanges)).diff
    (patternSyntax.union patternBlanks)

/-- ID_Continue: what identifiers go on with. -/
def idContinue : CharSet :=
  (CharSet.unions [idStart, codeSet otherIdContinueRanges, categorySet fun k =>
    k == .nonspacingMark || k == .spacingMark || k == .decimalNumber
      || k == .connectorPunctuation]).diff (patternSyntax.union patternBlanks)

/-- XID_Start: starts of identifiers that compatibility forms keep. -/
def xidStart : CharSet :=
  idStart.diff (codeSet "37A E33 EB3 309B-309C FC5E-FC63 FDFA-FDFB FE70 FE72 FE74 FE76 FE78 FE7A
    FE7C FE7E FF9E-FF9F")

/-- XID_Continue: members of identifiers that compatibility forms keep. -/
def xidContinue : CharSet :=
  idContinue.diff (codeSet "37A 309B-309C FC5E-FC63 FDFA-FDFB FE70 FE72 FE74 FE76 FE78 FE7A FE7C
    FE7E")

/-- Case_Ignorable: what stands between letters without dividing them. -/
def caseIgnorable : CharSet :=
  (categorySet fun k => k == .nonspacingMark || k == .enclosingMark || k == .format
    || k == .modifierLetter || k == .modifierSymbol).union
    (codeSet "27 2E 3A B7 387 55F 5F4 2018-2019 2024 2027 FE13 FE52 FE55 FF07 FF0E FF1A")

/-- Changes_When_Casemapped. -/
def caseMapped : CharSet :=
  .unions [codeSet lowercasingRanges, codeSet uppercasingRanges, codeSet titlecasingRanges]

/-- Emoji_Modifier. -/
def skinTones : CharSet := codeSet "1F3FB-1F3FF"

def regionalIndicators : CharSet := codeSet "1F1E6-1F1FF"

/-- The properties by their names in lower case and without underscores. -/
def property? (name : String) : Option CharSet :=
  match name with
  | "asciihexdigit" => some (codeSet "30-39 41-46 61-66")
  | "alphabetic" => some alphabetic
  | "bidicontrol" => some (codeSet "61C 200E-200F 202A-202E 2066-2069")
  | "bidimirrored" => some (codeSet bidiMirroredRanges)
  | "caseignorable" => some caseIgnorable
  | "cased" => some cased
  | "changeswhencasefolded" => some (codeSet foldingRanges)
  | "changeswhencasemapped" => some caseMapped
  | "changeswhenlowercased" => some (codeSet lowercasingRanges)
  | "changeswhentitlecased" => some (codeSet titlecasingRanges)
  | "changeswhenuppercased" => some (codeSet uppercasingRanges)
  | "dash" => some (codeSet dashRanges)
  | "defaultignorablecodepoint" => some ignorables
  | "deprecated" => some (codeSet deprecatedRanges)
  | "diacritic" => some (codeSet diacriticRanges)
  | "emoji" => some (codeSet emojiRanges)
  | "emojicomponent" => some (codeSet emojiComponentRanges)
  | "emojimodifier" => some skinTones
  | "emojimodifierbase" => some (codeSet emojiModifierBaseRanges)
  | "emojipresentation" => some (codeSet emojiPresentationRanges)
  | "extendedpictographic" => some (codeSet pictographRanges)
  | "extender" => some (codeSet extenderRanges)
  | "graphemebase" => some graphemeBase
  | "graphemeextend" => some graphemeExtend
  | "graphemelink" => some (codeSet linkRanges)
  | "hexdigit" => some (codeSet hexDigitRanges)
  | "hyphen" => some (codeSet hyphenRanges)
  | "idcompatmathcontinue" => some (codeSet compatMathContinueRanges)
  | "idcompatmathstart" => some (codeSet compatMathStartRanges)
  | "idcontinue" => some idContinue
  | "idstart" => some idStart
  | "idsbinaryoperator" => some (codeSet "2FF0-2FF1 2FF4-2FFD 31EF")
  | "idstrinaryoperator" => some (codeSet "2FF2-2FF3")
  | "idsunaryoperator" => some (codeSet "2FFE-2FFF")
  | "ideographic" => some (codeSet ideographRanges)
  | "joincontrol" => some joiners
  | "logicalorderexception" => some (codeSet logicalExceptionRanges)
  | "lowercase" => some lowercase
  | "math" => some math
  | "modifiercombiningmark" => some (codeSet modifierMarkRanges)
  | "noncharactercodepoint" => some noncharacters
  | "otheralphabetic" => some (codeSet otherAlphabeticRanges)
  | "otherdefaultignorablecodepoint" => some (codeSet otherIgnorableRanges)
  | "othergraphemeextend" => some (codeSet otherExtendRanges)
  | "otheridcontinue" => some (codeSet otherIdContinueRanges)
  | "otheridstart" => some (codeSet otherIdStartRanges)
  | "otherlowercase" => some (codeSet otherLowercaseRanges)
  | "othermath" => some (codeSet otherMathRanges)
  | "otheruppercase" => some (codeSet otherUppercaseRanges)
  | "patternsyntax" => some patternSyntax
  | "patternwhitespace" => some patternBlanks
  | "prependedconcatenationmark" => some prependedMarks
  | "quotationmark" => some (codeSet quotationRanges)
  | "radical" => some (codeSet radicalRanges)
  | "regionalindicator" => some regionalIndicators
  | "sentenceterminal" => some (codeSet sentenceEndRanges)
  | "softdotted" => some (codeSet softDottedRanges)
  | "terminalpunctuation" => some (codeSet terminalRanges)
  | "unifiedideograph" => some (codeSet unifiedIdeographRanges)
  | "uppercase" => some uppercase
  | "variationselector" => some variationSelectors
  | "whitespace" => some blanks
  | "xidcontinue" => some xidContinue
  | "xidstart" => some xidStart
  | _ => none

/-- Letters and numbers of any kind. -/
def isAlphanumeric (c : Char) : Bool :=
  alphabetic.contains c || (category c).isNumber

/-- Marks that extend the character before them. The half-width voiced sound marks stand for
themselves. -/
def isExtender (c : Char) : Bool :=
  graphemeExtend.contains c && c.toNat != 0xFF9E && c.toNat != 0xFF9F

end ReplyScript.Text
