import ReplyScript.Text.Property

/-! # Segments of text

The classes of characters by which text is divided into graphemes, words and sentences.
-/

namespace ReplyScript.Text

/-- Characters that go with the one before them in words and sentences. -/
def wordExtend : CharSet :=
  .unions [graphemeExtend, categorySet (· == .spacingMark), skinTones]

def hangulSyllables : CharSet := codeSet "AC00-D7A3"

/-- The syllables of Hangul without a final consonant. -/
def openSyllables : CharSet :=
  .ofRanges ((List.range 399).map fun i => (0xAC00 + 28 * i, 0xAC00 + 28 * i))

/-- Grapheme_Cluster_Break: the class with a name in lower case. -/
def graphemeClass? (name : String) : Option CharSet :=
  match name with
  | "cr" => some (codeSet "D")
  | "lf" => some (codeSet "A")
  | "control" => some <|
      ((CharSet.unions [
          categorySet fun k => k == .lineSeparator || k == .paragraphSeparator || k == .control,
          (categorySet (· == .format)).diff (.unions [joiners, prependedMarks, graphemeExtend]),
          ignorables.inter (categorySet (· == .unassigned))]).diff (codeSet "A D"))
  | "extend" => some (graphemeExtend.union skinTones)
  | "zwj" => some (codeSet "200D")
  | "regionalindicator" => some regionalIndicators
  | "prepend" => some (prependedMarks.union
      (codeSet "D4E 111C2-111C3 113D1 1193F 11941 11A3A 11A84-11A89 11D46 11F02"))
  | "spacingmark" => some <|
      (((categorySet (· == .spacingMark)).diff graphemeExtend).union (codeSet "E33 EB3")).diff
        (codeSet "102B-102C 1038 1062-1064 1067-106D 1083 1087-108C 108F 109A-109C 1A61 1A63-1A64
          AA7B AA7D 11720-11721")
  | "l" => some (codeSet "1100-115F A960-A97C")
  | "v" => some (codeSet "1160-11A7 D7B0-D7C6 16D63 16D67-16D6A")
  | "t" => some (codeSet "11A8-11FF D7CB-D7FB")
  | "lv" => some openSyllables
  | "lvt" => some (hangulSyllables.diff openSyllables)
  | _ => none

/-- Characters of Katakana, as words go. -/
def katakana : CharSet :=
  ((script "Kana").union (codeSet "3031-3035 309B-309C 30A0 30FC FF70")).diff wordExtend

def hebrewLetters : CharSet :=
  (script "Hebr").inter (categorySet (· == .otherLetter))

/-- Word_Break: the class with a name in lower case and without underscores. -/
def wordClass? (name : String) : Option CharSet :=
  match name with
  | "cr" => some (codeSet "D")
  | "lf" => some (codeSet "A")
  | "newline" => some (codeSet "B-C 85 2028-2029")
  | "extend" => some wordExtend
  | "zwj" => some (codeSet "200D")
  | "format" => some <|
      ((categorySet (· == .format)).diff
        (.unions [codeSet "200B-200D", graphemeExtend, prependedMarks]))
  | "katakana" => some katakana
  | "hebrewletter" => some hebrewLetters
  | "aletter" => some <|
      (alphabetic.union
        (codeSet "2C2-2C5 2D2-2D7 2DE-2DF 2E5-2EB 2ED 2EF-2FF 55A-55C 55E 58A 5F3 70F A708-A716
          A720-A721 A789-A78A AB5B")).diff
        (.unions [(codeSet ideographRanges), katakana, wordExtend, hebrewLetters,
          scriptsOf ["Thai", "Laoo", "Mymr", "Khmr", "Tale", "Talu", "Lana", "Tavt", "Ahom", "Hira"]])
  | "singlequote" => some (codeSet "27")
  | "doublequote" => some (codeSet "22")
  | "midnumlet" => some (codeSet "2E 2018-2019 2024 FE52 FF07 FF0E")
  | "midletter" => some (codeSet "3A B7 387 55F 5F4 2027 FE13 FE55 FF1A")
  | "midnum" => some
      (codeSet "2C 3B 37E 589 60C-60D 66C 7F8 2044 FE10 FE14 FE50 FE54 FF0C FF1B")
  | "numeric" => some <|
      ((categorySet (· == .decimalNumber)).union (codeSet "600-605 66B 6DD 890-891 8E2 110BD 110CD"))
  | "extendnumlet" => some (codeSet "5F 202F 203F-2040 2054 FE33-FE34 FE4D-FE4F FF3F")
  | "wsegspace" => some (codeSet "20 1680 2000-2006 2008-200A 205F 3000")
  | "regionalindicator" => some regionalIndicators
  | _ => none

/-- The letters of Georgian that have a case but are not told apart by it. -/
def mkhedruli : CharSet := codeSet "10D0-10FA 10FD-10FF"

/-- Lowercase characters, as sentences go. -/
def sentenceLower : CharSet :=
  lowercase.diff (wordExtend.union mkhedruli)

/-- Uppercase characters, as sentences go. -/
def sentenceUpper : CharSet :=
  ((categorySet (· == .titlecaseLetter)).union uppercase).diff (codeSet "1C90-1CBA 1CBD-1CBF")

/-- Sentence_Break: the class with a name in lower case. -/
def sentenceClass? (name : String) : Option CharSet :=
  match name with
  | "cr" => some (codeSet "D")
  | "lf" => some (codeSet "A")
  | "extend" => some ((wordExtend.diff skinTones).union (codeSet "200D"))
  | "sep" => some (codeSet "85 2028-2029")
  | "format" => some ((categorySet (· == .format)).diff (joiners.union graphemeExtend))
  | "sp" => some (codeSet "9 B-C 20 A0 1680 2000-200A 202F 205F 3000")
  | "lower" => some sentenceLower
  | "upper" => some sentenceUpper
  | "oletter" => some <|
      (alphabetic.union (codeSet "5F3")).diff (.unions [sentenceLower, sentenceUpper, wordExtend])
  | "numeric" => some ((categorySet (· == .decimalNumber)).union (codeSet "66B-66C"))
  | "aterm" => some (codeSet "2E 2024 FE52 FF0E")
  | "scontinue" => some (codeSet "2C-2D 3A 55D 60C-60D 7F8 1802 1808 2013-2014 3001 FE10-FE11 FE13
      FE31-FE32 FE50-FE51 FE55 FE58 FE63 FF0C-FF0D FF1A FF64")
  | "sterm" => some ((codeSet sentenceEndRanges).diff (codeSet "2E FE52 FF0E"))
  | "close" => some <|
      ((categorySet fun k => k == .openPunctuation || k == .closePunctuation
        || k == .initialPunctuation || k == .finalPunctuation).union
        (codeSet "22 27 275B-2760 2E00-2E01 2E06-2E08 2E0B 1F676-1F678"))
  | _ => none

end ReplyScript.Text
