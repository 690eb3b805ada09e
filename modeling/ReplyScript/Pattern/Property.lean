import ReplyScript.Pattern.Syntax
import ReplyScript.Text.Segmentation

/-! # Named character sets

The sets that a pattern can name: classes by a letter, classes by a name between colons, and Unicode
properties. Patterns know the characters of one edition of the standard; a character of a later one
counts as unassigned.
-/

namespace ReplyScript.Pattern

open Text (CharSet Category Edition)

def edition : Edition := ⟨16, 0⟩

/-- The characters that came after the edition that patterns go by. -/
def newerChars : CharSet :=
  (Text.categorySet (· != .unassigned)).diff (Text.knownIn edition)

/-- The characters whose general category satisfies a condition. -/
def categorySet (p : Category → Bool) : CharSet :=
  let set := Text.categorySet p
  if p .unassigned then set.union newerChars else set.diff newerChars

def LetterClass.set : LetterClass → CharSet
  | digit => categorySet (· == .decimalNumber)
  | space => Text.blanks
  | word => Text.wordChars.diff newerChars

/-- The ASCII classes by their names. -/
def classByName (name : String) : CharSet :=
  .ofTable <| match name with
    | "alnum" => "30-39 41-5A 61-7A"
    | "alpha" => "41-5A 61-7A"
    | "ascii" => "0-7F"
    | "blank" => "9 20"
    | "cntrl" => "0-1F 7F"
    | "digit" => "30-39"
    | "graph" => "21-7E"
    | "lower" => "61-7A"
    | "print" => "20-7E"
    | "punct" => "21-2F 3A-40 5B-60 7B-7E"
    | "space" => "9-D 20"
    | "upper" => "41-5A"
    | "word" => "30-39 41-5A 5F 61-7A"
    | "xdigit" => "30-39 41-46 61-66"
    | _ => ""

def LetterClass.asciiSet : LetterClass → CharSet
  | digit => classByName "digit"
  | space => classByName "space"
  | word => classByName "word"

/-- A name without blanks, hyphens and underscores, in lower case, and without an `is` in front. -/
def plainName (name : String) : String :=
  let lower := name.toList.map Char.toLower
  let plain (cs : List Char) : List Char :=
    cs.filter fun c => c ≠ ' ' ∧ c ≠ '-' ∧ c ≠ '_' ∧ c.toNat < 128
  match lower with
  | 'i' :: 's' :: rest =>
      String.ofList (if plain rest = ['c'] then ['i', 's', 'c'] else plain rest)
  | cs => String.ofList (plain cs)

/-- Short names of properties, each with its long name. -/
def propertyAliases : List (String × String) :=
  (Text.tableWords "ahex=asciihexdigit alpha=alphabetic bidic=bidicontrol bidim=bidimirrored
    ci=caseignorable cwcf=changeswhencasefolded cwcm=changeswhencasemapped
    cwl=changeswhenlowercased cwt=changeswhentitlecased cwu=changeswhenuppercased
    dep=deprecated di=defaultignorablecodepoint dia=diacritic ebase=emojimodifierbase
    ecomp=emojicomponent emod=emojimodifier epres=emojipresentation ext=extender
    extpict=extendedpictographic grbase=graphemebase grext=graphemeextend grlink=graphemelink
    hex=hexdigit idc=idcontinue ideo=ideographic ids=idstart idsb=idsbinaryoperator
    idst=idstrinaryoperator idsu=idsunaryoperator joinc=joincontrol loe=logicalorderexception
    lower=lowercase mcm=modifiercombiningmark nchar=noncharactercodepoint oalpha=otheralphabetic
    odi=otherdefaultignorablecodepoint ogrext=othergraphemeextend oidc=otheridcontinue
    oids=otheridstart olower=otherlowercase omath=othermath oupper=otheruppercase
    patsyn=patternsyntax patws=patternwhitespace pcm=prependedconcatenationmark
    qmark=quotationmark ri=regionalindicator sd=softdotted space=whitespace
    sterm=sentenceterminal term=terminalpunctuation uideo=unifiedideograph upper=uppercase
    vs=variationselector wspace=whitespace xidc=xidcontinue xids=xidstart
    gc=generalcategory sc=script scx=scriptextensions gcb=graphemeclusterbreak
    sb=sentencebreak wb=wordbreak").map fun word =>
    (String.ofList (word.takeWhile (· ≠ '=')), String.ofList ((word.dropWhile (· ≠ '=')).drop 1))

/-- Properties that are known by name, but whose members are not. -/
def otherProperties : List String :=
  (Text.tableWords "bc bidiclass bidimirroringglyph bidipairedbracket bidipairedbrackettype blk
    block bmg bpb bpt canonicalcombiningclass casefolding ccc ce cf changeswhennfkccasefolded
    cjkaccountingnumeric cjkcompatibilityvariant cjkiicore cjkirggsource cjkirghsource
    cjkirgjsource cjkirgkpsource cjkirgksource cjkirgmsource cjkirgssource cjkirgtsource
    cjkirguksource cjkirgusource cjkirgvsource cjkothernumeric cjkprimarynumeric cjkrsunicode
    compex compositionexclusion cwkcf decompositionmapping decompositiontype dm dt ea
    eastasianwidth equideo equivalentunifiedideograph expandsonnfc expandsonnfd expandsonnfkc
    expandsonnfkd fcnfkc fcnfkcclosure fullcompositionexclusion hangulsyllabletype hst incb
    indicconjunctbreak indicpositionalcategory indicsyllabiccategory inpc insc isc isocomment
    jamoshortname jg joininggroup joiningtype jsn jt kaccountingnumeric kcompatibilityvariant
    kehcat kehdesc kehhg kehifao kehjsesh kehnomirror kehnorotate
    kiicore kirggsource kirghsource kirgjsource kirgkpsource kirgksource kirgmsource kirgssource
    kirgtsource kirguksource kirgusource kirgvsource kothernumeric kprimarynumeric krsunicode lb
    lc linebreak lowercasemapping na na1 name namealias nfcqc nfcquickcheck nfdqc nfdquickcheck
    nfkccasefold nfkccf nfkcqc nfkcquickcheck nfkcscf nfkcsimplecasefold nfkdqc nfkdquickcheck nt
    numerictype numericvalue nv scf sfc simplecasefolding simplelowercasemapping
    simpletitlecasemapping simpleuppercasemapping slc stc suc tc titlecasemapping uc unicode1name
    unicoderadicalstroke uppercasemapping urs verticalorientation vo xonfc xonfd xonfkc
    xonfkd").map String.ofList

def longName (name : String) : String :=
  (propertyAliases.lookup name).getD name

/-- Properties that are fixed also for code points without a character. -/
def fixedProperties : List String :=
  ["defaultignorablecodepoint", "otherdefaultignorablecodepoint", "patternsyntax",
   "patternwhitespace", "noncharactercodepoint", "extendedpictographic"]

/-- The set of the characters with a property that holds or does not. -/
def simpleProperty? (name : String) : Option CharSet :=
  let name := longName name
  (Text.property? name).map fun set =>
    if fixedProperties.contains name then set else set.diff newerChars

/-- The names of the general categories and of their unions, beside their codes. -/
def categoryNames : List (String × List String) :=
  let letters := ["Lu", "Ll", "Lt", "Lm", "Lo"]
  let marks := ["Mn", "Mc", "Me"]
  let numbers := ["Nd", "Nl", "No"]
  let punctuation := ["Pc", "Pd", "Ps", "Pe", "Pi", "Pf", "Po"]
  let symbols := ["Sm", "Sc", "Sk", "So"]
  let separators := ["Zs", "Zl", "Zp"]
  let others := ["Cc", "Cf", "Cs", "Co", "Cn"]
  [("letter", letters), ("l", letters), ("casedletter", ["Lu", "Ll", "Lt"]),
   ("lc", ["Lu", "Ll", "Lt"]), ("uppercaseletter", ["Lu"]), ("lowercaseletter", ["Ll"]),
   ("titlecaseletter", ["Lt"]), ("modifierletter", ["Lm"]), ("otherletter", ["Lo"]),
   ("mark", marks), ("m", marks), ("combiningmark", marks), ("nonspacingmark", ["Mn"]),
   ("spacingmark", ["Mc"]), ("enclosingmark", ["Me"]),
   ("number", numbers), ("n", numbers), ("decimalnumber", ["Nd"]), ("digit", ["Nd"]),
   ("letternumber", ["Nl"]), ("othernumber", ["No"]),
   ("punctuation", punctuation), ("punct", punctuation), ("p", punctuation),
   ("connectorpunctuation", ["Pc"]), ("dashpunctuation", ["Pd"]), ("openpunctuation", ["Ps"]),
   ("closepunctuation", ["Pe"]), ("initialpunctuation", ["Pi"]), ("finalpunctuation", ["Pf"]),
   ("otherpunctuation", ["Po"]), ("symbol", symbols), ("s", symbols), ("mathsymbol", ["Sm"]),
   ("currencysymbol", ["Sc"]), ("modifiersymbol", ["Sk"]), ("othersymbol", ["So"]),
   ("separator", separators), ("z", separators), ("spaceseparator", ["Zs"]),
   ("lineseparator", ["Zl"]), ("paragraphseparator", ["Zp"]), ("other", others), ("c", others),
   ("control", ["Cc"]), ("cntrl", ["Cc"]), ("format", ["Cf"]), ("privateuse", ["Co"]),
   ("unassigned", ["Cn"])]

/-- What a name or value of a property comes to. -/
inductive Lookup where
  | found (set : CharSet)
  /-- The name is known, but the set is not. -/
  | noSet
  | unknown

/-- The set of the characters of a general category, by its name or code. -/
def generalCategory (name : String) : Lookup :=
  match name with
  | "any" => .found .all
  | "ascii" => .found (classByName "ascii")
  | "assigned" => .found (categorySet (· != .unassigned))
  | "cs" | "surrogate" => .noSet
  | name =>
      let codes := (categoryNames.lookup name).getD
        ((Category.codes.map (·.1)).filter fun code => code.map Char.toLower == name)
      match codes.filterMap Category.ofCode? with
      | [] => .unknown
      | categories => .found (categorySet categories.contains)

def scriptCode? (name : String) : Option String :=
  (Text.scripts.find? fun names => names.any (plainName · == name)).bind (·.head?)

/-- The set of the characters of a script; `set` gives them by the code of the script. -/
def scriptNamed (set : String → CharSet) (name : String) : Lookup :=
  match name with
  | "zzzz" | "unknown" | "hrkt" | "katakanaorhiragana" => .noSet
  | name =>
      match scriptCode? name with
      | some code => .found ((set code).diff newerChars)
      | none => .unknown

/-- The set of the characters that an edition has. Only editions up to the one that patterns go by
are known. -/
def ageNamed (name : String) : Lookup :=
  let named (e : Edition) : Bool :=
    name == toString e.major ++ "." ++ toString e.minor
      || name == "v" ++ toString e.major ++ toString e.minor
  match Text.editions.find? named with
  | some e => if e.upTo edition then .found (Text.knownIn e) else .unknown
  | none => .unknown

/-- Short names of the classes that divide text, each with its long name. -/
def segmentAliases : List (String × List (String × String)) :=
  [("graphemeclusterbreak",
    [("cn", "control"), ("ex", "extend"), ("pp", "prepend"), ("ri", "regionalindicator"),
     ("sm", "spacingmark")]),
   ("wordbreak",
    [("dq", "doublequote"), ("ex", "extendnumlet"), ("fo", "format"), ("hl", "hebrewletter"),
     ("ka", "katakana"), ("le", "aletter"), ("mb", "midnumlet"), ("ml", "midletter"),
     ("mn", "midnum"), ("nl", "newline"), ("nu", "numeric"), ("ri", "regionalindicator"),
     ("sq", "singlequote")]),
   ("sentencebreak",
    [("at", "aterm"), ("cl", "close"), ("ex", "extend"), ("fo", "format"), ("le", "oletter"),
     ("lo", "lower"), ("nu", "numeric"), ("sc", "scontinue"), ("se", "sep"), ("st", "sterm"),
     ("up", "upper")])]

/-- The set of a class that divides text. -/
def segmentNamed (property : String) (set : String → Option CharSet) (name : String) : Lookup :=
  let aliases := (segmentAliases.lookup property).getD []
  match set ((aliases.lookup name).getD name) with
  | some s => .found (s.diff newerChars)
  | none => .unknown

def valuedProperty (property value : String) : Except Problem CharSet :=
  let known (l : Lookup) : Except Problem CharSet :=
    match l with
    | .found set => .ok set
    | _ => .error .unicodePropertyValueNotFound
  match longName property with
  | "generalcategory" => known (generalCategory value)
  | "script" => known (scriptNamed Text.script value)
  | "scriptextensions" => known (scriptNamed Text.scriptExtension value)
  | "age" => known (ageNamed value)
  | "graphemeclusterbreak" =>
      known (segmentNamed "graphemeclusterbreak" Text.graphemeClass? value)
  | "wordbreak" => known (segmentNamed "wordbreak" Text.wordClass? value)
  | "sentencebreak" => known (segmentNamed "sentencebreak" Text.sentenceClass? value)
  | name =>
      if (Text.property? name).isSome || otherProperties.contains name then
        .error .unicodePropertyValueNotFound
      else .error .unicodePropertyNotFound

/-- The set of the characters with a property, a general category or a script. Three short names
of properties are read as those of categories. -/
def namedProperty (name : String) : Except Problem CharSet :=
  let simple := if name ∈ ["cf", "sc", "lc"] then none else simpleProperty? name
  match simple with
  | some set => .ok set
  | none =>
      match generalCategory name with
      | .found set => .ok set
      | .noSet => .error .unicodePropertyValueNotFound
      | .unknown =>
          match scriptNamed Text.script name with
          | .found set => .ok set
          | .noSet => .error .unicodePropertyValueNotFound
          | .unknown => .error .unicodePropertyNotFound

def PropertyQuery.set : PropertyQuery → Except Problem CharSet
  | named name => namedProperty (plainName name)
  | valued name value => valuedProperty (plainName name) (plainName value)

end ReplyScript.Pattern
