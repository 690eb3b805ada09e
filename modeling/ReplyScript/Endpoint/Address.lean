import ReplyScript.Text.Table
import ReplyScript.Text.Utf8
import ReplyScript.Text.Numeral

/-! # Addresses

An address names a scheme, a host and a path, and perhaps a query and a fragment. Reading one is
forgiving: blanks around it and line ends in it are dropped, backslashes count as slashes in web
addresses, dot segments are resolved, and characters that may not stand in an address are written as
percent signs with the bytes of their encoding.
-/

namespace ReplyScript.Endpoint

structure Address where
  scheme : String
  /-- The host with what belongs to it; not all addresses have one. -/
  authority : Option String
  path : String
  query : Option String
  fragment : Option String
  deriving Repr, DecidableEq, BEq, Inhabited

namespace Address

/-- The schemes with a fixed form, and the ports they use if none is written. -/
def webSchemes : List (String × Option Nat) :=
  [("http", some 80), ("https", some 443), ("ws", some 80), ("wss", some 443), ("ftp", some 21),
   ("file", none)]

/-- Whether a scheme has a fixed form. -/
def isWeb (scheme : String) : Bool :=
  (webSchemes.lookup scheme).isSome

/-- A byte as a percent sign and two digits. -/
def percentEncoded (b : UInt8) : List Char :=
  let digit (n : Nat) : Char := Char.ofNat (if n < 10 then 48 + n else 55 + n)
  ['%', digit (b.toNat / 16), digit (b.toNat % 16)]

/-- Write characters so that those which are not ASCII, controls, and those in `special` become
percent signs with their bytes. -/
def encode (special : String) (cs : List Char) : String :=
  String.ofList <| cs.flatMap fun c =>
    if c.toNat < 0x20 ∨ 0x7E < c.toNat ∨ c ∈ special.toList then
      (Text.encode (String.singleton c)).flatMap percentEncoded
    else [c]

/-- What is written with percent signs in fragments. -/
def fragmentSpecial : String := " \"<>\x60"

/-- What is written with percent signs in paths. -/
def pathSpecial : String := fragmentSpecial ++ "#?\x7b\x7d"

/-- What is written with percent signs in names of users. -/
def userSpecial : String := pathSpecial ++ "/:;=@[\\]^|"

/-- What is written with percent signs in queries. -/
def querySpecial (scheme : String) : String :=
  if isWeb scheme then " \"#<>\x27" else " \"#<>"

def readScheme (cs : List Char) : Option (String × List Char) :=
  let isSchemeChar (c : Char) : Bool := c.isAlphanum || c == '+' || c == '-' || c == '.'
  let name := cs.takeWhile isSchemeChar
  match name, cs.drop name.length with
  | first :: _, ':' :: rest =>
      if first.isAlpha then some (String.ofList (name.map Char.toLower), rest) else none
  | _, _ => none

/-- Whether a character separates the parts of a path. -/
def isSlash (scheme : String) (c : Char) : Bool :=
  c == '/' || (isWeb scheme && c == '\\')

/-- A path segment that stands for the directory itself. -/
def isSingleDot (segment : String) : Bool :=
  ["." , "%2e"].contains (String.ofList (segment.toList.map Char.toLower))

/-- A path segment that stands for the directory above. -/
def isDoubleDot (segment : String) : Bool :=
  ["..", "%2e.", ".%2e", "%2e%2e"].contains (String.ofList (segment.toList.map Char.toLower))

/-- Resolve the dot segments of a path; the segments before are held latest first. A path that ends
in a dot segment ends in a slash. -/
def resolve (before : List String) : List String → List String
  | [] => before.reverse
  | segment :: rest =>
      let closed (before : List String) : List String :=
        if rest.isEmpty then "" :: before else before
      if isDoubleDot segment then resolve (closed (before.drop 1)) rest
      else if isSingleDot segment then resolve (closed before) rest
      else resolve (segment :: before) rest

/-- The path that is written after a host. -/
def pathOf (scheme : String) (cs : List Char) : String :=
  let cs := match cs with
    | c :: rest => if isSlash scheme c then rest else cs
    | [] => []
  let segments := (cs.splitOnP (isSlash scheme)).map (encode pathSpecial)
  "/" ++ "/".intercalate (resolve [] segments)

def hostForbidden : String := "\x00\t\n\r #/:<>?@[\\]^|"

/-- The bytes of a text in which percent signs with two digits stand for bytes. -/
def percentDecoded : List Char → List UInt8
  | '%' :: a :: b :: rest =>
      let isHex (c : Char) : Bool :=
        c.isDigit || ('a' ≤ c && c ≤ 'f') || ('A' ≤ c && c ≤ 'F')
      if isHex a && isHex b then UInt8.ofNat (Text.hexValue [a, b]) :: percentDecoded rest
      else Text.encode "%" ++ percentDecoded (a :: b :: rest)
  | c :: rest => Text.encode (String.singleton c) ++ percentDecoded rest
  | [] => []
termination_by cs => cs.length

def hostOf? (scheme : String) (cs : List Char) : Option String :=
  let bad (extra : Char → Bool) (name : List Char) : Bool :=
    name.any fun c => c ∈ hostForbidden.toList || extra c
  match cs with
  | '[' :: rest =>
      if rest.getLast? = some ']' ∧ rest.dropLast.all fun c => c.isDigit || c ∈ "abcdefABCDEF:.".toList
      then some (String.ofList (cs.map Char.toLower)) else none
  | _ =>
      if isWeb scheme then
        let name := (Text.decodeLossy (percentDecoded cs)).toList
        if bad (fun c => c.toNat < 0x20 || c == '%' || c.toNat == 0x7F) name then none
        else if name.isEmpty ∧ scheme ≠ "file" then none
        else some (String.ofList (name.map Char.toLower))
      else if bad (fun _ => false) cs then none else some (encode "" cs)

/-- The port behind a host, if it has to be written. -/
def portOf? (scheme : String) (digits : List Char) : Option String :=
  if digits.isEmpty then some ""
  else do
    let n ← Text.digits? digits
    if 65535 < n then none
    else if webSchemes.lookup scheme = some (some n) then some "" else some (":" ++ toString n)

/-- What stands before the host. -/
def userOf (cs : List Char) : String :=
  let name := cs.takeWhile (· ≠ ':')
  let secret := (cs.drop name.length).drop 1
  if cs.all (· == ':') then ""
  else encode userSpecial name ++ (if secret.isEmpty then "" else ":" ++ encode userSpecial secret)
    ++ "@"

/-- Divide at the last character that satisfies a condition. -/
def splitAtLast (p : Char → Bool) (cs : List Char) : Option (List Char × List Char) :=
  let after := cs.reverse.takeWhile (!p ·)
  if after.length = cs.length then none
  else some (cs.take (cs.length - after.length - 1), after.reverse)

/-- Read a host with what belongs to it. -/
def authorityOf? (scheme : String) (cs : List Char) : Option String := do
  let (user, place) := match splitAtLast (· == '@') cs with
    | some (user, place) => (userOf user, place)
    | none => ("", cs)
  let (host, port) := match splitAtLast (· == ':') place with
    | some (host, port) => if ']' ∈ port then (place, []) else (host, port)
    | none => (place, [])
  if scheme = "file" ∧ (user ≠ "" ∨ port ≠ []) then none
  return user ++ (← hostOf? scheme host) ++ (← portOf? scheme port)

/-- An address from its scheme and what stands before any question mark. -/
def ofParts? (scheme : String) (cs : List Char) (query fragment : Option String) :
    Option Address := do
  let slashes := (cs.takeWhile (isSlash scheme)).length
  if isWeb scheme ∧ scheme ≠ "file" ∨ 2 ≤ slashes then
    let cs := cs.drop (if isWeb scheme ∧ scheme ≠ "file" then slashes else 2)
    let place := cs.takeWhile (!isSlash scheme ·)
    let authority ← authorityOf? scheme place
    let rest := cs.drop place.length
    let path := if rest.isEmpty ∧ !isWeb scheme then "" else pathOf scheme rest
    return ⟨scheme, some authority, path, query, fragment⟩
  else if scheme = "file" then return ⟨scheme, some "", pathOf scheme cs, query, fragment⟩
  else if slashes = 1 then return ⟨scheme, none, pathOf scheme cs, query, fragment⟩
  else return ⟨scheme, none, encode "" cs, query, fragment⟩

/-- Read an address; without a scheme there is none. -/
def ofText? (s : String) : Option Address := do
  let isEdge (c : Char) : Bool := c.toNat ≤ 0x20
  let trimmed := Text.dropEndWhile isEdge (s.toList.dropWhile isEdge)
  let cs := trimmed.filter fun c => c ≠ '\t' ∧ c ≠ '\n' ∧ c ≠ '\r'
  let (scheme, rest) ← readScheme cs
  let main := rest.takeWhile (· ≠ '#')
  let before := main.takeWhile (· ≠ '?')
  let query := if before.length = main.length then none
    else some (encode (querySpecial scheme) (main.drop (before.length + 1)))
  let fragment := if main.length = rest.length then none
    else some (encode fragmentSpecial (rest.drop (main.length + 1)))
  ofParts? scheme before query fragment

/-- What is asked of the host: the path and the query. -/
def target (a : Address) : String :=
  a.path ++ (a.query.map ("?" ++ ·)).getD ""

def text (a : Address) : String :=
  a.scheme ++ ":" ++ (a.authority.map ("//" ++ ·)).getD "" ++ a.target
    ++ (a.fragment.map ("#" ++ ·)).getD ""

def takesRequests (a : Address) : Bool :=
  a.scheme == "http" || a.scheme == "https"

end Address

end ReplyScript.Endpoint
