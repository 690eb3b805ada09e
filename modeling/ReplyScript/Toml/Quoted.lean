import ReplyScript.Json.Quoted

/-! # Strings in TOML documents

Texts between double quotes have escapes, texts between single quotes stand for themselves. Between
three quotes on either side a text may go over several lines, and its line ends become newlines.
-/

namespace ReplyScript.Toml

open Json (push hexDigit?)

/-- The characters that may stand in a text or a comment: no controls but the tab. -/
def isPlain (c : Char) : Bool :=
  c == '\t' || (0x20 ≤ c.toNat && c.toNat != 0x7F)

/-- The blanks of a line. -/
def isSpace (c : Char) : Bool :=
  c == ' ' || c == '\t'

def afterNewline? : List Char → Option (List Char)
  | '\n' :: rest | '\r' :: '\n' :: rest => some rest
  | _ => none

/-- The character whose code point is written in so many hexadecimal digits. -/
def readCodePoint (count : Nat) (cs : List Char) : Option (Char × List Char) := do
  let digits ← (cs.take count).mapM hexDigit?
  let n := digits.foldl (fun n d => 16 * n + d) 0
  if digits.length = count ∧ n.isValidChar then some (Char.ofNat n, cs.drop count) else none

def readEscape : List Char → Option (Char × List Char)
  | 'b' :: rest => some ('\x08', rest)
  | 't' :: rest => some ('\t', rest)
  | 'n' :: rest => some ('\n', rest)
  | 'f' :: rest => some ('\x0c', rest)
  | 'r' :: rest => some ('\r', rest)
  | '"' :: rest => some ('"', rest)
  | '\\' :: rest => some ('\\', rest)
  | 'u' :: rest => readCodePoint 4 rest
  | 'U' :: rest => readCodePoint 8 rest
  | _ => none

/-- Read a text up to its double quote. `fuel` bounds its length. -/
def readBasic : (fuel : Nat) → List Char → Option (List Char × List Char)
  | 0, _ | _, [] => none
  | _, '"' :: rest => some ([], rest)
  | fuel + 1, '\\' :: rest => do
      let (c, rest) ← readEscape rest
      push c (readBasic fuel rest)
  | fuel + 1, c :: rest => if isPlain c then push c (readBasic fuel rest) else none

/-- Read a text up to its single quote. -/
def readLiteral : List Char → Option (List Char × List Char)
  | [] => none
  | '\x27' :: rest => some ([], rest)
  | c :: rest => if isPlain c then push c (readLiteral rest) else none

/-- Remove blanks and line ends, which a backslash at the end of a line takes with it. -/
def skipGap : List Char → List Char
  | '\n' :: rest | '\r' :: '\n' :: rest => skipGap rest
  | c :: rest => if isSpace c then skipGap rest else c :: rest
  | [] => []

/-- Remove a line end behind blanks, and all blanks and line ends that follow. -/
def afterGap? (cs : List Char) : Option (List Char) :=
  (afterNewline? (cs.dropWhile isSpace)).map skipGap

/-- Read a text of several lines up to three quotes of its kind. One or two quotes belong to the
text, also before the three that end it. `fuel` bounds its length. -/
def readLong (quote : Char) (escapes : Bool) : (fuel : Nat) → List Char →
    Option (List Char × List Char)
  | 0, _ | _, [] => none
  | fuel + 1, c :: rest =>
      if c = quote then
        let count := ((c :: rest).takeWhile (· = quote)).length
        let text := List.replicate (if count < 3 then count else min (count - 3) 2) quote
        if count < 3 then
          (readLong quote escapes fuel ((c :: rest).drop count)).map fun (s, rest) =>
            (text ++ s, rest)
        else some (text, (c :: rest).drop (min count 5))
      else if c = '\\' ∧ escapes then
        match afterGap? rest with
        | some rest => readLong quote escapes fuel rest
        | none => do
            let (c, rest) ← readEscape rest
            push c (readLong quote escapes fuel rest)
      else match afterNewline? (c :: rest) with
        | some rest => push '\n' (readLong quote escapes fuel rest)
        | none => if isPlain c then push c (readLong quote escapes fuel rest) else none

def readText (cs : List Char) : Option (List Char × List Char) :=
  match cs with
  | '"' :: '"' :: '"' :: rest =>
      readLong '"' true (rest.length + 1) ((afterNewline? rest).getD rest)
  | '\x27' :: '\x27' :: '\x27' :: rest =>
      readLong '\x27' false (rest.length + 1) ((afterNewline? rest).getD rest)
  | '"' :: rest => readBasic (rest.length + 1) rest
  | '\x27' :: rest => readLiteral rest
  | _ => none

end ReplyScript.Toml
