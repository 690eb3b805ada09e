/-! # UTF-8

Bytes are decoded one at a time. A byte sequence that breaks off or cannot begin a character counts
as one fault, up to the byte where it went wrong; that byte is then read afresh.

Places in a text are counted in bytes, too, and a text is cut at such places.

A text of bytes has for each byte the character with its number. Programs that know nothing of
characters beyond bytes work on such texts.
-/

namespace ReplyScript.Text

/-! ## Decoding -/

def encode (s : String) : List UInt8 :=
  s.toUTF8.toList

/-- A character of which some bytes have been read: how many are left, between which bounds the next
one must lie, and the value so far. -/
structure Partial where
  left : Nat
  low : Nat
  high : Nat
  value : Nat
  deriving Repr, DecidableEq, BEq, Inhabited

/-- What a byte begins: a character of its own, a longer character, or nothing. -/
inductive Lead where
  | whole (c : Char)
  | more (p : Partial)
  | none
  deriving Repr, DecidableEq, BEq, Inhabited

/-- The bounds keep out long forms, surrogates and values beyond the last code point. -/
def lead (b : Nat) : Lead :=
  if b < 0x80 then .whole (Char.ofNat b)
  else if b < 0xC2 then .none
  else if b < 0xE0 then .more ⟨1, 0x80, 0xBF, b - 0xC0⟩
  else if b = 0xE0 then .more ⟨2, 0xA0, 0xBF, 0⟩
  else if b = 0xED then .more ⟨2, 0x80, 0x9F, 0xD⟩
  else if b < 0xF0 then .more ⟨2, 0x80, 0xBF, b - 0xE0⟩
  else if b = 0xF0 then .more ⟨3, 0x90, 0xBF, 0⟩
  else if b < 0xF4 then .more ⟨3, 0x80, 0xBF, b - 0xF0⟩
  else if b = 0xF4 then .more ⟨3, 0x80, 0x8F, 4⟩
  else .none

/-- Read a byte where a character may begin. -/
def beginChar (b : Nat) : List (Option Char) × Option Partial :=
  match lead b with
  | .whole c => ([some c], none)
  | .more p => ([], some p)
  | .none => ([none], none)

def stepByte (pending : Option Partial) (b : Nat) : List (Option Char) × Option Partial :=
  match pending with
  | none => beginChar b
  | some p =>
      if p.low ≤ b ∧ b ≤ p.high then
        let value := 64 * p.value + (b - 0x80)
        if p.left ≤ 1 then ([some (Char.ofNat value)], none)
        else ([], some ⟨p.left - 1, 0x80, 0xBF, value⟩)
      else
        let (read, pending) := beginChar b
        (none :: read, pending)

/-- The characters of bytes; `none` stands for a fault. -/
def decodeFrom (pending : Option Partial) : List UInt8 → List (Option Char)
  | [] => if pending.isSome then [none] else []
  | b :: bs =>
      let (read, pending) := stepByte pending b.toNat
      read ++ decodeFrom pending bs

/-- The text of bytes without faults. -/
def decode? (bytes : List UInt8) : Option String :=
  ((decodeFrom none bytes).mapM id).map String.ofList

/-- The text of bytes up to the line that has the first fault in it, and whether there is one. -/
def decodeSound (bytes : List UInt8) : String × Bool :=
  let chars := decodeFrom none bytes
  let sound := (chars.takeWhile (·.isSome)).filterMap id
  if sound.length = chars.length then (String.ofList sound, false)
  else (String.ofList (sound.reverse.dropWhile (· ≠ '\n')).reverse, true)

/-- The text of bytes, with a replacement character for each fault. -/
def decodeLossy (bytes : List UInt8) : String :=
  String.ofList ((decodeFrom none bytes).map (·.getD '\uFFFD'))

/-! ## Cutting

A text is cut only between characters: anywhere else there is nothing. -/

/-- The bytes of characters. -/
def byteCount : List Char → Nat
  | [] => 0
  | c :: cs => c.utf8Size + byteCount cs

/-- Cut after so many bytes. -/
def cut? : Nat → List Char → Option (List Char × List Char)
  | 0, cs => some ([], cs)
  | _ + 1, [] => none
  | n + 1, c :: cs =>
      if c.utf8Size ≤ n + 1 then
        (cut? (n + 1 - c.utf8Size) cs).map fun (before, after) => (c :: before, after)
      else none

/-- The bytes from `start` up to `stop`. -/
def slice? (s : String) (start stop : Nat) : Option String :=
  if start ≤ stop then do
    let (upTo, _) ← cut? stop s.toList
    let (_, part) ← cut? start upTo
    return String.ofList part
  else none

/-! ## Texts of bytes -/

def ofBytes (bytes : List UInt8) : String :=
  String.ofList (bytes.map fun b => Char.ofNat b.toNat)

def toBytes (s : String) : List UInt8 :=
  s.toList.map fun c => c.toNat.toUInt8

def widen (s : String) : String :=
  ofBytes (encode s)

/-- The text whose bytes a text of bytes holds; faults are replaced. -/
def narrow (s : String) : String :=
  decodeLossy (toBytes s)

end ReplyScript.Text
