import ReplyScript.Text.Category

/-! # Strings in JSON texts

`escape` writes the characters of a string between its quotes, `unescape` reads them up to the
closing quote. Main statement: `unescape_escape`, what was written reads back.
-/

namespace ReplyScript.Json

def hexDigit? (c : Char) : Option Nat :=
  if c.isDigit then some (c.toNat - 48)
  else if 'a' ≤ c ∧ c ≤ 'f' then some (c.toNat - 87)
  else if 'A' ≤ c ∧ c ≤ 'F' then some (c.toNat - 55)
  else none

/-- The value of four hexadecimal digits. -/
def hexUnit? (a b c d : Char) : Option Nat := do
  let a ← hexDigit? a
  let b ← hexDigit? b
  let c ← hexDigit? c
  let d ← hexDigit? d
  return 16 * (16 * (16 * a + b) + c) + d

/-- The character written by a backslash and one letter. -/
def shortEscape? : Char → Option Char
  | '"' => some '"'
  | '\\' => some '\\'
  | '/' => some '/'
  | 'b' => some '\x08'
  | 'f' => some '\x0c'
  | 'n' => some '\n'
  | 'r' => some '\r'
  | 't' => some '\t'
  | _ => none

/-- The first of a pair of units that together write one character. -/
def isLeadUnit (n : Nat) : Bool :=
  0xD800 ≤ n && n ≤ 0xDBFF

/-- The second of a pair of units. -/
def isTrailUnit (n : Nat) : Bool :=
  0xDC00 ≤ n && n ≤ 0xDFFF

/-- The character of a pair of units. -/
def pairChar (lead trail : Nat) : Char :=
  Char.ofNat (0x10000 + (lead - 0xD800) * 0x400 + (trail - 0xDC00))

/-- Put a character in front of the characters that were read. -/
def push (c : Char) (read : Option (List Char × List Char)) : Option (List Char × List Char) :=
  read.map fun (s, rest) => (c :: s, rest)

/-- Read the characters of a string up to its closing quote. Controls must be escaped, and units
of a pair stand together. -/
def unescape : List Char → Option (List Char × List Char)
  | [] => none
  | '"' :: rest => some ([], rest)
  | '\\' :: 'u' :: a :: b :: c :: d :: rest => do
      let unit ← hexUnit? a b c d
      if isLeadUnit unit then
        match rest with
        | '\\' :: 'u' :: e :: f :: g :: h :: rest => do
            let trail ← hexUnit? e f g h
            if isTrailUnit trail then push (pairChar unit trail) (unescape rest) else none
        | _ => none
      else if isTrailUnit unit then none
      else push (Char.ofNat unit) (unescape rest)
  | '\\' :: c :: rest => do
      let x ← shortEscape? c
      push x (unescape rest)
  | c :: rest => if c = '\\' ∨ c.toNat < 0x20 then none else push c (unescape rest)
termination_by structural cs => cs

/-- A lower-case hexadecimal digit. -/
def hexChar (n : Nat) : Char :=
  if n < 10 then Char.ofNat (48 + n) else Char.ofNat (87 + n)

/-- The written form of one character. -/
def escapeChar (c : Char) : List Char :=
  match c with
  | '"' => ['\\', '"']
  | '\\' => ['\\', '\\']
  | '\x08' => ['\\', 'b']
  | '\x0c' => ['\\', 'f']
  | '\n' => ['\\', 'n']
  | '\r' => ['\\', 'r']
  | '\t' => ['\\', 't']
  | c =>
    if c.toNat < 0x20 then ['\\', 'u', '0', '0', hexChar (c.toNat / 16), hexChar (c.toNat % 16)]
    else [c]

/-- The written form of the characters of a string, without quotes. -/
def escape (s : List Char) : List Char :=
  s.flatMap escapeChar

theorem unescape_ordinary {c : Char} (cs : List Char) (hq : c ≠ '"') (hb : c ≠ '\\')
    (hc : ¬ c.toNat < 0x20) : unescape (c :: cs) = push c (unescape cs) := by
  rw [unescape.eq_5 c cs hq (fun _ _ _ _ _ h _ => hb h) (fun _ _ h _ => hb h)]
  exact if_neg (not_or.2 ⟨hb, hc⟩)

/-- The characters of a string that stand for themselves. -/
def Plain (c : Char) : Prop :=
  c ≠ '"' ∧ c ≠ '\\' ∧ ¬ c.toNat < 0x20

instance : DecidablePred Plain := fun c =>
  inferInstanceAs (Decidable (c ≠ '"' ∧ c ≠ '\\' ∧ ¬ c.toNat < 0x20))

theorem unescape_plain {s : List Char} (plain : ∀ c ∈ s, Plain c) (rest : List Char) :
    unescape (s ++ '"' :: rest) = some (s, rest) := by
  induction s with
  | nil => rfl
  | cons c s ih =>
      obtain ⟨hq, hb, hc⟩ := plain c List.mem_cons_self
      rw [List.cons_append, unescape_ordinary _ hq hb hc,
        ih fun x hx => plain x (List.mem_cons_of_mem _ hx)]
      rfl

theorem hexUnit?_hexChar {n : Nat} (h : n < 0x20) :
    hexUnit? '0' '0' (hexChar (n / 16)) (hexChar (n % 16)) = some n := by
  have all : ∀ m < 0x20, hexUnit? '0' '0' (hexChar (m / 16)) (hexChar (m % 16)) = some m := by
    decide
  exact all n h

theorem unescape_escapeChar (c : Char) (cs : List Char) :
    unescape (escapeChar c ++ cs) = push c (unescape cs) := by
  rw [escapeChar.eq_def]
  split
  case h_8 =>
    split
    case isTrue h =>
      have hlead : isLeadUnit c.toNat = false := by simp [isLeadUnit]; omega
      have htrail : isTrailUnit c.toNat = false := by simp [isTrailUnit]; omega
      simp [unescape, hexUnit?_hexChar h, hlead, htrail]
    case isFalse h => exact unescape_ordinary cs (by assumption) (by assumption) h
  all_goals simp [unescape, shortEscape?]

/-- What was written reads back, whatever follows the closing quote. -/
theorem unescape_escape (s rest : List Char) :
    unescape (escape s ++ '"' :: rest) = some (s, rest) := by
  induction s with
  | nil => rfl
  | cons c s ih =>
      rw [escape, List.flatMap_cons, List.append_assoc, unescape_escapeChar, ← escape, ih]
      rfl

def quoted (s : String) : List Char :=
  '"' :: (escape s.toList ++ ['"'])

end ReplyScript.Json
