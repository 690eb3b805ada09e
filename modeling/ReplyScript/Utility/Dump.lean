import ReplyScript.Utility.Input

/-! # Bytes as text

`od` shows bytes as numbers or characters, and `base64` writes them in letters.
-/

namespace ReplyScript.Utility

/-- How `od` shows bytes. -/
inductive DumpKind where
  | chars
  /-- Whole numbers of some bytes in a base; signed ones are decimal. -/
  | numbers (bytes base : Nat) (signed : Bool)
  deriving Repr, DecidableEq, BEq, Inhabited

/-- How many columns an item takes. -/
def DumpKind.width : DumpKind → Nat
  | chars => 4
  | numbers bytes base signed =>
      1 + match base with
        | 16 => 2 * bytes
        | 8 => (8 * bytes + 2) / 3
        | _ => (toString (Nat.pow 2 (8 * bytes) - 1)).length + (if signed then 1 else 0)

/-- A byte as a character. -/
def dumpedChar (n : Nat) : String :=
  match n with
  | 0 => "\\0"
  | 7 => "\\a"
  | 8 => "\\b"
  | 9 => "\\t"
  | 10 => "\\n"
  | 11 => "\\v"
  | 12 => "\\f"
  | 13 => "\\r"
  | n => if 32 ≤ n ∧ n < 127 then String.singleton (Char.ofNat n)
      else String.ofList (Job.octal n)

/-- A number in a base with zeros in front. -/
def inBase (base width n : Nat) : String :=
  let ds := Nat.toDigits base n
  String.ofList (List.replicate (width - ds.length) '0' ++ ds)

def DumpKind.items : DumpKind → (fuel : Nat) → List Nat → List String
  | _, 0, _ | _, _, [] => []
  | chars, fuel + 1, b :: bs => dumpedChar b :: chars.items fuel bs
  | k@(numbers bytes base signed), fuel + 1, bs =>
      let n := (bs.take bytes).foldr (fun b n => b + 256 * n) 0
      let item := match base with
        | 16 => inBase 16 (2 * bytes) n
        | 8 => inBase 8 ((8 * bytes + 2) / 3) n
        | _ =>
            if signed ∧ Nat.pow 2 (8 * bytes - 1) ≤ n then
              toString ((n : Int) - Nat.pow 2 (8 * bytes))
            else toString n
      item :: k.items fuel (bs.drop bytes)

def DumpKind.read? (s : String) : Option DumpKind :=
  match s.toList with
  | ['c'] | ['a'] => some chars
  | letter :: digits =>
      let bytes := (Text.digits? digits).getD (if letter = 'c' then 1 else 4)
      match letter with
      | 'x' => some (numbers bytes 16 false)
      | 'o' => some (numbers bytes 8 false)
      | 'u' => some (numbers bytes 10 false)
      | 'd' => some (numbers bytes 10 true)
      | _ => none
  | [] => none

/-- The rows of a dump with their addresses. Rows that repeat are left out. -/
def dumpRows (address : Nat → String) (kinds : List DumpKind) (everything : Bool) :
    (fuel : Nat) → (offset : Nat) → (last : Option (List Nat)) → (starred : Bool) → List Nat →
    String
  | 0, _, _, _, _ => ""
  | _ + 1, offset, _, _, [] => if address offset = "" then "" else address offset ++ "\n"
  | fuel + 1, offset, last, starred, bs =>
      let row := bs.take 16
      let rest := bs.drop 16
      if !everything ∧ last = some row ∧ row.length = 16 then
        (if starred then "" else "*\n")
          ++ dumpRows address kinds everything fuel (offset + 16) last true rest
      else
        let lead := address offset
        let lines := kinds.zipIdx.map fun (k, i) =>
          (if i = 0 then lead else String.ofList (List.replicate lead.length ' '))
            ++ String.join ((k.items (row.length + 1) row).map (padLeft k.width)) ++ "\n"
        String.join lines
          ++ dumpRows address kinds everything fuel (offset + row.length) (some row) false rest

/-- `od`: shows bytes. -/
def od : Utility := fun _ args =>
  JobM.withArguments "od"
    [⟨'A', "address-radix", .value⟩, ⟨'t', "format", .value⟩, ⟨'c', "", .nothing⟩,
     ⟨'b', "", .nothing⟩, ⟨'x', "", .nothing⟩, ⟨'d', "", .nothing⟩, ⟨'o', "", .nothing⟩,
     ⟨'v', "output-duplicates", .nothing⟩, ⟨'N', "read-bytes", .value⟩,
     ⟨'j', "skip-bytes", .value⟩] args fun a => do
  let (status, text) ← joinedInputs (plainly "od") a.operands
  let kinds := a.options.filterMap fun (key, value) => match key with
    | 't' => DumpKind.read? value
    | 'c' => some .chars
    | 'b' => some (.numbers 1 8 false)
    | 'x' => some (.numbers 2 16 false)
    | 'd' => some (.numbers 2 10 false)
    | 'o' => some (.numbers 2 8 false)
    | _ => none
  let kinds := if kinds.isEmpty then [.numbers 2 8 false] else kinds
  let address (n : Nat) : String := match a.value? 'A' with
    | some "n" => ""
    | some "d" => inBase 10 7 n
    | some "x" => inBase 16 6 n
    | _ => inBase 8 7 n
  let skipped := ((a.value? 'j').bind count?).getD 0
  let bytes := (text.toList.map Char.toNat).drop skipped
  let bytes := match (a.value? 'N').bind count? with
    | some n => bytes.take n
    | none => bytes
  JobM.say (dumpRows address kinds (a.has 'v') (bytes.length + 2) skipped none false bytes)
  return status

/-- The letters that six bits are written as. -/
def base64Letters : List Char :=
  "ABCDEFGHIJKLMNOPQRSTUVWXYZabcdefghijklmnopqrstuvwxyz0123456789+/".toList

/-- Bytes in letters, three bytes in four. -/
def encodeBase64 : List Char → List Char
  | a :: b :: c :: rest =>
      let n := a.toNat * 65536 + b.toNat * 256 + c.toNat
      letter (n / 262144) :: letter (n / 4096) :: letter (n / 64) :: letter n :: encodeBase64 rest
  | [a, b] =>
      let n := a.toNat * 65536 + b.toNat * 256
      [letter (n / 262144), letter (n / 4096), letter (n / 64), '=']
  | [a] =>
      let n := a.toNat * 65536
      [letter (n / 262144), letter (n / 4096), '=', '=']
  | [] => []
where
  /-- The letter of the last six bits. -/
  letter (n : Nat) : Char := (base64Letters[n % 64]?).getD 'A'

/-- The bytes that letters stand for, and whether there was nothing else. -/
def decodeBase64 : List Char → List Char × Bool
  | a :: b :: c :: d :: rest =>
      let value (x : Char) : Option Nat := base64Letters.findIdx? (· = x)
      let byte (n : Nat) : Char := Char.ofNat (n % 256)
      match value a, value b, value c, value d with
      | some a, some b, some c, some d =>
          let n := ((a * 64 + b) * 64 + c) * 64 + d
          let (more, good) := decodeBase64 rest
          (byte (n / 65536) :: byte (n / 256) :: byte n :: more, good)
      | some a, some b, some c, none =>
          let n := ((a * 64 + b) * 64 + c) * 64
          ([byte (n / 65536), byte (n / 256)], d = '=' && rest.isEmpty)
      | some a, some b, none, none =>
          let n := (a * 64 + b) * 4096
          ([byte (n / 65536)], c = '=' && d = '=' && rest.isEmpty)
      | _, _, _, _ => ([], false)
  | [] => ([], true)
  | _ => ([], false)

/-- `base64`: writes bytes in letters, or reads them. -/
def base64 : Utility := fun _ args =>
  JobM.withArguments "base64"
    [⟨'d', "decode", .nothing⟩, ⟨'w', "wrap", .value⟩,
     ⟨'i', "ignore-garbage", .nothing⟩] args fun a => do
  let name := a.operands.headD "-"
  match ← JobM.inputOf name with
  | .error reason => JobM.fail (plainly "base64" name reason)
  | .ok text =>
      if a.has 'd' then
        let letters := text.toList.filter fun c =>
          c ≠ '\n' && (!a.has 'i' || base64Letters.contains c || c = '=')
        let (bytes, good) := decodeBase64 letters
        JobM.say (String.ofList bytes)
        if good then return 0 else JobM.fail "base64: invalid input"
      else
        let letters := encodeBase64 text.toList
        let width := ((a.value? 'w').bind Text.numeral?).getD 76
        if width = 0 then JobM.say (String.ofList letters)
        else
          let rec rows : (fuel : Nat) → List Char → String
            | 0, _ | _, [] => ""
            | fuel + 1, cs =>
                String.ofList (cs.take width) ++ "\n" ++ rows fuel (cs.drop width)
          JobM.say (rows (letters.length + 1) letters)
        return 0

end ReplyScript.Utility
