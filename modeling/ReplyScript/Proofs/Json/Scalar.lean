import Mathlib.Data.List.TakeWhile
import ReplyScript.Script.Argument

/-! # Scalars that read back

A text without escapes between quotes, and the decimal digits of a whole number that fits in a
signed word, are scalars with the value they were written for.
-/

namespace ReplyScript.Json

open Text (digitValue digitsValue)

theorem scalar?_of_read {s : String} {x : Scalar}
    (first : ∀ c, s.toList.head? = some c → isSpace c = false)
    (read : readScalar s.toList = some (x, [])) : scalar? s = some x := by
  have kept : s.toList.dropWhile isSpace = s.toList := by
    cases shape : s.toList with
    | nil => rfl
    | cons c cs =>
        have noSpace := first c (by rw [shape, List.head?_cons])
        rw [List.dropWhile_cons, noSpace, if_neg Bool.false_ne_true]
  simp only [scalar?, kept, read, List.all_nil, if_true]

theorem scalar?_plain {s : String} (plain : ∀ c ∈ s.toList, Plain c) :
    scalar? ("\"" ++ s ++ "\"") = some (.text s) := by
  have shape : ("\"" ++ s ++ "\"").toList = '"' :: (s.toList ++ ['"']) := by
    simp [String.toList_append]
  apply scalar?_of_read
  · intro c first
    rw [shape, List.head?_cons, Option.some.injEq] at first
    subst first
    rfl
  · rw [shape]
    simp only [readScalar, unescape_plain plain, Option.map_some, String.ofList_toList]

/-! Whole numbers -/

theorem le_foldl_digits (n : Nat) (ds : List Char) :
    n ≤ ds.foldl (fun n c => 10 * n + digitValue c) n := by
  induction ds generalizing n with
  | nil => exact Nat.le_refl n
  | cons c ds ih =>
      have h := ih (10 * n + digitValue c)
      simp only [List.foldl_cons]
      omega

theorem takeDigits_all (n : Nat) (ds : List Char)
    (fits : ds.foldl (fun n c => 10 * n + digitValue c) n < wordLimit) :
    takeDigits n ds = (ds.foldl (fun n c => 10 * n + digitValue c) n, []) := by
  induction ds generalizing n with
  | nil => rfl
  | cons c ds ih =>
      have small := Nat.lt_of_le_of_lt (le_foldl_digits (10 * n + digitValue c) ds) fits
      simp only [takeDigits, small, if_true, List.foldl_cons]
      exact ih (10 * n + digitValue c) fits

theorem digitsValue_toDigits (n : Nat) : digitsValue (Nat.toDigits 10 n) = n := by
  have h := Nat.ofDigitChars_ten_toDigits (n := n)
  rwa [Nat.ofDigitChars_eq_foldl] at h

theorem isDigit_of_mem {n : Nat} : ∀ c ∈ Nat.toDigits 10 n, c.isDigit = true := by
  intro c member
  exact Nat.isDigit_of_mem_toDigits (by decide) (by decide) member

/-- The digits of a number other than zero do not start with a zero. -/
theorem head?_toDigits_ne_zero {n : Nat} (positive : 0 < n) :
    (Nat.toDigits 10 n).head? ≠ some '0' := by
  induction n using Nat.strongRecOn with
  | ind n ih =>
      by_cases small : n < 10
      · have all : ∀ m < 10, 0 < m → (Nat.toDigits 10 m).head? ≠ some '0' := by decide
        exact all n small positive
      · rw [Nat.toDigits_of_base_le (by decide) (by omega), List.head?_append,
          Option.or_of_isSome]
        · exact ih (n / 10) (by omega) (by omega)
        · simp [List.isSome_head?, Nat.toDigits_ne_nil]

theorem whole?_toDigits (n : Nat) : whole? (Nat.toDigits 10 n) = some (Nat.toDigits 10 n, []) := by
  rcases Nat.eq_zero_or_pos n with rfl | positive
  · rfl
  · have digits := isDigit_of_mem (n := n)
    have taken := List.takeWhile_eq_self_iff.mpr digits
    have dropped := List.dropWhile_eq_nil_iff.mpr digits
    have first := head?_toDigits_ne_zero positive
    cases shape : Nat.toDigits 10 n with
    | nil => exact absurd shape Nat.toDigits_ne_nil
    | cons c ds =>
        rw [shape] at taken dropped first
        have notZero : c ≠ '0' := by simpa using first
        rw [whole?.eq_2 (c :: ds) (by simpa using fun h => absurd h notZero), taken, dropped]

theorem read_digits (n : Nat) :
    NumberText.read (Nat.toDigits 10 n) = some (⟨false, Nat.toDigits 10 n, none, none⟩, []) := by
  have noSign : ∀ r, Nat.toDigits 10 n ≠ '-' :: r := by
    intro r same
    have digit := isDigit_of_mem (n := n) '-' (same ▸ List.mem_cons_self)
    exact absurd digit (by decide)
  rw [NumberText.read]
  · simp [NumberText.readUnsigned, whole?_toDigits, fraction?, exponent?]
  · exact noSign

theorem read_negative (n : Nat) :
    NumberText.read ('-' :: Nat.toDigits 10 n) =
      some (⟨true, Nat.toDigits 10 n, none, none⟩, []) := by
  simp [NumberText.read, NumberText.readUnsigned, whole?_toDigits, fraction?, exponent?]

theorem value?_digits (negative : Bool) {n : Nat} (fits : n < wordLimit)
    (signed : negative = true → n ≠ 0 ∧ n ≤ 0x8000000000000000) :
    NumberText.value? ⟨negative, Nat.toDigits 10 n, none, none⟩ =
      some (.integer (if negative then -(n : Int) else n)) := by
  have taken : takeDigits 0 (Nat.toDigits 10 n) = (n, []) := by
    have all := takeDigits_all 0 (Nat.toDigits 10 n)
    rw [← digitsValue, digitsValue_toDigits] at all
    exact all fits
  have sign : if negative = true then n ≠ 0 ∧ n ≤ 0x8000000000000000 else True := by
    split
    · exact signed ‹_›
    · trivial
  simp only [NumberText.value?, taken, Option.isNone_none, sign, and_self, if_true]

theorem readScalar_digits {n : Nat} (fits : n < wordLimit) :
    readScalar (Nat.toDigits 10 n) = some (.number (.integer n), []) := by
  have value := value?_digits false fits (fun h => nomatch h)
  have digits := isDigit_of_mem (n := n)
  rw [readScalar.eq_def]
  split
  case h_5 => simp [read_digits, value]
  all_goals
    have digit := digits _ (‹Nat.toDigits 10 n = _› ▸ List.mem_cons_self)
    exact absurd digit (by decide)

theorem readScalar_negative {n : Nat} (fits : n ≤ 0x8000000000000000) (positive : n ≠ 0) :
    readScalar ('-' :: Nat.toDigits 10 n) = some (.number (.integer (-(n : Int))), []) := by
  have value := value?_digits true (n := n) (by rw [wordLimit, UInt64.size]; omega)
    fun _ => ⟨positive, fits⟩
  simp [readScalar, read_negative, value]

theorem isSpace_of_isDigit {c : Char} (digit : c.isDigit = true) : isSpace c = false := by
  have not : ∀ d, d.isDigit = false → (c == d) = false := by
    intro d noDigit
    rw [beq_eq_false_iff_ne]
    rintro rfl
    exact absurd digit (by rw [noDigit]; exact Bool.false_ne_true)
  simp only [isSpace, not ' ' rfl, not '\t' rfl, not '\n' rfl, not '\r' rfl, Bool.or_self]

/-- A whole number of a signed word is read as it was written. -/
theorem scalar?_int {n : Int} (low : -0x8000000000000000 ≤ n) (high : n < 0x8000000000000000) :
    scalar? (toString n) = some (.number (.integer n)) := by
  rw [Int.toString_eq_repr]
  cases n with
  | ofNat m =>
      have fits : m < wordLimit := by
        have below : ((m : Nat) : Int) < ((0x8000000000000000 : Nat) : Int) := high
        rw [wordLimit, UInt64.size]
        omega
      apply scalar?_of_read
      · intro c first
        rw [Int.repr, Nat.toList_repr] at first
        exact isSpace_of_isDigit (isDigit_of_mem c (List.mem_of_mem_head? first))
      · rw [Int.repr, Nat.toList_repr]
        exact readScalar_digits fits
  | negSucc m =>
      have shape : (Int.repr (.negSucc m)).toList = '-' :: Nat.toDigits 10 (m + 1) := by
        rw [Int.repr, String.toList_append, Nat.toList_repr]
        rfl
      apply scalar?_of_read
      · intro c first
        rw [shape, List.head?_cons, Option.some.injEq] at first
        subst first
        rfl
      · rw [shape]
        exact readScalar_negative (by omega) (Nat.succ_ne_zero m)

end ReplyScript.Json
