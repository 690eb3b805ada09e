/-! # Blank characters

The characters with the Unicode property White_Space, and the trimming and word splitting that
go by them. Directive lines, index arguments and blank requests are all read with this notion of
blank.
-/

namespace ReplyScript.Text

/-- The characters with the Unicode property White_Space. -/
def isBlank (c : Char) : Bool :=
  let n := c.toNat
  (0x9 ≤ n && n ≤ 0xD) || n == 0x20 || n == 0x85 || n == 0xA0 || n == 0x1680
    || (0x2000 ≤ n && n ≤ 0x200A) || n == 0x2028 || n == 0x2029 || n == 0x202F || n == 0x205F
    || n == 0x3000

/-- Drop the longest run of elements satisfying `p` from the end. -/
def dropEndWhile (p : α → Bool) (l : List α) : List α :=
  (l.reverse.dropWhile p).reverse

theorem dropEndWhile_concat {α : Type} (p : α → Bool) (l : List α) (a : α) :
    dropEndWhile p (l ++ [a]) = if p a then dropEndWhile p l else l ++ [a] := by
  unfold dropEndWhile
  rw [List.reverse_append, List.reverse_singleton, List.singleton_append, List.dropWhile_cons]
  split
  · rfl
  · rw [List.reverse_cons, List.reverse_reverse]

theorem dropEndWhile_cons_of_neg {α : Type} {p : α → Bool} {a : α} (other : ¬ p a = true)
    (l : List α) : dropEndWhile p (a :: l) = a :: dropEndWhile p l := by
  unfold dropEndWhile
  rw [List.reverse_cons, List.dropWhile_append, List.dropWhile_cons_of_neg other]
  split
  · rename_i gone
    rw [List.isEmpty_iff.mp gone]
    rfl
  · rw [List.reverse_append]
    rfl

/-- What is dropped from the end satisfies `p`. -/
theorem dropEndWhile_append {α : Type} (p : α → Bool) (l : List α) :
    ∃ dropped, dropEndWhile p l ++ dropped = l ∧ ∀ a ∈ dropped, p a = true := by
  refine ⟨(l.reverse.takeWhile p).reverse, ?_, fun a member => ?_⟩
  · rw [dropEndWhile, ← List.reverse_append, List.takeWhile_append_dropWhile, List.reverse_reverse]
  · exact List.all_eq_true.mp (List.all_takeWhile (l := l.reverse)) a (List.mem_reverse.mp member)

theorem getLast?_dropEndWhile {α : Type} {p : α → Bool} {l : List α} {a : α}
    (last : (dropEndWhile p l).getLast? = some a) : p a = false := by
  rw [dropEndWhile, List.getLast?_reverse] at last
  have kept := List.head?_dropWhile_not p l.reverse
  rw [last] at kept
  exact kept

def trimStart (s : String) : String :=
  String.ofList (s.toList.dropWhile isBlank)

def trimEnd (s : String) : String :=
  String.ofList (dropEndWhile isBlank s.toList)

def trim (s : String) : String :=
  String.ofList (dropEndWhile isBlank (s.toList.dropWhile isBlank))

/-- Whether a text holds nothing but blanks. -/
def allBlank (s : String) : Bool :=
  s.toList.all isBlank

/-- The maximal runs of non-blank characters. -/
def words (s : String) : List String :=
  ((s.toList.splitOnP isBlank).filter (· ≠ [])).map String.ofList

end ReplyScript.Text
