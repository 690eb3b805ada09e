import Mathlib.Data.List.Forall2
import ReplyScript.Proofs.Script.Tokens
import ReplyScript.Script.Writing

/-! # Line ends

The lines of a written text are found again whatever stands between them: a carriage return that
belongs to a line end is dropped, and one that belongs to the line is lost only where no directive
depends on it.
-/

namespace ReplyScript.Script

/-- A source line that shows a line of a written text. A carriage return at the end of the line may
be lost. -/
structure Shows (line : String) (s : SourceLine) : Prop where
  directive : Directive.ofLine? s.text = Directive.ofLine? line
  text : line.toList.getLast? ≠ some '\r' → s.text = line

theorem dropCarriageReturn_same {line : String} (noReturn : line.toList.getLast? ≠ some '\r') :
    Text.dropCarriageReturn line = line := by
  rw [Text.dropCarriageReturn]
  split
  · exact absurd ‹_› noReturn
  · rfl

theorem dropCarriageReturn_append (line : String) :
    Text.dropCarriageReturn (line ++ "\r") = line := by
  have shape : (line ++ "\r").toList = line.toList ++ ['\r'] := String.toList_append
  simp [Text.dropCarriageReturn, shape]

theorem Shows.of_end {line ended : String} (h : ended = line ∨ ended = line ++ "\r") (span : Span) :
    Shows line ⟨Text.dropCarriageReturn ended, span⟩ := by
  rcases h with rfl | rfl
  · exact ⟨ofLine?_dropCarriageReturn ended, dropCarriageReturn_same⟩
  · rw [dropCarriageReturn_append]
    exact ⟨rfl, fun _ => rfl⟩

theorem shows_placeLines {lines ended : List String}
    (h : List.Forall₂ (fun l e => e = l ∨ e = l ++ "\r") lines ended) (offset : Nat) :
    List.Forall₂ Shows lines (placeLines offset ended) := by
  induction h generalizing offset with
  | nil => exact .nil
  | cons head _ ih => exact .cons (.of_end head _) (ih _)

/-- The lines of a text as they are between newlines: all but the last keep what else is in their
line end. -/
def LineEnd.endLines : LineEnd → List String → List String
  | .newline, ls => ls
  | .returnNewline, [] => []
  | .returnNewline, [l] => [l]
  | .returnNewline, l :: m :: ls => (l ++ "\r") :: endLines .returnNewline (m :: ls)

theorem endLines_related (e : LineEnd) (ls : List String) :
    List.Forall₂ (fun l e => e = l ∨ e = l ++ "\r") ls (e.endLines ls) := by
  fun_induction LineEnd.endLines e ls with
  | case1 ls => exact List.forall₂_same.mpr fun _ _ => .inl rfl
  | case2 => exact .nil
  | case3 l => exact .cons (.inl rfl) .nil
  | case4 l m ls ih => exact .cons (.inr rfl) ih

theorem unlines_endLines (e : LineEnd) (ls : List String) :
    Text.unlines (e.endLines ls) = e.text.intercalate ls := by
  fun_induction LineEnd.endLines e ls with
  | case1 ls => rfl
  | case2 => rfl
  | case3 l => rfl
  | case4 l m ls ih =>
      have nonempty : LineEnd.endLines .returnNewline (m :: ls) ≠ [] := by
        cases ls <;> exact List.cons_ne_nil _ _
      rw [Text.unlines, String.intercalate_cons_of_ne_nil nonempty,
        String.intercalate_cons_of_ne_nil (List.cons_ne_nil m ls), ← ih]
      rw [← String.toList_inj]
      simp [Text.unlines, LineEnd.text]

theorem oneLine_endLines {e : LineEnd} {ls : List String} (oneLine : ∀ l ∈ ls, '\n' ∉ l.toList) :
    ∀ l ∈ e.endLines ls, '\n' ∉ l.toList := by
  intro l member
  obtain ⟨i, inside, rfl⟩ := List.getElem_of_mem member
  have related := endLines_related e ls
  have inside' : i < ls.length := by rwa [related.length_eq]
  have free := oneLine ls[i] (List.getElem_mem inside')
  rcases related.get inside' inside with same | same
  · rw [List.get_eq_getElem, List.get_eq_getElem] at same
    rwa [same]
  · rw [List.get_eq_getElem, List.get_eq_getElem] at same
    rw [same, String.toList_append, List.mem_append, not_or]
    exact ⟨free, by decide⟩

theorem shows_text (e : LineEnd) {ls : List String} (nonempty : ls ≠ [])
    (oneLine : ∀ l ∈ ls, '\n' ∉ l.toList) :
    List.Forall₂ Shows ls (sourceLines (e.text.intercalate ls)) := by
  have related := endLines_related e ls
  have nonempty' : e.endLines ls ≠ [] := by
    intro empty
    rw [empty] at related
    exact nonempty (List.forall₂_nil_right_iff.mp related)
  rw [sourceLines, ← unlines_endLines, Text.lines_unlines nonempty' (oneLine_endLines oneLine)]
  exact shows_placeLines related 0

theorem Shows.split {as bs : List String} {ss : List SourceLine}
    (h : List.Forall₂ Shows (as ++ bs) ss) :
    ∃ xs ys, ss = xs ++ ys ∧ List.Forall₂ Shows as xs ∧ List.Forall₂ Shows bs ys := by
  induction as generalizing ss with
  | nil => exact ⟨[], ss, rfl, .nil, h⟩
  | cons a as ih =>
      cases h with
      | cons head tail =>
          obtain ⟨xs, ys, rfl, left, right⟩ := ih tail
          exact ⟨_ :: xs, ys, rfl, .cons head left, right⟩

end ReplyScript.Script
