import ReplyScript.Edit.Bytes
import ReplyScript.Proofs.Edit.Splice

/-! # Buffers cut at characters

Every byte that a position of a buffer becomes is at the start of a character or at the end of its
line, and every range of lines is there. So nothing that a buffer cuts by bytes is missing, and the
outcome is the one by characters: `textInBytes_eq` and `replaceBytes_eq`.
-/

namespace ReplyScript.Text

theorem byteCount_append (as bs : List Char) :
    byteCount (as ++ bs) = byteCount as + byteCount bs := by
  induction as with
  | nil => simp [byteCount]
  | cons c as ih => rw [List.cons_append, byteCount, byteCount, ih, Nat.add_assoc]

theorem byteCount_toList (s : String) : byteCount s.toList = s.utf8ByteSize := by
  have whole (cs : List Char) : byteCount cs = (String.ofList cs).utf8ByteSize := by
    induction cs with
    | nil => simp [byteCount]
    | cons c cs ih => rw [byteCount, ih, String.ofList_cons, String.utf8ByteSize_append,
        String.utf8ByteSize_singleton]
  rw [whole, String.ofList_toList]

theorem byteCount_take_le (cs : List Char) {m n : Nat} (le : m ≤ n) :
    byteCount (cs.take m) ≤ byteCount (cs.take n) := by
  induction cs generalizing m n with
  | nil => simp
  | cons c cs ih =>
      cases m with
      | zero => exact Nat.zero_le _
      | succ m =>
          obtain ⟨n, rfl⟩ : ∃ k, n = k + 1 := ⟨n - 1, by omega⟩
          have rest := ih (Nat.le_of_succ_le_succ le)
          simp only [List.take_succ_cons, byteCount]
          omega

theorem byteCount_take_lt (cs : List Char) {i j : Nat} (lt : i < j) (within : j ≤ cs.length) :
    byteCount (cs.take i) < byteCount (cs.take j) := by
  have split : cs.take j = cs.take i ++ (cs.take j).drop i := by
    have whole := List.take_append_drop i (cs.take j)
    rw [List.take_take, Nat.min_eq_left (Nat.le_of_lt lt)] at whole
    exact whole.symm
  obtain ⟨c, rest, more⟩ : ∃ c rest, (cs.take j).drop i = c :: rest := by
    refine List.exists_cons_of_ne_nil fun none => ?_
    have length := congrArg List.length none
    rw [List.length_drop, List.length_take_of_le within, List.length_nil] at length
    omega
  have size := c.utf8Size_pos
  rw [split, byteCount_append, more, byteCount]
  omega

theorem charStarts_eq (offset : Nat) (cs : List Char) (n : Nat) :
    (charStarts offset cs)[n]?.getD (offset + byteCount cs) = offset + byteCount (cs.take n) := by
  induction cs generalizing offset n with
  | nil => simp [charStarts, byteCount]
  | cons c cs ih =>
      cases n with
      | zero => simp [charStarts, byteCount]
      | succ n =>
          simp only [charStarts, List.getElem?_cons_succ, List.take_succ_cons, byteCount,
            ← Nat.add_assoc]
          exact ih (offset + c.utf8Size) n

theorem cut?_take (cs : List Char) (n : Nat) :
    cut? (byteCount (cs.take n)) cs = some (cs.take n, cs.drop n) := by
  induction cs generalizing n with
  | nil => simp [cut?, byteCount]
  | cons c cs ih =>
      cases n with
      | zero => simp [cut?, byteCount]
      | succ n =>
          have size := c.utf8Size_pos
          obtain ⟨k, bytes⟩ : ∃ k, c.utf8Size + byteCount (cs.take n) = k + 1 :=
            ⟨c.utf8Size + byteCount (cs.take n) - 1, by omega⟩
          have rest : k + 1 - c.utf8Size = byteCount (cs.take n) := by omega
          rw [List.take_succ_cons, byteCount, bytes, cut?, if_pos (by omega), rest, ih]
          rfl

theorem slice?_take (s : String) {m n : Nat} (le : m ≤ n) :
    slice? s (byteCount (s.toList.take m)) (byteCount (s.toList.take n))
      = some (String.ofList ((s.toList.take n).drop m)) := by
  have inner := cut?_take (s.toList.take n) m
  rw [List.take_take, Nat.min_eq_left le] at inner
  unfold slice?
  rw [if_pos (byteCount_take_le s.toList le), cut?_take]
  simp only [Option.bind_eq_bind, Option.bind_some, inner]
  rfl

theorem slice?_to (s : String) (n : Nat) :
    slice? s 0 (byteCount (s.toList.take n)) = some (String.ofList (s.toList.take n)) := by
  have cut := slice?_take s (Nat.zero_le n)
  rw [List.take_zero, List.drop_zero] at cut
  exact cut

theorem slice?_from (s : String) (n : Nat) :
    slice? s (byteCount (s.toList.take n)) s.utf8ByteSize
      = some (String.ofList (s.toList.drop n)) := by
  rcases Nat.le_total n s.toList.length with inside | beyond
  · have cut := slice?_take s inside
    rw [List.take_length, byteCount_toList] at cut
    exact cut
  · have cut := slice?_take s (Nat.le_refl n)
    rw [List.take_of_length_le beyond, byteCount_toList] at cut
    rw [List.take_of_length_le beyond, byteCount_toList]
    exact cut

end ReplyScript.Text

namespace ReplyScript.Edit.Buffer

open Text (byteCount slice?_take slice?_to slice?_from)

variable (b : Buffer)

theorem byteOffset_found {b : Buffer} {p : Position} {line : String}
    (found : b.lines[p.line]? = some line) :
    b.byteOffset p = .ok (byteCount (line.toList.take p.column)) := by
  have start := Text.charStarts_eq 0 line.toList p.column
  rw [Nat.zero_add, Nat.zero_add, Text.byteCount_toList] at start
  rw [byteOffset, found]
  exact congrArg Except.ok start

theorem byteOffset_missing {b : Buffer} {p : Position} (missing : b.lines[p.line]? = none) :
    b.byteOffset p = .error p := by
  rw [byteOffset, missing]

theorem normalized_columns (range : Range)
    (same : range.normalized.start.line = range.normalized.stop.line) :
    range.normalized.start.column ≤ range.normalized.stop.column := by
  unfold Range.normalized at same ⊢
  split at same
  · rename_i before
    simp only [Position.before, Bool.or_eq_true, Bool.and_eq_true, decide_eq_true_eq,
      beq_iff_eq] at before
    rw [if_pos (by simpa [Position.before] using before)]
    simp only at same ⊢
    omega
  · rename_i before
    rw [if_neg before]
    simp only [Position.before, Bool.or_eq_true, Bool.and_eq_true, decide_eq_true_eq,
      beq_iff_eq, not_or] at before
    omega

private theorem toList_join_newlines (ls : List String) :
    (String.join (ls.map ("\n" ++ ·))).toList = led ls := by
  simp [led, String.toList_join, List.flatMap_map]

/-- By bytes, no slice is missing, and a range shows what it shows by characters. -/
theorem textInBytes_eq (range : Range) : b.textInBytes range = some (b.textIn range) := by
  unfold textInBytes textIn
  simp only [lineAt]
  cases start : b.lines[range.normalized.start.line]? with
  | none =>
      rw [byteOffset_missing start]
      rfl
  | some first =>
      rw [byteOffset_found start]
      cases stop : b.lines[range.normalized.stop.line]? with
      | none =>
          rw [byteOffset_missing stop]
          rfl
      | some last =>
          rw [byteOffset_found stop]
          simp only
          split
          · rename_i same
            have columns := normalized_columns range same
            obtain rfl : first = last := by
              rw [same] at start
              exact Option.some.inj (start.symm.trans stop)
            simp only [Option.bind_eq_bind, Option.bind_some,
              Nat.max_eq_left (Text.byteCount_take_le _ columns), slice?_take _ columns]
            rfl
          · rename_i apart
            have further : range.normalized.start.line + 1 ≤ range.normalized.stop.line :=
              Nat.lt_of_le_of_ne range.normalized_lines apart
            have inside : range.normalized.stop.line ≤ b.lines.length :=
              Nat.le_of_lt (List.getElem?_eq_some_iff.mp stop).1
            simp only [Option.bind_eq_bind, Option.bind_some, slice?_from, slice?_to,
              Text.sliceLines?, if_pos (And.intro further inside)]
            refine congrArg (some ∘ Except.ok) ?_
            rw [← String.toList_inj, toList_unlines_cons, led_append, String.toList_append,
              String.toList_append, String.toList_append, toList_join_newlines]
            simp [led]

/-- By bytes, no slice is missing, and a replacement comes to what it comes to by characters. -/
theorem replaceBytes_eq (range : Range) (new : String) :
    b.replaceBytes range new = some (b.replace range new) := by
  unfold replaceBytes replace
  simp only [lineAt]
  cases start : b.lines[range.normalized.start.line]? with
  | none =>
      rw [byteOffset_missing start]
      rfl
  | some first =>
      rw [byteOffset_found start]
      cases stop : b.lines[range.normalized.stop.line]? with
      | none =>
          rw [byteOffset_missing stop]
          rfl
      | some last =>
          rw [byteOffset_found stop]
          have further : range.normalized.start.line ≤ range.normalized.stop.line + 1 :=
            Nat.le_succ_of_le range.normalized_lines
          have inside : range.normalized.stop.line + 1 ≤ b.lines.length :=
            (List.getElem?_eq_some_iff.mp stop).1
          have clamped : (if range.normalized.start.line = range.normalized.stop.line then
                max (byteCount (last.toList.take range.normalized.stop.column))
                  (byteCount (first.toList.take range.normalized.start.column))
              else byteCount (last.toList.take range.normalized.stop.column))
              = byteCount (last.toList.take range.normalized.stop.column) := by
            split
            · rename_i same
              obtain rfl : first = last := by
                rw [same] at start
                exact Option.some.inj (start.symm.trans stop)
              exact Nat.max_eq_left
                (Text.byteCount_take_le _ (normalized_columns range same))
            · rfl
          simp only [clamped, Option.bind_eq_bind, Option.bind_some, slice?_to, slice?_from,
            Text.spliceLines?, if_pos (And.intro further inside)]
          rfl

end ReplyScript.Edit.Buffer
