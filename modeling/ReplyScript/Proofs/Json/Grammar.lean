import ReplyScript.Proofs.Json.Scalar

/-! # The grammar of scalars

The texts that are a JSON string, number or truth value, as a grammar over characters, and the
proof that the reader takes these texts and no others. Each part of the grammar comes with the two
directions: what is read was written by the grammar, and what the grammar writes is read to its
end, whatever stands behind it that cannot go on with it.
-/

namespace ReplyScript.Json

open Text (digitValue digitsValue)

/-! ## Strings -/

/-- The characters of a string between its quotes: how they are written, and what they are. -/
inductive Spells : List Char → List Char → Prop where
  | nil : Spells [] []
  | plain {c : Char} {w s : List Char} (plain : Plain c) (more : Spells w s) :
      Spells (c :: w) (c :: s)
  | short {c x : Char} {w s : List Char} (short : shortEscape? c = some x) (more : Spells w s) :
      Spells ('\\' :: c :: w) (x :: s)
  | unit {a b c d : Char} {n : Nat} {w s : List Char} (unit : hexUnit? a b c d = some n)
      (alone : isLeadUnit n = false ∧ isTrailUnit n = false) (more : Spells w s) :
      Spells ('\\' :: 'u' :: a :: b :: c :: d :: w) (Char.ofNat n :: s)
  | pair {a b c d e f g h : Char} {m n : Nat} {w s : List Char} (first : hexUnit? a b c d = some m)
      (leads : isLeadUnit m = true) (second : hexUnit? e f g h = some n)
      (trails : isTrailUnit n = true) (more : Spells w s) :
      Spells ('\\' :: 'u' :: a :: b :: c :: d :: '\\' :: 'u' :: e :: f :: g :: h :: w)
        (pairChar m n :: s)

theorem Spells.unescape {w s : List Char} (spells : Spells w s) (rest : List Char) :
    unescape (w ++ '"' :: rest) = some (s, rest) := by
  induction spells with
  | nil => rfl
  | plain plain _ ih =>
      rw [List.cons_append, unescape_ordinary _ plain.1 plain.2.1 plain.2.2, ih]
      rfl
  | @short c x w s short _ ih =>
      have other : c ≠ 'u' := by
        rintro rfl
        cases short
      rw [List.cons_append, List.cons_append]
      rw [Json.unescape.eq_4 c _ (by simp [other]), short, ih]
      rfl
  | unit unit alone _ ih => simp [Json.unescape, unit, alone, ih, push]
  | pair first leads second trails _ ih =>
      simp [Json.unescape, first, leads, second, trails, ih, push]

theorem of_push {c : Char} {read : Option (List Char × List Char)} {s rest : List Char}
    (pushed : push c read = some (s, rest)) : ∃ t, s = c :: t ∧ read = some (t, rest) := by
  obtain ⟨⟨t, left⟩, found, same⟩ := Option.map_eq_some_iff.mp pushed
  cases same
  exact ⟨t, rfl, found⟩

theorem exists_spells {cs s rest : List Char} (read : unescape cs = some (s, rest)) :
    ∃ w, cs = w ++ '"' :: rest ∧ Spells w s := by
  induction cs using unescape.induct generalizing s rest with
  | case1 => cases read
  | case2 =>
      cases read
      exact ⟨[], rfl, .nil⟩
  | case3 a b c d left after ih =>
      rw [unescape] at read
      obtain ⟨m, first, read⟩ := Option.bind_eq_some_iff.mp read
      by_cases leads : isLeadUnit m = true
      · rw [if_pos leads] at read
        split at read
        · rename_i e f g h more _
          obtain ⟨n, second, read⟩ := Option.bind_eq_some_iff.mp read
          by_cases trails : isTrailUnit n = true
          · rw [if_pos trails] at read
            obtain ⟨t, rfl, later⟩ := of_push read
            obtain ⟨w, rfl, spells⟩ := after later
            exact ⟨_, rfl, .pair first leads second trails spells⟩
          · rw [if_neg trails] at read
            cases read
        · cases read
      · rw [if_neg leads] at read
        by_cases trails : isTrailUnit m = true
        · rw [if_pos trails] at read
          cases read
        · rw [if_neg trails] at read
          obtain ⟨t, rfl, later⟩ := of_push read
          obtain ⟨w, rfl, spells⟩ := ih later
          exact ⟨_, rfl, .unit first ⟨by simpa using leads, by simpa using trails⟩ spells⟩
  | case4 c left noUnit ih =>
      rw [unescape.eq_4 c left noUnit] at read
      obtain ⟨x, short, read⟩ := Option.bind_eq_some_iff.mp read
      obtain ⟨t, rfl, later⟩ := of_push read
      obtain ⟨w, rfl, spells⟩ := ih later
      exact ⟨_, rfl, .short short spells⟩
  | case5 c left quote noUnit noShort control =>
      rw [unescape.eq_5 c left quote noUnit noShort, if_pos control] at read
      cases read
  | case6 c left quote noUnit noShort plain ih =>
      rw [unescape.eq_5 c left quote noUnit noShort, if_neg plain] at read
      obtain ⟨t, rfl, later⟩ := of_push read
      obtain ⟨w, rfl, spells⟩ := ih later
      exact ⟨_, rfl, .plain ⟨quote, not_or.mp plain⟩ spells⟩

/-! ## Numbers -/

/-- Digits, at least one. -/
def Digits (ds : List Char) : Prop :=
  ds ≠ [] ∧ ∀ c ∈ ds, c.isDigit = true

/-- Digits before the point: none stands behind a zero at the start. -/
def WholeDigits (ds : List Char) : Prop :=
  Digits ds ∧ (ds.head? = some '0' → ds = ['0'])

inductive FractionText : List Char → Option (List Char) → Prop where
  | none : FractionText [] none
  | point {ds : List Char} (digits : Digits ds) : FractionText ('.' :: ds) (some ds)

inductive ExponentText : List Char → Option Int → Prop where
  | none : ExponentText [] none
  | plain {e : Char} {ds : List Char} (letter : e = 'e' ∨ e = 'E') (digits : Digits ds) :
      ExponentText (e :: ds) (some (digitsValue ds))
  | plus {e : Char} {ds : List Char} (letter : e = 'e' ∨ e = 'E') (digits : Digits ds) :
      ExponentText (e :: '+' :: ds) (some (digitsValue ds))
  | minus {e : Char} {ds : List Char} (letter : e = 'e' ∨ e = 'E') (digits : Digits ds) :
      ExponentText (e :: '-' :: ds) (some (-digitsValue ds))

/-- A number text and its parts. -/
inductive NumberText.Spelled : List Char → NumberText → Prop where
  | mk {negative : Bool} {whole f e : List Char} {fraction : Option (List Char)}
      {exponent : Option Int} (digits : WholeDigits whole) (point : FractionText f fraction)
      (power : ExponentText e exponent) :
      Spelled ((if negative then ['-'] else []) ++ (whole ++ (f ++ e)))
        ⟨negative, whole, fraction, exponent⟩

/-- What cannot go on a number text. -/
def Ends (rest : List Char) : Prop :=
  ∀ c ∈ rest.head?, c.isDigit = false ∧ c ≠ '.' ∧ c ≠ 'e' ∧ c ≠ 'E'

theorem digits_takeWhile {cs ds : List Char} (taken : cs.takeWhile Char.isDigit = ds)
    (nonempty : ds ≠ []) : Digits ds ∧ cs = ds ++ cs.dropWhile Char.isDigit := by
  subst taken
  refine ⟨⟨nonempty, fun c member => ?_⟩, (List.takeWhile_append_dropWhile).symm⟩
  simpa using List.mem_takeWhile_imp member

theorem Digits.taken {ds rest : List Char} (digits : Digits ds)
    (stops : ∀ c ∈ rest.head?, c.isDigit = false) :
    (ds ++ rest).takeWhile Char.isDigit = ds ∧ (ds ++ rest).dropWhile Char.isDigit = rest := by
  constructor
  · rw [List.takeWhile_append_of_pos digits.2]
    cases rest with
    | nil => simp
    | cons c rest => simp [stops c rfl]
  · rw [List.dropWhile_append_of_pos digits.2]
    cases rest with
    | nil => rfl
    | cons c rest => simp [stops c rfl]

theorem of_whole? {cs whole rest : List Char} (read : whole? cs = some (whole, rest)) :
    cs = whole ++ rest ∧ WholeDigits whole := by
  rw [whole?.eq_def] at read
  split at read
  · split at read
    · cases read
    · cases read
      exact ⟨rfl, ⟨List.cons_ne_nil _ _, List.forall_mem_singleton.mpr rfl⟩, fun _ => rfl⟩
  · rename_i noZero
    split at read
    · cases read
    · rename_i ds nonempty
      cases read
      obtain ⟨digits, split⟩ := digits_takeWhile rfl nonempty
      refine ⟨split, digits, fun zero => ?_⟩
      obtain ⟨rest, shape⟩ := List.head?_eq_some_iff.mp zero
      rw [shape] at split
      exact absurd split (noZero _)

theorem WholeDigits.whole? {whole rest : List Char} (digits : WholeDigits whole)
    (stops : ∀ c ∈ rest.head?, c.isDigit = false) :
    whole? (whole ++ rest) = some (whole, rest) := by
  obtain ⟨taken, dropped⟩ := digits.1.taken stops
  by_cases zero : whole.head? = some '0'
  · have noDigit : (rest.head?.map Char.isDigit).getD false = false := by
      cases rest with
      | nil => rfl
      | cons c rest => simpa using stops c rfl
    rw [digits.2 zero, List.singleton_append, Json.whole?, noDigit, if_neg Bool.false_ne_true]
  · have noZero : ∀ cs, whole ++ rest = '0' :: cs → False := by
      intro cs same
      cases whole with
      | nil => exact digits.1.1 rfl
      | cons c whole => exact zero (by simp [(List.cons.inj same).1])
    rw [whole?.eq_2 _ noZero, taken, dropped]
    cases whole with
    | nil => exact absurd rfl digits.1.1
    | cons c whole => rfl

theorem of_fraction? {cs rest : List Char} {fraction : Option (List Char)}
    (read : fraction? cs = some (fraction, rest)) :
    ∃ f, cs = f ++ rest ∧ FractionText f fraction := by
  rw [fraction?.eq_def] at read
  split at read
  · split at read
    · cases read
    · rename_i ds nonempty
      cases read
      obtain ⟨digits, split⟩ := digits_takeWhile rfl nonempty
      exact ⟨_, congrArg _ split, .point digits⟩
  · cases read
    exact ⟨[], rfl, .none⟩

theorem FractionText.fraction? {f rest : List Char} {fraction : Option (List Char)}
    (text : FractionText f fraction) (stops : ∀ c ∈ rest.head?, c.isDigit = false ∧ c ≠ '.') :
    fraction? (f ++ rest) = some (fraction, rest) := by
  cases text with
  | none =>
      cases rest with
      | nil => rfl
      | cons c rest =>
          have other := (stops c rfl).2
          rw [List.nil_append, fraction?.eq_2 (c :: rest) (by simpa using other)]
  | @point ds digits =>
      obtain ⟨taken, dropped⟩ := digits.taken fun c first => (stops c first).1
      rw [List.cons_append, fraction?.eq_1, taken, dropped]
      cases ds with
      | nil => exact absurd rfl digits.1
      | cons d ds => rfl

theorem of_exponent? {cs rest : List Char} {exponent : Option Int}
    (read : exponent? cs = some (exponent, rest)) :
    ∃ e, cs = e ++ rest ∧ ExponentText e exponent := by
  rw [exponent?.eq_def] at read
  split at read
  · rename_i e body
    split at read
    · rename_i letter
      split at read
      rename_i negative left signed
      split at read
      · cases read
      · rename_i ds nonempty
        cases read
        obtain ⟨digits, taken⟩ := digits_takeWhile rfl nonempty
        split at signed <;> cases signed
        · exact ⟨_, congrArg (e :: '-' :: ·) taken, .minus letter digits⟩
        · exact ⟨_, congrArg (e :: '+' :: ·) taken, .plus letter digits⟩
        · exact ⟨_, congrArg (e :: ·) taken, .plain letter digits⟩
    · cases read
      exact ⟨[], rfl, .none⟩
  · cases read
    exact ⟨[], rfl, .none⟩

theorem ExponentText.exponent? {e rest : List Char} {exponent : Option Int}
    (text : ExponentText e exponent) (stops : Ends rest) :
    exponent? (e ++ rest) = some (exponent, rest) := by
  have noDigit : ∀ c ∈ rest.head?, c.isDigit = false := fun c first => (stops c first).1
  cases text with
  | none =>
      cases rest with
      | nil => rfl
      | cons c rest =>
          obtain ⟨-, -, noSmall, noLarge⟩ := stops c rfl
          simp [Json.exponent?, noSmall, noLarge]
  | @plain e ds letter digits =>
      obtain ⟨taken, dropped⟩ := digits.taken noDigit
      cases ds with
      | nil => exact absurd rfl digits.1
      | cons d ds =>
          have digit := digits.2 d List.mem_cons_self
          have noSign : d ≠ '-' ∧ d ≠ '+' := by
            constructor <;> (rintro rfl; exact absurd digit (by decide))
          rw [List.cons_append] at taken dropped
          simp [Json.exponent?, letter, noSign, taken, dropped]
  | @plus e ds letter digits =>
      obtain ⟨taken, dropped⟩ := digits.taken noDigit
      simp [Json.exponent?, letter, taken, dropped, digits.1]
  | @minus e ds letter digits =>
      obtain ⟨taken, dropped⟩ := digits.taken noDigit
      simp [Json.exponent?, letter, taken, dropped, digits.1]

theorem NumberText.of_readUnsigned {negative : Bool} {cs rest : List Char} {t : NumberText}
    (read : readUnsigned negative cs = some (t, rest)) :
    ∃ w, (if negative then ['-'] else []) ++ cs = w ++ rest ∧ Spelled w t := by
  obtain ⟨⟨whole, left⟩, first, read⟩ := Option.bind_eq_some_iff.mp read
  obtain ⟨⟨fraction, more⟩, second, read⟩ := Option.bind_eq_some_iff.mp read
  obtain ⟨⟨exponent, last⟩, third, read⟩ := Option.bind_eq_some_iff.mp read
  cases read
  obtain ⟨rfl, digits⟩ := of_whole? first
  obtain ⟨f, rfl, point⟩ := of_fraction? second
  obtain ⟨e, rfl, power⟩ := of_exponent? third
  exact ⟨_, by simp only [List.append_assoc], .mk digits point power⟩

theorem NumberText.of_read {cs rest : List Char} {t : NumberText}
    (read : NumberText.read cs = some (t, rest)) : ∃ w, cs = w ++ rest ∧ Spelled w t := by
  by_cases minus : ∃ r, cs = '-' :: r
  · obtain ⟨r, rfl⟩ := minus
    have unsigned : readUnsigned true r = some (t, rest) := read
    exact of_readUnsigned unsigned
  · rw [NumberText.read.eq_2 cs fun r same => minus ⟨r, same⟩] at read
    exact of_readUnsigned read

theorem WholeDigits.noSign {whole : List Char} (digits : WholeDigits whole) (rest r : List Char) :
    whole ++ rest ≠ '-' :: r := by
  intro same
  cases whole with
  | nil => exact digits.1.1 rfl
  | cons c whole =>
      have digit := digits.1.2 c List.mem_cons_self
      rw [(List.cons.inj same).1] at digit
      exact absurd digit (by decide)

theorem NumberText.Spelled.read {w rest : List Char} {t : NumberText} (spelled : Spelled w t)
    (stops : Ends rest) : NumberText.read (w ++ rest) = some (t, rest) := by
  obtain @⟨negative, whole, f, e, fraction, exponent, digits, point, power⟩ := spelled
  have behindPower : ∀ c ∈ (e ++ rest).head?, c.isDigit = false ∧ c ≠ '.' := by
    cases power with
    | none => exact fun c first => ⟨(stops c first).1, (stops c first).2.1⟩
    | plain letter | plus letter | minus letter =>
        rintro c ⟨⟩
        rcases letter with rfl | rfl <;> decide
  have behindPoint : ∀ c ∈ (f ++ (e ++ rest)).head?, c.isDigit = false := by
    cases point with
    | none => exact fun c first => (behindPower c first).1
    | point =>
        rintro c ⟨⟩
        decide
  have parts (negative : Bool) : readUnsigned negative (whole ++ (f ++ (e ++ rest)))
      = some (⟨negative, whole, fraction, exponent⟩, rest) := by
    simp [readUnsigned, digits.whole? behindPoint, point.fraction? behindPower,
      power.exponent? stops]
  cases negative with
  | true => simpa [NumberText.read.eq_1] using parts true
  | false => simpa [NumberText.read.eq_2 _ (digits.noSign _)] using parts false

/-! ## Scalars -/

/-- A string, a number or a truth value. A number must be in the range of floating-point numbers. -/
inductive ValueText : List Char → Prop where
  | text {w s : List Char} (spells : Spells w s) : ValueText ('"' :: (w ++ ['"']))
  | number {w : List Char} {t : NumberText} (spelled : t.Spelled w)
      (inRange : t.value?.isSome = true) : ValueText w
  | yes : ValueText ['t', 'r', 'u', 'e']
  | no : ValueText ['f', 'a', 'l', 's', 'e']

/-- A JSON text of a string, a number or a truth value; there may be blanks around it. -/
inductive ScalarText (s : String) : Prop where
  | mk {before value after : List Char} (shape : s.toList = before ++ (value ++ after))
      (blankBefore : ∀ c ∈ before, isSpace c = true) (written : ValueText value)
      (blankAfter : ∀ c ∈ after, isSpace c = true)

theorem afterWord?_eq_some_iff {word cs rest : List Char} :
    afterWord? word cs = some rest ↔ cs = word ++ rest := by
  induction word generalizing cs with
  | nil => simp [afterWord?]
  | cons w word ih =>
      cases cs with
      | nil => simp [afterWord?]
      | cons c cs =>
          rw [afterWord?, List.cons_append, List.cons.injEq]
          by_cases same : w = c
          · rw [if_pos same, ih, eq_comm (a := c)]
            simp [same]
          · rw [if_neg same]
            simp [Ne.symm same]

theorem of_readScalar {cs rest : List Char} {x : Scalar} (read : readScalar cs = some (x, rest))
    (value : x ≠ .null) : ∃ w, cs = w ++ rest ∧ ValueText w := by
  rw [readScalar.eq_def] at read
  split at read
  · obtain ⟨⟨s, left⟩, body, same⟩ := Option.map_eq_some_iff.mp read
    cases same
    obtain ⟨w, rfl, spells⟩ := exists_spells body
    exact ⟨'"' :: (w ++ ['"']), by simp, .text spells⟩
  · obtain ⟨left, word, same⟩ := Option.map_eq_some_iff.mp read
    cases same
    rw [afterWord?_eq_some_iff.mp word]
    exact ⟨_, rfl, .yes⟩
  · obtain ⟨left, word, same⟩ := Option.map_eq_some_iff.mp read
    cases same
    rw [afterWord?_eq_some_iff.mp word]
    exact ⟨_, rfl, .no⟩
  · obtain ⟨left, word, same⟩ := Option.map_eq_some_iff.mp read
    cases same
    exact absurd rfl value
  · obtain ⟨⟨t, left⟩, number, read⟩ := Option.bind_eq_some_iff.mp read
    obtain ⟨n, inRange, read⟩ := Option.bind_eq_some_iff.mp read
    cases read
    obtain ⟨w, rfl, spelled⟩ := NumberText.of_read number
    exact ⟨w, rfl, .number spelled (by simp [inRange])⟩

theorem NumberText.Spelled.first {w : List Char} {t : NumberText} (spelled : t.Spelled w) :
    ∃ c rest, w = c :: rest ∧ (c = '-' ∨ c.isDigit = true) := by
  obtain @⟨negative, whole, f, e, fraction, exponent, digits, -, -⟩ := spelled
  cases negative with
  | true => exact ⟨_, _, rfl, .inl rfl⟩
  | false =>
      cases whole with
      | nil => exact absurd rfl digits.1.1
      | cons c whole => exact ⟨c, _, rfl, .inr (digits.1.2 c List.mem_cons_self)⟩

theorem NumberText.Spelled.readScalar {w rest : List Char} {t : NumberText} {n : Number}
    (spelled : t.Spelled w) (value : t.value? = some n) (stops : Ends rest) :
    readScalar (w ++ rest) = some (.number n, rest) := by
  have read := spelled.read stops
  obtain ⟨c, left, rfl, first⟩ := spelled.first
  have other (d : Char) (word : d.isDigit = false ∧ d ≠ '-') : c ≠ d := by
    rintro rfl
    rcases first with rfl | digit
    · exact word.2 rfl
    · rw [word.1] at digit
      cases digit
  rw [List.cons_append] at read ⊢
  rw [readScalar.eq_5 _ (by simpa using other '"' (by decide))
    (by simpa using other 't' (by decide)) (by simpa using other 'f' (by decide))
    (by simpa using other 'n' (by decide)), read]
  simp [value]

theorem ends_of_blank {rest : List Char} (blank : ∀ c ∈ rest, isSpace c = true) : Ends rest := by
  intro c first
  have space := blank c (List.mem_of_mem_head? first)
  simp only [isSpace, Bool.or_eq_true, beq_iff_eq] at space
  rcases space with ((rfl | rfl) | rfl) | rfl <;> decide

theorem ValueText.readScalar {w rest : List Char} (value : ValueText w)
    (blank : ∀ c ∈ rest, isSpace c = true) :
    ∃ x, readScalar (w ++ rest) = some (x, rest) ∧ x ≠ .null := by
  cases value with
  | @text w s spells =>
      refine ⟨.text (String.ofList s), ?_, by simp⟩
      rw [List.cons_append, List.append_assoc, List.singleton_append, Json.readScalar.eq_1,
        spells.unescape]
      rfl
  | number spelled inRange =>
      obtain ⟨n, value⟩ := Option.isSome_iff_exists.mp inRange
      exact ⟨.number n, spelled.readScalar value (ends_of_blank blank), by simp⟩
  | yes => exact ⟨.boolean true, by simp [Json.readScalar, afterWord?], by simp⟩
  | no => exact ⟨.boolean false, by simp [Json.readScalar, afterWord?], by simp⟩

theorem ValueText.first {w : List Char} (value : ValueText w) :
    ∃ c rest, w = c :: rest ∧ isSpace c = false := by
  cases value with
  | text => exact ⟨_, _, rfl, by decide⟩
  | number spelled =>
      obtain ⟨c, rest, rfl, first⟩ := spelled.first
      refine ⟨c, rest, rfl, ?_⟩
      rcases first with rfl | digit
      · decide
      · exact isSpace_of_isDigit digit
  | yes => exact ⟨_, _, rfl, by decide⟩
  | no => exact ⟨_, _, rfl, by decide⟩

/-- A scalar other than null is read from just the texts that are one. -/
theorem scalar?_iff (s : String) : (∃ x, scalar? s = some x ∧ x ≠ .null) ↔ ScalarText s := by
  constructor
  · rintro ⟨x, read, value⟩
    unfold scalar? at read
    split at read
    · rename_i y rest inner
      split at read
      · rename_i blank
        cases read
        obtain ⟨w, split, written⟩ := of_readScalar inner value
        have shape : s.toList = s.toList.takeWhile isSpace ++ (w ++ rest) := by
          rw [← split, List.takeWhile_append_dropWhile]
        refine .mk shape (fun c member => ?_) written (by simpa using blank)
        simpa using List.mem_takeWhile_imp member
      · cases read
    · cases read
  · rintro @⟨before, w, after, shape, blankBefore, written, blankAfter⟩
    obtain ⟨x, read, value⟩ := written.readScalar blankAfter
    have dropped : s.toList.dropWhile isSpace = w ++ after := by
      obtain ⟨c, rest, rfl, first⟩ := written.first
      rw [shape, List.dropWhile_append_of_pos blankBefore]
      simp [first]
    refine ⟨x, ?_, value⟩
    simp only [scalar?, dropped, read]
    rw [if_pos (by simpa using blankAfter)]

/-! ## Numbers in range -/

theorem takeDigits_lt {n : Nat} (small : n < wordLimit) (ds : List Char) :
    (takeDigits n ds).1 < wordLimit := by
  induction ds generalizing n with
  | nil => exact small
  | cons c ds ih =>
      rw [takeDigits]
      split
      · exact ih ‹_›
      · exact small

theorem NumberText.integer_lt {t : NumberText} {n : Int} (value : t.value? = some (.integer n)) :
    n.natAbs < wordLimit := by
  have small := takeDigits_lt (n := 0) (by decide) t.whole
  rcases taken : takeDigits 0 t.whole with ⟨digits, dropped⟩
  rw [taken] at small
  unfold NumberText.value? at value
  rw [taken] at value
  dsimp only at value
  rcases ite_eq_iff.mp value with ⟨-, integer⟩ | ⟨-, float⟩
  · cases integer
    split <;> simpa using small
  · obtain ⟨x, -, float⟩ := Option.bind_eq_some_iff.mp float
    obtain ⟨y, -, float⟩ := Option.bind_eq_some_iff.mp float
    cases float

theorem of_scalar?_number {s : String} {n : Number} (read : scalar? s = some (.number n)) :
    ∃ t : NumberText, t.value? = some n := by
  unfold scalar? at read
  split at read
  · rename_i x rest inner
    split at read
    · cases read
      rw [readScalar.eq_def] at inner
      split at inner
      case h_5 =>
        obtain ⟨⟨t, left⟩, -, inner⟩ := Option.bind_eq_some_iff.mp inner
        obtain ⟨m, value, inner⟩ := Option.bind_eq_some_iff.mp inner
        cases inner
        exact ⟨t, value⟩
      all_goals
        obtain ⟨left, -, same⟩ := Option.map_eq_some_iff.mp inner
        cases same
    · cases read
  · cases read

end ReplyScript.Json

namespace ReplyScript.Decimal

theorem Binary.ofInt_isSome {n : Int} (small : n.natAbs < 0x10000000000000000) :
    (Binary.ofInt n).isSome := by
  unfold Binary.ofInt BinaryFormat.round
  split
  · rfl
  · rename_i positive
    have bits : n.natAbs.log2 < 64 := (Nat.log2_lt positive).mpr small
    have exponent : binary64.exponentOf n.natAbs 1 ≤ 12 := by
      have one : Nat.log2 1 = 0 := by decide
      unfold BinaryFormat.exponentOf
      simp only [one, binary64]
      split <;> omega
    dsimp only
    generalize binary64.exponentOf n.natAbs 1 = e at exponent ⊢
    have inside : ¬ binary64.maxExponent < e + 1 ∧ ¬ binary64.maxExponent < e := by
      simp only [binary64]
      omega
    split
    · rw [if_neg inside.1]
      rfl
    · rw [if_neg inside.2]
      rfl

end ReplyScript.Decimal
