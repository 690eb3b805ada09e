import Mathlib.Algebra.Group.Nat.Even
import ReplyScript.Proofs.Edit.Bytes
import ReplyScript.Script.Directive
import ReplyScript.Text.Lines

/-! # Tokens

A text is cut into tokens at the blanks that have an even number of quotes before them, and going
over its bytes finds the same tokens: `tokenize_pieces`. Tokens that hold blanks only between
quotes, written with single blanks between them, are read back as they are. A blank at the end of a
line makes no difference to its tokens.
-/

namespace ReplyScript.Script

open Text (byteCount)

/-! ## Whole tokens -/

theorem cutTokens_ne_nil (quoted : Bool) (cs : List Char) : cutTokens quoted cs ≠ [] := by
  fun_induction cutTokens quoted cs <;> simp_all

/-- A token that cutting passes as a whole, whatever follows it. -/
def Whole (token : List Char) : Prop :=
  ∀ rest, cutTokens false (token ++ rest) = (cutTokens false rest).modifyHead (token ++ ·)

namespace Whole

theorem nil : Whole [] := by
  intro rest
  rw [List.nil_append]
  cases cutTokens false rest <;> rfl

theorem cons {c : Char} {token : List Char} (quote : c ≠ '"') (blank : Text.isBlank c = false)
    (whole : Whole token) : Whole (c :: token) := by
  intro rest
  simp [cutTokens, quote, blank, whole rest, List.modifyHead_modifyHead, Function.comp_def]

theorem bare {token : List Char} (h : ∀ c ∈ token, Text.isBlank c = false ∧ c ≠ '"') :
    Whole token := by
  induction token with
  | nil => exact nil
  | cons c token ih =>
      obtain ⟨blank, quote⟩ := h c List.mem_cons_self
      exact cons quote blank (ih fun x hx => h x (List.mem_cons_of_mem _ hx))

theorem cutTokens_quoted {s : List Char} (noQuote : '"' ∉ s) (rest : List Char) :
    cutTokens true (s ++ '"' :: rest) = (cutTokens false rest).modifyHead ((s ++ ['"']) ++ ·) := by
  induction s with
  | nil => simp [cutTokens]
  | cons c s ih =>
      rw [List.mem_cons, not_or] at noQuote
      simp [cutTokens, Ne.symm noQuote.1, ih noQuote.2, List.modifyHead_modifyHead,
        Function.comp_def]

theorem quoted {s : List Char} (noQuote : '"' ∉ s) : Whole ('"' :: (s ++ ['"'])) := by
  intro rest
  have closing : '"' ∈ s ++ '"' :: rest := by simp
  rw [List.cons_append, List.append_assoc, List.singleton_append, cutTokens, if_pos rfl,
    if_neg Bool.false_ne_true, if_pos closing, cutTokens_quoted noQuote,
    List.modifyHead_modifyHead]
  rfl

theorem cutTokens_blank {token : List Char} (whole : Whole token) (rest : List Char) :
    cutTokens false (token ++ ' ' :: rest) = token :: cutTokens false rest := by
  have blank : cutTokens false (' ' :: rest) = [] :: cutTokens false rest := by
    simp [cutTokens, show Text.isBlank ' ' = true from rfl]
  rw [whole, blank, List.modifyHead_cons, List.append_nil]

theorem cutTokens_self {token : List Char} (whole : Whole token) :
    cutTokens false token = [token] := by
  have h := whole []
  rwa [List.append_nil, cutTokens, List.modifyHead_cons, List.append_nil] at h

end Whole

/-- Whole tokens with single blanks between them are cut at these blanks. -/
theorem cutTokens_intercalate {tokens : List (List Char)} (nonempty : tokens ≠ [])
    (whole : ∀ t ∈ tokens, Whole t) : cutTokens false ([' '].intercalate tokens) = tokens := by
  induction tokens with
  | nil => exact absurd rfl nonempty
  | cons t ts ih =>
      cases ts with
      | nil => simpa using (whole t List.mem_cons_self).cutTokens_self
      | cons u us =>
          rw [List.intercalate_cons_cons, List.append_assoc, List.singleton_append,
            (whole t List.mem_cons_self).cutTokens_blank,
            ih (List.cons_ne_nil u us) fun x hx => whole x (List.mem_cons_of_mem _ hx)]

theorem tokenize_intercalate {tokens : List String} (nonempty : tokens ≠ [])
    (whole : ∀ t ∈ tokens, Whole t.toList ∧ t ≠ "") :
    tokenize (" ".intercalate tokens) = tokens := by
  have cut : cutTokens false (" ".intercalate tokens).toList = tokens.map String.toList := by
    rw [String.toList_intercalate]
    apply cutTokens_intercalate
    · simpa using nonempty
    · intro t member
      obtain ⟨s, inside, rfl⟩ := List.mem_map.mp member
      exact (whole s inside).1
  have kept : (tokens.map String.toList).filter (· ≠ []) = tokens.map String.toList := by
    apply List.filter_eq_self.mpr
    intro t member
    obtain ⟨s, inside, rfl⟩ := List.mem_map.mp member
    simpa using (whole s inside).2
  rw [tokenize, cut, kept, List.map_map]
  simp [Function.comp_def]

/-! ## Blanks at the end -/

theorem modifyHead_append {l : List α} (nonempty : l ≠ []) (f : α → α) (r : List α) :
    (l ++ r).modifyHead f = l.modifyHead f ++ r := by
  cases l with
  | nil => exact absurd rfl nonempty
  | cons x xs => rfl

/-- A blank at the end starts a token of its own, which is empty. While a quote is open its partner
must be among the characters before. -/
theorem cutTokens_blank_end {b : Char} (blank : Text.isBlank b = true) (noQuote : b ≠ '"')
    (quoted : Bool) (cs : List Char) (closes : quoted = true → '"' ∈ cs) :
    cutTokens quoted (cs ++ [b]) = cutTokens quoted cs ++ [[]] := by
  induction cs generalizing quoted with
  | nil =>
      cases quoted with
      | true => exact absurd (closes rfl) List.not_mem_nil
      | false => simp [cutTokens, blank, noQuote]
  | cons c cs ih =>
      have same : '"' ∈ cs ++ [b] ↔ '"' ∈ cs := by simp [Ne.symm noQuote]
      have unquoted := ih false (fun h => nomatch h)
      by_cases quote : c = '"'
      · subst quote
        cases quoted with
        | true =>
            simp only [List.cons_append, cutTokens, if_true, unquoted]
            exact modifyHead_append (cutTokens_ne_nil _ _) _ _
        | false =>
            by_cases closing : '"' ∈ cs
            · simp only [List.cons_append, cutTokens, if_true, Bool.false_eq_true, if_false,
                same, closing, ih true fun _ => closing]
              exact modifyHead_append (cutTokens_ne_nil _ _) _ _
            · simp only [List.cons_append, cutTokens, if_true, Bool.false_eq_true, if_false,
                same, closing, unquoted]
      · have inner : quoted = true → '"' ∈ cs := by
          intro open_
          exact (List.mem_cons.mp (closes open_)).resolve_left (Ne.symm quote)
        simp only [List.cons_append, cutTokens, quote, if_false, ih quoted inner, unquoted]
        split
        · rfl
        · exact modifyHead_append (cutTokens_ne_nil _ _) _ _

theorem tokenize_blank_end {b : Char} (blank : Text.isBlank b = true) (noQuote : b ≠ '"')
    (cs : List Char) : tokenize (String.ofList (cs ++ [b])) = tokenize (String.ofList cs) := by
  have cut := cutTokens_blank_end blank noQuote false cs (fun h => nomatch h)
  simp [tokenize, cut]

theorem ofLine?_cons_at (cs : List Char) : Directive.ofLine? (String.ofList ('@' :: cs)) =
    match tokenize (String.ofList cs) with
    | name :: tokens => some ⟨name, tokens⟩
    | [] => none := by
  rw [Directive.ofLine?, String.toList_ofList]
  rfl

theorem ofLine?_cons {c : Char} (other : c ≠ '@') (cs : List Char) :
    Directive.ofLine? (String.ofList (c :: cs)) = none := by
  rw [Directive.ofLine?, String.toList_ofList]
  split
  · exact absurd (List.cons.inj ‹_›).1 other
  · rfl

theorem ofLine?_blank_end {b : Char} (blank : Text.isBlank b = true) (noQuote : b ≠ '"')
    (cs : List Char) :
    Directive.ofLine? (String.ofList (cs ++ [b])) = Directive.ofLine? (String.ofList cs) := by
  cases cs with
  | nil =>
      have other : b ≠ '@' := by
        rintro rfl
        exact absurd blank (by decide)
      rw [List.nil_append, ofLine?_cons other]
      rfl
  | cons c cs =>
      by_cases at_ : c = '@'
      · subst at_
        rw [List.cons_append, ofLine?_cons_at, ofLine?_cons_at, tokenize_blank_end blank noQuote]
      · rw [List.cons_append, ofLine?_cons at_, ofLine?_cons at_]

/-- The carriage return that a line end leaves on a line does not matter to directives. -/
theorem ofLine?_dropCarriageReturn (line : String) :
    Directive.ofLine? (Text.dropCarriageReturn line) = Directive.ofLine? line := by
  rw [Text.dropCarriageReturn]
  split
  · obtain ⟨cs, shape⟩ := List.getLast?_eq_some_iff.mp ‹_›
    rw [shape, List.dropLast_concat, ← ofLine?_blank_end (b := '\r') rfl (by decide), ← shape,
      String.ofList_toList]
  · rfl

/-! ## Where tokens are cut -/

/-- The text with a blank in place of its last quote, if that has no partner. -/
def pairQuotes (cs : List Char) : List Char :=
  if Even (cs.count '"') then cs else (cs.reverse.replace '"' ' ').reverse

/-- Whether a character at a place of a text is a blank with an even number of quotes before it. -/
def isCut (cs : List Char) (placed : Char × Nat) : Bool :=
  Text.isBlank placed.1 && decide (Even ((cs.take placed.2).count '"'))

/-- The pieces of a text between its cuts. -/
def piecesBetween (cs : List Char) : List (List Char) :=
  (cs.zipIdx.splitOnP (isCut cs)).map (·.map Prod.fst)

theorem map_modifyHead_fst (c : Char) (i : Nat) (pieces : List (List (Char × Nat))) :
    (pieces.modifyHead ((c, i) :: ·)).map (·.map Prod.fst)
      = (pieces.map (·.map Prod.fst)).modifyHead (c :: ·) := by
  cases pieces <;> rfl

/-- With an even number of quotes, none is left without a partner. -/
theorem cutTokens_even (before rest : List Char) (even : Even ((before ++ rest).count '"')) :
    cutTokens (!decide (Even (before.count '"'))) rest
      = ((rest.zipIdx before.length).splitOnP (isCut (before ++ rest))).map (·.map Prod.fst) := by
  induction rest generalizing before with
  | nil => simp [cutTokens]
  | cons c rest ih =>
      have whole : before ++ c :: rest = before ++ [c] ++ rest := by simp
      have later := ih (before ++ [c]) (by rwa [← whole])
      have here : isCut (before ++ c :: rest) (c, before.length)
          = (Text.isBlank c && decide (Even (before.count '"'))) := by simp [isCut]
      rw [List.length_append, List.length_singleton, ← whole, List.count_append] at later
      rw [List.zipIdx_cons, List.splitOnP_cons_eq_if_modifyHead, here]
      by_cases quote : c = '"'
      · subst quote
        have blank : Text.isBlank '"' = false := by decide
        simp only [List.count_singleton, beq_self_eq_true, if_true, Nat.even_add_one, decide_not,
          Bool.not_not] at later
        by_cases paired : Even (before.count '"')
        · have closing : '"' ∈ rest := by
            by_contra none
            rw [List.count_append, List.count_cons_self, List.count_eq_zero.mpr none,
              Nat.even_add_one] at even
            exact even paired
          simp [cutTokens, blank, paired, closing, map_modifyHead_fst, ← later]
        · simp [cutTokens, blank, paired, map_modifyHead_fst, ← later]
      · have same : [c].count '"' = 0 := by simp [quote]
        rw [same, Nat.add_zero] at later
        by_cases paired : Even (before.count '"') <;> cases blank : Text.isBlank c <;>
          simp [cutTokens, quote, paired, blank, map_modifyHead_fst, ← later]

/-- A quote without a partner is as good as a blank. -/
theorem cutTokens_stray {after : List Char} (last : '"' ∉ after) (quoted : Bool) (cs : List Char)
    (closed : quoted = true ↔ ¬ Even (cs.count '"')) :
    cutTokens quoted (cs ++ '"' :: after) = cutTokens quoted (cs ++ ' ' :: after) := by
  have blank : Text.isBlank ' ' = true := by decide
  induction cs generalizing quoted with
  | nil =>
      have outside : quoted = false := by simpa using closed
      simp [cutTokens, outside, last, blank]
  | cons c cs ih =>
      rw [List.count_cons] at closed
      by_cases quote : c = '"'
      · subst quote
        simp only [beq_self_eq_true, if_true, Nat.even_add_one, not_not] at closed
        cases quoted with
        | true =>
            have later := ih false (by simpa using closed)
            simp [cutTokens, later]
        | false =>
            have odd : ¬ Even (cs.count '"') := by simpa using closed
            have closing : '"' ∈ cs := by
              by_contra none
              exact odd (by simp [List.count_eq_zero.mpr none])
            have later := ih true (by simpa using odd)
            simp [cutTokens, closing, later]
      · have same : (if (c == '"') = true then 1 else 0) = 0 := by simp [quote]
        rw [same, Nat.add_zero] at closed
        have later := ih quoted closed
        cases quoted with
        | true => simp [cutTokens, quote, later]
        | false => simp [cutTokens, quote, later]

theorem exists_last_quote {cs : List Char} (member : '"' ∈ cs) :
    ∃ before after, cs = before ++ '"' :: after ∧ '"' ∉ after := by
  obtain ⟨after, before, split, last⟩ := List.eq_append_cons_of_mem (List.mem_reverse.mpr member)
  refine ⟨before.reverse, after.reverse, ?_, by simpa using last⟩
  rw [← List.reverse_reverse cs, split]
  simp

theorem cutTokens_eq_pieces (cs : List Char) :
    cutTokens false cs = piecesBetween (pairQuotes cs) := by
  unfold pairQuotes
  split
  · rename_i even
    exact cutTokens_even [] cs even
  · rename_i odd
    have member : '"' ∈ cs := by
      by_contra none
      exact odd (by simp [List.count_eq_zero.mpr none])
    obtain ⟨before, after, rfl, last⟩ := exists_last_quote member
    have paired : Even (before.count '"') := by
      rw [List.count_append, List.count_cons_self, List.count_eq_zero.mpr last,
        Nat.even_add_one, not_not] at odd
      exact odd
    have replaced : ((before ++ '"' :: after).reverse.replace '"' ' ').reverse
        = before ++ ' ' :: after := by
      have none : '"' ∉ after.reverse := by simpa using last
      simp [List.replace_append_right none]
    have even : Even ((before ++ ' ' :: after).count '"') := by
      simp [List.count_eq_zero.mpr last, paired]
    rw [replaced, cutTokens_stray last false before (by simpa using paired)]
    exact cutTokens_even [] _ even

/-! ## The first token of a text -/

/-- A token ends at the end of the text, before a blank and before a quote without a partner. -/
def Stops : List Char → Prop
  | [] => True
  | c :: cs => Text.isBlank c = true ∨ c = '"' ∧ '"' ∉ cs

/-- The token at the start of a text, which may be empty, and what is left behind it. -/
inductive FirstToken : List Char → List Char → List Char → Prop where
  | stop {left : List Char} (stops : Stops left) : FirstToken left [] left
  | char {c : Char} {cs token left : List Char} (blank : Text.isBlank c = false)
      (quote : c ≠ '"') (more : FirstToken cs token left) :
      FirstToken (c :: cs) (c :: token) left
  | segment {inside cs token left : List Char} (noQuote : '"' ∉ inside)
      (more : FirstToken cs token left) :
      FirstToken ('"' :: (inside ++ '"' :: cs)) ('"' :: (inside ++ '"' :: token)) left

theorem cutTokens_stops {c : Char} {cs : List Char} (stops : Stops (c :: cs)) :
    cutTokens false (c :: cs) = [] :: cutTokens false cs := by
  rcases stops with blank | ⟨rfl, stray⟩
  · have quote : c ≠ '"' := by
      rintro rfl
      exact absurd blank (by decide)
    simp [cutTokens, quote, blank]
  · simp [cutTokens, stray]

theorem exists_firstToken (cs : List Char) : ∃ token left, FirstToken cs token left := by
  induction size : cs.length using Nat.strong_induction_on generalizing cs with
  | _ n ih =>
      cases cs with
      | nil => exact ⟨[], [], .stop trivial⟩
      | cons c cs =>
          subst size
          by_cases quote : c = '"'
          · subst quote
            by_cases closing : '"' ∈ cs
            · obtain ⟨inside, more, rfl, noQuote⟩ := List.eq_append_cons_of_mem closing
              obtain ⟨token, left, first⟩ := ih more.length (by simp; omega) more rfl
              exact ⟨_, left, .segment noQuote first⟩
            · exact ⟨[], _, .stop (.inr ⟨rfl, closing⟩)⟩
          · cases blank : Text.isBlank c with
            | true => exact ⟨[], _, .stop (.inl blank)⟩
            | false =>
                obtain ⟨token, left, first⟩ := ih cs.length (by simp) cs rfl
                exact ⟨_, left, .char blank quote first⟩

theorem Whole.append {s t : List Char} (first : Whole s) (second : Whole t) : Whole (s ++ t) := by
  intro rest
  rw [List.append_assoc, first, second, List.modifyHead_modifyHead]
  simp only [Function.comp_def, List.append_assoc]

namespace FirstToken

variable {cs token left : List Char}

theorem split (first : FirstToken cs token left) : cs = token ++ left := by
  induction first with
  | stop => rfl
  | char _ _ _ ih => rw [ih, List.cons_append]
  | segment _ _ ih => simp [ih]

theorem stops (first : FirstToken cs token left) : Stops left := by
  induction first with
  | stop stops => exact stops
  | char _ _ _ ih => exact ih
  | segment _ _ ih => exact ih

theorem whole (first : FirstToken cs token left) : Whole token := by
  induction first with
  | stop => exact .nil
  | char blank quote _ ih => exact ih.cons quote blank
  | @segment inside cs token left noQuote _ ih =>
      have both := (Whole.quoted noQuote).append ih
      rwa [List.cons_append, List.append_assoc, List.singleton_append] at both

theorem even (first : FirstToken cs token left) : Even (token.count '"') := by
  induction first with
  | stop => exact .zero
  | char _ quote _ ih => rwa [List.count_cons_of_ne quote]
  | @segment inside cs token left noQuote _ ih =>
      have quotes : ('"' :: (inside ++ '"' :: token)).count '"' = token.count '"' + 2 := by
        simp [List.count_append, List.count_eq_zero.mpr noQuote]
      rw [quotes]
      exact ih.add ⟨1, rfl⟩

theorem cut_last (first : FirstToken cs token []) : cutTokens false cs = [token] := by
  rw [first.split, List.append_nil]
  exact first.whole.cutTokens_self

/-- Behind the first token, a character is passed over and cutting goes on. -/
theorem cut_next {c : Char} (first : FirstToken cs token (c :: left)) :
    cutTokens false cs = token :: cutTokens false left := by
  rw [first.split, first.whole, cutTokens_stops first.stops, List.modifyHead_cons, List.append_nil]

theorem filter_cut (first : FirstToken cs token left) (nonempty : token ≠ []) :
    (cutTokens false cs).filter (· ≠ []) = token :: (cutTokens false left).filter (· ≠ []) := by
  cases left with
  | nil => simp [first.cut_last, cutTokens, nonempty]
  | cons c left => simp [first.cut_next, cutTokens_stops first.stops, nonempty]

end FirstToken

/-- Tokens are stretches of the text they are cut from, and their quotes pair up. -/
theorem of_mem_cutTokens {t cs : List Char} (member : t ∈ cutTokens false cs) :
    Whole t ∧ Even (t.count '"') ∧ t <:+: cs := by
  induction size : cs.length using Nat.strong_induction_on generalizing cs with
  | _ n ih =>
      subst size
      obtain ⟨token, left, first⟩ := exists_firstToken cs
      have split := first.split
      have here : Whole token ∧ Even (token.count '"') ∧ token <:+: cs :=
        ⟨first.whole, first.even, [], left, by simp [split]⟩
      cases left with
      | nil =>
          rw [first.cut_last] at member
          rwa [List.mem_singleton.mp member]
      | cons c more =>
          rw [first.cut_next] at member
          rcases List.mem_cons.mp member with rfl | later
          · exact here
          · have shorter : more.length < cs.length := by
              simp [split]
              omega
            obtain ⟨whole, even, inside⟩ := ih more.length shorter later rfl
            refine ⟨whole, even, inside.trans ?_⟩
            exact ⟨token ++ [c], [], by simp [split]⟩

theorem of_mem_tokenize {t text : String} (member : t ∈ tokenize text) :
    Whole t.toList ∧ t ≠ "" ∧ Even (t.toList.count '"') ∧ t.toList <:+: text.toList := by
  obtain ⟨cs, kept, rfl⟩ := List.mem_map.mp member
  obtain ⟨cut, nonempty⟩ := List.mem_filter.mp kept
  obtain ⟨whole, even, inside⟩ := of_mem_cutTokens cut
  rw [String.toList_ofList]
  refine ⟨whole, ?_, even, inside⟩
  intro empty
  rw [← String.toList_inj, String.toList_ofList] at empty
  simp [empty] at nonempty

theorem tokenize_joined (text : String) :
    tokenize (" ".intercalate (tokenize text)) = tokenize text := by
  by_cases none : tokenize text = []
  · rw [none]
    rfl
  · refine tokenize_intercalate none fun t member => ?_
    obtain ⟨whole, nonempty, -⟩ := of_mem_tokenize member
    exact ⟨whole, nonempty⟩

/-! ## Going over the bytes -/

section

variable {text : String} {before cs : List Char}

theorem charsFrom?_eq (split : text.toList = before ++ cs) :
    charsFrom? text (byteCount before) = some cs := by
  have cut := Text.cut?_take text.toList before.length
  rw [split, List.take_left, List.drop_left] at cut
  rw [charsFrom?, split, cut]
  rfl

theorem byte_inside (split : text.toList = before ++ cs) :
    byteCount before < text.utf8ByteSize ↔ cs ≠ [] := by
  rw [← Text.byteCount_toList, split, Text.byteCount_append]
  cases cs with
  | nil => simp [byteCount]
  | cons c cs =>
      have size := c.utf8Size_pos
      simp only [byteCount, ne_eq, reduceCtorEq, not_false_eq_true, iff_true]
      omega

theorem byteCount_concat (before : List Char) (c : Char) :
    byteCount (before ++ [c]) = byteCount before + c.utf8Size :=
  Text.byteCount_append before [c]

theorem charsFrom?_quote (split : text.toList = before ++ '"' :: cs) :
    charsFrom? text (byteCount before + 1) = some cs := by
  have behind : text.toList = (before ++ ['"']) ++ cs := by simp [split]
  have from_ := charsFrom?_eq behind
  rwa [byteCount_concat] at from_

theorem closingQuote?_none (split : text.toList = before ++ '"' :: cs) (stray : '"' ∉ cs) :
    closingQuote? text (byteCount before) = some none := by
  simp [closingQuote?, charsFrom?_quote split, stray]

theorem closingQuote?_some {inside more : List Char}
    (split : text.toList = before ++ '"' :: (inside ++ '"' :: more)) (noQuote : '"' ∉ inside) :
    closingQuote? text (byteCount before)
      = some (some (byteCount before + 1 + byteCount inside)) := by
  have taken : (inside ++ '"' :: more).takeWhile (· ≠ '"') = inside := by
    rw [List.takeWhile_append_of_pos, List.takeWhile_cons_of_neg, List.append_nil]
    · simp
    · intro c member
      simp only [ne_eq, decide_not, Bool.not_eq_true', decide_eq_false_iff_not]
      rintro rfl
      exact noQuote member
  have closing : '"' ∈ inside ++ '"' :: more := by simp
  simp only [closingQuote?, charsFrom?_quote split, Option.bind_eq_bind, Option.bind_some, closing,
    if_true, taken]
  rfl

/-- The inner loop stops behind the first token, at the latest after one turn for each character. -/
theorem tokenEnd?_eq {token left : List Char} (first : FirstToken cs token left)
    (split : text.toList = before ++ cs) {fuel : Nat} (enough : cs.length < fuel) :
    tokenEnd? text fuel (byteCount before) = some (byteCount (before ++ token)) := by
  induction first generalizing before fuel with
  | @stop left stops =>
      obtain ⟨fuel, rfl⟩ := Nat.exists_eq_add_one_of_ne_zero (Nat.ne_zero_of_lt enough)
      rw [List.append_nil, tokenEnd?]
      cases left with
      | nil => rw [if_neg (by simp [byte_inside split])]; rfl
      | cons c more =>
          rw [if_pos ((byte_inside split).mpr (List.cons_ne_nil _ _)), charsFrom?_eq split]
          rcases stops with blank | ⟨rfl, stray⟩
          · simp [blank]
          · simp [closingQuote?_none split stray]
  | @char c cs token left blank quote _ ih =>
      obtain ⟨fuel, rfl⟩ := Nat.exists_eq_add_one_of_ne_zero (Nat.ne_zero_of_lt enough)
      have behind : text.toList = (before ++ [c]) ++ cs := by simp [split]
      have later := ih behind (Nat.lt_of_succ_lt_succ enough)
      rw [byteCount_concat, List.append_assoc, List.singleton_append] at later
      rw [tokenEnd?, if_pos ((byte_inside split).mpr (List.cons_ne_nil _ _)), charsFrom?_eq split]
      simpa [blank, quote] using later
  | @segment inside cs token left noQuote _ ih =>
      obtain ⟨fuel, rfl⟩ := Nat.exists_eq_add_one_of_ne_zero (Nat.ne_zero_of_lt enough)
      have behind : text.toList = (before ++ '"' :: (inside ++ ['"'])) ++ cs := by simp [split]
      have shorter : cs.length < fuel := by
        simp only [List.length_cons, List.length_append] at enough
        omega
      have later := ih behind shorter
      have place : byteCount (before ++ '"' :: (inside ++ ['"']))
          = byteCount before + 1 + byteCount inside + 1 := by
        have quote : '"'.utf8Size = 1 := by decide
        simp only [Text.byteCount_append, byteCount, quote]
        omega
      have blank : Text.isBlank '"' = false := by decide
      rw [place] at later
      rw [tokenEnd?, if_pos ((byte_inside split).mpr (List.cons_ne_nil _ _)), charsFrom?_eq split]
      simpa [blank, closingQuote?_some split noQuote] using later

theorem slice?_between {token left : List Char} (split : text.toList = before ++ (token ++ left)) :
    Text.slice? text (byteCount before) (byteCount (before ++ token))
      = some (String.ofList token) := by
  have slice := Text.slice?_take text (m := before.length) (n := (before ++ token).length) (by simp)
  rw [split, ← List.append_assoc, List.take_left, List.append_assoc, List.take_left,
    List.drop_left] at slice
  exact slice

end

theorem isStray?_stops {text : String} {before cs : List Char} {c : Char}
    (split : text.toList = before ++ c :: cs) (blank : Text.isBlank c = false) :
    ∃ stray, isStray? text (byteCount before) c = some stray
      ∧ (stray = true ↔ Stops (c :: cs)) := by
  by_cases quote : c = '"'
  · subst quote
    by_cases closing : '"' ∈ cs
    · obtain ⟨inside, more, rfl, noQuote⟩ := List.eq_append_cons_of_mem closing
      exact ⟨false, by simp [isStray?, closingQuote?_some split noQuote], by simp [Stops, blank]⟩
    · exact ⟨true, by simp [isStray?, closingQuote?_none split closing], by simp [Stops, closing]⟩
  · exact ⟨false, by simp [isStray?, quote], by simp [Stops, blank, quote]⟩

/-- The outer loop finds the tokens, at the latest after one turn for each character. -/
theorem scanTokens?_eq {text : String} {before cs : List Char} (split : text.toList = before ++ cs)
    {fuel : Nat} (enough : cs.length < fuel) :
    scanTokens? text fuel (byteCount before)
      = some (((cutTokens false cs).filter (· ≠ [])).map String.ofList) := by
  induction fuel generalizing before cs with
  | zero => cases enough
  | succ fuel ih =>
      rw [scanTokens?]
      cases cs with
      | nil =>
          rw [if_neg (by simp [byte_inside split])]
          rfl
      | cons c cs =>
          rw [if_pos ((byte_inside split).mpr (List.cons_ne_nil _ _)), charsFrom?_eq split]
          -- Where a token cannot start, one character is passed over.
          have passed (stops : Stops (c :: cs)) :
              scanTokens? text fuel (byteCount before + c.utf8Size)
                = some (((cutTokens false (c :: cs)).filter (· ≠ [])).map String.ofList) := by
            have behind : text.toList = (before ++ [c]) ++ cs := by simp [split]
            have later := ih behind (Nat.lt_of_succ_lt_succ enough)
            rw [byteCount_concat] at later
            simpa [cutTokens_stops stops] using later
          cases blank : Text.isBlank c with
          | true => simpa [blank] using passed (.inl blank)
          | false =>
              obtain ⟨stray, found, stops⟩ := isStray?_stops split blank
              cases stray with
              | true =>
                  have stops := stops.mp rfl
                  obtain ⟨rfl, -⟩ := stops.resolve_left (by simp [blank])
                  have one : '"'.utf8Size = 1 := by decide
                  have passed := passed stops
                  rw [one] at passed
                  simpa [blank, found] using passed
              | false =>
                  obtain ⟨token, left, first⟩ := exists_firstToken (c :: cs)
                  have parts := first.split
                  have nonempty : token ≠ [] := by
                    rintro rfl
                    rw [List.nil_append] at parts
                    exact Bool.false_ne_true (stops.mpr (parts ▸ first.stops))
                  have shorter : left.length < fuel := by
                    have positive := List.length_pos_iff.mpr nonempty
                    have sizes := congrArg List.length parts
                    rw [List.length_append] at sizes
                    omega
                  have behind : text.toList = (before ++ token) ++ left := by
                    rw [split, parts, List.append_assoc]
                  have later := ih behind shorter
                  have slice := slice?_between (split.trans (congrArg _ parts))
                  simp only [Option.bind_eq_bind, Option.bind_some, List.headD_cons, blank,
                    Bool.false_eq_true, if_false, found, tokenEnd?_eq first split enough, slice,
                    later, first.filter_cut nonempty, List.map_cons]
                  rfl

/-- A text is cut into tokens at the blanks that have an even number of quotes before them; a last
quote without a partner counts as a blank. Going over the bytes finds the same tokens, whatever the
text, and needs no more turns than there are characters. Tokens are stretches of the text, with an
even number of quotes each, and are read again from a line on which they are written. -/
theorem tokenize_pieces (text : String) :
    (∀ spare, scanTokens? text (text.length + 1 + spare) 0 = some (tokenize text))
    ∧ tokenize text
        = ((piecesBetween (pairQuotes text.toList)).filter (· ≠ [])).map String.ofList
    ∧ (∀ t ∈ tokenize text, t.toList <:+: text.toList ∧ Even (t.toList.count '"'))
    ∧ tokenize (" ".intercalate (tokenize text)) = tokenize text := by
  refine ⟨?_, ?_, ?_, tokenize_joined text⟩
  · intro spare
    have enough : text.toList.length < text.length + 1 + spare := by
      rw [String.length_toList]
      omega
    exact scanTokens?_eq (List.nil_append text.toList).symm enough
  · rw [tokenize, cutTokens_eq_pieces]
  · intro t member
    obtain ⟨-, -, even, inside⟩ := of_mem_tokenize member
    exact ⟨inside, even⟩

/-- The last quote has no partner, and separates two tokens. -/
theorem tokenize_pieces_stray :
    tokenize "a \"b c\"d e\"é" = ["a", "\"b c\"d", "e", "é"]
    ∧ "\"b c\"d" ∈ tokenize "a \"b c\"d e\"é"
    ∧ "\"b c\"d".toList <:+: "a \"b c\"d e\"é".toList
    ∧ Even ("\"b c\"d".toList.count '"') := by
  have tokens : tokenize "a \"b c\"d e\"é" = ["a", "\"b c\"d", "e", "é"] := by decide +kernel
  have member : "\"b c\"d" ∈ tokenize "a \"b c\"d e\"é" := by
    rw [tokens]
    simp
  exact ⟨tokens, member, (tokenize_pieces _).2.2.1 _ member⟩

end ReplyScript.Script
