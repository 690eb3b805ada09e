import Mathlib.Algebra.Group.Nat.Even
import ReplyScript.Proofs.Script.Joining
import ReplyScript.Proofs.Script.RoundTrip

/-! # Texts with quotes in directive lines

A directive line is cut at blanks outside double quotes, and a quote that is escaped in a JSON string
counts like any other. So a line of JSON strings is read as the texts they were written for just
when the quotes of each text pair up around its blanks. Main statement: `read_quoted_iff`.
-/

namespace ReplyScript.Script

open Json (escape escapeChar quoted unescape)

/-! ## Lines of quoted texts -/

/-- A directive line of a name and texts, each written as a JSON string. -/
def quotedLine (name : String) (texts : List String) : String :=
  "@" ++ " ".intercalate (name :: texts.map fun s => (Argument.text s).json)

/-- A reply with a line of quoted texts in its script. -/
structure QuotedReply where
  before : List OuterLine
  above : List Item
  name : CommandName
  texts : List String
  below : List Item
  after : List OuterLine

namespace QuotedReply

/-- All lines of a reply. -/
def lines (r : QuotedReply) : List String :=
  r.before.map (·.text) ++ (directiveLine "startCommand" [] :: (r.above.flatMap Item.lines
    ++ quotedLine r.name.text r.texts :: (r.below.flatMap Item.lines
      ++ directiveLine "endCommand" [] :: r.after.map (·.text))))

def text (r : QuotedReply) (e : LineEnd) : String :=
  e.text.intercalate r.lines

/-- Name and arguments of the commands of a reply. -/
def contents (r : QuotedReply) (arguments : List Argument) : List (String × List Argument) :=
  r.above.filterMap Item.content? ++ (r.name.text, arguments) :: r.below.filterMap Item.content?

end QuotedReply

/-- A blank that a JSON string holds as it is. -/
def staysBlank (c : Char) : Bool :=
  Text.isBlank c && !decide (c.toNat < 0x20)

/-- Texts whose quotes pair up, with no blank between the two quotes of a pair: these are the blanks
that end up outside quotes when the text itself stands between quotes. -/
structure Paired (s : List Char) : Prop where
  quotes : Even (s.count '"')
  blanks : ∀ u b v, s = u ++ b :: v → staysBlank b = true → Even (u.count '"')

/-! ## Written characters -/

theorem escapeChar_of_staysBlank {c : Char} (stays : staysBlank c = true) : escapeChar c = [c] := by
  simp only [staysBlank, Bool.and_eq_true, Bool.not_eq_true', decide_eq_false_iff_not] at stays
  unfold Json.escapeChar
  split
  case h_8 => exact if_neg stays.2
  all_goals exact absurd stays (by decide)

theorem bare_hexChar {n : Nat} (small : n < 16) :
    Text.isBlank (Json.hexChar n) = false ∧ Json.hexChar n ≠ '"' := by
  have all : ∀ m < 16, Text.isBlank (Json.hexChar m) = false ∧ Json.hexChar m ≠ '"' := by decide
  exact all n small

theorem bare_escapeChar {c : Char} (quote : c ≠ '"') (stays : staysBlank c = false) :
    ∀ x ∈ escapeChar c, Text.isBlank x = false ∧ x ≠ '"' := by
  have all : (escapeChar c).all (fun x => !Text.isBlank x && x != '"') = true := by
    unfold Json.escapeChar
    split
    case h_1 => exact absurd rfl quote
    case h_8 =>
      split
      · rename_i control
        have first := bare_hexChar (n := c.toNat / 16) (by omega)
        have second := bare_hexChar (n := c.toNat % 16) (by omega)
        have slash : Text.isBlank '\\' = false ∧ Text.isBlank 'u' = false
          ∧ Text.isBlank '0' = false := by decide
        simp [first, second, slash]
      · rename_i visible
        simp only [staysBlank, visible, decide_false, Bool.not_false, Bool.and_true] at stays
        simp [stays, quote]
    all_goals decide
  simpa using all

theorem quote_notMem_escapeChar {c : Char} (quote : c ≠ '"') : '"' ∉ escapeChar c := by
  cases stays : staysBlank c with
  | true =>
      rw [escapeChar_of_staysBlank stays, List.mem_singleton]
      exact Ne.symm quote
  | false => exact fun member => (bare_escapeChar quote stays _ member).2 rfl

theorem newline_notMem_escapeChar (c : Char) : '\n' ∉ escapeChar c := by
  by_cases quote : c = '"'
  · subst quote
    decide
  · cases stays : staysBlank c with
    | true =>
        rw [escapeChar_of_staysBlank stays, List.mem_singleton]
        rintro rfl
        exact absurd stays (by decide)
    | false => exact fun member => absurd (bare_escapeChar quote stays _ member).1 (by decide)

theorem count_escape (s : List Char) : (escape s).count '"' = s.count '"' := by
  induction s with
  | nil => rfl
  | cons c s ih =>
      rw [escape, List.flatMap_cons, List.count_append, ← escape, ih, List.count_cons, Nat.add_comm]
      by_cases quote : c = '"'
      · subst quote
        rfl
      · rw [List.count_eq_zero.mpr (quote_notMem_escapeChar quote)]
        simp [quote]

theorem countP_escape (s : List Char) : (escape s).countP staysBlank = s.countP staysBlank := by
  induction s with
  | nil => rfl
  | cons c s ih =>
      rw [escape, List.flatMap_cons, List.countP_append, ← escape, ih, List.countP_cons,
        Nat.add_comm]
      congr 1
      cases stays : staysBlank c with
      | true => simp [escapeChar_of_staysBlank stays, stays]
      | false =>
          by_cases quote : c = '"'
          · subst quote
            rfl
          · have none : (escapeChar c).countP staysBlank = 0 := by
              apply List.countP_eq_zero.mpr
              intro x member
              simp [staysBlank, (bare_escapeChar quote stays x member).1]
            simpa using none

theorem unescape_unclosed (s : List Char) : unescape (escape s) = none := by
  induction s with
  | nil => rfl
  | cons c s ih =>
      rw [escape, List.flatMap_cons, Json.unescape_escapeChar, ← escape, ih]
      rfl

/-! ## Cutting written texts -/

/-- Whether a quote is open behind some characters. -/
def quotedBehind (quoted : Bool) : List Char → Bool
  | [] => quoted
  | c :: cs => quotedBehind (if c = '"' then !quoted else quoted) cs

theorem quotedBehind_iff (quoted : Bool) (s : List Char) :
    quotedBehind quoted s = true ↔ (quoted = true ↔ Even (s.count '"')) := by
  induction s generalizing quoted with
  | nil => simp [quotedBehind]
  | cons c s ih =>
      rw [quotedBehind, ih, List.count_cons]
      by_cases quote : c = '"'
      · simp only [quote, beq_self_eq_true, if_true, Nat.even_add_one]
        cases quoted <;> simp
      · simp [quote]

/-- Blanks are all where a quote is open. -/
def Covers (quoted : Bool) (s : List Char) : Prop :=
  ∀ u b v, s = u ++ b :: v → staysBlank b = true → quotedBehind quoted u = true

theorem paired_iff (s : List Char) : Paired s ↔ quotedBehind true s = true ∧ Covers true s := by
  simp only [Covers, quotedBehind_iff, true_iff]
  exact ⟨fun ⟨quotes, blanks⟩ => ⟨quotes, blanks⟩, fun ⟨quotes, blanks⟩ => ⟨quotes, blanks⟩⟩

theorem Covers.nil (quoted : Bool) : Covers quoted [] := by
  intro u b v split
  cases u <;> cases split

theorem Covers.cons {quoted : Bool} {c : Char} {s : List Char}
    (here : staysBlank c = true → quoted = true)
    (keeps : Covers (quotedBehind quoted [c]) s) : Covers quoted (c :: s) := by
  rintro (_ | ⟨x, u⟩) b v split stays
  · cases split
    exact here stays
  · obtain ⟨rfl, behind⟩ := List.cons.inj split
    exact keeps u b v behind stays

theorem cutTokens_inside {w : List Char} (noQuote : '"' ∉ w) (rest : List Char) :
    cutTokens true (w ++ rest) = (cutTokens true rest).modifyHead (w ++ ·) := by
  induction w with
  | nil =>
      rw [List.nil_append]
      cases cutTokens true rest <;> rfl
  | cons c w ih =>
      rw [List.mem_cons, not_or] at noQuote
      simp [cutTokens, Ne.symm noQuote.1, ih noQuote.2, List.modifyHead_modifyHead,
        Function.comp_def]

theorem cutTokens_staysBlank {b : Char} (stays : staysBlank b = true) (rest : List Char) :
    cutTokens false (b :: rest) = [] :: cutTokens false rest := by
  have noQuote : b ≠ '"' := by
    rintro rfl
    exact absurd stays (by decide)
  have blank : Text.isBlank b = true := (Bool.and_eq_true _ _ ▸ stays).1
  simp [cutTokens, noQuote, blank]

theorem cutTokens_escapeChar {quoted : Bool} {c : Char} {rest : List Char}
    (closing : '"' ∈ rest) (here : staysBlank c = true → quoted = true) :
    cutTokens quoted (escapeChar c ++ rest)
      = (cutTokens (quotedBehind quoted [c]) rest).modifyHead (escapeChar c ++ ·) := by
  by_cases quote : c = '"'
  · subst quote
    have slash : Text.isBlank '\\' = false := by decide
    cases quoted <;>
      simp [escapeChar, cutTokens, slash, closing, quotedBehind, List.modifyHead_modifyHead,
        Function.comp_def]
  · simp only [quotedBehind, quote, if_false]
    cases quoted with
    | true => exact cutTokens_inside (quote_notMem_escapeChar quote) rest
    | false =>
        have moves : staysBlank c = false := by simpa using here
        exact Whole.bare (bare_escapeChar quote moves) rest

/-- A written text is passed as a whole, or cut at its first blank where no quote is open. -/
theorem cutTokens_escape (quoted : Bool) (s rest : List Char) (closing : '"' ∈ rest) :
    Covers quoted s ∧ cutTokens quoted (escape s ++ rest)
        = (cutTokens (quotedBehind quoted s) rest).modifyHead (escape s ++ ·)
      ∨ ∃ u b v tail, s = u ++ b :: v ∧ staysBlank b = true ∧ quotedBehind quoted u = false
        ∧ cutTokens quoted (escape s ++ rest) = escape u :: tail := by
  induction s generalizing quoted with
  | nil =>
      refine .inl ⟨Covers.nil quoted, ?_⟩
      show cutTokens quoted rest = (cutTokens quoted rest).modifyHead ([] ++ ·)
      cases cutTokens quoted rest <;> rfl
  | cons c s ih =>
      have later : '"' ∈ escape s ++ rest := List.mem_append_right _ closing
      have first : escape (c :: s) ++ rest = escapeChar c ++ (escape s ++ rest) := by
        rw [escape, List.flatMap_cons, List.append_assoc, escape]
      -- A blank ends the token unless a quote is open. Quotes turn that around, escaped or not.
      by_cases here : staysBlank c = true → quoted = true
      · have step := cutTokens_escapeChar later here
        rcases ih (quotedBehind quoted [c]) with ⟨keeps, passed⟩ | ⟨u, b, v, tail, rfl, cut⟩
        · refine .inl ⟨keeps.cons here, ?_⟩
          rw [first, step, passed, List.modifyHead_modifyHead]
          simp only [Function.comp_def, escape, List.flatMap_cons, List.append_assoc]
          rfl
        · obtain ⟨stays, shut, cut⟩ := cut
          refine .inr ⟨c :: u, b, v, tail, rfl, stays, shut, ?_⟩
          rw [first, step, cut]
          rfl
      · obtain ⟨stays, outside⟩ := Classical.not_imp.mp here
        have shut : quoted = false := by simpa using outside
        subst shut
        refine .inr ⟨[], c, s, cutTokens false (escape s ++ rest), rfl, stays, rfl, ?_⟩
        rw [first, escapeChar_of_staysBlank stays]
        exact cutTokens_staysBlank stays _

/-- What the first token of a written text can be that does not hold the text. -/
inductive Spoiled (s : List Char) : List Char → Prop where
  /-- Cut at a blank. -/
  | cut {u v : List Char} {b : Char} (split : s = u ++ b :: v) (stays : staysBlank b = true) :
      Spoiled s ('"' :: escape u)
  /-- Without its closing quote, which has no partner. -/
  | unclosed : Spoiled s ('"' :: escape s)
  /-- Together with the text behind it. -/
  | joined (more : List Char) : Spoiled s ('"' :: (escape s ++ '"' :: ' ' :: '"' :: more))

/-- Where a written text ends: at the end of the line, or before another text. -/
def TextEnd (rest : List Char) : Prop :=
  rest = [] ∨ ∃ more, rest = ' ' :: '"' :: more

theorem cutTokens_open {cs : List Char} (closing : '"' ∈ cs) :
    cutTokens false ('"' :: cs) = (cutTokens true cs).modifyHead ('"' :: ·) := by
  simp [cutTokens, closing]

theorem cutTokens_close (cs : List Char) :
    cutTokens true ('"' :: cs) = (cutTokens false cs).modifyHead ('"' :: ·) := by
  simp [cutTokens]

theorem quoted_append (s : String) (rest : List Char) :
    quoted s ++ rest = '"' :: (escape s.toList ++ '"' :: rest) := by
  rw [quoted, List.cons_append, List.append_assoc, List.singleton_append]

theorem whole_of_paired {s : String} (paired : Paired s.toList) : Whole (quoted s) := by
  intro rest
  obtain ⟨open_, keeps⟩ := (paired_iff _).mp paired
  have closing : '"' ∈ escape s.toList ++ '"' :: rest :=
    List.mem_append_right _ List.mem_cons_self
  rw [quoted_append, cutTokens_open closing]
  rcases cutTokens_escape true s.toList ('"' :: rest) List.mem_cons_self with
    ⟨-, passed⟩ | ⟨u, b, v, tail, split, stays, shut, -⟩
  · rw [passed, open_, cutTokens_close, List.modifyHead_modifyHead, List.modifyHead_modifyHead]
    simp only [Function.comp_def, quoted, List.cons_append, List.append_assoc, List.nil_append]
  · rw [keeps u b v split stays] at shut
    cases shut

theorem spoiled_of_not_paired {s : String} (unpaired : ¬ Paired s.toList) {rest : List Char}
    (next : TextEnd rest) :
    ∃ head tail, cutTokens false (quoted s ++ rest) = head :: tail ∧ Spoiled s.toList head := by
  have closing : '"' ∈ escape s.toList ++ '"' :: rest :=
    List.mem_append_right _ List.mem_cons_self
  rw [quoted_append, cutTokens_open closing]
  rcases cutTokens_escape true s.toList ('"' :: rest) List.mem_cons_self with
    ⟨keeps, passed⟩ | ⟨u, b, v, tail, split, stays, -, cut⟩
  · have shut : quotedBehind true s.toList = false := by
      rw [← Bool.not_eq_true]
      exact fun open_ => unpaired ((paired_iff _).mpr ⟨open_, keeps⟩)
    rw [passed, shut, List.modifyHead_modifyHead]
    rcases next with rfl | ⟨more, rfl⟩
    · have lost : cutTokens false ['"'] = [[], []] := by decide
      refine ⟨_, [[]], ?_, .unclosed⟩
      rw [lost, List.modifyHead_cons]
      simp only [Function.comp_apply, List.append_nil]
    · have another : '"' ∈ ' ' :: '"' :: more := List.mem_cons_of_mem _ List.mem_cons_self
      have gap : cutTokens true (' ' :: '"' :: more)
          = (cutTokens false more).modifyHead ([' ', '"'] ++ ·) := by
        have inside := cutTokens_inside (w := [' ']) (by decide) ('"' :: more)
        rw [List.singleton_append] at inside
        rw [inside, cutTokens_close, List.modifyHead_modifyHead]
        rfl
      obtain ⟨head, tail, cut⟩ := List.exists_cons_of_ne_nil (cutTokens_ne_nil false more)
      rw [cutTokens_open another, gap, cut]
      exact ⟨_, tail, rfl, .joined head⟩
  · rw [cut]
    exact ⟨_, _, rfl, .cut split stays⟩

/-! ## Values of written texts -/

theorem toList_json (s : String) : (Argument.text s).json.toList = quoted s :=
  String.toList_ofList

theorem decode?_json (s : String) : Argument.decode? (Argument.text s).json = some (.text s) := by
  have read : Json.scalar? (Argument.text s).json = some (.text s) := by
    apply Json.scalar?_of_read
    · rw [toList_json]
      rintro c ⟨⟩
      rfl
    · simp only [toList_json, quoted, Json.readScalar, Json.unescape_escape, Option.map_some,
        String.ofList_toList]
  rw [Argument.decode?, read]

namespace Spoiled

variable {s head : List Char}

theorem first (spoiled : Spoiled s head) : ∃ rest, head = '"' :: rest := by
  cases spoiled <;> exact ⟨_, rfl⟩

theorem scalar?_eq_none (spoiled : Spoiled s head) : Json.scalar? (String.ofList head) = none := by
  have kept : head.dropWhile Json.isSpace = head := by
    obtain ⟨rest, rfl⟩ := spoiled.first
    rfl
  rw [Json.scalar?, String.toList_ofList, kept]
  cases spoiled with
  | cut | unclosed => simp only [Json.readScalar, unescape_unclosed, Option.map_none]
  | joined more =>
      simp only [Json.readScalar, Json.unescape_escape, Option.map_some]
      rfl

theorem decode?_eq_none (spoiled : Spoiled s head) :
    Argument.decode? (String.ofList head) = none := by
  rw [Argument.decode?, spoiled.scalar?_eq_none]

end Spoiled

/-- Quotes are removed from both ends of a token or not at all. -/
theorem unquote_cases (token : List Char) : unquote (String.ofList token) = String.ofList token
    ∨ ∃ mid, token = '"' :: (mid ++ ['"']) ∧ unquote (String.ofList token) = String.ofList mid := by
  rw [unquote, String.toList_ofList]
  split
  · rename_i rest
    split
    · rename_i closed
      obtain ⟨mid, rfl⟩ := List.getLast?_eq_some_iff.mp closed
      refine .inr ⟨mid, rfl, ?_⟩
      rw [List.dropLast_concat]
    · exact .inl rfl
  · exact .inl rfl

theorem count_of_unquote {token s : List Char}
    (same : unquote (String.ofList token) = String.ofList s) :
    (token.count '"' = s.count '"' ∨ token.count '"' = s.count '"' + 2)
      ∧ token.countP staysBlank = s.countP staysBlank := by
  rcases unquote_cases token with kept | ⟨mid, rfl, cut⟩
  · obtain rfl := String.ofList_injective (kept.symm.trans same)
    exact ⟨.inl rfl, rfl⟩
  · obtain rfl := String.ofList_injective (cut.symm.trans same)
    have quote : staysBlank '"' = false := by decide
    refine ⟨.inr ?_, ?_⟩
    · rw [List.count_cons_self, List.count_append, List.count_singleton_self]
    · simp [List.countP_append, quote]

theorem Spoiled.unquote_ne {s head : List Char} (spoiled : Spoiled s head) :
    unquote (String.ofList head) ≠ String.ofList s := by
  intro same
  obtain ⟨quotes, blanks⟩ := count_of_unquote same
  cases spoiled with
  | @cut u v b split stays =>
      have quote : staysBlank '"' = false := by decide
      simp only [split, List.countP_cons, countP_escape, quote, List.countP_append, stays, if_true,
        Bool.false_eq_true, if_false] at blanks
      omega
  | unclosed =>
      rw [List.count_cons_self, count_escape] at quotes
      omega
  | joined more =>
      rw [List.count_cons_self, List.count_append, count_escape, List.count_cons_self,
        List.count_cons_of_ne (by decide), List.count_cons_self] at quotes
      omega

/-! ## Tokens of a line -/

theorem intercalate_quoted (s : String) (texts : List String) :
    ∃ rest, TextEnd rest ∧ [' '].intercalate ((s :: texts).map quoted) = quoted s ++ rest := by
  cases texts with
  | nil => exact ⟨[], .inl rfl, by simp⟩
  | cons t texts =>
      refine ⟨' ' :: [' '].intercalate ((t :: texts).map quoted), .inr ?_, ?_⟩
      · cases texts with
        | nil => exact ⟨_, rfl⟩
        | cons u texts => exact ⟨_, rfl⟩
      · rw [List.map_cons, List.map_cons, List.intercalate_cons_cons, List.append_assoc]
        rfl

/-- Up to the first text that is not read back, every token is a written text. -/
theorem cutTokens_unpaired {texts : List String}
    (unpaired : ¬ ∀ s ∈ texts, Paired s.toList) :
    ∃ good bad later head tail, texts = good ++ bad :: later ∧ Spoiled bad.toList head
      ∧ cutTokens false ([' '].intercalate (texts.map quoted)) = good.map quoted ++ head :: tail := by
  induction texts with
  | nil => exact absurd nofun unpaired
  | cons s texts ih =>
      by_cases paired : Paired s.toList
      · have behind : ¬ ∀ t ∈ texts, Paired t.toList := by
          intro all
          exact unpaired (List.forall_mem_cons.mpr ⟨paired, all⟩)
        obtain ⟨good, bad, later, head, tail, rfl, spoiled, cut⟩ := ih behind
        refine ⟨s :: good, bad, later, head, tail, rfl, spoiled, ?_⟩
        have nonempty : (good ++ bad :: later).map quoted ≠ [] := by simp
        rw [List.map_cons, List.intercalate_cons_of_ne_nil nonempty, List.append_assoc,
          List.singleton_append, (whole_of_paired paired).cutTokens_blank, cut]
        rfl
      · obtain ⟨rest, next, line⟩ := intercalate_quoted s texts
        obtain ⟨head, tail, cut, spoiled⟩ := spoiled_of_not_paired paired next
        exact ⟨[], s, texts, head, tail, rfl, spoiled, by rw [line, cut]; rfl⟩

theorem tokenize_cons {first : String} (whole : Whole first.toList) (nonempty : first ≠ "")
    (tokens : List String) :
    tokenize (" ".intercalate (first :: tokens)) = first :: tokenize (" ".intercalate tokens) := by
  have kept : first.toList ≠ [] := by simpa using nonempty
  cases tokens with
  | nil =>
      simp only [String.intercalate_singleton, tokenize, whole.cutTokens_self]
      simp [kept, cutTokens]
  | cons token tokens =>
      rw [String.intercalate_cons_cons]
      simp only [tokenize, String.toList_append, List.append_assoc]
      rw [show " ".toList = [' '] from rfl, List.singleton_append, whole.cutTokens_blank]
      simp [kept]

theorem ofLine?_quotedLine (name : CommandName) (texts : List String) :
    Directive.ofLine? (quotedLine name.text texts) = some ⟨name.text,
      tokenize (" ".intercalate (texts.map fun s => (Argument.text s).json))⟩ := by
  have shape : quotedLine name.text texts = String.ofList ('@' ::
      (" ".intercalate (name.text :: texts.map fun s => (Argument.text s).json)).toList) := by
    rw [← String.toList_inj, String.toList_ofList, quotedLine, String.toList_append]
    rfl
  rw [shape, ofLine?_cons_at, String.ofList_toList,
    tokenize_cons (Whole.bare name.plain) name.nonempty]

theorem tokenize_paired {texts : List String} (paired : ∀ s ∈ texts, Paired s.toList) :
    tokenize (" ".intercalate (texts.map fun s => (Argument.text s).json))
      = texts.map fun s => (Argument.text s).json := by
  by_cases empty : texts = []
  · subst empty
    rfl
  · apply tokenize_intercalate
    · simpa using empty
    · intro t member
      obtain ⟨s, inside, rfl⟩ := List.mem_map.mp member
      refine ⟨?_, ?_⟩
      · rw [toList_json]
        exact whole_of_paired (paired s inside)
      · intro none
        have chars := toList_json s
        rw [none] at chars
        cases chars

theorem tokenize_unpaired {texts : List String} (unpaired : ¬ ∀ s ∈ texts, Paired s.toList) :
    ∃ good bad later head tokens, texts = good ++ bad :: later ∧ Spoiled bad.toList head
      ∧ tokenize (" ".intercalate (texts.map fun s => (Argument.text s).json))
        = (good.map fun s => (Argument.text s).json) ++ String.ofList head :: tokens := by
  obtain ⟨good, bad, later, head, tail, split, spoiled, cut⟩ := cutTokens_unpaired unpaired
  refine ⟨good, bad, later, head, (tail.filter (· ≠ [])).map String.ofList, split, spoiled, ?_⟩
  have chars : (" ".intercalate (texts.map fun s => (Argument.text s).json)).toList
      = [' '].intercalate (texts.map quoted) := by
    rw [String.toList_intercalate, List.map_map]
    simp only [Function.comp_def, toList_json]
    rfl
  have full : (good.map quoted).filter (· ≠ []) = good.map quoted := by
    apply List.filter_eq_self.mpr
    intro t member
    obtain ⟨s, _, rfl⟩ := List.mem_map.mp member
    rfl
  obtain ⟨rest, rfl⟩ := spoiled.first
  rw [tokenize, chars, cut, List.filter_append, full, List.map_append, List.map_map]
  simp [Function.comp_def, Argument.json]

/-! ## Arguments of a line -/

theorem strictArguments_refused {α : Type} {token : α → String} {value : α → Argument}
    (decoded : ∀ x, Argument.decode? (token x) = some (value x)) (xs : List α) {refused : String}
    (malformed : Argument.decode? refused = none) (tokens : List String) :
    Directive.strictArguments (xs.map token ++ refused :: tokens) = .error refused := by
  induction xs with
  | nil => simp only [List.map_nil, List.nil_append, Directive.strictArguments, malformed]
  | cons x xs ih =>
      simp only [List.map_cons, List.cons_append, Directive.strictArguments, decoded, ih]
      rfl

theorem arguments_unpaired {texts : List String} (unpaired : ¬ ∀ s ∈ texts, Paired s.toList)
    (name : String) :
    Directive.arguments ⟨name,
        tokenize (" ".intercalate (texts.map fun s => (Argument.text s).json))⟩
      ≠ .ok (texts.map .text) := by
  obtain ⟨good, bad, later, head, tokens, rfl, spoiled, read⟩ := tokenize_unpaired unpaired
  rw [read]
  intro same
  unfold Directive.arguments at same
  split at same
  · simp only [strictArguments_refused decode?_json good spoiled.decode?_eq_none, reduceCtorEq]
      at same
  · have args := Except.ok.inj same
    rw [List.map_append, map_argument_map decode?_json, List.map_append] at args
    have first := (List.cons.inj (List.append_cancel_left args)).1
    rw [Directive.argument, spoiled.decode?_eq_none, Option.getD_none] at first
    apply spoiled.unquote_ne
    rw [String.ofList_toList]
    exact Argument.text.inj first

/-! ## Reading replies -/

theorem oneLine_quotedLine (name : CommandName) (texts : List String) :
    '\n' ∉ (quotedLine name.text texts).toList := by
  rw [quotedLine, String.toList_append, List.mem_append, not_or]
  refine ⟨by decide, oneLine_intercalate ?_⟩
  intro t member
  rcases List.mem_cons.mp member with rfl | member
  · exact fun inside => Bool.true_eq_false.mp (name.plain _ inside).1
  · obtain ⟨s, -, rfl⟩ := List.mem_map.mp member
    rw [toList_json, quoted, escape]
    simpa using fun c _ => newline_notMem_escapeChar c

namespace QuotedReply

def directive (r : QuotedReply) : Directive :=
  ⟨r.name.text, tokenize (" ".intercalate (r.texts.map fun s => (Argument.text s).json))⟩

/-- The lines up to the line of quoted texts. -/
def head (r : QuotedReply) : List String :=
  r.before.map (·.text) ++ directiveLine "startCommand" [] :: r.above.flatMap Item.lines

/-- The lines behind the line of quoted texts. -/
def tail (r : QuotedReply) : List String :=
  r.below.flatMap Item.lines ++ directiveLine "endCommand" [] :: r.after.map (·.text)

variable (r : QuotedReply) (e : LineEnd)

theorem lines_eq : r.lines = r.head ++ quotedLine r.name.text r.texts :: r.tail := by
  simp only [lines, head, tail, List.append_assoc, List.cons_append]

theorem oneLine_lines : ∀ l ∈ r.lines, '\n' ∉ l.toList := by
  intro l member
  simp only [lines, List.mem_append, List.mem_cons, List.mem_map, List.mem_flatMap] at member
  rcases member with ⟨outer, _, rfl⟩ | rfl | ⟨item, _, inside⟩ | rfl | ⟨item, _, inside⟩ | rfl
    | ⟨outer, _, rfl⟩
  · exact outer.oneLine
  · exact oneLine_directiveLine (by decide) []
  · exact oneLine_item item l inside
  · exact oneLine_quotedLine r.name r.texts
  · exact oneLine_item item l inside
  · exact oneLine_directiveLine (by decide) []
  · exact outer.oneLine

theorem reads_head : Reads .start r.head .inScript (r.above.filterMap Item.content?) :=
  (Reads.outers r.before).append (Reads.startLine.append (Reads.items r.above))

theorem reads_tail : Reads .inScript r.tail .start (r.below.filterMap Item.content?) := by
  have all := (Reads.items r.below).append (Reads.endLine.append (Reads.outers r.after))
  simp only [List.append_nil] at all
  exact all

theorem shows_lines : List.Forall₂ Shows r.lines (sourceLines (r.text e)) := by
  have nonempty : r.lines ≠ [] := by simp [lines]
  exact shows_text e nonempty r.oneLine_lines

variable {r}

theorem read_of_decoded {arguments : List Argument}
    (decoded : r.directive.arguments = .ok arguments) :
    ∃ script, read (r.text e) = .ok script ∧ script.warnings = []
      ∧ script.commands.map Command.content = r.contents arguments := by
  have line := Reads.directive (ofLine?_quotedLine r.name r.texts) decoded
  have all := r.reads_head.append (line.append r.reads_tail)
  have shown := r.shows_lines e
  rw [lines_eq] at shown
  obtain ⟨commands, run, contents⟩ := all _ shown
  have same : yields (r.text e) = commands.map .command := by
    simp only [yields, run]
    exact List.append_nil _
  refine ⟨⟨commands, []⟩, ?_, rfl, contents⟩
  rw [read, same]
  simp [List.filterMap_map, Function.comp_def, Yield.error?, Yield.command?, Yield.warning?]

theorem not_read_of_refused {token : String} (refused : r.directive.arguments = .error token)
    (script : Script) : read (r.text e) ≠ .ok script := by
  intro parsed
  have shown := r.shows_lines e
  rw [lines_eq] at shown
  obtain ⟨xs, ys, split, first, rest⟩ := Shows.split shown
  obtain ⟨commands, run, -⟩ := r.reads_head xs first
  cases rest with
  | @cons _ x _ ys line _ =>
      have step : Scan.inScript.step x
          = (.inScript, [.error ⟨.invalidArgument r.name.text token, x.span⟩]) := by
        rw [Scan.step, line.directive, ofLine?_quotedLine]
        simp only [Scan.stepDirective, r.name.ne_frame.1, r.name.ne_frame.2, if_false,
          Scan.inScript, if_true, Scan.stepInScript, r.name.ofOpener?, r.name.ofCloser?]
        rw [show Directive.arguments ⟨r.name.text, _⟩ = _ from refused]
      have error : .error ⟨.invalidArgument r.name.text token, x.span⟩ ∈ yields (r.text e) := by
        unfold yields
        simp only [split, Scan.run_append, run, Scan.run, step, List.mem_append, List.mem_cons,
          true_or, or_true]
      rw [Reading.read_eq_ofYields] at parsed
      obtain ⟨clean, -⟩ := Reading.ofYields_eq_ok parsed
      have none := List.filterMap_eq_nil_iff.mp clean _ error
      cases none

end QuotedReply

/-- A line of JSON strings is read as the texts they were written for exactly when the quotes of
every text pair up around its blanks. -/
theorem read_quoted_iff (r : QuotedReply) (e : LineEnd) :
    (∃ script, read (r.text e) = .ok script ∧ script.warnings = []
        ∧ script.commands.map Command.content = r.contents (r.texts.map .text))
      ↔ ∀ s ∈ r.texts, Paired s.toList := by
  constructor
  · rintro ⟨script, parsed, -, contents⟩
    by_contra unpaired
    cases decoded : r.directive.arguments with
    | error token => exact QuotedReply.not_read_of_refused e decoded script parsed
    | ok arguments =>
        obtain ⟨other, read, -, found⟩ := QuotedReply.read_of_decoded e decoded
        obtain rfl := Except.ok.inj (parsed.symm.trans read)
        have same := List.append_cancel_left (contents.symm.trans found)
        have exact_ : r.texts.map .text = arguments := (Prod.mk.inj (List.cons.inj same).1).2
        rw [← exact_] at decoded
        exact arguments_unpaired unpaired _ decoded
  · intro paired
    apply QuotedReply.read_of_decoded
    rw [QuotedReply.directive, tokenize_paired paired]
    exact arguments_map decode?_json r.texts r.name.text

/-- A JSON string is refused as no JSON scalar: it is cut at the blank between its escaped quotes. -/
theorem read_splits_quoted :
    quotedLine "input" ["say \"a b\""] = "@input \"say \\\"a b\\\"\""
      ∧ read "@startCommand\n@input \"say \\\"a b\\\"\"\n@endCommand"
        = .error [⟨.invalidArgument "input" "\"say \\\"a", ⟨14, 34⟩⟩] :=
  ⟨rfl, rfl⟩

end ReplyScript.Script
