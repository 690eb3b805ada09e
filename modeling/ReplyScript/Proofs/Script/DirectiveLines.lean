import ReplyScript.Proofs.Json.Scalar
import ReplyScript.Proofs.Script.Tokens
import ReplyScript.Script.Writing

/-! # Written directive lines

A directive line made of a name and literals is read as that name with one token for each literal,
and these tokens have the values of the literals. Names of commands and of blocks are never taken
for one another.
-/

namespace ReplyScript.Script

namespace Literal

theorem bare_of_isDigit {c : Char} (digit : c.isDigit = true) :
    Text.isBlank c = false ∧ c ≠ '"' := by
  have range : 48 ≤ c.toNat ∧ c.toNat ≤ 57 := by
    rw [Char.isDigit, Bool.and_eq_true, decide_eq_true_eq, decide_eq_true_eq] at digit
    exact digit
  constructor
  · simp [Text.isBlank]
    omega
  · rintro rfl
    exact absurd range (by decide)

theorem bare_integer (n : Int) :
    ∀ c ∈ (toString n).toList, Text.isBlank c = false ∧ c ≠ '"' := by
  rw [Int.toString_eq_repr]
  intro c member
  cases n with
  | ofNat m =>
      rw [Int.repr, Nat.toList_repr] at member
      exact bare_of_isDigit (Json.isDigit_of_mem c member)
  | negSucc m =>
      rw [Int.repr, String.toList_append, Nat.toList_repr, List.mem_append] at member
      rcases member with sign | member
      · have minus : c = '-' := List.mem_singleton.mp sign
        subst minus
        exact ⟨rfl, by decide⟩
      · exact bare_of_isDigit (Json.isDigit_of_mem c member)

theorem written_ne_empty (l : Literal) : l.written ≠ "" := by
  intro empty
  cases l with
  | integer n fits =>
      rw [written, Int.toString_eq_repr, Int.repr_eq_if] at empty
      split at empty
      · exact Nat.toDigits_ne_nil (Nat.toList_repr ▸ String.toList_eq_nil_iff.mpr empty)
      · simp at empty
  | text s plain => simp [written] at empty

theorem whole (l : Literal) : Whole l.written.toList := by
  cases l with
  | integer n fits => exact Whole.bare (bare_integer n)
  | text s plain =>
      have shape : ("\"" ++ s ++ "\"").toList = '"' :: (s.toList ++ ['"']) := by
        simp [String.toList_append]
      rw [written, shape]
      exact Whole.quoted fun member => (plain _ member).1 rfl

theorem oneLine (l : Literal) : '\n' ∉ l.written.toList := by
  intro member
  cases l with
  | integer n fits => exact Bool.true_eq_false.mp (bare_integer n _ member).1
  | text s plain =>
      simp only [written, String.toList_append, List.mem_append] at member
      rcases member with (quote | inside) | quote
      · exact absurd quote (by decide)
      · exact (plain _ inside).2.2 (by decide)
      · exact absurd quote (by decide)

theorem decode?_written (l : Literal) : Argument.decode? l.written = some l.value := by
  cases l with
  | integer n fits =>
      have range := fits
      rw [Argument.inWord, Bool.and_eq_true, decide_eq_true_eq, decide_eq_true_eq] at range
      simp only [Argument.decode?, written, Json.scalar?_int range.1 range.2, Argument.ofNumber,
        fits, if_true, value]
  | text s plain => simp only [Argument.decode?, written, Json.scalar?_plain plain, value]

end Literal

theorem ofLine?_directiveLine {name : String} (whole : Whole name.toList) (nonempty : name ≠ "")
    (arguments : List Literal) : Directive.ofLine? (directiveLine name arguments) =
      some ⟨name, arguments.map Literal.written⟩ := by
  have tokens : tokenize (" ".intercalate (name :: arguments.map Literal.written)) =
      name :: arguments.map Literal.written := by
    apply tokenize_intercalate (List.cons_ne_nil _ _)
    intro t member
    rcases List.mem_cons.mp member with rfl | member
    · exact ⟨whole, nonempty⟩
    · obtain ⟨l, _, rfl⟩ := List.mem_map.mp member
      exact ⟨l.whole, l.written_ne_empty⟩
  have shape : directiveLine name arguments = String.ofList
      ('@' :: (" ".intercalate (name :: arguments.map Literal.written)).toList) := by
    rw [← String.toList_inj, String.toList_ofList, directiveLine, String.toList_append]
    rfl
  rw [shape, ofLine?_cons_at, String.ofList_toList, tokens]

section

variable {α : Type} {token : α → String} {value : α → Argument}
  (decoded : ∀ x, Argument.decode? (token x) = some (value x)) (xs : List α)

include decoded

theorem strictArguments_map :
    Directive.strictArguments (xs.map token) = .ok (xs.map value) := by
  induction xs with
  | nil => rfl
  | cons x xs ih =>
      simp only [List.map_cons, Directive.strictArguments, decoded, ih]
      rfl

theorem map_argument_map : (xs.map token).map Directive.argument = xs.map value := by
  rw [List.map_map, List.map_inj_left]
  intro x _
  rw [Function.comp_apply, Directive.argument, decoded, Option.getD_some]

theorem arguments_map (name : String) :
    Directive.arguments ⟨name, xs.map token⟩ = .ok (xs.map value) := by
  simp only [Directive.arguments, strictArguments_map decoded, map_argument_map decoded, ite_self]

end

theorem bare_of_all {name : String}
    (all : name.toList.all (fun c => !Text.isBlank c && c != '"') = true) :
    ∀ c ∈ name.toList, Text.isBlank c = false ∧ c ≠ '"' := by
  simpa using all

theorem ofLine?_frame {name : String}
    (bare : ∀ c ∈ name.toList, Text.isBlank c = false ∧ c ≠ '"') (nonempty : name ≠ "")
    (arguments : List Literal) : Directive.ofLine? (directiveLine name arguments) =
      some ⟨name, arguments.map Literal.written⟩ :=
  ofLine?_directiveLine (Whole.bare bare) nonempty arguments

namespace CommandName

theorem ne_frame (name : CommandName) :
    name.text ≠ "startCommand" ∧ name.text ≠ "endCommand" := by
  have free := name.free
  simp only [reserved, List.mem_append, List.mem_cons, not_or] at free
  exact ⟨free.1.1.1, free.1.1.2.1⟩

theorem ofOpener? (name : CommandName) : BlockKind.ofOpener? name.text = none := by
  apply List.find?_eq_none.mpr
  intro kind member same
  apply name.free
  rw [← beq_iff_eq.mp same]
  simp only [reserved, List.mem_append, List.mem_map_of_mem member, or_true, true_or]

theorem ofCloser? (name : CommandName) : BlockKind.ofCloser? name.text = none := by
  apply List.find?_eq_none.mpr
  intro kind member same
  apply name.free
  rw [← beq_iff_eq.mp same]
  simp only [reserved, List.mem_append, List.mem_map_of_mem member, or_true]

end CommandName

namespace BlockKind

theorem ofOpener?_opener (kind : BlockKind) : ofOpener? kind.opener = some kind := by
  cases kind <;> decide

theorem ofLine?_opener (kind : BlockKind) (arguments : List Literal) :
    Directive.ofLine? (directiveLine kind.opener arguments) =
      some ⟨kind.opener, arguments.map Literal.written⟩ := by
  cases kind <;> exact ofLine?_frame (bare_of_all (by decide)) (by decide) arguments

theorem ofLine?_closer (kind : BlockKind) :
    Directive.ofLine? (directiveLine kind.closer []) = some ⟨kind.closer, []⟩ := by
  cases kind <;> exact ofLine?_frame (bare_of_all (by decide)) (by decide) []

/-- Openers are not strict: their tokens are arguments whatever they are. -/
theorem arguments_opener (kind : BlockKind) {d : Directive} (name : d.name = kind.opener) :
    d.arguments = .ok (d.tokens.map Directive.argument) := by
  have lenient : kind.opener ≠ Directive.strictName := by cases kind <;> decide
  rw [Directive.arguments, name, if_neg lenient]

theorem opener_ne_frame (kind : BlockKind) :
    kind.opener ≠ "startCommand" ∧ kind.opener ≠ "endCommand" := by
  cases kind <;> decide

theorem closer_ne_frame (kind : BlockKind) :
    kind.closer ≠ "startCommand" ∧ kind.closer ≠ "endCommand" := by
  cases kind <;> decide

end BlockKind

theorem oneLine_intercalate {ts : List String} (oneLine : ∀ t ∈ ts, '\n' ∉ t.toList) :
    '\n' ∉ (" ".intercalate ts).toList := by
  induction ts with
  | nil => exact List.not_mem_nil
  | cons t ts ih =>
      have first := oneLine t List.mem_cons_self
      have rest := ih fun x hx => oneLine x (List.mem_cons_of_mem _ hx)
      cases ts with
      | nil => simpa using first
      | cons u us =>
          rw [String.intercalate_cons_cons]
          simp only [String.toList_append, List.mem_append, not_or]
          exact ⟨⟨first, by decide⟩, rest⟩

theorem oneLine_directiveLine {name : String} (oneLine : '\n' ∉ name.toList)
    (arguments : List Literal) : '\n' ∉ (directiveLine name arguments).toList := by
  rw [directiveLine, String.toList_append, List.mem_append, not_or]
  refine ⟨by decide, oneLine_intercalate ?_⟩
  intro t member
  rcases List.mem_cons.mp member with rfl | member
  · exact oneLine
  · obtain ⟨l, _, rfl⟩ := List.mem_map.mp member
    exact l.oneLine

end ReplyScript.Script
