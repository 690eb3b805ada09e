import ReplyScript.Proofs.Decimal.Rounding
import ReplyScript.Proofs.Instruction.Binding

/-! # Equality of arguments

Arguments of one kind are equal if they are worth the same. A whole number and a float are equal if
the float is what the whole number is rounded to, so two whole numbers that are rounded to one float
both equal it without being equal. Main statement: `Argument.same_equivalence_iff`, there is no other
obstacle to an equivalence.
-/

namespace ReplyScript.Script.Argument

open Decimal (Binary binary64)

/-- The whole number is rounded to this value. -/
def RoundsTo (n : Int) (q : ℚ) : Prop :=
  ∃ x : Binary, binary64.Rounds n x ∧ x.value = q

/-- What it is for arguments to be equal. -/
inductive Alike : Argument → Argument → Prop
  | text (s : String) : Alike (.text s) (.text s)
  | integer (n : Int) : Alike (.integer n) (.integer n)
  | boolean (b : Bool) : Alike (.boolean b) (.boolean b)
  | float {x y : Binary} (worth : x.value = y.value) : Alike (.float x) (.float y)
  | rounded {n : Int} {x : Binary} (rounds : RoundsTo n x.value) : Alike (.integer n) (.float x)
  | rounding {n : Int} {x : Binary} (rounds : RoundsTo n x.value) : Alike (.float x) (.integer n)

/-- Between two whole numbers there is a float that both are rounded to. -/
inductive Merge : Argument → Argument → Argument → Prop
  | intro {m n : Int} {x : Binary} (apart : m ≠ n) (first : RoundsTo m x.value)
      (second : RoundsTo n x.value) : Merge (.integer m) (.float x) (.integer n)

theorem RoundsTo.unique {n : Int} {q r : ℚ} (first : RoundsTo n q) (second : RoundsTo n r) :
    q = r := by
  obtain ⟨x, rounds, rfl⟩ := first
  obtain ⟨y, also, rfl⟩ := second
  exact rounds.unique also

/-! ## The relation -/

/-- A word equals the floats that are worth what it is rounded to. -/
theorem same_integer_float_iff {n : Int} (word : inWord n = true) {x : Binary} :
    same (.integer n) (.float x) = true ↔ RoundsTo n x.value := by
  have inside : n.natAbs < 0x10000000000000000 := by
    rw [inWord, Bool.and_eq_true, decide_eq_true_iff, decide_eq_true_iff] at word
    omega
  obtain ⟨y, converted⟩ := Option.isSome_iff_exists.mp (Binary.ofInt_isSome inside)
  have rounds := Binary.rounds_ofInt converted
  simp only [same, converted, Binary.sameValue_iff]
  constructor
  · exact fun worth => ⟨y, rounds, worth⟩
  · exact fun also => RoundsTo.unique ⟨y, rounds, rfl⟩ also

theorem same_symm (a b : Argument) : a.same b = b.same a := by
  have floats (x y : Binary) : x.sameValue y = y.sameValue x := by
    rw [Bool.eq_iff_iff, Binary.sameValue_iff, Binary.sameValue_iff, eq_comm]
  cases a with
  | text s => cases b <;> first | exact Bool.beq_comm | rfl
  | integer n => cases b <;> first | exact Bool.beq_comm | rfl
  | float x => cases b <;> first | exact floats x _ | rfl
  | boolean p => cases b <;> first | exact Bool.beq_comm | rfl

theorem beq_iff_alike {α : Type} [BEq α] [LawfulBEq α] {p r : α} {kind : α → Argument}
    (refl : ∀ p, Alike (kind p) (kind p)) (only : Alike (kind p) (kind r) → p = r) :
    (p == r) = true ↔ Alike (kind p) (kind r) :=
  beq_iff_eq.trans ⟨fun same => same ▸ refl p, only⟩

/-- Arguments are found to be equal exactly if they are alike. -/
theorem same_iff_alike {a b : Argument} (left : a.Bounded) (right : b.Bounded) :
    a.same b = true ↔ Alike a b := by
  cases a with
  | text s =>
      cases b with
      | text r => exact beq_iff_alike .text fun | .text _ => rfl
      | _ => exact iff_of_false nofun nofun
  | boolean p =>
      cases b with
      | boolean r => exact beq_iff_alike .boolean fun | .boolean _ => rfl
      | _ => exact iff_of_false nofun nofun
  | integer m =>
      cases b with
      | integer n => exact beq_iff_alike .integer fun | .integer _ => rfl
      | float x =>
          rw [same_integer_float_iff (left m rfl)]
          exact ⟨.rounded, fun | .rounded rounds => rounds⟩
      | _ => exact iff_of_false nofun nofun
  | float x =>
      cases b with
      | integer n =>
          rw [same_symm, same_integer_float_iff (right n rfl)]
          exact ⟨.rounding, fun | .rounding rounds => rounds⟩
      | float y => exact Binary.sameValue_iff.trans ⟨.float, fun | .float worth => worth⟩
      | _ => exact iff_of_false nofun nofun

namespace Alike

variable {a b c : Argument}

theorem refl (a : Argument) : Alike a a := by
  cases a with
  | text s => exact .text s
  | integer n => exact .integer n
  | float x => exact .float rfl
  | boolean p => exact .boolean p

/-- Two steps are one, unless they lead over a float from one whole number to another. -/
theorem trans_or_merge (first : Alike a b) (second : Alike b c) : Alike a c ∨ Merge a b c := by
  cases first with
  | text s => exact .inl second
  | integer n => exact .inl second
  | boolean p => exact .inl second
  | float worth =>
      cases second with
      | float also => exact .inl (.float (worth.trans also))
      | rounding rounds => exact .inl (.rounding (worth ▸ rounds))
  | rounded rounds =>
      cases second with
      | float worth => exact .inl (.rounded (worth ▸ rounds))
      | rounding also =>
          rename_i m x n
          by_cases same : m = n
          · exact .inl (same ▸ .integer m)
          · exact .inr ⟨same, rounds, also⟩
  | rounding rounds =>
      cases second with
      | integer n => exact .inl (.rounding rounds)
      | rounded also => exact .inl (.float (rounds.unique also))

end Alike

namespace Merge

variable {a b c : Argument}

theorem alike_left (merge : Merge a b c) : Alike a b := by
  cases merge with
  | intro apart first second => exact .rounded first

theorem alike_right (merge : Merge a b c) : Alike b c := by
  cases merge with
  | intro apart first second => exact .rounding second

theorem not_alike (merge : Merge a b c) : ¬ Alike a c := by
  cases merge with
  | intro apart first second =>
      rintro ⟨⟩
      exact apart rfl

theorem symm (merge : Merge a b c) : Merge c b a := by
  cases merge with
  | intro apart first second => exact .intro apart.symm second first

/-- Whole numbers that are merged take more than 53 bits. -/
theorem large {m : Int} (merge : Merge (.integer m) b c) : 2 ^ 53 ≤ m.natAbs := by
  cases merge with
  | intro apart first second =>
      obtain ⟨x, rounds, worth⟩ := first
      obtain ⟨y, also, same⟩ := second
      by_contra small
      exact apart (rounds.eq_of_small (not_le.mp small) also (worth.trans same.symm))

end Merge

/-- Equality of the arguments that tokens are decoded to. -/
theorem same_equivalence_iff (t u v : String) :
    ((decode t).same (decode u) = true ↔ Alike (decode t) (decode u))
      ∧ (decode t).same (decode t) = true
      ∧ (decode t).same (decode u) = (decode u).same (decode t)
      ∧ (((decode t).same (decode u) = true → (decode u).same (decode v) = true →
          (decode t).same (decode v) = true) ↔ ¬ Merge (decode t) (decode u) (decode v))
      ∧ (Merge (decode t) (decode u) (decode v) → ∃ m n : Int, decode t = .integer m
          ∧ decode v = .integer n ∧ 2 ^ 53 ≤ m.natAbs ∧ 2 ^ 53 ≤ n.natAbs) := by
  have bounded := bounded_decode
  refine ⟨same_iff_alike (bounded t) (bounded u), ?_, same_symm _ _, ?_, ?_⟩
  · exact (same_iff_alike (bounded t) (bounded t)).mpr (.refl _)
  · rw [same_iff_alike (bounded t) (bounded u), same_iff_alike (bounded u) (bounded v),
      same_iff_alike (bounded t) (bounded v)]
    constructor
    · exact fun transitive merge =>
        merge.not_alike (transitive merge.alike_left merge.alike_right)
    · exact fun apart first second => (first.trans_or_merge second).resolve_right apart
  · intro merge
    have ends : ∃ m n : Int, decode t = .integer m ∧ decode v = .integer n := by
      generalize decode t = a at merge ⊢
      generalize decode u = b at merge
      generalize decode v = c at merge ⊢
      cases merge with
      | intro apart first second => exact ⟨_, _, rfl, rfl⟩
    obtain ⟨m, n, left, right⟩ := ends
    refine ⟨m, n, left, right, ?_, ?_⟩
    · rw [left] at merge
      exact merge.large
    · rw [right] at merge
      exact merge.symm.large

/-- The float of `2 ^ 53` equals two whole numbers. -/
theorem same_not_transitive :
    (decode "9007199254740992").same (decode "9007199254740992.0") = true
      ∧ (decode "9007199254740992.0").same (decode "9007199254740993") = true
      ∧ (decode "9007199254740992").same (decode "9007199254740993") = false := by
  decide +kernel

end ReplyScript.Script.Argument
