import ReplyScript.Proofs.Json.Grammar
import ReplyScript.Proofs.Script.Accounting

/-! # What makes reading fail

A reply cannot be read because of its malformed `@input` lines, and for no other reason. Main
statement: `errors_refusals`. Where a line stands, in prose, in a script or in a block of one, is
told from the names of the directives above it alone.
-/

namespace ReplyScript.Script

/-! ## Strict arguments -/

/-- The tokens that have the value of an argument are the JSON strings, numbers and truth values. -/
theorem Argument.decode?_isSome_iff (token : String) :
    (decode? token).isSome = true ↔ Json.ScalarText token := by
  rw [← Json.scalar?_iff]
  unfold decode?
  cases read : Json.scalar? token with
  | none => simp
  | some x =>
      cases x with
      | null => simp
      | text | boolean => simp
      | number n =>
          simp only [Option.some.injEq, ne_eq, exists_eq_left', reduceCtorEq, not_false_eq_true,
            iff_true]
          cases n with
          | float x => rfl
          | integer m =>
              -- A whole number beyond a signed word is at most an unsigned one, as it was read.
              obtain ⟨t, value⟩ := Json.of_scalar?_number read
              have inRange := Decimal.Binary.ofInt_isSome (Json.NumberText.integer_lt value)
              rw [ofNumber]
              split
              · rfl
              · simpa using inRange

/-- The first token that is no scalar, and what stands around it. -/
def FirstOffender (tokens : List String) (token : String) : Prop :=
  ∃ good bad, tokens = good ++ token :: bad ∧ (∀ t ∈ good, Json.ScalarText t)
    ∧ ¬ Json.ScalarText token

theorem FirstOffender.cons {token : String} (scalar : Json.ScalarText token)
    {tokens : List String} {offender : String} :
    FirstOffender (token :: tokens) offender ↔ FirstOffender tokens offender := by
  constructor
  · rintro ⟨good, bad, shape, scalars, offends⟩
    cases good with
    | nil =>
        cases shape
        exact absurd scalar offends
    | cons t good =>
        cases shape
        exact ⟨good, bad, rfl, (List.forall_mem_cons.mp scalars).2, offends⟩
  · rintro ⟨good, bad, rfl, scalars, offends⟩
    exact ⟨token :: good, bad, rfl, List.forall_mem_cons.mpr ⟨scalar, scalars⟩, offends⟩

/-- Strict arguments are refused for the first token that is no scalar. -/
theorem strictArguments_eq_error (tokens : List String) (offender : String) :
    Directive.strictArguments tokens = .error offender ↔ FirstOffender tokens offender := by
  induction tokens with
  | nil =>
      constructor
      · intro refused
        cases refused
      · rintro ⟨good, bad, shape, -⟩
        exact absurd shape.symm (by simp)
  | cons token tokens ih =>
      rw [Directive.strictArguments]
      cases decoded : Argument.decode? token with
      | none =>
          have noScalar : ¬ Json.ScalarText token := by
            rw [← Argument.decode?_isSome_iff, decoded]
            exact Bool.false_ne_true
          constructor
          · rintro ⟨⟩
            exact ⟨[], tokens, rfl, List.forall_mem_nil _, noScalar⟩
          · rintro ⟨good, bad, shape, scalars, -⟩
            cases good with
            | nil =>
                cases shape
                rfl
            | cons t good =>
                cases shape
                exact absurd (scalars token List.mem_cons_self) noScalar
      | some value =>
          have scalar : Json.ScalarText token := by
            rw [← Argument.decode?_isSome_iff, decoded]
            rfl
          rw [FirstOffender.cons scalar, ← ih]
          cases Directive.strictArguments tokens with
          | error t => simp [Except.map]
          | ok arguments => simp [Except.map]

theorem Directive.arguments_eq_error (d : Directive) (offender : String) :
    d.arguments = .error offender ↔ d.name = strictName ∧ FirstOffender d.tokens offender := by
  unfold arguments
  by_cases strict : d.name = strictName
  · rw [if_pos strict, strictArguments_eq_error]
    simp only [strict, true_and]
  · rw [if_neg strict]
    simp only [strict, false_and, reduceCtorEq]

/-! ## Places -/

/-- Where in a reply a line stands. -/
inductive Place where
  | prose
  | script
  | block (kind : BlockKind)
  deriving Repr, DecidableEq, BEq, Inhabited

namespace Place

/-- The place below a directive that neither starts nor ends a script. -/
def inside : Place → String → Place
  | prose, _ => prose
  | script, name => (BlockKind.ofOpener? name).elim script block
  | block kind, name => if name = kind.closer then script else block kind

/-- The place below a directive. -/
def below (p : Place) (name : String) : Place :=
  if name = "startCommand" then if p = prose then script else p
  else if name = "endCommand" then prose
  else p.inside name

def belowLine (p : Place) (line : SourceLine) : Place :=
  (Directive.ofLine? line.text).elim p fun d => p.below d.name

/-- The place below the first lines of a reply. -/
def belowLines (lines : List SourceLine) : Place :=
  lines.foldl belowLine prose

theorem belowLines_concat (lines : List SourceLine) (line : SourceLine) :
    belowLines (lines ++ [line]) = (belowLines lines).belowLine line := by
  simp [belowLines]

section

variable {line : SourceLine} {d : Directive}

theorem belowLine_plain (plain : Directive.ofLine? line.text = none) (p : Place) :
    p.belowLine line = p := by
  rw [belowLine, plain]
  rfl

theorem belowLine_start (read : Directive.ofLine? line.text = some d)
    (name : d.name = "startCommand") (p : Place) :
    p.belowLine line = if p = prose then script else p := by
  rw [belowLine, read, Option.elim_some, name]
  rfl

theorem belowLine_end (read : Directive.ofLine? line.text = some d)
    (name : d.name = "endCommand") (p : Place) : p.belowLine line = prose := by
  rw [belowLine, read, Option.elim_some, name]
  rfl

theorem belowLine_inside (read : Directive.ofLine? line.text = some d)
    (frame : d.isFrame = false) (p : Place) : p.belowLine line = p.inside d.name := by
  have other : d.name ≠ "startCommand" ∧ d.name ≠ "endCommand" := by
    simpa [Directive.isFrame] using frame
  rw [belowLine, read, Option.elim_some]
  simp only [below, other.1, other.2, if_false]

end

end Place

theorem BlockKind.ofOpener?_closer (kind : BlockKind) : ofOpener? kind.closer = none := by
  cases kind <;> decide

/-! ### The place of a scan -/

namespace Scan

/-- The place that a scan has come to. -/
def place (s : Scan) : Place :=
  match s.block with
  | some b => .block b.kind
  | none => if s.active then .script else .prose

theorem place_inScript : inScript.place = .script :=
  rfl

theorem place_inBlock (b : OpenBlock) : (inBlock b).place = .block b.kind :=
  rfl

variable {line : SourceLine} {s t : Scan} {zs : List Yield}

/-- A scan keeps track of the place. -/
theorem Move.place_eq (move : Move line s t zs) : t.place = s.place.belowLine line := by
  cases move with
  | prose plain | body plain => exact (Place.belowLine_plain plain _).symm
  | starts read name =>
      rw [Place.belowLine_start read name]
      rcases s with ⟨_ | _, _ | b⟩ <;> rfl
  | ends read name | givesUp read name =>
      rw [Place.belowLine_end read name]
      rfl
  | ignores read frame =>
      rw [Place.belowLine_inside read frame]
      rfl
  | closes read frame name =>
      rw [Place.belowLine_inside read frame]
      exact (if_pos name).symm
  | nests read frame other | drops read frame other =>
      rw [Place.belowLine_inside read frame]
      exact (if_neg other).symm
  | @opens d kind read frame opener =>
      rw [Place.belowLine_inside read frame, place_inScript, place_inBlock, Place.inside, opener,
        kind.ofOpener?_opener, Option.elim_some]
  | @strays d kind read frame closer =>
      rw [Place.belowLine_inside read frame, place_inScript, Place.inside, closer,
        kind.ofOpener?_closer, Option.elim_none]
  | commands read frame noOpener | refuses read frame noOpener =>
      rw [Place.belowLine_inside read frame, place_inScript, Place.inside, noOpener,
        Option.elim_none]

end Scan

/-! ## Refusals -/

/-- What is said of a line at a place if it is a malformed `@input` of a script. -/
inductive Refused : Place → SourceLine → Finding → Prop where
  | mk {line : SourceLine} {d : Directive} {token : String}
      (read : Directive.ofLine? line.text = some d) (name : d.name = "input")
      (offender : FirstOffender d.tokens token) :
      Refused .script line ⟨.invalidArgument "input" token, line.span⟩

/-- What is said of the line with a number if it is a malformed `@input` of a script. -/
def RefusedAt (lines : List SourceLine) (i : Nat) (f : Finding) : Prop :=
  ∃ line, lines[i]? = some line ∧ Refused (.belowLines (lines.take i)) line f

/-- Lines that cannot be refused, whatever their arguments: openers of blocks, and all lines in
blocks and outside scripts. -/
def Harmless (p : Place) (line : SourceLine) : Prop :=
  (∃ d kind, Directive.ofLine? line.text = some d ∧ d.name = BlockKind.opener kind) ∨ p ≠ .script

section

variable {p : Place} {line : SourceLine} {f : Finding}

theorem refused_iff : Refused p line f ↔ p = .script ∧ ∃ d token,
    Directive.ofLine? line.text = some d ∧ d.arguments = .error token
      ∧ f = ⟨.invalidArgument d.name token, line.span⟩ := by
  constructor
  · rintro @⟨line, d, token, read, name, offender⟩
    exact ⟨rfl, d, token, read, (d.arguments_eq_error token).mpr ⟨name, offender⟩, by rw [name]⟩
  · rintro ⟨rfl, d, token, read, refused, rfl⟩
    obtain ⟨name, offender⟩ := (d.arguments_eq_error token).mp refused
    rw [name]
    exact .mk read name offender

theorem Refused.span_eq (refused : Refused p line f) : f.span = line.span := by
  obtain ⟨-, -, -⟩ := refused
  rfl

theorem not_refused_of_name {d : Directive} (read : Directive.ofLine? line.text = some d)
    (other : d.name ≠ "input") : ¬ Refused p line f := by
  rintro ⟨again, name, -⟩
  rw [read, Option.some.injEq] at again
  subst again
  exact other name

theorem Refused.not_harmless (refused : Refused p line f) : ¬ Harmless p line := by
  rintro (⟨d, kind, read, opener⟩ | outside)
  · refine not_refused_of_name read ?_ refused
    rw [opener]
    cases kind <;> decide
  · exact outside (refused_iff.mp refused).1

end

/-- A line yields its refusal, and no other error. -/
theorem Scan.Move.errors {line : SourceLine} {s t : Scan} {zs : List Yield}
    (move : Move line s t zs) :
    (zs.filterMap Yield.error? = [] ∧ ∀ f, ¬ Refused s.place line f)
      ∨ ∃ f, zs.filterMap Yield.error? = [f] ∧ Refused s.place line f := by
  cases move with
  | prose plain | body plain =>
      refine .inl ⟨rfl, fun f refused => ?_⟩
      obtain ⟨-, d, token, read, -⟩ := refused_iff.mp refused
      rw [plain] at read
      cases read
  | starts read name | ends read name | givesUp read name =>
      refine .inl ⟨rfl, fun f => not_refused_of_name read ?_⟩
      rw [name]
      decide
  | ignores | closes | nests | drops =>
      exact .inl ⟨rfl, fun f refused => nomatch (refused_iff.mp refused).1⟩
  | @opens d kind read frame opener =>
      exact .inl ⟨rfl, fun f refused => refused.not_harmless (.inl ⟨d, kind, read, opener⟩)⟩
  | @strays d kind read frame closer =>
      refine .inl ⟨rfl, fun f => not_refused_of_name read ?_⟩
      rw [closer]
      cases kind <;> decide
  | commands read frame noOpener noCloser decoded =>
      refine .inl ⟨rfl, fun f refused => ?_⟩
      obtain ⟨-, e, token, again, refused, -⟩ := refused_iff.mp refused
      rw [read, Option.some.injEq] at again
      subst again
      rw [decoded] at refused
      cases refused
  | refuses read frame noOpener noCloser refused =>
      exact .inr ⟨_, rfl, refused_iff.mpr ⟨rfl, _, _, read, refused, rfl⟩⟩

/-! ## All lines -/

section

variable {lines : List SourceLine} {line : SourceLine} {i : Nat} {f : Finding}

theorem RefusedAt.lt (refused : RefusedAt lines i f) : i < lines.length := by
  obtain ⟨_, found, -⟩ := refused
  exact (List.getElem?_eq_some_iff.mp found).1

/-- Below further lines, a line is refused for what it was. -/
theorem refusedAt_concat : RefusedAt (lines ++ [line]) i f ↔
    RefusedAt lines i f ∨ (i = lines.length ∧ Refused (.belowLines lines) line f) := by
  rcases Nat.lt_trichotomy i lines.length with above | rfl | below
  · have old : RefusedAt (lines ++ [line]) i f ↔ RefusedAt lines i f := by
      rw [RefusedAt, RefusedAt, List.getElem?_append_left above,
        List.take_append_of_le_length (Nat.le_of_lt above)]
    rw [old]
    simp [Nat.ne_of_lt above]
  · have new : RefusedAt (lines ++ [line]) lines.length f
        ↔ Refused (.belowLines lines) line f := by
      simp [RefusedAt]
    have noLine : ¬ RefusedAt lines lines.length f := fun refused =>
      Nat.lt_irrefl _ refused.lt
    rw [new]
    simp [noLine]
  · have noLine (all : List SourceLine) (short : all.length ≤ i) : ¬ RefusedAt all i f :=
      fun refused => Nat.not_lt.mpr short refused.lt
    have outside : (lines ++ [line]).length ≤ i := by
      rw [List.length_append]
      exact below
    simp [noLine _ outside, noLine _ (Nat.le_of_lt below), Nat.ne_of_gt below]

end

/-- The refusals of lines from the first to the last, one for each line that has one. -/
def Refusals (lines : List SourceLine) (errors : List Finding) : Prop :=
  ∃ places : List Nat, places.Pairwise (· < ·) ∧ (∀ i, i ∈ places ↔ ∃ f, RefusedAt lines i f)
    ∧ List.Forall₂ (RefusedAt lines) places errors

namespace Refusals

variable {lines : List SourceLine} {errors : List Finding}

theorem nil : Refusals [] [] := by
  refine ⟨[], .nil, fun i => ⟨nofun, ?_⟩, .nil⟩
  rintro ⟨f, refused⟩
  exact absurd refused.lt (Nat.not_lt_zero i)

theorem pass (refusals : Refusals lines errors) {line : SourceLine}
    (fine : ∀ f, ¬ Refused (.belowLines lines) line f) : Refusals (lines ++ [line]) errors := by
  obtain ⟨places, sorted, all, each⟩ := refusals
  have same (i : Nat) (f : Finding) : RefusedAt (lines ++ [line]) i f ↔ RefusedAt lines i f := by
    rw [refusedAt_concat]
    simp [fine f]
  refine ⟨places, sorted, ?_, each.imp fun i f => (same i f).mpr⟩
  intro i
  simp only [all, same]

theorem refuse (refusals : Refusals lines errors) {line : SourceLine} {f : Finding}
    (refused : Refused (.belowLines lines) line f) :
    Refusals (lines ++ [line]) (errors ++ [f]) := by
  obtain ⟨places, sorted, all, each⟩ := refusals
  refine ⟨places ++ [lines.length], ?_, ?_, ?_⟩
  · refine List.pairwise_append.mpr ⟨sorted, List.pairwise_singleton _ _, ?_⟩
    intro i member j last
    obtain ⟨g, earlier⟩ := (all i).mp member
    rw [List.mem_singleton.mp last]
    exact earlier.lt
  · intro i
    rw [List.mem_append, List.mem_singleton, all]
    constructor
    · rintro (⟨g, earlier⟩ | rfl)
      · exact ⟨g, refusedAt_concat.mpr (.inl earlier)⟩
      · exact ⟨f, refusedAt_concat.mpr (.inr ⟨rfl, refused⟩)⟩
    · rintro ⟨g, here⟩
      rcases refusedAt_concat.mp here with earlier | ⟨last, -⟩
      · exact .inl ⟨g, earlier⟩
      · exact .inr last
  · refine List.rel_append (each.imp fun i g earlier => refusedAt_concat.mpr (.inl earlier)) ?_
    exact .cons (refusedAt_concat.mpr (.inr ⟨rfl, refused⟩)) .nil

/-- There are errors if any line is refused. -/
theorem ne_nil_iff (refusals : Refusals lines errors) :
    errors ≠ [] ↔ ∃ i f, RefusedAt lines i f := by
  obtain ⟨places, -, all, each⟩ := refusals
  constructor
  · intro some
    cases each with
    | nil => exact absurd rfl some
    | cons refused _ => exact ⟨_, _, refused⟩
  · rintro ⟨i, refused⟩ rfl
    cases each
    exact absurd ((all i).mpr refused) List.not_mem_nil

/-- Every error is about a line that is refused. -/
theorem exists_refusedAt (refusals : Refusals lines errors) {f : Finding} (member : f ∈ errors) :
    ∃ i, RefusedAt lines i f := by
  obtain ⟨places, -, -, each⟩ := refusals
  induction each with
  | nil => cases member
  | cons refused _ ih =>
      rcases List.mem_cons.mp member with rfl | later
      · exact ⟨_, refused⟩
      · exact ih later

end Refusals

/-- Behind all lines, a scan has come to their place and has told their refusals. -/
theorem refusals_run (ls : List String) :
    (Scan.start.run (placeLines 0 ls)).1.place = .belowLines (placeLines 0 ls)
      ∧ Refusals (placeLines 0 ls)
        ((Scan.start.run (placeLines 0 ls)).2.filterMap Yield.error?) := by
  refine Scan.run_induction (P := fun ls s ys => s.place = .belowLines (placeLines 0 ls)
    ∧ Refusals (placeLines 0 ls) (ys.filterMap Yield.error?)) ⟨rfl, .nil⟩ ?_ ls
  rintro done l s t ys zs - ⟨place, refusals⟩ move
  rw [placeLines_concat, Place.belowLines_concat, ← place, List.filterMap_append]
  refine ⟨move.place_eq, ?_⟩
  rcases move.errors with ⟨silent, fine⟩ | ⟨f, told, refused⟩
  · rw [silent, List.append_nil]
    exact refusals.pass (place ▸ fine)
  · rw [told]
    exact refusals.refuse (place ▸ refused)

theorem Reading.errors_ofYields (ys : List Yield) :
    Reading.errors (.ofYields ys) = ys.filterMap Yield.error? := by
  unfold ofYields
  split
  · rename_i clean
    exact clean.symm
  · rfl

theorem Reading.ofYields_eq_error_iff (ys : List Yield) :
    (∃ fs, ofYields ys = .error fs) ↔ ys.filterMap Yield.error? ≠ [] := by
  unfold ofYields
  split
  · rename_i clean
    simp [clean]
  · rename_i told
    exact ⟨fun _ => told, fun _ => ⟨_, rfl⟩⟩

/-- Reading fails if a line is a malformed `@input` of a script outside blocks. The errors are one
for each such line, in order, about the line and naming its first token that is no scalar. No error
is about the opener of a block or a line in a block or outside scripts. -/
theorem errors_refusals (source : String) :
    ((∃ errors, read source = .error errors) ↔ ∃ i f, RefusedAt (sourceLines source) i f)
      ∧ Refusals (sourceLines source) (Reading.errors (read source))
      ∧ ∀ i line, (sourceLines source)[i]? = some line →
        Harmless (.belowLines ((sourceLines source).take i)) line →
          ∀ f ∈ Reading.errors (read source), f.span ≠ line.span := by
  have refusals : Refusals (sourceLines source) _ := (refusals_run (Text.lines source)).2
  rw [Reading.read_eq_ofYields, Reading.errors_ofYields, Reading.ofYields_eq_error_iff,
    yields_filterMap fun _ => rfl]
  refine ⟨refusals.ne_nil_iff, refusals, ?_⟩
  intro i line found harmless f member same
  obtain ⟨j, other, place, refused⟩ := refusals.exists_refusedAt member
  have start : other.span.start = line.span.start := by rw [← same, refused.span_eq]
  have apart := List.pairwise_iff_getElem.mp (starts_apart source)
  obtain ⟨inside, rfl⟩ := List.getElem?_eq_some_iff.mp found
  obtain ⟨within, rfl⟩ := List.getElem?_eq_some_iff.mp place
  -- Lines that start at the same byte are the same line.
  rcases Nat.lt_trichotomy j i with before | rfl | behind
  · exact absurd start (Nat.ne_of_lt (apart j i within inside before))
  · exact refused.not_harmless harmless
  · exact absurd start.symm (Nat.ne_of_lt (apart i j inside within behind))

/-- A token that is no scalar is fine for the opener of a block, inside the block and behind the
script, and refused between. -/
theorem errors_refusals_around :
    ∃ source line, (sourceLines source)[1]? = some line ∧ line.text = "@startInput b"
      ∧ (∃ errors, read source = .error errors)
      ∧ Reading.errors (read source) = [⟨.invalidArgument "input" "b", ⟨47, 59⟩⟩]
      ∧ Refusals (sourceLines source) (Reading.errors (read source))
      ∧ ∀ f ∈ Reading.errors (read source), f.span ≠ line.span := by
  let source := "@startCommand\n@startInput b\n@input b\n@endInput\n"
    ++ "@input 1 b c\n@endCommand\n@input b"
  have failed : read source = .error [⟨.invalidArgument "input" "b", ⟨47, 59⟩⟩] := by
    decide +kernel
  obtain ⟨-, refusals, others⟩ := errors_refusals source
  have opener : Harmless (.belowLines ((sourceLines source).take 1))
      ⟨"@startInput b", ⟨14, 27⟩⟩ :=
    .inl ⟨⟨"startInput", ["b"]⟩, .input, by decide +kernel, rfl⟩
  have second : (sourceLines source)[1]? = some ⟨"@startInput b", ⟨14, 27⟩⟩ := by decide +kernel
  refine ⟨source, ⟨"@startInput b", ⟨14, 27⟩⟩, second, rfl, ⟨_, failed⟩, ?_, refusals,
    others 1 _ second opener⟩
  rw [failed]
  rfl

end ReplyScript.Script
