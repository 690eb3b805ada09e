import ReplyScript.Outline
import ReplyScript.Proofs.Edit.Splice

/-! # Where functions end

Functions lie within the lines of their source: `functions_inside`.

The braces of a function are counted without regard to brackets of other kinds, and a semicolon
before the first brace ends the count. So a signature that holds a brace or a semicolon hides the
body. Main statement: `Placed.reported_iff`.
-/

namespace ReplyScript.Outline

open Edit (Canonical canonical_lines ended led)

/-! ## Inside of the source -/

theorem bracesEnd_inside {arrow : Bool} {braces : Braces} {index stop : Nat} {ls : List String}
    (closed : bracesEnd arrow braces index ls = some stop) :
    index ≤ stop ∧ stop < index + ls.length := by
  induction ls generalizing braces index with
  | nil => cases closed
  | cons line rest ih =>
      rw [bracesEnd] at closed
      rw [List.length_cons]
      split at closed
      · have later := ih closed
        omega
      · obtain rfl := Option.some.inj closed
        omega
      · split at closed
        · obtain rfl := Option.some.inj closed
          omega
        · cases closed

theorem indentationEnd_inside (outer : Nat) {index last : Nat} (before : last < index)
    (ls : List String) : last ≤ indentationEnd outer index last ls
      ∧ indentationEnd outer index last ls < index + ls.length := by
  induction ls generalizing index last with
  | nil => exact ⟨Nat.le_refl last, by simpa [indentationEnd] using before⟩
  | cons line rest ih =>
      have skipped := ih (Nat.lt_add_right 1 before)
      have taken := ih (Nat.lt_add_one index)
      rw [indentationEnd, List.length_cons]
      split
      · omega
      · split <;> omega

/-- The last line of the function whose header is `line`, the line with number `index`. -/
def lastLine? (index : Nat) (line : String) (rest : List String) : Delimiter → Option Nat
  | .braces => bracesEnd (hasArrow line.toList) ⟨0, false⟩ index (line :: rest)
  | .indentation =>
      let stop := indentationEnd (indentation line) (index + 1) index rest
      if index < stop then some stop else none

theorem functionAtHeader?_eq (index : Nat) (line : String) (rest : List String) :
    functionAtHeader? index line rest = (Header.ofLine? line).bind fun header =>
      (lastLine? index line rest header.delimiter).map (⟨header.name, index, ·⟩) := by
  unfold functionAtHeader?
  generalize Header.ofLine? line = found
  cases found with
  | none => rfl
  | some header =>
      rcases header with ⟨name, _ | _⟩
      · simp only [Option.bind_eq_bind, Option.bind_some, lastLine?]
        exact Option.map_eq_bind.symm
      · simp only [Option.bind_eq_bind, Option.bind_some, lastLine?]
        split <;> rfl

theorem lastLine?_inside {index stop : Nat} {line : String} {rest : List String}
    {delimiter : Delimiter} (ended : lastLine? index line rest delimiter = some stop) :
    index ≤ stop ∧ stop < index + (line :: rest).length := by
  cases delimiter with
  | braces => exact bracesEnd_inside ended
  | indentation =>
      simp only [lastLine?] at ended
      split at ended
      · rename_i further
        obtain rfl := Option.some.inj ended
        have inside := indentationEnd_inside (indentation line) (Nat.lt_add_one index) rest
        rw [List.length_cons]
        omega
      · cases ended

theorem functionAtHeader?_inside {index : Nat} {line : String} {rest : List String} {f : Function}
    (found : functionAtHeader? index line rest = some f) :
    f.start = index ∧ f.start ≤ f.stop ∧ f.stop < index + (line :: rest).length := by
  rw [functionAtHeader?_eq] at found
  obtain ⟨header, -, made⟩ := Option.bind_eq_some_iff.mp found
  obtain ⟨stop, ended, rfl⟩ := Option.map_eq_some_iff.mp made
  exact ⟨rfl, lastLine?_inside ended⟩

theorem functionsFrom_inside (index : Nat) (ls : List String) : ∀ f ∈ functionsFrom index ls,
    index ≤ f.start ∧ f.start ≤ f.stop ∧ f.stop < index + ls.length := by
  induction ls generalizing index with
  | nil => exact nofun
  | cons line rest ih =>
      intro f member
      rw [functionsFrom, List.mem_append, Option.mem_toList] at member
      rcases member with found | later
      · obtain ⟨start, ordered, inside⟩ := functionAtHeader?_inside found
        exact ⟨Nat.le_of_eq start.symm, ordered, inside⟩
      · have inside := ih (index + 1) f later
        rw [List.length_cons]
        omega

/-- A function has a last line, which is not before its first and is a line of the source. -/
theorem functions_inside (source : String) : ∀ f ∈ functions source,
    f.start ≤ f.stop ∧ f.stop < Text.lineCount source := by
  intro f member
  have inside := functionsFrom_inside 0 (Text.lines source) f member
  rw [Nat.zero_add] at inside
  exact inside.2

theorem foldl_shorter_mem (f : Function) (fs : List Function) :
    fs.foldl Function.shorter f ∈ f :: fs := by
  induction fs generalizing f with
  | nil => exact List.mem_singleton_self f
  | cons g rest ih =>
      have later := ih (f.shorter g)
      have which : f.shorter g = f ∨ f.shorter g = g := by
        unfold Function.shorter
        split
        · exact .inr rfl
        · exact .inl rfl
      rw [List.foldl_cons]
      rcases List.mem_cons.mp later with here | there
      · rw [here]
        rcases which with same | same
        · rw [same]
          exact List.mem_cons_self
        · rw [same]
          exact List.mem_cons_of_mem _ List.mem_cons_self
      · exact List.mem_cons_of_mem _ (List.mem_cons_of_mem _ there)

theorem functionAt?_covers {source : String} {line : Nat} {f : Function}
    (found : functionAt? source line = some f) :
    f ∈ functions source ∧ f.start ≤ line ∧ line ≤ f.stop := by
  unfold functionAt? at found
  split at found
  · cases found
  · rename_i g gs covering
    have member := foldl_shorter_mem g gs
    rw [Option.some.inj found, ← covering, List.mem_filter] at member
    have covers := member.2
    unfold Function.covers at covers
    rw [Bool.and_eq_true, decide_eq_true_iff, decide_eq_true_iff] at covers
    exact ⟨member.1, covers⟩

/-! ## Brackets -/

/-- Brackets of one kind: the one that opens and the one that closes. -/
abbrev Bracket := Char × Char

/-! The brackets that can come in pairs in a head, in parameters and in a body. -/

def round : Bracket := ('(', ')')

def square : Bracket := ('[', ']')

def curly : Bracket := ('\x7b', '\x7d')

/-- Brackets of the given kinds come in pairs, and pairs do not cross. -/
inductive Balanced (kinds : List Bracket) : List Char → Prop
  | nil : Balanced kinds []
  | plain {c : Char} {cs : List Char} (other : ∀ k ∈ kinds, c ≠ k.1 ∧ c ≠ k.2)
      (rest : Balanced kinds cs) : Balanced kinds (c :: cs)
  | group {k : Bracket} {inside cs : List Char} (kind : k ∈ kinds)
      (within : Balanced kinds inside) (rest : Balanced kinds cs) :
      Balanced kinds (k.1 :: (inside ++ k.2 :: cs))

/-- Brackets of all kinds come in pairs, with every brace and every semicolon inside of parentheses
or square brackets. -/
inductive Sheltered : List Char → Prop
  | nil : Sheltered []
  | plain {c : Char} {cs : List Char} (other : ∀ k ∈ [round, square, curly], c ≠ k.1 ∧ c ≠ k.2)
      (unended : c ≠ ';') (rest : Sheltered cs) : Sheltered (c :: cs)
  | group {k : Bracket} {inside cs : List Char} (kind : k ∈ [round, square])
      (within : Balanced [round, square, curly] inside) (rest : Sheltered cs) :
      Sheltered (k.1 :: (inside ++ k.2 :: cs))

/-- No string, no character literal and no comment can start in a text. -/
structure Bare (cs : List Char) : Prop where
  noQuote : '"' ∉ cs ∧ '\'' ∉ cs ∧ '\x60' ∉ cs
  noComment : ¬ ['/', '/'] <:+: cs

/-- The text of a function: a head, parameters in parentheses, perhaps a result, and a body in
braces. -/
structure Definition where
  head : List Char
  params : List Char
  result : List Char
  body : List Char
  params_balanced : Balanced [round, square, curly] params
  result_sheltered : Sheltered result
  body_balanced : Balanced [curly] body

namespace Definition

/-- What stands before the body. -/
def signature (d : Definition) : List Char :=
  d.head ++ '(' :: (d.params ++ ')' :: d.result)

/-- The signature and the body between its braces. -/
def text (d : Definition) : List Char :=
  d.signature ++ '\x7b' :: (d.body ++ ['\x7d'])

end Definition

/-- A function between the lines before it and the text after it. -/
structure Placed extends Definition where
  before : List String
  after : List Char
  oneLine : ∀ line ∈ before, '\n' ∉ line.toList
  bare : Bare (toDefinition.text ++ after)

namespace Placed

/-- The lines before the function, the function, and what comes behind it. -/
def source (d : Placed) : String :=
  String.ofList (ended d.before ++ (d.text ++ d.after))

/-- The line on which a function starts. -/
def line (d : Placed) : String :=
  String.ofList ((d.text ++ d.after).takeWhile (· ≠ '\n'))

/-- Whether a function is headed as one with a body in braces. -/
def Headed (d : Placed) (name : String) : Prop :=
  Header.ofLine? d.line = some ⟨name, .braces⟩

/-- The function with its first line and the line of the brace that closes its body. -/
def span (d : Placed) (name : String) : Function :=
  ⟨name, d.before.length, d.before.length + d.text.count '\n'⟩

end Placed

/-- A text without opening braces and semicolons. -/
def Plain (cs : List Char) : Prop :=
  '\x7b' ∉ cs ∧ ';' ∉ cs

/-- What a count of braces runs over: down to the brace that closes the first one, or down to a
semicolon before any brace if `arrow` allows it. -/
inductive Stretch (arrow : Bool) : List Char → Prop
  | closed (front : List Char) {inside : List Char} (plain : Plain front)
      (balanced : Balanced [curly] inside) : Stretch arrow (front ++ '\x7b' :: (inside ++ ['\x7d']))
  | ended (front : List Char) (plain : Plain front) (allowed : arrow = true) :
      Stretch arrow (front ++ [';'])

/-! ## Counting braces -/

/-- What a character of code comes to when braces are counted. -/
def Braces.read (b : Braces) (c : Char) : LineScan :=
  if c = '\x7b' then .going ⟨b.depth + 1, true⟩
  else if c = '\x7d' then
    match b.depth with
    | 0 => .going b
    | 1 => .closed
    | depth + 2 => .going ⟨depth + 1, b.opened⟩
  else if c = ';' ∧ b.opened = false then .ended
  else .going b

/-- Go on counting unless the count is over. -/
def LineScan.andThen (scan : LineScan) (next : Braces → LineScan) : LineScan :=
  match scan with
  | .going b => next b
  | stop => stop

/-- What a text of bare code comes to. -/
def Braces.readAll (b : Braces) : List Char → LineScan
  | [] => .going b
  | c :: cs => (b.read c).andThen fun b => b.readAll cs

theorem Bare.tail {c : Char} {cs : List Char} (bare : Bare (c :: cs)) : Bare cs where
  noQuote := by
    obtain ⟨double, single, back⟩ := bare.noQuote
    exact ⟨List.not_mem_of_not_mem_cons double, List.not_mem_of_not_mem_cons single,
      List.not_mem_of_not_mem_cons back⟩
  noComment := fun comment => bare.noComment (comment.trans (List.suffix_cons c cs).isInfix)

theorem Bare.left {cs more : List Char} (bare : Bare (cs ++ more)) : Bare cs where
  noQuote := by
    obtain ⟨double, single, back⟩ := bare.noQuote
    exact ⟨fun m => double (List.mem_append_left _ m), fun m => single (List.mem_append_left _ m),
      fun m => back (List.mem_append_left _ m)⟩
  noComment := fun comment => bare.noComment (comment.trans (List.prefix_append cs more).isInfix)

theorem Bare.right {cs more : List Char} (bare : Bare (cs ++ more)) : Bare more := by
  induction cs with
  | nil => exact bare
  | cons c cs ih => exact ih bare.tail

theorem scanLine_cons {c : Char} {cs : List Char} (bare : Bare (c :: cs)) (b : Braces) :
    scanLine b .code (c :: cs) = (b.read c).andThen fun b => scanLine b .code cs := by
  obtain ⟨double, single, back⟩ := bare.noQuote
  have noSlash : c = '/' → cs.head? ≠ some '/' := by
    rintro rfl next
    obtain ⟨rest, rfl⟩ := List.head?_eq_some_iff.mp next
    exact bare.noComment (List.prefix_append ['/', '/'] rest).isInfix
  rw [scanLine.eq_def]
  simp only
  split
  · exact absurd List.mem_cons_self double
  · exact absurd List.mem_cons_self back
  · exact absurd List.mem_cons_self single
  · rw [if_neg (noSlash rfl)]
    rfl
  · rfl
  · unfold Braces.read
    rw [if_neg (by decide), if_pos rfl]
    rcases b with ⟨_ | _ | depth, opened⟩ <;> rfl
  · unfold Braces.read
    cases b.opened <;> rfl
  · rename_i opening closing ending
    unfold Braces.read
    rw [if_neg opening, if_neg closing, if_neg fun both => ending both.1]
    rfl

theorem scanLine_eq {cs : List Char} (bare : Bare cs) (b : Braces) :
    scanLine b .code cs = b.readAll cs := by
  induction cs generalizing b with
  | nil => rfl
  | cons c cs ih =>
      rw [scanLine_cons bare, Braces.readAll]
      congr 1
      funext b
      exact ih bare.tail b

/-- The text down to the character that ends a count of braces. -/
def stretch? (arrow : Bool) (b : Braces) : List Char → Option (List Char)
  | [] => none
  | c :: cs =>
      match b.read c with
      | .going b => (stretch? arrow b cs).map (c :: ·)
      | .closed => some [c]
      | .ended => if arrow then some [c] else none

theorem stretch?_going {cs : List Char} {b b' : Braces} (going : b.readAll cs = .going b')
    (arrow : Bool) (more : List Char) :
    stretch? arrow b (cs ++ more) = (stretch? arrow b' more).map (cs ++ ·) := by
  induction cs generalizing b with
  | nil =>
      obtain rfl := LineScan.going.inj going
      simp
  | cons c cs ih =>
      rw [Braces.readAll] at going
      rw [List.cons_append, stretch?]
      cases first : b.read c with
      | going next =>
          rw [first] at going
          simp [ih going, Function.comp_def]
      | closed =>
          rw [first] at going
          cases going
      | ended =>
          rw [first] at going
          cases going

theorem stretch?_stopped {cs : List Char} {b : Braces} {stop : LineScan}
    (scanned : b.readAll cs = stop) (ended : ∀ b', stop ≠ .going b') (arrow : Bool) :
    ∃ e, e <+: cs ∧ ∀ more, stretch? arrow b (cs ++ more)
      = if stop = .ended ∧ arrow = false then none else some e := by
  induction cs generalizing b with
  | nil => exact absurd scanned.symm (ended b)
  | cons c cs ih =>
      rw [Braces.readAll] at scanned
      cases first : b.read c with
      | going next =>
          rw [first] at scanned
          obtain ⟨e, inside, known⟩ := ih scanned
          refine ⟨c :: e, List.cons_prefix_cons.mpr ⟨rfl, inside⟩, fun more => ?_⟩
          rw [List.cons_append, stretch?, first]
          simp only [known more]
          split <;> rfl
      | closed =>
          rw [first] at scanned
          obtain rfl : LineScan.closed = stop := scanned
          refine ⟨[c], List.prefix_append [c] cs, fun more => ?_⟩
          rw [List.cons_append, stretch?, first]
          rfl
      | ended =>
          rw [first] at scanned
          obtain rfl : LineScan.ended = stop := scanned
          refine ⟨[c], List.prefix_append [c] cs, fun more => ?_⟩
          rw [List.cons_append, stretch?, first]
          cases arrow <;> rfl

theorem stretch?_inLine {line : List Char} {b : Braces} {stop : LineScan}
    (scanned : b.readAll line = stop) (ended : ∀ b', stop ≠ .going b') (oneLine : '\n' ∉ line)
    (arrow : Bool) (more : List Char) (index : Nat) :
    (stretch? arrow b (line ++ more)).map (fun e => index + e.count '\n')
      = if stop = .ended ∧ arrow = false then none else some index := by
  obtain ⟨e, inside, known⟩ := stretch?_stopped scanned ended arrow
  have noBreak : e.count '\n' = 0 :=
    List.count_eq_zero.mpr fun member => oneLine (inside.subset member)
  rw [known]
  split
  · rfl
  · rw [Option.map_some, noBreak]
    rfl

/-- Line by line, braces are counted as in the whole text. -/
theorem bracesEnd_eq {line : String} {rest : List String}
    (bare : Bare (line.toList ++ led rest)) (oneLine : ∀ l ∈ line :: rest, '\n' ∉ l.toList)
    (arrow : Bool) (b : Braces) (index : Nat) : bracesEnd arrow b index (line :: rest)
      = (stretch? arrow b (line.toList ++ led rest)).map fun e => index + e.count '\n' := by
  induction rest generalizing line b index with
  | nil =>
      have here := oneLine line List.mem_cons_self
      rw [bracesEnd, scanLine_eq bare.left]
      cases scanned : b.readAll line.toList with
      | going next =>
          rw [stretch?_going scanned]
          rfl
      | closed =>
          rw [stretch?_inLine scanned nofun here]
          rfl
      | ended =>
          rw [stretch?_inLine scanned nofun here]
          cases arrow <;> rfl
  | cons second rest ih =>
      obtain ⟨here, later⟩ := List.forall_mem_cons.mp oneLine
      have tail : Bare (second.toList ++ led rest) := bare.right.tail
      rw [bracesEnd, scanLine_eq bare.left]
      cases scanned : b.readAll line.toList with
      | going next =>
          have newline : stretch? arrow next (led (second :: rest))
              = (stretch? arrow next (second.toList ++ led rest)).map ('\n' :: ·) := rfl
          simp only
          rw [stretch?_going scanned, ih tail later, newline, Option.map_map, Option.map_map]
          congr 1
          funext e
          have before := List.count_eq_zero.mpr here
          simp only [Function.comp_apply, List.count_append, List.count_cons_self, before]
          omega
      | closed =>
          rw [stretch?_inLine scanned nofun here]
          rfl
      | ended =>
          rw [stretch?_inLine scanned nofun here]
          cases arrow <;> rfl

/-! ## What a count runs over -/

theorem read_other {b : Braces} {c : Char} (opening : c ≠ '\x7b') (closing : c ≠ '\x7d')
    (going : c ≠ ';' ∨ b.opened = true) : b.read c = .going b := by
  unfold Braces.read
  rw [if_neg opening, if_neg closing, if_neg]
  rintro ⟨semicolon, unopened⟩
  rcases going with other | opened
  · exact other semicolon
  · rw [unopened] at opened
    cases opened

theorem readAll_append {cs : List Char} {b b' : Braces} (going : b.readAll cs = .going b')
    (more : List Char) : b.readAll (cs ++ more) = b'.readAll more := by
  induction cs generalizing b with
  | nil =>
      obtain rfl := LineScan.going.inj going
      rfl
  | cons c cs ih =>
      rw [Braces.readAll] at going
      rw [List.cons_append, Braces.readAll]
      cases first : b.read c with
      | going next =>
          rw [first] at going
          exact ih going
      | closed =>
          rw [first] at going
          cases going
      | ended =>
          rw [first] at going
          cases going

theorem plain_cons {c : Char} {cs : List Char} :
    Plain (c :: cs) ↔ (c ≠ '\x7b' ∧ c ≠ ';') ∧ Plain cs := by
  unfold Plain
  rw [List.mem_cons, List.mem_cons, not_or, not_or, and_and_and_comm]
  exact and_congr_left' (and_congr ne_comm ne_comm)

theorem read_plain {c : Char} (opening : c ≠ '\x7b') (ending : c ≠ ';') :
    Braces.read ⟨0, false⟩ c = .going ⟨0, false⟩ := by
  unfold Braces.read
  rw [if_neg opening]
  split
  · rfl
  · exact if_neg fun both => ending both.1

theorem readAll_plain {cs : List Char} (plain : Plain cs) :
    Braces.readAll ⟨0, false⟩ cs = .going ⟨0, false⟩ := by
  induction cs with
  | nil => rfl
  | cons c cs ih =>
      obtain ⟨⟨opening, ending⟩, rest⟩ := plain_cons.mp plain
      rw [Braces.readAll, read_plain opening ending]
      exact ih rest

theorem readAll_balanced {cs : List Char} (balanced : Balanced [curly] cs) (depth : Nat) :
    Braces.readAll ⟨depth + 1, true⟩ cs = .going ⟨depth + 1, true⟩ := by
  induction balanced generalizing depth with
  | nil => rfl
  | plain other _ ih =>
      obtain ⟨opening, closing⟩ := other curly List.mem_cons_self
      rw [Braces.readAll, read_other opening closing (.inr rfl)]
      exact ih depth
  | group kind _ _ within rest =>
      obtain rfl := List.mem_singleton.mp kind
      rw [Braces.readAll]
      exact (readAll_append (within (depth + 1)) _).trans (rest depth)

/-- A count inside of braces runs down to the brace that closes the innermost of them, and from
there on if that is inside of others. -/
theorem stretch?_inside {arrow : Bool} {depth : Nat} {cs e : List Char}
    (taken : stretch? arrow ⟨depth + 1, true⟩ cs = some e) :
    ∃ inside more, cs = inside ++ '\x7d' :: more ∧ Balanced [curly] inside
      ∧ (depth = 0 → e = inside ++ ['\x7d'])
      ∧ ∀ less, depth = less + 1 → ∃ later, stretch? arrow ⟨less + 1, true⟩ more = some later
        ∧ e = inside ++ '\x7d' :: later := by
  -- by the length of the text, since after an inner pair it goes on in the middle of the text
  cases cs with
  | nil => cases taken
  | cons c cs =>
      by_cases opening : c = '\x7b'
      · subst opening
        obtain ⟨later, inner, rfl⟩ := Option.map_eq_some_iff.mp taken
        obtain ⟨within, behind, rfl, first, -, further⟩ := stretch?_inside inner
        obtain ⟨outer, goesOn, rfl⟩ := further depth rfl
        obtain ⟨inside, more, rfl, second, last, deeper⟩ := stretch?_inside goesOn
        refine ⟨'\x7b' :: (within ++ '\x7d' :: inside), more, by simp,
          .group (k := curly) List.mem_cons_self first second, fun zero => ?_, fun less same => ?_⟩
        · simp [last zero]
        · obtain ⟨rest, beyond, rfl⟩ := deeper less same
          exact ⟨rest, beyond, by simp⟩
      · by_cases closing : c = '\x7d'
        · subst closing
          refine ⟨[], cs, rfl, .nil, ?_, ?_⟩
          · rintro rfl
            exact (Option.some.inj taken).symm
          · rintro less rfl
            obtain ⟨later, goesOn, rfl⟩ := Option.map_eq_some_iff.mp taken
            exact ⟨later, goesOn, rfl⟩
        · rw [stretch?, read_other opening closing (.inr rfl)] at taken
          obtain ⟨later, goesOn, rfl⟩ := Option.map_eq_some_iff.mp taken
          obtain ⟨inside, more, rfl, balanced, last, deeper⟩ := stretch?_inside goesOn
          have other : ∀ k ∈ [curly], c ≠ k.1 ∧ c ≠ k.2 := by
            intro k kind
            obtain rfl := List.mem_singleton.mp kind
            exact ⟨opening, closing⟩
          refine ⟨c :: inside, more, rfl, .plain other balanced, fun zero => ?_,
            fun less same => ?_⟩
          · rw [last zero]
            rfl
          · obtain ⟨rest, further, rfl⟩ := deeper less same
            exact ⟨rest, further, rfl⟩
termination_by cs.length

/-- A count ends where a stretch does. -/
theorem stretch?_eq_some_iff {arrow : Bool} {cs e : List Char} :
    stretch? arrow ⟨0, false⟩ cs = some e ↔ Stretch arrow e ∧ e <+: cs := by
  constructor
  · intro taken
    induction cs generalizing e with
    | nil => cases taken
    | cons c cs ih =>
        by_cases opening : c = '\x7b'
        · subst opening
          obtain ⟨later, inner, rfl⟩ := Option.map_eq_some_iff.mp taken
          obtain ⟨inside, more, rfl, balanced, last, -⟩ := stretch?_inside inner
          rw [last rfl]
          exact ⟨.closed [] ⟨List.not_mem_nil, List.not_mem_nil⟩ balanced, more, by simp⟩
        · by_cases ending : c = ';'
          · subst ending
            cases arrow with
            | false => cases taken
            | true =>
                obtain rfl := Option.some.inj taken
                exact ⟨.ended [] ⟨List.not_mem_nil, List.not_mem_nil⟩ rfl, cs, rfl⟩
          · rw [stretch?, read_plain opening ending] at taken
            obtain ⟨later, goesOn, rfl⟩ := Option.map_eq_some_iff.mp taken
            obtain ⟨stretch, inside⟩ := ih goesOn
            refine ⟨?_, List.cons_prefix_cons.mpr ⟨rfl, inside⟩⟩
            cases stretch with
            | closed front plain balanced =>
                exact .closed (c :: front)
                  (plain_cons.mpr ⟨⟨opening, ending⟩, plain⟩) balanced
            | ended front plain allowed =>
                exact .ended (c :: front)
                  (plain_cons.mpr ⟨⟨opening, ending⟩, plain⟩) allowed
  · rintro ⟨stretch, more, rfl⟩
    cases stretch with
    | @closed front inside plain balanced =>
        have counted : Braces.readAll ⟨0, false⟩ (front ++ '\x7b' :: inside) = .going ⟨1, true⟩ :=
          (readAll_append (readAll_plain plain) _).trans (readAll_balanced balanced 0)
        have shape : front ++ '\x7b' :: (inside ++ ['\x7d']) ++ more
            = (front ++ '\x7b' :: inside) ++ '\x7d' :: more := by simp
        rw [shape, stretch?_going counted]
        simp [stretch?, Braces.read]
    | ended front plain allowed =>
        rw [List.append_assoc, stretch?_going (readAll_plain plain)]
        simp [stretch?, Braces.read, allowed]

theorem readAll_opened {cs : List Char} (depth : Nat) {b : Braces}
    (going : Braces.readAll ⟨depth + 1, true⟩ cs = .going b) :
    ∃ deeper, b = ⟨deeper + 1, true⟩ := by
  induction cs generalizing depth with
  | nil => exact ⟨depth, (LineScan.going.inj going).symm⟩
  | cons c cs ih =>
      by_cases opening : c = '\x7b'
      · subst opening
        exact ih (depth + 1) going
      · by_cases closing : c = '\x7d'
        · subst closing
          cases depth with
          | zero => cases going
          | succ depth => exact ih depth going
        · rw [Braces.readAll, read_other opening closing (.inr rfl)] at going
          exact ih depth going

/-- A text that does not end a count either has nothing to count or leaves braces open. -/
theorem readAll_going {cs : List Char} {b : Braces}
    (going : Braces.readAll ⟨0, false⟩ cs = .going b) :
    Plain cs ∨ ∃ depth, b = ⟨depth + 1, true⟩ := by
  induction cs with
  | nil => exact .inl ⟨List.not_mem_nil, List.not_mem_nil⟩
  | cons c cs ih =>
      by_cases opening : c = '\x7b'
      · subst opening
        exact .inr (readAll_opened 0 going)
      · by_cases ending : c = ';'
        · subst ending
          cases going
        · rw [Braces.readAll, read_plain opening ending] at going
          rcases ih going with plain | opened
          · exact .inl (plain_cons.mpr ⟨⟨opening, ending⟩, plain⟩)
          · exact .inr opened

/-! ## Functions that are reported -/

theorem mem_functionsFrom_iff {index : Nat} {before : List String} {line : String}
    {rest : List String} {f : Function} (start : f.start = index + before.length) :
    f ∈ functionsFrom index (before ++ line :: rest)
      ↔ functionAtHeader? (index + before.length) line rest = some f := by
  induction before generalizing index with
  | nil =>
      rw [List.nil_append, functionsFrom, List.mem_append, Option.mem_toList]
      refine or_iff_left fun later => ?_
      have beyond := (functionsFrom_inside (index + 1) rest f later).1
      rw [List.length_nil] at start
      omega
  | cons first before ih =>
      have shifted : index + (first :: before).length = index + 1 + before.length := by
        rw [List.length_cons]
        omega
      rw [List.cons_append, functionsFrom, List.mem_append, Option.mem_toList, shifted,
        ← ih (start.trans shifted)]
      refine or_iff_right fun here => ?_
      have same := (functionAtHeader?_inside here).1
      rw [List.length_cons] at start
      omega

theorem takeWhile_line {line : String} (oneLine : '\n' ∉ line.toList) (rest : List String) :
    (line.toList ++ led rest).takeWhile (· ≠ '\n') = line.toList := by
  have whole : ∀ c ∈ line.toList, decide (c ≠ '\n') = true := fun c member =>
    decide_eq_true fun same => oneLine (same ▸ member)
  rw [List.takeWhile_append_of_pos whole]
  cases rest with
  | nil => exact List.append_nil _
  | cons next rest =>
      have stops : (led (next :: rest)).takeWhile (fun c => decide (c ≠ '\n')) = [] := rfl
      rw [stops, List.append_nil]

namespace Placed

variable (d : Placed)

theorem lines_source : ∃ rest, Text.lines d.source = d.before ++ d.line :: rest
    ∧ d.text ++ d.after = d.line.toList ++ led rest
    ∧ ∀ l ∈ d.line :: rest, '\n' ∉ l.toList := by
  have canonical := canonical_lines (String.ofList (d.text ++ d.after))
  obtain ⟨line, rest, split⟩ := List.exists_cons_of_ne_nil canonical.inhabited
  have whole : d.text ++ d.after = line.toList ++ led rest := by
    rw [← Edit.toList_unlines_cons, ← split, Text.unlines_lines, String.toList_ofList]
  rw [split] at canonical
  have first : d.line = line := by
    unfold Placed.line
    rw [whole, takeWhile_line (canonical.unbroken line List.mem_cons_self), String.ofList_toList]
  have joined : d.source = Text.unlines (d.before ++ line :: rest) := by
    rw [← String.toList_inj, Edit.toList_unlines_split, List.append_assoc, ← whole, Placed.source,
      String.toList_ofList]
  refine ⟨rest, ?_, first ▸ whole, first ▸ canonical.unbroken⟩
  rw [joined, first]
  refine Text.lines_unlines (by simp) fun l member => ?_
  rcases List.mem_append.mp member with earlier | later
  · exact d.oneLine l earlier
  · exact canonical.unbroken l later

/-- A function that is reported where braces are expected goes on as far as they are counted. -/
theorem mem_functions_iff {name : String} (headed : d.Headed name) (breaks : Nat) :
    ⟨name, d.before.length, d.before.length + breaks⟩ ∈ functions d.source
      ↔ ∃ e, Stretch (hasArrow d.line.toList) e ∧ e <+: d.text ++ d.after
        ∧ e.count '\n' = breaks := by
  obtain ⟨rest, split, whole, oneLine⟩ := d.lines_source
  have bare := d.bare
  rw [whole] at bare
  have start : d.before.length = 0 + d.before.length := (Nat.zero_add _).symm
  unfold functions
  rw [split, mem_functionsFrom_iff start, functionAtHeader?_eq, headed, Option.bind_some,
    lastLine?, bracesEnd_eq bare oneLine, whole, Option.map_map, Option.map_eq_some_iff]
  refine exists_congr fun e => ?_
  rw [stretch?_eq_some_iff, and_assoc]
  refine and_congr_right fun _ => and_congr_right fun _ => ?_
  simp [Function.mk.injEq]

theorem text_eq {e rest : List Char} (shape : d.signature = e ++ rest) :
    d.text = e ++ (rest ++ '\x7b' :: (d.body ++ ['\x7d'])) := by
  unfold Definition.text
  rw [shape, List.append_assoc]

/-- The body leaves a count that has not ended before it where it was. -/
theorem readAll_text {depth : Nat}
    (opened : Braces.readAll ⟨0, false⟩ d.signature = .going ⟨depth + 1, true⟩) :
    Braces.readAll ⟨0, false⟩ d.text = .going ⟨depth + 1, true⟩ := by
  have body : Balanced [curly] ('\x7b' :: (d.body ++ ['\x7d'])) :=
    .group (k := curly) List.mem_cons_self d.body_balanced .nil
  unfold Definition.text
  rw [readAll_append opened, readAll_balanced body]

/-- A function whose header is one of a function in braces is reported with the lines from its first
one down to the brace that closes its body if its signature has no opening brace and no semicolon.
If it has one, this is so only where what braces are counted over, in the signature or from there
beyond the body, ends on the same line as the body. -/
theorem reported_iff {name : String} (headed : d.Headed name) :
    d.span name ∈ functions d.source ↔ Plain d.signature
      ∨ (∃ e rest, Stretch (hasArrow d.line.toList) e ∧ d.signature = e ++ rest
        ∧ '\n' ∉ rest ++ d.body)
      ∨ ∃ more rest, Stretch (hasArrow d.line.toList) (d.text ++ more) ∧ d.after = more ++ rest
        ∧ '\n' ∉ more := by
  unfold Placed.span
  rw [d.mem_functions_iff headed]
  constructor
  · rintro ⟨e, stretch, inside, breaks⟩
    have taken := stretch?_eq_some_iff.mpr ⟨stretch, inside⟩
    -- what the signature comes to decides which of the three cases it is
    by_cases counted : ∃ b, Braces.readAll ⟨0, false⟩ d.signature = .going b
    · obtain ⟨b, counted⟩ := counted
      rcases readAll_going counted with plain | ⟨depth, rfl⟩
      · exact .inl plain
      · rw [stretch?_going (d.readAll_text counted)] at taken
        obtain ⟨more, goesOn, rfl⟩ := Option.map_eq_some_iff.mp taken
        obtain ⟨rest, shape⟩ := (List.prefix_append_right_inj d.text).mp inside
        rw [List.count_append, Nat.add_eq_left] at breaks
        exact .inr (.inr ⟨more, rest, stretch, shape.symm, List.count_eq_zero.mp breaks⟩)
    · rw [Definition.text, List.append_assoc] at taken
      obtain ⟨known, ⟨rest, shape⟩, same⟩ :=
        stretch?_stopped rfl (not_exists.mp counted) (hasArrow d.line.toList)
      rw [same] at taken
      obtain rfl := Option.some.inj (Option.ite_none_left_eq_some.mp taken).2.symm
      rw [d.text_eq shape.symm, List.count_append, eq_comm, Nat.add_eq_left] at breaks
      refine .inr (.inl ⟨e, rest, stretch, shape.symm, ?_⟩)
      have oneLine := List.count_eq_zero.mp breaks
      simp only [List.mem_append, List.mem_cons, not_or] at oneLine ⊢
      exact ⟨oneLine.1, oneLine.2.2.1⟩
  · rintro (plain | ⟨e, rest, stretch, shape, oneLine⟩ | ⟨more, rest, stretch, shape, oneLine⟩)
    · exact ⟨d.text, .closed d.signature plain d.body_balanced, List.prefix_append _ _, rfl⟩
    · have oneLine : '\n' ∉ rest ++ '\x7b' :: (d.body ++ ['\x7d']) := by
        simp only [List.mem_append, List.mem_cons, not_or] at oneLine ⊢
        exact ⟨oneLine.1, by decide, oneLine.2, by decide, List.not_mem_nil⟩
      rw [d.text_eq shape]
      refine ⟨e, stretch, ?_, ?_⟩
      · rw [List.append_assoc]
        exact List.prefix_append _ _
      · rw [List.count_append, List.count_eq_zero.mpr oneLine, Nat.add_zero]
    · refine ⟨d.text ++ more, stretch, ?_, ?_⟩
      · rw [shape, ← List.append_assoc]
        exact List.prefix_append _ _
      · rw [List.count_append, List.count_eq_zero.mpr oneLine, Nat.add_zero]

end Placed

theorem balanced_of_plain {kinds : List Bracket} {cs : List Char}
    (plain : (cs.all fun c => kinds.all fun k => c ≠ k.1 ∧ c ≠ k.2) = true) :
    Balanced kinds cs := by
  induction cs with
  | nil => exact .nil
  | cons c cs ih =>
      rw [List.all_cons, Bool.and_eq_true, List.all_eq_true] at plain
      exact .plain (fun k kind => of_decide_eq_true (plain.1 k kind)) (ih plain.2)

/-- A keyword and a name are enough for a header. -/
theorem ofLine?_function : Header.ofLine? "function f" = some ⟨"f", .braces⟩ := by
  unfold Header.ofLine? headerMachine Pattern.Node.ofPattern Pattern.Syntax.ofPattern headerPattern
  -- the pattern is taken apart first, because its characters are got at piece by piece much faster
  simp only [String.toList_append]
  decide +kernel

theorem Placed.headed_of_line {d : Placed} (line : d.line = "function f") : d.Headed "f" := by
  unfold Headed
  rw [line]
  exact ofLine?_function

/-- `function f` with its parameters and its body on the next lines. -/
def listing : Placed where
  head := ['f', 'u', 'n', 'c', 't', 'i', 'o', 'n', ' ', 'f', '\n']
  params := ['a']
  result := [' ']
  body := ['\n', 'a', '\n']
  params_balanced := balanced_of_plain rfl
  result_sheltered := .plain (by decide) (by decide) .nil
  body_balanced := balanced_of_plain rfl
  before := []
  after := ['\n']
  oneLine := nofun
  bare := ⟨by decide, by decide⟩

theorem Placed.reported_iff_listing :
    listing.Headed "f" ∧ listing.span "f" = ⟨"f", 0, 3⟩
      ∧ listing.span "f" ∈ functions listing.source := by
  have headed : listing.Headed "f" := headed_of_line (by decide +kernel)
  exact ⟨headed, rfl, (listing.reported_iff headed).mpr (.inl ⟨by decide, by decide⟩)⟩

/-- The same with a pattern for the parameter. -/
def destructuring : Placed :=
  { listing with
    params := ['\x7b', 'a', '\x7d']
    params_balanced := @Balanced.group _ curly ['a'] [] (by decide) (balanced_of_plain rfl) .nil
    bare := ⟨by decide, by decide⟩ }

/-- The braces around the parameter are taken for the body: the function is reported down to the
line they are on, and not down to the brace that closes the body. -/
theorem Placed.not_reported_destructuring :
    destructuring.Headed "f" ∧ destructuring.span "f" = ⟨"f", 0, 3⟩
      ∧ ⟨"f", 0, 1⟩ ∈ functions destructuring.source
      ∧ destructuring.span "f" ∉ functions destructuring.source := by
  have headed : destructuring.Headed "f" := headed_of_line (by decide +kernel)
  have short : stretch? (hasArrow destructuring.line.toList) ⟨0, false⟩
      (destructuring.text ++ destructuring.after)
        = some (destructuring.head ++ ['(', '\x7b', 'a', '\x7d']) := rfl
  refine ⟨headed, rfl, ?_, fun reported => ?_⟩
  · obtain ⟨stretch, inside⟩ := stretch?_eq_some_iff.mp short
    exact (destructuring.mem_functions_iff headed 1).mpr ⟨_, stretch, inside, rfl⟩
  · obtain ⟨e, stretch, inside, breaks⟩ := (destructuring.mem_functions_iff headed _).mp reported
    have taken := stretch?_eq_some_iff.mpr ⟨stretch, inside⟩
    rw [short] at taken
    obtain rfl := Option.some.inj taken
    exact absurd breaks (by decide)

end ReplyScript.Outline
