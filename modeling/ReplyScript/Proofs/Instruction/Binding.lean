import Mathlib.Data.List.Forall2
import Mathlib.Data.Nat.Digits.Defs
import ReplyScript.Proofs.Decimal.Value
import ReplyScript.Proofs.Json.Grammar
import ReplyScript.Session.Footprint

/-! # Commands whose arguments fit

Arguments that were bound fill every slot with what belongs there, so there is an action for them.
A slot for a number is filled with the number that its argument writes, and a float that writes the
number just beyond the last index is taken for that index. Main statements:
`Script.Command.fits_iff` and `Instruction.bind_written_iff`.
-/

namespace ReplyScript

open Script (Argument Command)

/-- The filling is of the kind that the slot asks for. -/
inductive Slot.Takes : Slot → Filling → Prop
  | text (name s : String) : Takes (.text name) (.text s)
  | index (name : String) (n : Nat) : Takes (.index name) (.index (some n))
  | optionalIndex (name : String) (n : Option Nat) : Takes (.optionalIndex name) (.index n)

theorem Slot.takes_of_fill {slot : Slot} {argument : Option Argument} {filling : Filling}
    (filled : slot.fill argument = .ok filling) : slot.Takes filling := by
  unfold fill at filled
  split at filled
  · cases filled
    exact .text _ _
  · split at filled
    · cases filled
      exact .index _ _
    · cases filled
  · split at filled
    · cases filled
      exact .optionalIndex _ _
    · cases filled
  · cases filled
    exact .optionalIndex _ _
  · cases filled
  · cases filled

theorem takes_of_fillSlots {slots : List Slot} {arguments : List Argument}
    {fillings : List Filling} (filled : fillSlots slots arguments = .ok fillings) :
    List.Forall₂ Slot.Takes slots fillings := by
  induction slots generalizing arguments fillings with
  | nil =>
      cases filled
      exact .nil
  | cons slot rest ih =>
      unfold fillSlots at filled
      cases first : slot.fill arguments.head? with
      | error e =>
          rw [first] at filled
          cases filled
      | ok filling =>
          rw [first] at filled
          cases later : fillSlots rest arguments.tail with
          | error e =>
              rw [later] at filled
              cases filled
          | ok others =>
              rw [later] at filled
              cases filled
              exact .cons (Slot.takes_of_fill first) (ih later)

theorem Action.exists_ofFillings {i : Instruction} {fillings : List Filling}
    (takes : List.Forall₂ Slot.Takes i.slots fillings) :
    ∃ a, Action.ofFillings? i fillings = some a ∧ a.instruction = i := by
  cases i <;> simp only [Instruction.slots, Instruction.rangeSlots, List.cons_append,
    List.nil_append] at takes
  all_goals
    repeat' (rcases takes with _ | ⟨_ | _ | _, takes⟩)
    exact ⟨_, rfl, rfl⟩

theorem Action.instruction_of_ofFillings {i : Instruction} {fillings : List Filling} {a : Action}
    (made : Action.ofFillings? i fillings = some a) : a.instruction = i := by
  unfold ofFillings? at made
  split at made <;> cases made <;> rfl

theorem Instruction.ofName?_name (i : Instruction) : ofName? i.name = some i := by
  cases i <;> decide

theorem Instruction.ofName?_eq_some_iff {name : String} {i : Instruction} :
    ofName? name = some i ↔ name = i.name := by
  constructor
  · intro found
    have same := List.find?_some found
    exact (beq_iff_eq.mp same).symm
  · rintro rfl
    exact i.ofName?_name

namespace Script.Command

variable {c : Command}

/-- A command fits an instruction exactly if it asks for an action of it. -/
theorem fits_iff {i : Instruction} :
    c.Fits i ↔ ∃ a, c.action? = .ok (some a) ∧ a.instruction = i := by
  unfold Fits action?
  constructor
  · rintro ⟨named, fillings, bound⟩
    obtain ⟨a, made, same⟩ := Action.exists_ofFillings (takes_of_fillSlots bound)
    refine ⟨a, ?_, same⟩
    rw [Instruction.ofName?_eq_some_iff.mpr named]
    simp only [bound, made]
  · rintro ⟨a, asked, rfl⟩
    split at asked
    · cases asked
    · rename_i i known
      split at asked
      · rename_i fillings bound
        have made := Except.ok.inj asked
        rw [Action.instruction_of_ofFillings made]
        exact ⟨Instruction.ofName?_eq_some_iff.mp known, fillings, bound⟩
      · cases asked

theorem name_of_action {a : Action} (asked : c.action? = .ok (some a)) :
    c.name = a.instruction.name :=
  (fits_iff.mpr ⟨a, asked, rfl⟩).1

/-- A command is refused exactly if its name is known and its arguments do not fit. -/
theorem action?_eq_error_iff {e : CommandError} :
    c.action? = .error e ↔ ∃ (i : Instruction) (problem : BindError), c.name = i.name
      ∧ i.bind c.arguments = .error problem
      ∧ e = .invalidArguments c.name problem := by
  unfold action?
  cases known : Instruction.ofName? c.name with
  | none =>
      refine iff_of_false nofun ?_
      rintro ⟨i, problem, named, -, -⟩
      rw [Instruction.ofName?_eq_some_iff.mpr named] at known
      cases known
  | some i =>
      have named := Instruction.ofName?_eq_some_iff.mp known
      constructor
      · intro refused
        cases bound : i.bind c.arguments with
        | ok fillings =>
            simp only [bound] at refused
            cases refused
        | error problem =>
            simp only [bound] at refused
            exact ⟨i, problem, named, bound, (Except.error.inj refused).symm⟩
      · rintro ⟨j, problem, also, unbound, rfl⟩
        rw [Instruction.ofName?_eq_some_iff.mpr also] at known
        obtain rfl := Option.some.inj known
        simp only [unbound]

end Script.Command

/-! ## Numbers that were written -/

namespace Text

/-- The characters are a decimal numeral of a number, possibly behind a plus sign. -/
def IsNumeral (cs : List Char) (n : Nat) : Prop :=
  ∃ ds, Json.Digits ds ∧ (cs = ds ∨ cs = '+' :: ds)
    ∧ Nat.ofDigits 10 (ds.reverse.map digitValue) = n

theorem digitsValue_eq_ofDigits (ds : List Char) :
    digitsValue ds = Nat.ofDigits 10 (ds.reverse.map digitValue) := by
  rw [Nat.ofDigits_eq_foldr, List.foldr_map, List.foldr_reverse, digitsValue]
  simp only [Nat.cast_id, Nat.add_comm]

theorem digits?_eq_some_iff {ds : List Char} {n : Nat} :
    digits? ds = some n ↔ Json.Digits ds ∧ digitsValue ds = n := by
  simp only [digits?, Json.Digits, List.all_eq_true, Option.ite_none_right_eq_some,
    Option.some.injEq]

/-- The text is read as a number exactly if it is a numeral of that number within a word. -/
theorem numeral?_eq_some_iff {s : String} {n : Nat} :
    numeral? s = some n ↔ n < UInt64.size ∧ IsNumeral s.toList n := by
  unfold numeral? IsNumeral
  simp only [Option.filter_eq_some_iff, decide_eq_true_eq, digits?_eq_some_iff,
    digitsValue_eq_ofDigits]
  rw [and_comm, and_congr_right_iff]
  intro _
  split
  · rename_i rest shape
    constructor
    · rintro ⟨digits, value⟩
      exact ⟨rest, digits, .inr shape, value⟩
    · rintro ⟨ds, digits, same | same, value⟩
      · have sign := digits.2 '+' (by rw [← same, shape]; exact List.mem_cons_self)
        cases sign
      · obtain rfl := (List.cons.inj (shape.symm.trans same)).2
        exact ⟨digits, value⟩
  · rename_i unsigned
    constructor
    · rintro ⟨digits, value⟩
      exact ⟨_, digits, .inl rfl, value⟩
    · rintro ⟨ds, digits, same | same, value⟩
      · rw [same]
        exact ⟨digits, value⟩
      · exact absurd same (unsigned ds)

end Text

namespace Script.Argument

/-- A whole number that an argument holds is a signed word. -/
def Bounded (a : Argument) : Prop :=
  ∀ n, a = .integer n → Argument.inWord n = true

theorem bounded_of_ofNumber {number : Json.Number} {a : Argument}
    (made : ofNumber number = some a) : a.Bounded := by
  rintro n rfl
  cases number with
  | integer m =>
      simp only [ofNumber] at made
      split at made
      · rename_i fits
        cases made
        exact fits
      · obtain ⟨x, -, same⟩ := Option.map_eq_some_iff.mp made
        cases same
  | float x => cases made

theorem bounded_of_decode? {token : String} {a : Argument}
    (decoded : decode? token = some a) : a.Bounded := by
  unfold decode? at decoded
  split at decoded
  · cases decoded
    exact nofun
  · cases decoded
    exact nofun
  · exact bounded_of_ofNumber decoded
  · cases decoded
  · cases decoded

theorem bounded_decode (token : String) : (decode token).Bounded := by
  unfold decode
  cases decoded : decode? token with
  | none => exact nofun
  | some a => exact bounded_of_decode? decoded

/-- The argument writes a number: as a whole number, as a float of that very value, or as a text
that is its numeral between blanks. -/
inductive Writes : Argument → Nat → Prop
  | integer (n : Nat) : Writes (.integer n) n
  | float {x : Decimal.Binary} {n : Nat} (worth : x.value = n) : Writes (.float x) n
  | text {s : String} {n : Nat} (numeral : Text.IsNumeral (Text.trim s).toList n) :
      Writes (.text s) n

/-- The argument writes an index. -/
def WritesIndex (a : Argument) (n : Nat) : Prop :=
  n < 2 ^ 64 ∧ a.Writes n

/-- The argument is a float worth the number just beyond the last index. -/
def Overshoots (a : Argument) : Prop :=
  ∃ x : Decimal.Binary, a = .float x ∧ x.value = 2 ^ 64

/-- The argument is taken for an index: the one it writes, or the last one if it overshoots. -/
def ReadsAs (a : Argument) (n : Nat) : Prop :=
  a.WritesIndex n ∨ (a.Overshoots ∧ n = 2 ^ 64 - 1)

end Script.Argument

open Script.Argument (Bounded Overshoots ReadsAs WritesIndex)

/-- An argument is taken for the index it writes, and beyond that only for the last index. -/
theorem index?_eq_some_iff {a : Argument} (bounded : a.Bounded) {n : Nat} :
    index? a = some n ↔ a.ReadsAs n := by
  unfold ReadsAs WritesIndex
  cases a with
  | text s =>
      rw [index?, Text.numeral?_eq_some_iff]
      constructor
      · rintro ⟨below, numeral⟩
        exact .inl ⟨below, .text numeral⟩
      · rintro (⟨below, ⟨⟩⟩ | ⟨⟨x, ⟨⟩, -⟩, -⟩)
        rename_i numeral
        exact ⟨below, numeral⟩
  | integer m =>
      have word := bounded m rfl
      rw [Script.Argument.inWord, Bool.and_eq_true, decide_eq_true_iff, decide_eq_true_iff] at word
      simp only [index?, Option.ite_none_right_eq_some, Option.some.injEq]
      constructor
      · rintro ⟨positive, rfl⟩
        obtain ⟨k, rfl⟩ := Int.eq_ofNat_of_zero_le positive
        exact .inl ⟨by omega, .integer k⟩
      · rintro (⟨-, ⟨⟩⟩ | ⟨⟨x, ⟨⟩, -⟩, -⟩)
        exact ⟨Int.natCast_nonneg n, Int.toNat_natCast n⟩
  | float x =>
      simp only [index?, indexOfFloat?]
      constructor
      · intro taken
        cases whole : x.toNat? with
        | none => simp only [whole, reduceCtorEq] at taken
        | some m =>
            have worth := Decimal.Binary.toNat?_eq_some_iff.mp whole
            simp only [whole, Option.ite_none_right_eq_some, Option.some.injEq] at taken
            obtain ⟨within, rfl⟩ := taken
            unfold maxIndex UInt64.size at within ⊢
            by_cases last : m = 2 ^ 64
            · subst last
              exact .inr ⟨⟨x, rfl, by exact_mod_cast worth⟩, rfl⟩
            · rw [Nat.min_eq_left (by omega)]
              exact .inl ⟨by omega, .float worth⟩
      · rintro (⟨below, ⟨⟩⟩ | ⟨⟨y, ⟨⟩, worth⟩, rfl⟩)
        · rename_i worth
          rw [Decimal.Binary.toNat?_eq_some_iff.mpr worth]
          unfold maxIndex UInt64.size
          simp only [if_pos (show n ≤ 18446744073709551616 - 1 + 1 by omega),
            Nat.min_eq_left (show n ≤ 18446744073709551616 - 1 by omega)]
        · rw [Decimal.Binary.toNat?_eq_some_iff.mpr (by exact_mod_cast worth)]
          rfl
  | boolean b =>
      refine iff_of_false nofun ?_
      rintro (⟨-, ⟨⟩⟩ | ⟨⟨x, ⟨⟩, -⟩, -⟩)

/-! ## Slots in order -/

/-- What fills a slot when arguments are taken for the numbers that `reads` says. -/
inductive Slot.Filled (reads : Argument → Nat → Prop) : Slot → Option Argument → Filling → Prop
  | text (name : String) (a : Argument) : Filled reads (.text name) (some a) (.text a.display)
  | index {a : Argument} {n : Nat} (name : String) (read : reads a n) :
      Filled reads (.index name) (some a) (.index (some n))
  | optionalIndex {a : Argument} {n : Nat} (name : String) (read : reads a n) :
      Filled reads (.optionalIndex name) (some a) (.index (some n))
  | omitted (name : String) : Filled reads (.optionalIndex name) none (.index none)

/-- What is wrong with a slot that cannot be filled. -/
def Slot.refusal (slot : Slot) : Option Argument → BindError
  | some a => .notIndex slot.name a
  | none => .missing slot.name

/-- The slot with a number, if there is one, can be filled. -/
def FitsAt (reads : Argument → Nat → Prop) (slots : List Slot) (arguments : List Argument)
    (k : Nat) : Prop :=
  ∀ slot, slots[k]? = some slot → ∃ filling, slot.Filled reads arguments[k]? filling

/-- The outcome of filling slots: the fillings of all of them in order, or the refusal of the first
that cannot be filled. -/
inductive Binds (reads : Argument → Nat → Prop) (slots : List Slot) (arguments : List Argument) :
    Except BindError (List Filling) → Prop
  | bound {fillings : List Filling} (all : fillings.length = slots.length)
      (filled : ∀ (k : Nat) slot filling, slots[k]? = some slot → fillings[k]? = some filling →
        slot.Filled reads arguments[k]? filling) : Binds reads slots arguments (.ok fillings)
  | refused {k : Nat} {slot : Slot} (reached : slots[k]? = some slot)
      (earlier : ∀ j < k, FitsAt reads slots arguments j)
      (unfit : ∀ filling, ¬ slot.Filled reads arguments[k]? filling) :
      Binds reads slots arguments (.error (slot.refusal arguments[k]?))

section
variable {reads : Argument → Nat → Prop} {slots : List Slot} {arguments : List Argument}
variable {slot : Slot} {filling : Filling}

theorem fitsAt_succ_iff {k : Nat} :
    FitsAt reads (slot :: slots) arguments (k + 1) ↔ FitsAt reads slots arguments.tail k := by
  unfold FitsAt
  simp only [List.getElem?_cons_succ, List.getElem?_tail]

theorem Binds.nil : Binds reads [] arguments (.ok []) :=
  .bound rfl nofun

theorem Binds.cons {result : Except BindError (List Filling)}
    (first : slot.Filled reads arguments.head? filling)
    (later : Binds reads slots arguments.tail result) :
    Binds reads (slot :: slots) arguments (result.map (filling :: ·)) := by
  rw [List.head?_eq_getElem?] at first
  cases later with
  | @bound fillings all filled =>
      refine .bound (congrArg Nat.succ all) ?_
      rintro (_ | k) other stuff here taken
      · obtain rfl := Option.some.inj here
        obtain rfl := Option.some.inj taken
        exact first
      · have fits := filled k other stuff here taken
        rwa [List.getElem?_tail] at fits
  | @refused k other reached earlier unfit =>
      rw [List.getElem?_tail] at unfit ⊢
      have further : (slot :: slots)[k + 1]? = some other := reached
      refine .refused further ?_ unfit
      rintro (_ | j) before
      · rintro other here
        obtain rfl := Option.some.inj here
        exact ⟨filling, first⟩
      · exact fitsAt_succ_iff.mpr (earlier j (Nat.lt_of_succ_lt_succ before))

theorem Binds.cons_refused (unfit : ∀ filling, ¬ slot.Filled reads arguments.head? filling) :
    Binds reads (slot :: slots) arguments (.error (slot.refusal arguments.head?)) := by
  rw [List.head?_eq_getElem?] at unfit ⊢
  exact .refused rfl nofun unfit

end

/-- A slot is filled with what its argument is taken for. -/
theorem Slot.fill_eq_ok_iff {slot : Slot} {argument : Option Argument} {filling : Filling}
    (bounded : ∀ a ∈ argument, a.Bounded) :
    slot.fill argument = .ok filling ↔ slot.Filled ReadsAs argument filling := by
  cases argument with
  | none =>
      cases slot with
      | text name | index name => exact iff_of_false nofun nofun
      | optionalIndex name =>
          constructor
          · rintro ⟨⟩
            exact .omitted name
          · rintro ⟨⟩
            rfl
  | some a =>
      cases slot with
      | text name =>
          constructor
          · rintro ⟨⟩
            exact .text name a
          · rintro ⟨⟩
            rfl
      | index name | optionalIndex name =>
          simp only [fill]
          constructor
          · intro filled
            cases found : index? a with
            | none => simp only [found, reduceCtorEq] at filled
            | some n =>
                simp only [found] at filled
                have read := (index?_eq_some_iff (bounded a rfl)).mp found
                cases filled
                constructor
                exact read
          · rintro ⟨⟩
            rename_i read
            simp only [(index?_eq_some_iff (bounded a rfl)).mpr read]

theorem Slot.eq_refusal_of_fill {slot : Slot} {argument : Option Argument} {problem : BindError}
    (failed : slot.fill argument = .error problem) : problem = slot.refusal argument := by
  unfold fill at failed
  split at failed
  · cases failed
  · split at failed <;> cases failed
    rfl
  · split at failed <;> cases failed
    rfl
  · cases failed
  · cases failed
    rfl
  · cases failed
    rfl

theorem fillSlots_binds (slots : List Slot) {arguments : List Argument}
    (bounded : ∀ a ∈ arguments, a.Bounded) :
    Binds ReadsAs slots arguments (fillSlots slots arguments) := by
  induction slots generalizing arguments with
  | nil => exact .nil
  | cons slot rest ih =>
      have held : ∀ a ∈ arguments.head?, a.Bounded := fun a first =>
        bounded a (List.mem_of_mem_head? first)
      unfold fillSlots
      cases first : slot.fill arguments.head? with
      | error problem =>
          rw [Slot.eq_refusal_of_fill first]
          refine .cons_refused fun filling fits => ?_
          rw [(Slot.fill_eq_ok_iff held).mpr fits] at first
          cases first
      | ok filling =>
          exact .cons ((Slot.fill_eq_ok_iff held).mp first)
            (ih fun a member => bounded a (List.mem_of_mem_tail member))

/-! ## Beyond the last index -/

/-- A slot for a number that is reached holds an argument that overshoots. -/
def Overshot (slots : List Slot) (arguments : List Argument) : Prop :=
  ∃ (k : Nat) (slot : Slot) (a : Argument), slots[k]? = some slot ∧ (∀ name, slot ≠ .text name)
    ∧ arguments[k]? = some a ∧ a.Overshoots ∧ ∀ j < k, FitsAt WritesIndex slots arguments j

namespace Slot.Filled

variable {slot : Slot} {a : Argument} {argument : Option Argument} {filling : Filling}

theorem readsAs (filled : slot.Filled WritesIndex argument filling) :
    slot.Filled ReadsAs argument filling := by
  cases filled with
  | text name a => exact .text name a
  | index name read => exact .index name (.inl read)
  | optionalIndex name read => exact .optionalIndex name (.inl read)
  | omitted name => exact .omitted name

theorem writesIndex_or_overshoots (filled : slot.Filled ReadsAs argument filling) :
    slot.Filled WritesIndex argument filling
      ∨ (∀ name, slot ≠ .text name) ∧ ∃ a, argument = some a ∧ a.Overshoots := by
  cases filled with
  | text name a => exact .inl (.text name a)
  | index name read =>
      rcases read with written | ⟨past, -⟩
      · exact .inl (.index name written)
      · exact .inr ⟨nofun, _, rfl, past⟩
  | optionalIndex name read =>
      rcases read with written | ⟨past, -⟩
      · exact .inl (.optionalIndex name written)
      · exact .inr ⟨nofun, _, rfl, past⟩
  | omitted name => exact .inl (.omitted name)

theorem of_overshoots (past : a.Overshoots) (number : ∀ name, slot ≠ .text name) :
    ∃ filling, slot.Filled ReadsAs (some a) filling := by
  cases slot with
  | text name => exact absurd rfl (number name)
  | index name => exact ⟨_, .index name (.inr ⟨past, rfl⟩)⟩
  | optionalIndex name => exact ⟨_, .optionalIndex name (.inr ⟨past, rfl⟩)⟩

theorem not_of_overshoots (past : a.Overshoots) (number : ∀ name, slot ≠ .text name) :
    ¬ slot.Filled WritesIndex (some a) filling := by
  have none_written : ∀ n, ¬ a.WritesIndex n := by
    obtain ⟨x, rfl, beyond⟩ := past
    rintro n ⟨below, ⟨⟩⟩
    rename_i worth
    have same : n = 2 ^ 64 := by exact_mod_cast worth.symm.trans beyond
    exact absurd below (Nat.not_lt_of_le (Nat.le_of_eq same.symm))
  intro filled
  cases filled with
  | text name => exact number name rfl
  | index name read => exact none_written _ read
  | optionalIndex name read => exact none_written _ read

end Slot.Filled

section
variable {slots : List Slot} {arguments : List Argument}

theorem Binds.error_cases {reads : Argument → Nat → Prop} {problem : BindError}
    (outcome : Binds reads slots arguments (.error problem)) :
    ∃ (k : Nat) (slot : Slot), slots[k]? = some slot
      ∧ (∀ j < k, FitsAt reads slots arguments j)
      ∧ (∀ filling, ¬ slot.Filled reads arguments[k]? filling)
      ∧ problem = slot.refusal arguments[k]? := by
  generalize result : Except.error problem = e at outcome
  cases outcome with
  | bound all filled => cases result
  | refused reached earlier unfit =>
      exact ⟨_, _, reached, earlier, unfit, Except.error.inj result⟩

theorem Slot.name_of_refusal {slot other : Slot} {a : Argument} {argument : Option Argument}
    (same : slot.refusal (some a) = other.refusal argument) : slot.name = other.name := by
  cases argument with
  | none => cases same
  | some b => exact (BindError.notIndex.inj same).1

theorem eq_of_slot_name (named : (slots.map Slot.name).Nodup) {k m : Nat} {slot other : Slot}
    (here : slots[k]? = some slot) (there : slots[m]? = some other)
    (same : slot.name = other.name) : k = m := by
  have inside := (List.getElem?_eq_some_iff.mp here).1
  refine (List.getElem?_inj (by rwa [List.length_map]) named).mp ?_
  rw [List.getElem?_map, List.getElem?_map, here, there]
  exact congrArg some same

/-- Up to a number that overshoots, slots that can be filled are filled with what was written. -/
theorem fitsAt_writesIndex (within : ¬ Overshot slots arguments) {k : Nat}
    (fits : ∀ j < k, FitsAt ReadsAs slots arguments j) :
    ∀ j < k, FitsAt WritesIndex slots arguments j := by
  intro j
  induction j using Nat.strongRecOn with
  | ind j ih =>
      intro before slot here
      have earlier : ∀ i < j, FitsAt WritesIndex slots arguments i := fun i first =>
        ih i first (Nat.lt_trans first before)
      obtain ⟨filling, filled⟩ := fits j before slot here
      rcases filled.writesIndex_or_overshoots with written | ⟨number, a, given, past⟩
      · exact ⟨filling, written⟩
      · exact absurd ⟨j, slot, a, here, number, given, past, earlier⟩ within

theorem Binds.writesIndex {result : Except BindError (List Filling)}
    (outcome : Binds ReadsAs slots arguments result) (within : ¬ Overshot slots arguments) :
    Binds WritesIndex slots arguments result := by
  cases outcome with
  | @bound fillings all filled =>
      have fits : ∀ k < slots.length, FitsAt ReadsAs slots arguments k := by
        intro k inside slot here
        have taken := List.getElem?_eq_getElem (all.symm ▸ inside : k < fillings.length)
        exact ⟨_, filled k slot _ here taken⟩
      refine .bound all fun k slot filling here taken => ?_
      rcases (filled k slot filling here taken).writesIndex_or_overshoots with
        written | ⟨number, a, given, past⟩
      · exact written
      · have inside := (List.getElem?_eq_some_iff.mp here).1
        exact absurd ⟨k, slot, a, here, number, given, past, fun j before =>
          fitsAt_writesIndex within fits j (Nat.lt_trans before inside)⟩ within
  | refused reached earlier unfit =>
      exact .refused reached (fitsAt_writesIndex within earlier) fun filling written =>
        unfit filling written.readsAs

/-- Where a number overshoots the outcome is not the one that was written: the slot that holds it is
filled although nothing fills it, and no other slot has its name. -/
theorem Binds.not_writesIndex {result : Except BindError (List Filling)}
    (named : (slots.map Slot.name).Nodup) (outcome : Binds ReadsAs slots arguments result)
    (overshot : Overshot slots arguments) : ¬ Binds WritesIndex slots arguments result := by
  obtain ⟨k, slot, a, here, number, given, past, earlier⟩ := overshot
  have unfit : ∀ filling, ¬ slot.Filled WritesIndex arguments[k]? filling := fun filling => by
    rw [given]
    exact Slot.Filled.not_of_overshoots past number
  intro written
  cases result with
  | ok fillings =>
      cases written with
      | bound all filled =>
          have inside := (List.getElem?_eq_some_iff.mp here).1
          have taken := List.getElem?_eq_getElem (all.symm ▸ inside : k < fillings.length)
          exact unfit _ (filled k slot _ here taken)
  | error problem =>
      obtain ⟨m, other, reached, before, broken, same⟩ := written.error_cases
      -- The refusal would be at the overshooting slot, but the one that was made is at another.
      obtain rfl : m = k := by
        rcases Nat.lt_trichotomy m k with first | same | later
        · obtain ⟨filling, fits⟩ := earlier m first other reached
          exact absurd fits (broken filling)
        · exact same
        · obtain ⟨filling, fits⟩ := before k later slot here
          exact absurd fits (unfit filling)
      obtain rfl := Option.some.inj (reached.symm.trans here)
      obtain ⟨m', other', reached', -, broken', same'⟩ := outcome.error_cases
      rw [same, given] at same'
      obtain rfl := eq_of_slot_name named here reached' (Slot.name_of_refusal same')
      obtain rfl := Option.some.inj (reached'.symm.trans here)
      obtain ⟨filling, fits⟩ := Slot.Filled.of_overshoots past number
      rw [← given] at fits
      exact broken' filling fits

end

namespace Instruction

/-- No two slots of an instruction have one name. -/
theorem nodup_slot_names (i : Instruction) : (i.slots.map Slot.name).Nodup := by
  cases i <;> decide

/-- Every slot for a number is filled with the number that its argument writes, if that is an index;
a float worth just more than the last index fills it with the last index. The first slot that cannot
be filled makes the whole command invalid. Slots are filled with what was written, and refused where
that is no index, exactly if no such float is reached. -/
theorem bind_written_iff (i : Instruction) {arguments : List Argument}
    (bounded : ∀ a ∈ arguments, a.Bounded) (span : Script.Span) :
    Binds ReadsAs i.slots arguments (i.bind arguments)
      ∧ (Binds WritesIndex i.slots arguments (i.bind arguments)
        ↔ ¬ Overshot i.slots arguments)
      ∧ ∀ e, Command.action? ⟨i.name, arguments, span⟩ = .error e
        ↔ ∃ problem, i.bind arguments = .error problem
          ∧ e = .invalidArguments i.name problem := by
  have outcome := fillSlots_binds i.slots bounded
  refine ⟨outcome, ⟨fun written overshot => ?_, outcome.writesIndex⟩, fun e => ?_⟩
  · exact outcome.not_writesIndex i.nodup_slot_names overshot written
  · rw [Script.Command.action?_eq_error_iff]
    constructor
    · rintro ⟨j, problem, named, refused, rfl⟩
      have known := i.ofName?_name
      rw [Instruction.ofName?_eq_some_iff.mpr named] at known
      obtain rfl := Option.some.inj known
      exact ⟨problem, refused, rfl⟩
    · rintro ⟨problem, refused, rfl⟩
      exact ⟨i, problem, rfl, refused, rfl⟩

/-- A text that is a numeral behind a sign and blanks, the float worth half the limit, and a whole
number where a text belongs. -/
theorem bind_written_iff_signed :
    (∀ a ∈ [Argument.text "a", .text " +007", .float ⟨false, 0x10000000000000, 11⟩, .integer 5],
        a.Bounded)
      ∧ Instruction.input.bind
          [.text "a", .text " +007", .float ⟨false, 0x10000000000000, 11⟩, .integer 5]
        = .ok [.text "a", .index (some 7), .index (some 0x8000000000000000), .text "5"]
      ∧ Binds ReadsAs Instruction.input.slots
          [.text "a", .text " +007", .float ⟨false, 0x10000000000000, 11⟩, .integer 5]
          (Instruction.input.bind
            [.text "a", .text " +007", .float ⟨false, 0x10000000000000, 11⟩, .integer 5]) := by
  have bounded : ∀ a ∈ [Argument.text "a", .text " +007", .float ⟨false, 0x10000000000000, 11⟩,
      .integer 5], a.Bounded := by
    intro a member n whole
    subst whole
    simp only [List.mem_cons, reduceCtorEq, Argument.integer.injEq, List.not_mem_nil, or_false,
      false_or] at member
    subst member
    decide
  exact ⟨bounded, by decide +kernel, (bind_written_iff .input bounded ⟨0, 0⟩).1⟩

/-- The numeral of the number just beyond the last index binds to the last index. -/
theorem bind_overshoots :
    Argument.decode "18446744073709551616" = .float ⟨false, 0x10000000000000, 12⟩
      ∧ Instruction.readFile.bind [.text "a.txt", .float ⟨false, 0x10000000000000, 12⟩]
        = .ok [.text "a.txt", .index (some 18446744073709551615), .index none]
      ∧ ¬ Binds WritesIndex Instruction.readFile.slots
          [.text "a.txt", .float ⟨false, 0x10000000000000, 12⟩]
          (Instruction.readFile.bind [.text "a.txt", .float ⟨false, 0x10000000000000, 12⟩]) := by
  refine ⟨by decide +kernel, by decide +kernel, ?_⟩
  have bounded : ∀ a ∈ [Argument.text "a.txt", .float ⟨false, 0x10000000000000, 12⟩],
      a.Bounded := by
    intro a member n whole
    subst whole
    simp only [List.mem_cons, reduceCtorEq, List.not_mem_nil, or_self] at member
  refine (fillSlots_binds _ bounded).not_writesIndex (nodup_slot_names .readFile) ?_
  refine ⟨1, _, _, rfl, nofun, rfl, ⟨_, rfl, ?_⟩, ?_⟩
  · unfold Decimal.Binary.value Decimal.Binary.magnitude
    norm_num
  · intro j before slot here
    obtain rfl : j = 0 := Nat.lt_one_iff.mp before
    obtain rfl := Option.some.inj here
    exact ⟨_, .text "path" (.text "a.txt")⟩

end Instruction

end ReplyScript
