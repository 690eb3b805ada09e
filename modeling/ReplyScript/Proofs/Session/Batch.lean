import ReplyScript.Proofs.Session.Operations
import ReplyScript.Session.Batch

/-! # Batches command by command

A batch that is given up performed all commands before the one that failed, and nothing after it.
Either way it is its deeds, one after another, and it may be performed in parts. Main statements:
`performAll_aborted`, `linked_deeds`, `performAll_deeds` and `performAll_parts`.
-/

namespace ReplyScript

open Script (Command)
open Effect

theorem performFrom_cons (index : Nat) (c : Command) (cs : List Command) (s : Scene) :
    performFrom index (c :: cs) s = match c.perform.run.run s with
      | (.ok (), s) => performFrom (index + 1) cs s
      | (.error e, s) => (some ⟨index, e⟩, s) := by
  rcases ran : c.perform.run.run s with ⟨e | done, t⟩
  · simp only [performFrom, ran]
  · simp only [performFrom, ran]

theorem performFrom_append {index : Nat} {early late : List Command} {s here : Scene}
    (performed : performFrom index early s = (none, here)) :
    performFrom index (early ++ late) s = performFrom (index + early.length) late here := by
  induction early generalizing index s with
  | nil =>
      cases performed
      rfl
  | cons c rest ih =>
      rw [performFrom_cons] at performed
      rw [List.cons_append, performFrom_cons]
      rcases ran : c.perform.run.run s with ⟨e | done, next⟩
      · rw [ran] at performed
        cases performed
      · rw [ran] at performed
        simp only
        rw [ih performed, List.length_cons, Nat.add_right_comm, Nat.add_assoc]

theorem performFrom_aborted {index : Nat} {cs : List Command} {s t : Scene} {a : Abort}
    (aborted : performFrom index cs s = (some a, t)) :
    ∃ i c here, a.index = index + i ∧ cs[i]? = some c
      ∧ performFrom index (cs.take i) s = (none, here)
      ∧ c.perform.run.run here = (.error a.error, t) := by
  induction cs generalizing index s with
  | nil => cases aborted
  | cons c rest ih =>
      rw [performFrom_cons] at aborted
      rcases ran : c.perform.run.run s with ⟨e | done, next⟩
      · rw [ran] at aborted
        cases aborted
        exact ⟨0, c, s, rfl, rfl, rfl, ran⟩
      · rw [ran] at aborted
        obtain ⟨i, failing, here, number, found, before, failed⟩ := ih aborted
        refine ⟨i + 1, failing, here, by omega, found, ?_, failed⟩
        rw [List.take_succ_cons, performFrom_cons, ran]
        exact before

theorem performAll_aborted {cs : List Command} {s t : Scene} {a : Abort}
    (aborted : performAll cs s = (some a, t)) :
    ∃ c here, cs[a.index]? = some c ∧ performAll (cs.take a.index) s = (none, here)
      ∧ c.perform.run.run here = (.error a.error, t) := by
  obtain ⟨i, c, here, number, found, before, failed⟩ := performFrom_aborted aborted
  rw [Nat.zero_add] at number
  rw [number]
  exact ⟨c, here, found, before, failed⟩

/-! ## One deed -/

namespace Deed

variable {d : Deed}

theorem action?_eq_some_iff {a : Action} :
    d.action? = some a ↔ d.command.action? = .ok (some a) := by
  unfold action?
  cases d.command.action? with
  | ok known => simp
  | error e => simp

theorem perform_of_action {a : Action} (asked : d.action? = some a) :
    d.command.perform = a.perform := by
  unfold Command.perform
  rw [action?_eq_some_iff.mp asked]

theorem result_of_action {a : Action} (asked : d.action? = some a) :
    d.result = (a.perform.run.run d.before).1 := by
  rw [result, perform_of_action asked]

theorem after_of_action {a : Action} (asked : d.action? = some a) :
    d.after = (a.perform.run.run d.before).2 := by
  rw [after, perform_of_action asked]

theorem after_of_no_action (none : d.action? = none) : d.after = d.before := by
  unfold action? at none
  unfold after Command.perform
  rcases action : d.command.action? with e | known
  · rfl
  · rw [action] at none
    cases none
    rfl

end Deed

/-! ## Chains of deeds -/

/-- The deeds lead from one scene to another. -/
def Linked : Scene → List Deed → Scene → Prop
  | s, [], t => s = t
  | s, d :: ds, t => d.before = s ∧ Linked d.after ds t

theorem deeds_cons (c : Command) (cs : List Command) (s : Scene) :
    deeds (c :: cs) s = ⟨c, s⟩ :: match (⟨c, s⟩ : Deed).result with
      | .ok () => deeds cs (⟨c, s⟩ : Deed).after
      | .error _ => [] :=
  rfl

theorem linked_deedsFrom (index : Nat) (cs : List Command) (s : Scene) :
    Linked s (deeds cs s) (performFrom index cs s).2 := by
  induction cs generalizing index s with
  | nil => rfl
  | cons c rest ih =>
      rw [deeds_cons, performFrom_cons]
      refine ⟨rfl, ?_⟩
      unfold Deed.result Deed.after
      rcases c.perform.run.run s with ⟨e | done, t⟩
      · rfl
      · exact ih (index + 1) t

/-- The deeds of a batch lead from its first scene to its last. -/
theorem linked_deeds (cs : List Command) (s : Scene) : Linked s (deeds cs s) (performAll cs s).2 :=
  linked_deedsFrom 0 cs s

theorem performFrom_deeds (index : Nat) (cs : List Command) (s : Scene) :
    match (performFrom index cs s).1 with
    | none => (deeds cs s).map Deed.command = cs ∧ ∀ d ∈ deeds cs s, d.result = .ok ()
    | some a => ∃ early d, deeds cs s = early ++ [d] ∧ a.index = index + early.length
        ∧ (deeds cs s).map Deed.command <+: cs ∧ (∀ d ∈ early, d.result = .ok ())
        ∧ d.result = .error a.error := by
  induction cs generalizing index s with
  | nil => exact ⟨rfl, by simp [deeds]⟩
  | cons c rest ih =>
      have later := ih (index + 1) (⟨c, s⟩ : Deed).after
      have result : (⟨c, s⟩ : Deed).result = (c.perform.run.run s).1 := rfl
      have after : (⟨c, s⟩ : Deed).after = (c.perform.run.run s).2 := rfl
      rw [deeds_cons, performFrom_cons, result]
      rcases ran : c.perform.run.run s with ⟨e | done, t⟩
      · rw [ran] at result
        exact ⟨[], ⟨c, s⟩, rfl, rfl, by simp, by simp, result⟩
      · rw [ran] at result after
        rw [after] at later ⊢
        simp only
        cases abort : (performFrom (index + 1) rest t).1 with
        | none =>
            rw [abort] at later
            obtain ⟨commands, completed⟩ := later
            exact ⟨by rw [List.map_cons, commands],
              List.forall_mem_cons.mpr ⟨result, completed⟩⟩
        | some a =>
            rw [abort] at later
            obtain ⟨early, d, parts, number, commands, completed, failed⟩ := later
            refine ⟨⟨c, s⟩ :: early, d, by rw [parts]; rfl, ?_, ?_,
              List.forall_mem_cons.mpr ⟨result, completed⟩, failed⟩
            · rw [List.length_cons, number]
              omega
            · rw [List.map_cons]
              exact List.cons_prefix_cons.mpr ⟨rfl, commands⟩

/-- A batch that comes to its end has a deed for every command. One that is given up ends with the
deed that fails, and all deeds before it are completed. -/
theorem performAll_deeds (cs : List Command) (s : Scene) :
    match (performAll cs s).1 with
    | none => (deeds cs s).map Deed.command = cs ∧ ∀ d ∈ deeds cs s, d.result = .ok ()
    | some a => ∃ early d, deeds cs s = early ++ [d] ∧ a.index = early.length
        ∧ (deeds cs s).map Deed.command <+: cs ∧ (∀ d ∈ early, d.result = .ok ())
        ∧ d.result = .error a.error := by
  have numbered := performFrom_deeds 0 cs s
  simp only [Nat.zero_add] at numbered
  exact numbered

/-! ## Batches in parts -/

/-- The same abort, `n` commands later in a batch. -/
def Abort.shift (n : Nat) (a : Abort) : Abort :=
  { a with index := n + a.index }

/-- Whether a command has the name of an instruction. -/
def Script.Command.isKnown (c : Command) : Bool :=
  (Instruction.ofName? c.name).isSome

/-- An abort of a batch as an abort of its commands with known names. -/
def Abort.amongKnown (cs : List Command) (a : Abort) : Abort :=
  { a with index := ((cs.take a.index).filter Command.isKnown).length }

theorem performFrom_shift (n index : Nat) (cs : List Command) (s : Scene) :
    performFrom (n + index) cs s
      = ((performFrom index cs s).1.map (Abort.shift n), (performFrom index cs s).2) := by
  induction cs generalizing index s with
  | nil => rfl
  | cons c rest ih =>
      rw [performFrom_cons, performFrom_cons]
      rcases c.perform.run.run s with ⟨e | done, t⟩
      · rfl
      · exact ih (index + 1) t

theorem performAll_cons (c : Command) (cs : List Command) (s : Scene) :
    performAll (c :: cs) s = match c.perform.run.run s with
      | (.ok (), t) => ((performAll cs t).1.map (Abort.shift 1), (performAll cs t).2)
      | (.error e, t) => (some ⟨0, e⟩, t) := by
  unfold performAll
  rw [performFrom_cons]
  rcases c.perform.run.run s with ⟨e | done, t⟩
  · rfl
  · exact performFrom_shift 1 0 cs t

/-- A batch goes on with its second part where the first comes to its end. -/
theorem performAll_append (xs ys : List Command) (s : Scene) :
    performAll (xs ++ ys) s = match performAll xs s with
      | (none, here) =>
          ((performAll ys here).1.map (Abort.shift xs.length), (performAll ys here).2)
      | (some a, here) => (some a, here) := by
  induction xs generalizing s with
  | nil =>
      have here : Abort.shift 0 = id := by
        funext a
        simp [Abort.shift]
      simp [performAll, performFrom, here]
  | cons x xs ih =>
      rw [List.cons_append, performAll_cons, performAll_cons]
      rcases x.perform.run.run s with ⟨e | done, t⟩
      · rfl
      · simp only [ih t]
        rcases performAll xs t with ⟨_ | a, here⟩
        · simp only [Option.map_none, Option.map_map]
          congr 2
          funext a
          simp only [Function.comp_apply, Abort.shift, List.length_cons, Abort.mk.injEq, and_true]
          omega
        · rfl

/-- What follows the command that failed makes no difference. -/
theorem performAll_cut {cs : List Command} {s t : Scene} {a : Abort}
    (aborted : performAll cs s = (some a, t)) (late : List Command) :
    performAll (cs.take (a.index + 1) ++ late) s = (some a, t) := by
  obtain ⟨c, here, found, before, failed⟩ := performAll_aborted aborted
  have within := (List.getElem?_eq_some_iff.mp found).1
  have early : cs.take (a.index + 1) = cs.take a.index ++ [c] := by
    rw [List.take_add_one, found]
    rfl
  rw [early, List.append_assoc, performAll_append, before]
  simp only [List.singleton_append, performAll_cons, failed, Option.map_some, Abort.shift,
    List.length_take_of_le (Nat.le_of_lt within), Nat.add_zero]

theorem perform_unknown {c : Command} (unknown : c.isKnown = false) (s : Scene) :
    c.perform.run.run s = (.ok (), s) := by
  have noName : Instruction.ofName? c.name = none := by simpa [Command.isKnown] using unknown
  simp only [Command.perform, Command.action?, noName]
  rfl

/-- Commands with unknown names count, and that is all. -/
theorem performAll_filter (cs : List Command) (s : Scene) :
    performAll (cs.filter Command.isKnown) s
      = ((performAll cs s).1.map (Abort.amongKnown cs), (performAll cs s).2) := by
  induction cs generalizing s with
  | nil => rfl
  | cons c cs ih =>
      rw [performAll_cons]
      cases known : c.isKnown with
      | false =>
          rw [List.filter_cons_of_neg (by simp [known]), ih, perform_unknown known]
          simp only [Option.map_map]
          congr 2
          funext a
          simp [Abort.amongKnown, Abort.shift, Nat.add_comm 1, known]
      | true =>
          rw [List.filter_cons_of_pos known, performAll_cons]
          rcases c.perform.run.run s with ⟨e | done, t⟩
          · rfl
          · simp only [ih t, Option.map_map]
            congr 2
            funext a
            simp [Abort.amongKnown, Abort.shift, Nat.add_comm 1, known]

/-- A batch may be performed in parts, each from where the one before it left off, with aborts
numbered on. An abort does not depend on the commands behind the one that failed, and neither do the
scenes it leads through. Of batches that differ by commands with unknown names all do the same. -/
theorem performAll_parts (s : Scene) :
    (∀ xs ys, performAll (xs ++ ys) s = match performAll xs s with
        | (none, here) =>
            ((performAll ys here).1.map (Abort.shift xs.length), (performAll ys here).2)
        | (some a, here) => (some a, here))
      ∧ (∀ cs a t, performAll cs s = (some a, t) →
        ∀ late, performAll (cs.take (a.index + 1) ++ late) s = (some a, t))
      ∧ ∀ cs more, more.filter Command.isKnown = cs.filter Command.isKnown →
        (performAll more s).2 = (performAll cs s).2
          ∧ (performAll more s).1.map (Abort.amongKnown more)
            = (performAll cs s).1.map (Abort.amongKnown cs) := by
  refine ⟨fun xs ys => performAll_append xs ys s, fun cs a t => performAll_cut, ?_⟩
  intro cs more same
  have both := performAll_filter more s
  rw [same, performAll_filter cs s, Prod.mk.injEq] at both
  exact ⟨both.2.symm, both.1.symm⟩

/-- Nothing can be undone while no document is active. -/
theorem performAll_parts_noDocument :
    ∃ s, performAll [⟨"wave", [], ⟨0, 0⟩⟩, ⟨"undo", [], ⟨0, 0⟩⟩] s
        = (some ⟨1, .noActiveDocument "undo"⟩, s)
      ∧ performAll [⟨"wave", [], ⟨0, 0⟩⟩, ⟨"undo", [], ⟨0, 0⟩⟩, ⟨"readMemory", [], ⟨0, 0⟩⟩] s
        = (some ⟨1, .noActiveDocument "undo"⟩, s)
      ∧ (performAll [⟨"wave", [], ⟨0, 0⟩⟩, ⟨"undo", [], ⟨0, 0⟩⟩] s).2
        = (performAll [⟨"undo", [], ⟨0, 0⟩⟩] s).2 := by
  let s : Scene := ⟨.empty, .ofWorkspace (.ofDisk [] ⟨[], []⟩) (.scripted [])⟩
  obtain ⟨-, cut, unknown⟩ := performAll_parts s
  have aborted : performAll [⟨"wave", [], ⟨0, 0⟩⟩, ⟨"undo", [], ⟨0, 0⟩⟩] s
      = (some ⟨1, .noActiveDocument "undo"⟩, s) := rfl
  refine ⟨s, aborted, cut _ _ _ aborted [⟨"readMemory", [], ⟨0, 0⟩⟩], ?_⟩
  exact (unknown _ _ (by decide)).1

end ReplyScript
