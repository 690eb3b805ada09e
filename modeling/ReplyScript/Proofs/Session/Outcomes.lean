import ReplyScript.Proofs.Instruction.Binding
import ReplyScript.Proofs.Session.Batch
import ReplyScript.Proofs.Session.Conduct

/-! # What performing a command comes to

A command without a document that it needs does nothing, one whose work fails leaves off there, and
all others report. So a command whose arguments do not fit, or that finds no active document, has
done nothing, and a document that is active stays so, or another one takes its place. Main
statements: `Action.outcome`, `Deed.outcome`, `Deed.failure` and `Carried.pairwise`.
-/

namespace ReplyScript

open Effect Scene
open Script (Command)

/-- What performing an action in a scene comes to. -/
inductive Action.Outcome (a : Action) (s : Scene) : Except CommandError Unit × Scene → Prop
  | unready (needs : a.instruction.needsDocument = true) (none : s.session.active = none) :
      Outcome a s (.error (.noActiveDocument a.instruction.name), s)
  | failed (fault : Fault) (t : Scene)
      (ready : a.instruction.needsDocument = true → s.session.active ≠ none)
      (worked : a.work.run.run s = (.error (.failed a.instruction.name fault), t))
      (reached : a.Reaches s t) (later : t.world.Later s.world)
      (internal : ∀ text, s.world.Reported t.world (.internal text) ↔ fault = .internal text) :
      Outcome a s (.error (.failed a.instruction.name fault), t)
  | completed (r : Report) (t : Scene)
      (ready : a.instruction.needsDocument = true → s.session.active ≠ none)
      (worked : a.work.run.run s = (.ok r, t))
      (reached : a.Reaches s t) (later : t.world.Later s.world)
      (internal : ∀ text, ¬ s.world.Reported t.world (.internal text)) :
      Outcome a s (.ok (), r.scene a.instruction t)

namespace Action

/-- Without an active document, an operation that begins with it fails there. -/
theorem bind_unready {α : Type} {i : Instruction} {s : Scene} (none : s.session.active = none)
    (f : Document → SceneM α) :
    (activeDocument i >>= f).run.run s = (.error (.noActiveDocument i.name), s) := by
  rw [run_bind, run_activeDocument, none]

theorem perform_unready {a : Action} (needs : a.instruction.needsDocument = true) {s : Scene}
    (none : s.session.active = none) :
    a.perform.run.run s = (.error (.noActiveDocument a.instruction.name), s) := by
  cases a with
  | undo | redo | select | cut | paste | getSyntaxErrors => exact bind_unready none _
  | _ => cases needs

theorem outcome (a : Action) (s : Scene) : a.Outcome s (a.perform.run.run s) := by
  -- Unless the document is missing, the work keeps to its conduct, and what follows is the report.
  by_cases unready : a.instruction.needsDocument = true ∧ s.session.active = none
  · obtain ⟨needs, none⟩ := unready
    rw [perform_unready needs none]
    exact .unready needs none
  · have ready : a.instruction.needsDocument = true → s.session.active ≠ none :=
      fun needs none => unready ⟨needs, none⟩
    have ended := a.conduct ready s (.refl a s)
    rw [run_perform]
    rcases worked : a.work.run.run s with ⟨e | r, t⟩
    · rw [worked] at ended
      obtain ⟨fault, rfl⟩ := ended.failed e rfl
      refine .failed fault t ready worked ended.kept ended.later fun text => ?_
      refine (ended.internal text).trans ?_
      rw [Except.error.injEq]
      constructor
      · rintro ⟨⟩
        rfl
      · rintro rfl
        rfl
    · rw [worked] at ended
      refine .completed r t ready worked ended.kept ended.later fun text reported => ?_
      cases (ended.internal text).mp reported

end Action

/-- What the performance of a command comes to. -/
inductive Deed.Outcome (d : Deed) : Prop
  | refused (e : CommandError) (refused : d.command.action? = .error e)
      (result : d.result = .error e) (after : d.after = d.before)
  | unknown (unknown : d.command.action? = .ok none) (result : d.result = .ok ())
      (after : d.after = d.before)
  | performed (a : Action) (asked : d.action? = some a)
      (outcome : a.Outcome d.before (d.result, d.after))

theorem Deed.outcome (d : Deed) : d.Outcome := by
  rcases asked : d.command.action? with e | known
  · refine .refused e asked ?_ ?_
    · unfold result Command.perform
      rw [asked]
      rfl
    · unfold after Command.perform
      rw [asked]
      rfl
  · cases known with
    | none =>
        refine .unknown asked ?_ ?_
        · unfold result Command.perform
          rw [asked]
          rfl
        · unfold after Command.perform
          rw [asked]
          rfl
    | some a =>
        have asked := action?_eq_some_iff.mpr asked
        refine .performed a asked ?_
        rw [result_of_action asked, after_of_action asked]
        exact a.outcome d.before

/-! ## Preconditions -/

namespace Deed

variable {d : Deed}

/-- How a command fails. -/
inductive Failure (d : Deed) : CommandError → Prop
  | invalidArguments (i : Instruction) (problem : BindError) (named : d.command.name = i.name)
      (unbound : i.bind d.command.arguments = .error problem) (still : d.after = d.before) :
      Failure d (.invalidArguments d.command.name problem)
  | noActiveDocument (i : Instruction) (needs : i.needsDocument = true) (fits : d.command.Fits i)
      (none : d.before.session.active = none) (still : d.after = d.before) :
      Failure d (.noActiveDocument d.command.name)
  | failed (fault : Fault) : Failure d (.failed d.command.name fault)

theorem failure {e : CommandError} (failed : d.result = .error e) : d.Failure e := by
  obtain ⟨e, refused, result, after⟩ | ⟨_, result, _⟩ | ⟨a, asked, outcome⟩ := d.outcome
  · obtain rfl := Except.error.inj (failed.symm.trans result)
    obtain ⟨i, problem, named, unbound, rfl⟩ := Command.action?_eq_error_iff.mp refused
    exact .invalidArguments i problem named unbound after
  · rw [failed] at result
    cases result
  · have asked := action?_eq_some_iff.mp asked
    have own := Command.name_of_action asked
    rw [failed] at outcome
    generalize left : d.after = t at outcome
    cases outcome with
    | unready needs none =>
        rw [← own]
        exact .noActiveDocument _ needs (Command.fits_iff.mpr ⟨a, asked, rfl⟩) none left
    | failed fault t =>
        rw [← own]
        exact .failed fault

theorem after_of_precondition {e : CommandError} (failed : d.result = .error e)
    (early : e.isPrecondition = true) : d.after = d.before := by
  cases failure failed with
  | invalidArguments i problem named unbound still => exact still
  | noActiveDocument i needs fits none still => exact still
  | failed fault => cases early

theorem noActiveDocument_iff {name : String} :
    d.result = .error (.noActiveDocument name) ↔ d.before.session.active = none
      ∧ ∃ i : Instruction, i.needsDocument = true ∧ d.command.Fits i ∧ name = i.name := by
  constructor
  · intro failed
    cases failure failed with
    | noActiveDocument i needs fits none => exact ⟨none, i, needs, fits, fits.1⟩
  · rintro ⟨none, i, needs, fits, rfl⟩
    obtain ⟨a, asked, rfl⟩ := Command.fits_iff.mp fits
    rw [result_of_action (action?_eq_some_iff.mpr asked), Action.perform_unready needs none]

theorem invalidArguments_iff {name : String} {problem : BindError} :
    d.result = .error (.invalidArguments name problem) ↔ name = d.command.name
      ∧ ∃ i : Instruction, name = i.name ∧ i.bind d.command.arguments = .error problem := by
  constructor
  · intro failed
    cases failure failed with
    | invalidArguments i problem named unbound => exact ⟨rfl, i, named, unbound⟩
  · rintro ⟨rfl, i, named, unbound⟩
    have refused := Command.action?_eq_error_iff.mpr ⟨i, problem, named, unbound, rfl⟩
    unfold result Command.perform
    rw [refused]
    rfl

/-- No command leaves a session without a document that had one. -/
theorem active_after (active : d.before.session.active ≠ none) :
    d.after.session.active ≠ none := by
  have kept {a : Action} {t : Scene} (reached : a.Reaches d.before t) :
      t.session.active ≠ none := by
    rcases reached.active with same | ⟨document, made, -⟩
    · rw [same]
      exact active
    · rw [made]
      exact Option.some_ne_none document
  obtain ⟨_, _, _, after⟩ | ⟨_, _, after⟩ | ⟨a, asked, outcome⟩ := d.outcome
  · rw [after]
    exact active
  · rw [after]
    exact active
  · generalize d.result = result, d.after = t at outcome
    cases outcome with
    | unready needs none => exact active
    | failed fault t ready worked reached => exact kept reached
    | completed r t ready worked reached =>
        have here : t.session.active ≠ none := kept reached
        exact here

end Deed

/-! ## Chains of deeds -/

/-- The deeds lead from a session with an active document, or without one, to a session with such a
document. Between them the active document stays what it is. -/
def Carried : Option Document → List Deed → Option Document → Prop
  | first, [], last => first = last
  | first, d :: ds, last =>
      d.before.session.active = first ∧ Carried d.after.session.active ds last

namespace Carried

variable {first middle last : Option Document} {ds es : List Deed}

theorem append (early : Carried first ds middle) (late : Carried middle es last) :
    Carried first (ds ++ es) last := by
  induction ds generalizing first with
  | nil =>
      cases early
      exact late
  | cons d rest ih => exact ⟨early.1, ih early.2⟩

theorem of_linked {s t : Scene} (linked : Linked s ds t) :
    Carried s.session.active ds t.session.active := by
  induction ds generalizing s with
  | nil => exact congrArg (·.session.active) linked
  | cons d rest ih => exact ⟨congrArg (·.session.active) linked.1, ih linked.2⟩

/-- From a session with an active document on, every deed finds one. -/
theorem active_before (carried : Carried first ds last) (active : first ≠ none) :
    ∀ d ∈ ds, d.before.session.active ≠ none := by
  induction ds generalizing first with
  | nil => exact nofun
  | cons d rest ih =>
      obtain ⟨before, later⟩ := carried
      have here : d.before.session.active ≠ none := by
        rw [before]
        exact active
      exact List.forall_mem_cons.mpr ⟨here, ih later (Deed.active_after here)⟩

/-- Once a deed has left an active document, no later one misses it. -/
theorem pairwise (carried : Carried first ds last) :
    ds.Pairwise fun earlier later => earlier.after.session.active ≠ none →
      ∀ name, later.result ≠ .error (.noActiveDocument name) := by
  induction ds generalizing first with
  | nil => exact .nil
  | cons d rest ih =>
      refine .cons (fun later member active name failed => ?_) (ih carried.2)
      exact carried.2.active_before active later member (Deed.noActiveDocument_iff.mp failed).1

end Carried

end ReplyScript
