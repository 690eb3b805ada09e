import ReplyScript.Proofs.Session.Confinement

/-! # Faults and what they come to

A fault of a service is internal or not. Commands that look something up or try something out tell
the model of faults that are not internal, and all commands fail with those that are. Main
statements: `Deed.probed` and `performAll_interrupted`.
-/

namespace ReplyScript

open Effect Scene
open Script (Command)

/-- The fault that an operation on the world fails with, if it does. -/
def World.failure? {α : Type} (w : World) (op : WorldM α) : Option Fault :=
  match (op.run.run w).1 with
  | .ok _ => none
  | .error fault => some fault

/-- The fault that the service comes to which an action looks something up with, or tries something
out with. A terminal command that is not confirmed calls none. -/
def Action.probed (s : Scene) : Action → Option Fault
  | readFile path _ _ => s.world.failure? (World.readText path)
  | listFiles path => s.world.failure? (World.listDirectory path)
  | createFile path => s.world.failure? (World.writeFile path "")
  | search query => s.world.failure? (World.search query)
  | runInTerminal command =>
      if (s.world.confirm command).1 then
        (s.world.confirm command).2.failure? (World.runCommand command)
      else none
  | _ => none

/-! ## Probing -/

theorem Instruction.needsDocument_of_probes {i : Instruction} (probes : i.probes = true) :
    i.needsDocument = false := by
  cases i with
  | readFile | listFiles | createFile | search | runInTerminal => rfl
  | _ => cases probes

theorem World.failure?_eq_some_iff {α : Type} {w : World} {op : WorldM α} {fault : Fault} :
    w.failure? op = some fault ↔ (op.run.run w).1 = .error fault := by
  unfold failure?
  cases (op.run.run w).1 with
  | ok a => exact iff_of_false nofun nofun
  | error f => rw [Option.some.injEq, Except.error.injEq]

theorem probe_failed {α : Type} {i : Instruction} {op : WorldM α} {s t : Scene} {e : CommandError}
    (failed : (probe i op).run.run s = (.error e, t)) :
    ∃ text, e = .failed i.name (.internal text) := by
  rw [run_probe] at failed
  rcases ran : op.run.run s.world with ⟨fault | a, world⟩
  · rw [ran] at failed
    simp only at failed
    split at failed
    · rename_i isInternal
      cases failed
      cases fault with
      | internal text => exact ⟨text, rfl⟩
      | _ => cases isInternal
    · cases failed
  · rw [ran] at failed
    cases failed

theorem probe_told {α : Type} {i : Instruction} {op : WorldM α} {s : Scene} {fault : Fault}
    (failed : s.world.failure? op = some fault) (plain : fault.isInternal = false)
    {tell : Except String α → SceneM Unit}
    (tells : tell (.error fault.message) = respond i fault.message) :
    ((probe i op >>= tell).run.run s).1 = .ok ()
      ∧ ((probe i op >>= tell).run.run s).2.session
        = s.session.addRequest (Prompt.responseBlock i.name fault.message) := by
  have result := World.failure?_eq_some_iff.mp failed
  rw [run_bind, run_probe]
  rcases ran : op.run.run s.world with ⟨f | a, world⟩
  · rw [ran] at result
    cases result
    -- A probe passes on the message of such a fault, so what follows is what tells it.
    simp only [plain, Bool.false_eq_true, if_false, tells]
    exact ⟨rfl, rfl⟩
  · rw [ran] at result
    cases result

namespace Action

variable {a : Action} {s t : Scene}

theorem work_failed {e : CommandError} (probes : a.instruction.probes = true)
    (failed : a.work.run.run s = (.error e, t)) :
    ∃ text, e = .failed a.instruction.name (.internal text) := by
  have returns {α : Type} {op : SceneM α} {words : α → Report}
      (failed : (do return words (← op) : SceneM Report).run.run s = (.error e, t)) :
      op.run.run s = (.error e, t) := by
    rcases bind_failed failed with early | ⟨x, u, ran, late⟩
    · exact early
    · cases late
  cases a with
  | readFile | listFiles | createFile | search => exact probe_failed (returns failed)
  | runInTerminal command =>
      have failed : (runAndShow command).run.run s = (.error e, t) := returns failed
      rcases bind_failed failed with early | ⟨confirmed, u, ran, late⟩
      · cases early
      · cases confirmed with
        | false => cases late
        | true =>
            rcases bind_failed late with early | ⟨result, v, ran, last⟩
            · exact probe_failed early
            · cases last
  | _ => cases probes

/-- If the service fails, but not with an internal fault, then the model is told. -/
theorem perform_probed {fault : Fault} (failed : a.probed s = some fault)
    (plain : fault.isInternal = false) : (a.perform.run.run s).1 = .ok ()
      ∧ (a.perform.run.run s).2.session
        = s.session.addRequest (Prompt.responseBlock a.instruction.name fault.message) := by
  cases a with
  | readFile path first last => exact probe_told failed plain rfl
  | listFiles path => exact probe_told failed plain rfl
  | createFile path => exact probe_told failed plain rfl
  | search query => exact probe_told failed plain rfl
  | runInTerminal command =>
      simp only [probed] at failed
      unfold perform performRunInTerminal
      rw [run_bind, run_confirm]
      simp only
      cases confirmed : (s.world.confirm command).1 with
      | false =>
          rw [confirmed] at failed
          cases failed
      | true =>
          rw [confirmed] at failed
          have failed : (s.world.confirm command).2.failure? (World.runCommand command)
              = some fault := failed
          exact probe_told (s := { s with world := (s.world.confirm command).2 }) failed plain rfl
  | _ => cases failed

end Action

/-! ## Deeds -/

namespace Deed

variable {d : Deed}

/-- A service has reported the fault to the command. -/
def Reports (d : Deed) (fault : Fault) : Prop :=
  d.before.world.Reported d.after.world fault

/-- A command that looks something up, or tries something out. -/
structure Probed (d : Deed) (i : Instruction) : Prop where
  completes : d.result = .ok () ∨ ∃ text, d.Reports (.internal text)
    ∧ d.result = .error (.failed i.name (.internal text))
  /-- Nothing but the text for the next request changes; at its end the model is told the fault. -/
  told : ∀ a fault, d.action? = some a → a.probed d.before = some fault →
    fault.isInternal = false → d.result = .ok ()
      ∧ ∃ block, Ledger.Responds i.name fault.message block
        ∧ d.after.session = { d.before.session with
          request := Ledger.appended d.before.session.request block }
  goesOn : d.result = .ok () → ∀ index rest,
    performFrom index (d.command :: rest) d.before = performFrom (index + 1) rest d.after

theorem performFrom_completed (completed : d.result = .ok ()) (index : Nat) (rest : List Command) :
    performFrom index (d.command :: rest) d.before = performFrom (index + 1) rest d.after := by
  unfold result at completed
  unfold after
  rw [performFrom_cons]
  rcases ran : d.command.perform.run.run d.before with ⟨e | done, t⟩
  · rw [ran] at completed
    cases completed
  · rfl

/-- A command that looks something up is completed, unless a service reports an internal fault to
it. -/
theorem probed {i : Instruction} (probes : i.probes = true) (fits : d.command.Fits i) :
    d.Probed i := by
  obtain ⟨a, asked, rfl⟩ := Command.fits_iff.mp fits
  have asked := action?_eq_some_iff.mpr asked
  refine ⟨?_, ?_, performFrom_completed⟩
  · have outcome := a.outcome d.before
    unfold Reports
    rw [result_of_action asked, after_of_action asked]
    generalize a.perform.run.run d.before = run at outcome
    cases outcome with
    | unready needs none =>
        rw [Instruction.needsDocument_of_probes probes] at needs
        cases needs
    | failed fault t ready worked reached later internal =>
        obtain ⟨text, same⟩ := Action.work_failed probes worked
        cases same
        exact .inr ⟨text, (internal text).mpr rfl, rfl⟩
    | completed r t => exact .inl rfl
  · intro b fault also failed plain
    obtain rfl := Option.some.inj (asked.symm.trans also)
    rw [result_of_action asked, after_of_action asked]
    obtain ⟨completed, told⟩ := Action.perform_probed failed plain
    refine ⟨completed, _, Ledger.responds_responseBlock _ fault.message, ?_⟩
    rw [told, Ledger.addRequest_eq _ (responseBlock_ne_empty _ _)]

/-- A command fails with an internal fault exactly if a service has reported it. -/
theorem reports_internal_iff {text : String} : d.Reports (.internal text)
    ↔ d.result = .error (.failed d.command.name (.internal text)) := by
  unfold Reports
  obtain ⟨e, refused, result, after⟩ | ⟨_, result, after⟩ | ⟨a, asked, outcome⟩ := d.outcome
  · rw [after, result]
    refine iff_of_false (World.not_reported_of_faults rfl) ?_
    obtain ⟨i, problem, -, -, rfl⟩ := Command.action?_eq_error_iff.mp refused
    exact nofun
  · rw [after, result]
    exact iff_of_false (World.not_reported_of_faults rfl) nofun
  · rw [Command.name_of_action (action?_eq_some_iff.mp asked)]
    generalize d.result = result, d.after = t at outcome
    cases outcome with
    | unready needs none => exact iff_of_false (World.not_reported_of_faults rfl) nofun
    | failed fault t ready worked reached later internal =>
        rw [internal text, Except.error.injEq, CommandError.failed.injEq]
        exact (and_iff_right rfl).symm
    | completed r t ready worked reached later internal =>
        exact iff_of_false (internal text) nofun

theorem isRecoverable_eq_false_iff {e : CommandError} (failed : d.result = .error e) :
    e.isRecoverable = false ↔ ∃ text, d.Reports (.internal text) := by
  constructor
  · intro final
    cases failure failed with
    | invalidArguments i problem => cases final
    | noActiveDocument i => cases final
    | failed fault =>
        cases fault with
        | internal text => exact ⟨text, reports_internal_iff.mpr failed⟩
        | _ => cases final
  · rintro ⟨text, reported⟩
    rw [reports_internal_iff, failed] at reported
    cases reported
    rfl

end Deed

/-! ## Batches -/

theorem aborted_of_failed {cs : List Command} {s : Scene} {d : Deed} (member : d ∈ deeds cs s)
    {e : CommandError} (failed : d.result = .error e) :
    ∃ early, deeds cs s = early ++ [d] ∧ (performAll cs s).1 = some ⟨early.length, e⟩ := by
  have performed := performAll_deeds cs s
  cases aborted : (performAll cs s).1 with
  | none =>
      rw [aborted] at performed
      rw [performed.2 d member] at failed
      cases failed
  | some a =>
      rw [aborted] at performed
      obtain ⟨early, last, parts, index, -, completed, error⟩ := performed
      rw [parts] at member
      rcases List.mem_append.mp member with before | here
      · rw [completed d before] at failed
        cases failed
      · obtain rfl := List.mem_singleton.mp here
        rw [error] at failed
        refine ⟨early, parts, ?_⟩
        rw [← Except.error.inj failed, ← index]

/-- A batch is given up for good exactly if an internal fault was reported to one of its commands,
and that command is the one that failed. -/
theorem performAll_interrupted {cs : List Command} {s : Scene} {a : Abort}
    (aborted : (performAll cs s).1 = some a) :
    a.error.isRecoverable = false
      ↔ ∃ d ∈ deeds cs s, ∃ text, d.Reports (.internal text) := by
  have performed := performAll_deeds cs s
  rw [aborted] at performed
  obtain ⟨early, last, parts, -, -, completed, failed⟩ := performed
  rw [Deed.isRecoverable_eq_false_iff failed]
  have member : last ∈ deeds cs s := by
    rw [parts]
    exact List.mem_append_right _ List.mem_cons_self
  constructor
  · intro reported
    exact ⟨last, member, reported⟩
  · rintro ⟨d, inside, text, reported⟩
    rw [parts] at inside
    rcases List.mem_append.mp inside with before | here
    · rw [Deed.reports_internal_iff, completed d before] at reported
      cases reported
    · obtain rfl := List.mem_singleton.mp here
      exact ⟨text, reported⟩

end ReplyScript
