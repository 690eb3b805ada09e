import ReplyScript.Proofs.World.Faults

/-! # Questions and terminal commands

What asking for a terminal command and running it do to the world.
-/

namespace ReplyScript

open Effect

namespace World

variable (w : World) (command : String)

/-- What is asked before a terminal command runs: nothing if there is no one to ask. -/
def questions : List Event :=
  w.confirmer.toList.map fun _ => .asked command

/-- What a call of the terminal shows: the command only runs if the call is not made to fail. -/
def terminalCall : List Event :=
  .called .terminal command :: if w.fault? .terminal = none then [.ran command] else []

/-- What a terminal command shows: the question, and the call right after it if the answer was yes.
-/
def terminalEvents : List Event :=
  w.questions command ++ if (w.confirm command).1 then w.terminalCall command else []

theorem confirm_frame : ∃ confirmer input, (w.confirm command).2
    = { w with confirmer, input, events := w.events ++ w.questions command } := by
  unfold confirm questions
  cases someone : w.confirmer with
  | none =>
      refine ⟨w.confirmer, w.input, ?_⟩
      simp only [Option.toList_none, List.map_nil, List.append_nil]
  | some confirmer =>
      cases confirmer with
      | scripted answers => exact ⟨some (.scripted answers.tail), w.input, rfl⟩
      | user =>
          simp only
          split
          · exact ⟨w.confirmer, w.input, rfl⟩
          · rename_i line input next
            exact ⟨w.confirmer, input, rfl⟩

theorem faults_confirm : (w.confirm command).2.faults = w.faults := by
  obtain ⟨confirmer, input, same⟩ := w.confirm_frame command
  rw [same]

theorem events_confirm : (w.confirm command).2.events = w.events ++ w.questions command := by
  obtain ⟨confirmer, input, same⟩ := w.confirm_frame command
  rw [same]

/-- A call of the terminal that is made to fail runs nothing. -/
theorem run_runCommand_fault {fault : Fault} (fails : w.fault? .terminal = some fault) :
    (runCommand command).run.run w = (.error fault, w.called .terminal command) := by
  unfold runCommand
  rw [run_bind, run_call, fails]

/-- The world when a terminal command has been let run. -/
def running : World :=
  (w.called .terminal command).record (.ran command)

theorem workspace_running : (w.running command).workspace = w.workspace :=
  w.workspace_called .terminal command

theorem events_running : (w.running command).events
    = w.events ++ [.called .terminal command, .ran command] := by
  rw [running, record, events_called, List.append_assoc]
  rfl

/-- A command that runs may do anything to the disk, and may read the user's input. -/
theorem run_runCommand_works (works : w.fault? .terminal = none) :
    ∃ result disk terminal input, (runCommand command).run.run w
        = (result, { w.running command with
            workspace := { w.workspace with disk }, terminal, input })
      ∧ ∀ fault, result = .error fault → fault.isInternal = false := by
  have running : (w.called .terminal command).record (.ran command) = w.running command := rfl
  unfold runCommand
  simp only [run_bind, run_call, works, run_modify, run_get]
  rw [running, ← w.workspace_running command]
  generalize w.running command = u
  cases answering : u.terminal with
  | scripted answers =>
      cases answers with
      | nil =>
          refine ⟨.ok {}, u.workspace.disk, u.terminal, u.input, rfl, ?_⟩
          exact fun _ failed => nomatch failed
      | cons output rest =>
          refine ⟨.ok output, u.workspace.disk, .scripted rest, u.input, rfl, ?_⟩
          exact fun _ failed => nomatch failed
  | program run =>
      simp only
      cases u.workspace.disk.list u.workspace.root with
      | error e =>
          refine ⟨.error _, u.workspace.disk, u.terminal, u.input, rfl, ?_⟩
          rintro _ ⟨⟩
          rfl
      | ok entries =>
          refine ⟨.ok _, _, .program run, _, rfl, ?_⟩
          exact fun _ failed => nomatch failed

theorem events_runCommand : ((runCommand command).run.run w).2.events
    = w.events ++ w.terminalCall command := by
  unfold terminalCall
  cases fault : w.fault? .terminal with
  | some f =>
      rw [run_runCommand_fault w command fault, if_neg nofun]
      exact w.events_called .terminal command
  | none =>
      obtain ⟨result, disk, terminal, input, ran, -⟩ := w.run_runCommand_works command fault
      rw [ran, if_pos rfl]
      exact w.events_running command

end World

end ReplyScript
