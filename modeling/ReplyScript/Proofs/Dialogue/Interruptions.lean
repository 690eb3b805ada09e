import ReplyScript.Proofs.Dialogue.Retry
import ReplyScript.Proofs.Dialogue.Stopping
import ReplyScript.Proofs.Session.Probes

/-! # Interrupted submissions

A submission in which a batch is given up ends there: with an error if an internal fault was
reported, and otherwise with an outcome that tells the model. Main statement:
`Dialogue.faults_told_or_final`.
-/

namespace ReplyScript

open Script (Command)

namespace Exchange

variable {x : Exchange} {reply : String} {script : Script} {abort : Option Abort}

theorem deeds_of_performed (upshot : x.upshot = .performed reply script abort) :
    x.deeds = ReplyScript.deeds script.commands
      ⟨(x.accepted reply).session, (x.accepted reply).world⟩ := by
  unfold deeds
  rw [upshot]

/-- The batch of an exchange is given up for good exactly if an internal fault was reported in it.
-/
theorem interrupted_iff {a : Abort} (upshot : x.upshot = .performed reply script (some a)) :
    a.error.isRecoverable = false ↔ ∃ p ∈ x.deeds, ∃ text, p.Reports (.internal text) := by
  rw [deeds_of_performed upshot]
  exact performAll_interrupted (of_upshot_performed upshot).2.2

/-- An exchange in which an internal fault was reported has given its batch up. -/
theorem aborted_of_reports {p : Deed} (member : p ∈ x.deeds) {text : String}
    (reported : p.Reports (.internal text)) :
    ∃ reply script a, x.upshot = .performed reply script (some a) := by
  cases upshot : x.upshot with
  | unanswered e =>
      unfold deeds at member
      rw [upshot] at member
      cases member
  | unread reply errors =>
      unfold deeds at member
      rw [upshot] at member
      cases member
  | performed reply script abort =>
      rw [deeds_of_performed upshot] at member
      obtain ⟨early, -, aborted⟩ := aborted_of_failed member (Deed.reports_internal_iff.mp reported)
      have same : (x.performed reply script).1 = abort := (of_upshot_performed upshot).2.2
      rw [← same]
      exact ⟨reply, script, _, congrArg _ aborted⟩

end Exchange

namespace Dialogue

variable {d : Dialogue}

theorem phase_run (idle : d.phase = .idle) (moves : List Move) : (d.run moves).phase = .idle := by
  induction moves generalizing d with
  | nil => exact idle
  | cons move rest ih => exact ih ((accounted idle move).1.trans idle)

/-- A submission ends with the exchange whose batch was given up. -/
theorem send_aborted {text : String} {x : Exchange} (member : x ∈ d.exchanges text) {reply : String}
    {script : Script} {a : Abort} (upshot : x.upshot = .performed reply script (some a)) :
    ∃ replies, d.send text = (x.ending replies, x.after) := by
  obtain ⟨early, last, chain, done, ends, -⟩ := d.send_exchanges text
  rw [chain] at member
  rcases List.mem_append.mp member with before | here
  · have finished := done x before
    rw [upshot] at finished
    cases finished
  · obtain rfl := List.mem_singleton.mp here
    exact ⟨_, ends⟩

/-- If a batch is given up in the course of a submission, either the failure is told to the model,
or the submission fails with it and the text for the next request is left as the batch has left it.
-/
theorem send_given_up {text : String} {x : Exchange} (member : x ∈ d.exchanges text)
    {reply : String} {script : Script} {a : Abort}
    (upshot : x.upshot = .performed reply script (some a)) :
    let left := (x.performed reply script).2.session
    if a.error.isRecoverable then
      (∃ replies, (d.send text).1 = .ok (.halted replies a.error.message))
        ∧ (d.send text).2.session = { left with
          request := Ledger.appended left.request ("error: " ++ a.error.message) }
    else (d.send text).1 = .error (.command a.error) ∧ (d.send text).2.session = left := by
  intro left
  obtain ⟨replies, ends⟩ := send_aborted member upshot
  rw [ends]
  unfold Exchange.ending Exchange.after
  rw [upshot]
  cases recoverable : a.error.isRecoverable with
  | true =>
      simp only [Upshot.failure?, recoverable, if_true]
      exact ⟨⟨_, rfl⟩, Ledger.addRequest_eq _ (error_ne_empty a.error.message)⟩
  | false =>
      simp only [Upshot.failure?, recoverable, Bool.false_eq_true, if_false]
      exact ⟨trivial, rfl⟩

theorem send_interrupted_iff (text : String) : (∃ e, (d.send text).1 = .error (.command e))
    ↔ ∃ x ∈ d.exchanges text, ∃ p ∈ x.deeds, ∃ fault, p.Reports (.internal fault) := by
  constructor
  · rintro ⟨e, failed⟩
    obtain ⟨early, last, chain, -, ends, -⟩ := d.send_exchanges text
    rw [ends] at failed
    obtain ⟨reply, script, a, command, fault, upshot, rfl, internal⟩ :=
      Exchange.ending_command_iff.mp failed
    have final : a.error.isRecoverable = false := by
      rw [internal]
      rfl
    refine ⟨last, ?_, (Exchange.interrupted_iff upshot).mp final⟩
    rw [chain]
    exact List.mem_append_right _ List.mem_cons_self
  · rintro ⟨x, member, p, inside, fault, reported⟩
    obtain ⟨reply, script, a, upshot⟩ := Exchange.aborted_of_reports inside reported
    have final := (Exchange.interrupted_iff upshot).mpr ⟨p, inside, fault, reported⟩
    have given := send_given_up member upshot
    simp only [final, Bool.false_eq_true, if_false] at given
    exact ⟨a.error, given.1⟩

/-- A command that looks something up, or tries something out, is completed unless a service reports
an internal fault; any other fault is told to the model, and nothing else of the session changes. A
command to which an internal fault is reported is the last of its batch, and fails for good; no
other command does. A submission fails with that error and adds nothing to the text for the next
request, while any other failure of a command is told to the model. -/
theorem faults_told_or_final (session : Session) (world : World) (config : DialogueConfig)
    (model : Model) (moves : List Move) (text : String) :
    let d := (start session world config model).run moves
    (∀ (p : Deed) (i : Instruction), i.probes = true → p.command.Fits i → p.Probed i)
      ∧ (∀ (p : Deed) (fault : String), p.Reports (.internal fault)
        ↔ p.result = .error (.failed p.command.name (.internal fault)))
      ∧ (∀ (cs : List Command) (s : Scene),
        (∀ p ∈ deeds cs s, ∀ e, p.result = .error e → ∃ early, deeds cs s = early ++ [p]
          ∧ (performAll cs s).1 = some ⟨early.length, e⟩)
        ∧ ∀ a, (performAll cs s).1 = some a → (a.error.isRecoverable = false
          ↔ ∃ p ∈ deeds cs s, ∃ fault, p.Reports (.internal fault)))
      ∧ (∀ x ∈ d.exchanges text, ∀ reply script a, x.upshot = .performed reply script (some a) →
        let left := (x.performed reply script).2.session
        if a.error.isRecoverable then
          (∃ replies, (d.submit text).1 = .ok (.halted replies a.error.message))
            ∧ (d.submit text).2.session = { left with
              request := Ledger.appended left.request ("error: " ++ a.error.message) }
        else (d.submit text).1 = .error (.command a.error) ∧ (d.submit text).2.session = left)
      ∧ ((∃ e, (d.submit text).1 = .error (.command e))
        ↔ ∃ x ∈ d.exchanges text, ∃ p ∈ x.deeds, ∃ fault, p.Reports (.internal fault)) := by
  intro d
  have idle : d.phase = .idle := phase_run rfl moves
  rw [submit_of_idle idle]
  exact ⟨fun _ _ => Deed.probed, fun _ _ => Deed.reports_internal_iff,
    fun _ _ => ⟨fun _ member _ => aborted_of_failed member, fun _ => performAll_interrupted⟩,
    fun _ member _ _ _ => send_given_up member, send_interrupted_iff text⟩

/-- A dialogue in which a file is missing and searches fail. -/
def failing : Dialogue :=
  .start .empty
    { (Scene.onFile "a.txt" "x").world with
      faults := fun service => if service = .search then [some (.internal "no index")] else [] }
    {} ⟨[⟨[], .ok "@startCommand\n@readFile gone.txt\n@search x\n@endCommand"⟩,
      ⟨[], .ok "@startCommand\n@undo\n@endCommand"⟩], .failed "no answer"⟩

/-- The command that reads the missing file. -/
def readingGone : Deed :=
  ⟨⟨"readFile", [.text "gone.txt"], ⟨0, 0⟩⟩, ⟨.empty, failing.world⟩⟩

/-- The missing file is told, and the search that fails is final; the failure of the next reply is
told again. -/
theorem faults_told_or_final_search :
    readingGone.result = .ok ()
    ∧ (∃ block, Ledger.Responds "readFile" "file not found: gone.txt" block
      ∧ readingGone.after.session = { Session.empty with request := Ledger.appended "" block })
    ∧ readingGone.after.session.request
      = "response to @readFile:\n\x60\x60\x60\nfile not found: gone.txt\n\x60\x60\x60"
    ∧ (failing.submit "hi").1 = .error (.command (.failed "search" (.internal "no index")))
    ∧ (failing.submit "hi").2.session.request
      = "response to @readFile:\n\x60\x60\x60\nfile not found: gone.txt\n\x60\x60\x60"
    ∧ (∃ x ∈ failing.exchanges "hi", ∃ p ∈ x.deeds, ∃ fault, p.Reports (.internal fault))
    ∧ ((failing.submit "hi").2.submit "Go on").2.session.request
      = "error: @undo: no active document" := by
  obtain ⟨probed, -, -, -, final⟩ :=
    faults_told_or_final .empty failing.world {} failing.model [] "hi"
  have same : (start .empty failing.world {} failing.model).run [] = failing := rfl
  rw [same] at final
  have read : readingGone.action? = some (.readFile "gone.txt" none none) := rfl
  have fits : readingGone.command.Fits .readFile := ⟨rfl, _, rfl⟩
  have missing : (Action.readFile "gone.txt" none none).probed readingGone.before
      = some (.notFound "gone.txt") := by decide +kernel
  obtain ⟨completed, told⟩ := (probed readingGone .readFile rfl fits).told _ _ read missing rfl
  have failed : (failing.submit "hi").1
      = .error (.command (.failed "search" (.internal "no index"))) := by decide +kernel
  refine ⟨completed, told, by decide +kernel, failed, by decide +kernel, ?_, by decide +kernel⟩
  exact final.mp ⟨_, failed⟩

end Dialogue

end ReplyScript
