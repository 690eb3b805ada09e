import ReplyScript.Proofs.Dialogue.Ledger
import ReplyScript.Proofs.Session.Outcomes

/-! # The active document in the course of a dialogue

Nothing that is done with a dialogue closes the active document, be it in a batch, between batches
or between submissions. Main statement: `Dialogue.preconditions_checked_first`.
-/

namespace ReplyScript

open Script (Command)

theorem Exchange.carried (x : Exchange) :
    Carried x.dialogue.session.active x.deeds x.after.session.active := by
  have answered : x.answered.session.active = x.dialogue.session.active := by
    rw [x.answered_frame.1]
    rfl
  unfold deeds after
  cases upshot : x.upshot with
  | unanswered e => exact answered.symm
  | unread reply errors => exact answered.symm
  | performed reply script abort =>
      have linked := linked_deeds script.commands
        ⟨(x.accepted reply).session, (x.accepted reply).world⟩
      have carried := Carried.of_linked linked
      have accepted : (x.accepted reply).session.active = x.dialogue.session.active := answered
      rw [accepted] at carried
      cases (Upshot.performed reply script abort).failure? with
      | none => exact carried
      | some error => exact carried

namespace Dialogue

variable {d : Dialogue}

theorem carried_turns (d : Dialogue) (replies : List String) (request : String)
    (answers : List ModelAnswer) :
    Carried d.session.active
      ((d.exchangesFrom replies.length request answers).flatMap Exchange.deeds)
      (d.turns replies request answers).2.session.active := by
  induction answers generalizing d replies request with
  | nil =>
      have carried := Exchange.carried ⟨d, request, ⟨[], .error d.model.exhausted⟩⟩
      rw [exchangesFrom, List.flatMap_singleton]
      exact carried
  | cons answer answers ih =>
      have turn := d.turns_cons replies request answer answers
      have chain := d.exchangesFrom_cons replies.length request answer answers
      have carried : Carried d.session.active (d.exchange request answer answers).deeds
          (d.exchange request answer answers).after.session.active :=
        (d.exchange request answer answers).carried
      generalize d.exchange request answer answers = x at turn chain carried
      simp only at turn chain
      rw [turn, chain, List.flatMap_cons]
      -- The next exchange, if there is one, begins with the session that this one leaves.
      by_cases further : x.goesOn (replies.length + 1) = true
      · obtain ⟨reply, script, upshot⟩ := Upshot.isDone_iff.mp ((x.goesOn_iff _).mp further).1
        have replied : x.upshot.reply?.toList = [reply] := by
          rw [upshot]
          rfl
        have rest := ih x.next (replies ++ [reply]) x.after.session.request
        rw [List.length_append, List.length_singleton] at rest
        rw [if_pos further, if_pos further, replied]
        exact carried.append rest
      · rw [if_neg further, if_neg further]
        exact carried.append rfl

theorem carried_move (idle : d.phase = .idle) (move : Move) :
    Carried d.session.active ((d.exchangesOf move).flatMap Exchange.deeds)
      (d.make move).session.active := by
  cases move with
  | submit text =>
      have made : d.make (.submit text) = (d.send text).2 :=
        congrArg Prod.snd (submit_of_idle idle text)
      rw [made]
      exact carried_turns { d with session := { d.session with request := "" } } []
        (nextRequest d.session.request text) d.model.answers
  | removeSnippet index =>
      have same : (d.removeSnippet index).2.session.active = d.session.active := by
        unfold removeSnippet
        split <;> rfl
      exact same.symm
  | _ => rfl

theorem carried_over (idle : d.phase = .idle) (moves : List Move) :
    Carried d.session.active (d.deedsOver moves) (d.run moves).session.active := by
  induction moves generalizing d with
  | nil => rfl
  | cons move rest ih =>
      have phase := (accounted idle move).1.trans idle
      unfold deedsOver at ih ⊢
      rw [exchangesOver, List.flatMap_append]
      exact (carried_move idle move).append (ih phase)

/-- A command whose arguments do not fit, and one that needs a document while none is active, fail
before they do anything: the session, the disk, the buffers, the clipboard and all that is recorded
of services, questions and updates are as they were. The latter are `@undo`, `@redo`, `@select`,
`@cut`, `@paste` and `@getSyntaxErrors`. Once a command has left a document active, no later command
in the course of the dialogue misses one. -/
theorem preconditions_checked_first (session : Session) (world : World) (config : DialogueConfig)
    (model : Model) (moves : List Move) :
    (∀ (d : Deed) (e : CommandError), d.result = .error e → e.isPrecondition = true →
        d.after = d.before)
      ∧ (∀ (d : Deed) (name : String), d.result = .error (.noActiveDocument name)
        ↔ d.before.session.active = none
          ∧ ∃ i : Instruction, i.needsDocument = true ∧ d.command.Fits i ∧ name = i.name)
      ∧ (∀ (d : Deed) (name : String) (problem : BindError),
        d.result = .error (.invalidArguments name problem) ↔ name = d.command.name
          ∧ ∃ i : Instruction, name = i.name ∧ i.bind d.command.arguments = .error problem)
      ∧ ((start session world config model).deedsOver moves).Pairwise fun earlier later =>
        earlier.after.session.active ≠ none →
          ∀ name, later.result ≠ .error (.noActiveDocument name) :=
  ⟨fun _ _ => Deed.after_of_precondition, fun _ _ => Deed.noActiveDocument_iff,
    fun _ _ _ => Deed.invalidArguments_iff, (carried_over rfl moves).pairwise⟩

end Dialogue

end ReplyScript
