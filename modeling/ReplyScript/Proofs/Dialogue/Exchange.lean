import ReplyScript.Dialogue.Exchange
import ReplyScript.Proofs.Session.Ledger

/-! # Submissions exchange by exchange

What one exchange comes to, and that a submission is its exchanges one after another. Main
statement: `turns_exchanges`.
-/

namespace ReplyScript

open Script (Finding)

/-! ## One exchange -/

theorem Upshot.isDone_iff {u : Upshot} :
    u.isDone = true ↔ ∃ reply script, u = .performed reply script none := by
  constructor
  · intro done
    cases u with
    | unanswered e => cases done
    | unread reply errors => cases done
    | performed reply script abort =>
        cases abort with
        | none => exact ⟨reply, script, rfl⟩
        | some a => cases done
  · rintro ⟨reply, script, rfl⟩
    rfl

namespace Dialogue

theorem foldl_arrive (arrivals : List String) (d : Dialogue) :
    ∃ events, arrivals.foldl arrive d
      = { d with world := { d.world with events := d.world.events ++ events } } := by
  induction arrivals generalizing d with
  | nil => exact ⟨[], by rw [List.append_nil]; rfl⟩
  | cons text rest ih =>
      obtain ⟨events, arrived⟩ := ih (d.arrive text)
      have recorded : ∃ e, d.arrive text = d.record e := ⟨_, rfl⟩
      obtain ⟨e, recorded⟩ := recorded
      refine ⟨e :: events, ?_⟩
      rw [List.foldl_cons, arrived, recorded]
      simp only [record, World.record, List.append_assoc, List.cons_append, List.nil_append]

end Dialogue

namespace Exchange

variable {x : Exchange}

/-- How a submission ends with this exchange, after other replies. -/
def ending (x : Exchange) (replies : List String) : Except SubmitError Outcome :=
  match x.upshot with
  | .unanswered e => .error (.model e)
  | .unread reply errors =>
      .ok (.halted (replies ++ [reply]) (Text.unlines (errors.map Finding.display)))
  | .performed reply _ (some a) =>
      if a.error.isRecoverable then .ok (.halted (replies ++ [reply]) a.error.message)
      else .error (.command a.error)
  | .performed reply _ none =>
      if x.after.session.hasPending then .ok (.pending (replies ++ [reply]))
      else .ok (.completed (replies ++ [reply]))

theorem upshot_eq_unanswered_iff {e : ModelError} :
    x.upshot = .unanswered e ↔ x.answer.reply = .error e := by
  unfold upshot
  rcases x.answer.reply with other | reply
  · simp only [Upshot.unanswered.injEq, Except.error.injEq]
  · simp only [reduceCtorEq, iff_false]
    split <;> exact nofun

theorem of_upshot_unread {reply : String} {errors : List Finding}
    (upshot : x.upshot = .unread reply errors) :
    x.answer.reply = .ok reply ∧ Script.read reply = .error errors := by
  unfold Exchange.upshot at upshot
  rcases answer : x.answer.reply with e | other
  · rw [answer] at upshot
    cases upshot
  · rw [answer] at upshot
    simp only at upshot
    rcases read : Script.read other with found | script
    · rw [read] at upshot
      cases upshot
      exact ⟨rfl, read⟩
    · rw [read] at upshot
      cases upshot

theorem of_upshot_performed {reply : String} {script : Script} {abort : Option Abort}
    (upshot : x.upshot = .performed reply script abort) :
    x.answer.reply = .ok reply ∧ Script.read reply = .ok script
      ∧ (x.performed reply script).1 = abort := by
  unfold Exchange.upshot at upshot
  rcases answer : x.answer.reply with e | other
  · rw [answer] at upshot
    cases upshot
  · rw [answer] at upshot
    simp only at upshot
    rcases read : Script.read other with found | script
    · rw [read] at upshot
      cases upshot
    · rw [read] at upshot
      cases upshot
      exact ⟨rfl, read, rfl⟩

theorem reply_of_upshot {reply : String} (replied : x.upshot.reply? = some reply) :
    x.answer.reply = .ok reply := by
  cases upshot : x.upshot with
  | unanswered e =>
      rw [upshot] at replied
      cases replied
  | unread other errors =>
      rw [upshot] at replied
      cases replied
      exact (of_upshot_unread upshot).1
  | performed other script abort =>
      rw [upshot] at replied
      cases replied
      exact (of_upshot_performed upshot).1

theorem answered_frame (x : Exchange) :
    x.answered.session = (x.dialogue.ask x.request).session
      ∧ x.answered.config = x.dialogue.config ∧ x.answered.model = x.dialogue.model
      ∧ x.answered.calls = x.dialogue.calls ++ [x.call] := by
  obtain ⟨events, arrived⟩ := Dialogue.foldl_arrive x.answer.arrivals (x.dialogue.ask x.request)
  unfold answered
  rw [arrived]
  exact ⟨rfl, rfl, rfl, rfl⟩

/-- An exchange adds its call, and leaves the configuration and the model alone. -/
theorem after_frame (x : Exchange) :
    x.after.config = x.dialogue.config ∧ x.after.model = x.dialogue.model
      ∧ x.after.calls = x.dialogue.calls ++ [x.call] ∧ x.after.phase = .idle := by
  obtain ⟨-, config, model, calls⟩ := x.answered_frame
  rw [← config, ← model, ← calls]
  unfold after
  cases upshot : x.upshot with
  | unanswered e => exact ⟨rfl, rfl, rfl, rfl⟩
  | unread reply errors => exact ⟨rfl, rfl, rfl, rfl⟩
  | performed reply script abort =>
      cases (Upshot.performed reply script abort).failure? with
      | none => exact ⟨rfl, rfl, rfl, rfl⟩
      | some error => exact ⟨rfl, rfl, rfl, rfl⟩

end Exchange

/-! ## Turns -/

namespace Dialogue

variable {d : Dialogue} {reply : String}

theorem applyReply_unread {errors : List Finding} (unread : Script.read reply = .error errors) :
    d.applyReply reply
      = (.failed (Text.unlines (errors.map Finding.display)), { d with phase := .idle }) := by
  unfold applyReply
  rw [unread]

/-- A dialogue in which a batch was performed. -/
def resume (d : Dialogue) (scene : Scene) : Dialogue :=
  { d with session := scene.session, world := scene.world, phase := .idle }

theorem applyReply_done {script : Script} (read : Script.read reply = .ok script)
    (finished : (performAll script.commands ⟨d.session, d.world⟩).1 = none) :
    d.applyReply reply
      = (.done, d.resume (performAll script.commands ⟨d.session, d.world⟩).2) := by
  unfold applyReply
  rw [read]
  rcases ran : performAll script.commands ⟨d.session, d.world⟩ with ⟨abort, scene⟩
  rw [ran] at finished
  cases finished
  simp only [ran]
  rfl

theorem applyReply_aborted {script : Script} {a : Abort} (read : Script.read reply = .ok script)
    (aborted : (performAll script.commands ⟨d.session, d.world⟩).1 = some a) :
    d.applyReply reply
      = (if a.error.isRecoverable then .failed a.error.message else .aborted a.error,
        d.resume (performAll script.commands ⟨d.session, d.world⟩).2) := by
  unfold applyReply
  rw [read]
  rcases ran : performAll script.commands ⟨d.session, d.world⟩ with ⟨abort, scene⟩
  rw [ran] at aborted
  cases aborted
  simp only [ran]
  split <;> rfl

variable {answer : ModelAnswer} {answers : List ModelAnswer} {request : String}
  {replies : List String} {next : Dialogue}

/-- The dialogue when a reply is to be read in the course of `turns`. -/
def reading (d : Dialogue) (request : String) (answer : ModelAnswer) (answers : List ModelAnswer)
    (reply : String) : Dialogue :=
  (answer.arrivals.foldl arrive
    (ask { d with model := { d.model with answers } } request)).accept reply

theorem turns_done (answered : answer.reply = .ok reply)
    (applied : (d.reading request answer answers reply).applyReply reply = (.done, next)) :
    d.turns replies request (answer :: answers)
      = if !next.session.hasPending then (.ok (.completed (replies ++ [reply])), next)
        else if !next.goesOn (replies ++ [reply]).length then
          (.ok (.pending (replies ++ [reply])), next)
        else { next with session := { next.session with request := "" } }.turns
          (replies ++ [reply]) next.session.request answers := by
  unfold reading at applied
  rw [turns]
  simp only [answered, applied]

theorem turns_failed {error : String} (answered : answer.reply = .ok reply)
    (applied : (d.reading request answer answers reply).applyReply reply = (.failed error, next)) :
    d.turns replies request (answer :: answers)
      = (.ok (.halted (replies ++ [reply]) error), next.halt error) := by
  unfold reading at applied
  rw [turns]
  simp only [answered, applied]

theorem turns_aborted {e : CommandError} (answered : answer.reply = .ok reply)
    (applied : (d.reading request answer answers reply).applyReply reply = (.aborted e, next)) :
    d.turns replies request (answer :: answers) = (.error (.command e), next) := by
  unfold reading at applied
  rw [turns]
  simp only [answered, applied]

theorem turns_cons (d : Dialogue) (replies : List String) (request : String) (answer : ModelAnswer)
    (answers : List ModelAnswer) :
    let x := d.exchange request answer answers
    d.turns replies request (answer :: answers)
      = if x.goesOn (replies.length + 1) then
          x.next.turns (replies ++ x.upshot.reply?.toList) x.after.session.request answers
        else (x.ending replies, x.after) := by
  intro x
  have reading (reply : String) : x.accepted reply = d.reading request answer answers reply := rfl
  unfold Exchange.goesOn
  cases upshot : x.upshot with
  | unanswered e =>
      have failed : answer.reply = .error e := Exchange.upshot_eq_unanswered_iff.mp upshot
      unfold Exchange.ending Exchange.after
      rw [turns, upshot]
      simp only [failed]
      rfl
  | unread reply errors =>
      obtain ⟨replied, unread⟩ := Exchange.of_upshot_unread upshot
      have replied : answer.reply = .ok reply := replied
      have applied := applyReply_unread (d := x.accepted reply) unread
      rw [reading] at applied
      unfold Exchange.ending Exchange.after
      rw [turns_failed replied applied, upshot]
      rfl
  | performed reply script abort =>
      obtain ⟨replied, read, performed⟩ := Exchange.of_upshot_performed upshot
      have replied : answer.reply = .ok reply := replied
      cases abort with
      | some a =>
          have applied := applyReply_aborted read performed
          rw [reading] at applied
          unfold Exchange.ending Exchange.after
          rw [upshot]
          simp only [Upshot.isDone, Upshot.failure?]
          cases recoverable : a.error.isRecoverable with
          | true =>
              rw [recoverable] at applied
              rw [turns_failed replied applied]
              rfl
          | false =>
              rw [recoverable] at applied
              rw [turns_aborted replied applied]
              rfl
      | none =>
          have applied := applyReply_done read performed
          have after : x.after = x.resumed reply script := by
            unfold Exchange.after
            rw [upshot]
            rfl
          have applied : (d.reading request answer answers reply).applyReply reply
              = (.done, x.after) := by
            rw [after]
            exact applied
          unfold Exchange.ending
          rw [turns_done replied applied, upshot, List.length_append, List.length_singleton]
          cases x.after.session.hasPending with
          | false => rfl
          | true =>
              cases x.after.goesOn (replies.length + 1) with
              | false => rfl
              | true => rfl

theorem exchangesFrom_cons (d : Dialogue) (replies : Nat) (request : String)
    (answer : ModelAnswer) (answers : List ModelAnswer) :
    let x := d.exchange request answer answers
    d.exchangesFrom replies request (answer :: answers)
      = x :: if x.goesOn (replies + 1) then
          x.next.exchangesFrom (replies + 1) x.after.session.request answers
        else [] :=
  rfl

/-- A submission has made the calls of its exchanges, and ends as the last of them does. -/
theorem turns_exchanges (d : Dialogue) (replies : List String) (request : String)
    (answers : List ModelAnswer) :
    ∃ early last, d.exchangesFrom replies.length request answers = early ++ [last]
      ∧ (∀ x ∈ early, x.upshot.isDone = true)
      ∧ d.turns replies request answers
        = (last.ending (replies ++ early.filterMap fun x => x.upshot.reply?), last.after)
      ∧ last.after.calls = d.calls ++ (early ++ [last]).map Exchange.call := by
  induction answers generalizing d replies request with
  | nil =>
      refine ⟨[], ⟨d, request, ⟨[], .error d.model.exhausted⟩⟩, rfl, by simp, ?_, ?_⟩
      · rw [turns, List.filterMap_nil, List.append_nil]
        rfl
      · obtain ⟨-, -, calls, -⟩ := Exchange.after_frame ⟨d, request, ⟨[], .error d.model.exhausted⟩⟩
        exact calls
  | cons answer answers ih =>
      have turn := d.turns_cons replies request answer answers
      have chain := d.exchangesFrom_cons replies.length request answer answers
      have calls : (d.exchange request answer answers).after.calls
          = d.calls ++ [(d.exchange request answer answers).call] :=
        (d.exchange request answer answers).after_frame.2.2.1
      generalize d.exchange request answer answers = x at turn chain calls
      simp only at turn chain
      by_cases further : x.goesOn (replies.length + 1) = true
      · rw [if_pos further] at turn chain
        unfold Exchange.goesOn at further
        simp only [Bool.and_eq_true] at further
        obtain ⟨reply, script, upshot⟩ := Upshot.isDone_iff.mp further.1.1
        have replied : x.upshot.reply? = some reply := by
          rw [upshot]
          rfl
        rw [replied] at turn
        obtain ⟨early, last, parts, done, ends, made⟩ := ih x.next (replies ++ [reply])
          x.after.session.request
        have same : x.next.calls = x.after.calls := rfl
        refine ⟨x :: early, last, ?_, List.forall_mem_cons.mpr ⟨further.1.1, done⟩, ?_, ?_⟩
        · rw [chain, List.cons_append, ← parts, List.length_append, List.length_singleton]
        · rw [turn, Option.toList_some, ends, List.append_assoc]
          simp only [List.filterMap_cons, replied, List.singleton_append]
        · rw [made, same, calls]
          simp only [List.cons_append, List.map_cons, List.append_assoc, List.nil_append]
      · rw [if_neg further] at turn chain
        refine ⟨[], x, chain, by simp, ?_, calls⟩
        rw [turn, List.filterMap_nil, List.append_nil]

end Dialogue

end ReplyScript
