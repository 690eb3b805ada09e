import Mathlib.Data.List.Basic
import ReplyScript.Chat.Course
import ReplyScript.Proofs.Dialogue.Retry

/-! # What a chat shows of the replies

The replies to a line are shown at the end of its submission, all of them or, if the submission
fails, none. Main statement: `run_shows_iff`.
-/

namespace ReplyScript

/-! ## Output -/

namespace Console

theorem outputOf_append (early late : List Printed) :
    outputOf (early ++ late) = outputOf early ++ outputOf late := by
  unfold outputOf
  rw [List.map_append, String.join_append]

namespace Echo

theorem outputOf_step (verbosity : Verbosity) (e : Echo) (event : Event) :
    outputOf (e.step verbosity event).2 = "" := by
  cases event with
  | asked command => rfl
  | request text =>
      unfold step
      simp only
      split
      · rfl
      · unfold request
        simp only
        split <;> rfl
  | snippets locations =>
      unfold step
      simp only
      split <;> rfl
  | notified text =>
      unfold step
      simp only
      split <;> rfl
  | _ => rfl

theorem outputOf_run (verbosity : Verbosity) (e : Echo) (events : List Event) :
    outputOf (e.run verbosity events).2 = "" := by
  induction events generalizing e with
  | nil => rfl
  | cons event rest ih =>
      have shown : (e.run verbosity (event :: rest)).2 = (e.step verbosity event).2
          ++ ((e.step verbosity event).1.run verbosity rest).2 := rfl
      rw [shown, outputOf_append, outputOf_step, ih]
      rfl

end Echo

end Console

/-! ## The answers that are used up -/

theorem Exchange.reply?_upshot (x : Exchange) : x.upshot.reply? = x.answer.reply.toOption := by
  cases upshot : x.upshot with
  | unanswered e =>
      rw [upshot_eq_unanswered_iff.mp upshot]
      rfl
  | unread reply errors =>
      rw [(of_upshot_unread upshot).1]
      rfl
  | performed reply script abort =>
      rw [(of_upshot_performed upshot).1]
      rfl

namespace Dialogue

variable {d : Dialogue}

/-- The replies to a submission are those among the answers that it takes from the model. -/
theorem exchangesFrom_used {answers : List ModelAnswer} (left : d.model.answers = answers)
    (count : Nat) (request : String) :
    let xs := d.emptied.exchangesFrom count request answers
    ∃ used, answers = used ++ (d.afterAll xs).model.answers
      ∧ xs.filterMap (fun x => x.upshot.reply?) = used.filterMap fun a => a.reply.toOption := by
  induction answers generalizing d count request with
  | nil =>
      refine ⟨[], ?_, rfl⟩
      have kept := (Exchange.after_frame ⟨d.emptied, request, ⟨[], .error d.model.exhausted⟩⟩).2.1
      have last : (d.afterAll (d.emptied.exchangesFrom count request [])).model = d.model := kept
      rw [last, left]
      rfl
  | cons answer answers ih =>
      have kept : (d.emptied.exchange request answer answers).after.model.answers = answers :=
        congrArg Model.answers (d.emptied.exchange request answer answers).after_frame.2.1
      have replied := (d.emptied.exchange request answer answers).reply?_upshot
      have answered : (d.emptied.exchange request answer answers).answer = answer := rfl
      rw [exchangesFrom_cons]
      rw [answered] at replied
      -- From here on, all that matters of the exchange is its reply and the answers it leaves.
      generalize d.emptied.exchange request answer answers = x at kept replied
      simp only [afterAll_cons, List.filterMap_cons, replied]
      split
      · obtain ⟨used, parts, replies⟩ := ih kept (count + 1) x.after.session.request
        refine ⟨answer :: used, ?_, ?_⟩
        · exact congrArg (answer :: ·) parts
        · simp only [List.filterMap_cons]
          exact replies ▸ rfl
      · refine ⟨[answer], ?_, ?_⟩
        · exact congrArg (answer :: ·) kept.symm
        · simp only [List.filterMap_cons, List.filterMap_nil]

theorem submit_used (idle : d.phase = .idle) (text : String) :
    ∃ used, d.model.answers = used ++ (d.submit text).2.model.answers
      ∧ (d.exchanges text).filterMap (fun x => x.upshot.reply?)
        = used.filterMap fun a => a.reply.toOption := by
  rw [submit_of_idle idle, send_afterAll]
  exact exchangesFrom_used rfl 0 (nextRequest d.session.request text)

/-! ## Replies and results -/

theorem replies_of_outcome (idle : d.phase = .idle) {text : String} {outcome : Outcome}
    (ended : (d.submit text).1 = .ok outcome) :
    outcome.replies = (d.exchanges text).filterMap fun x => x.upshot.reply? := by
  obtain ⟨early, last, parts, -, ends, -⟩ := d.send_exchanges text
  rw [submit_of_idle idle, ends] at ended
  obtain ⟨reply, replied, all⟩ := Exchange.ending_replies ended
  rw [all, parts, List.filterMap_append]
  simp only [List.filterMap_cons, replied, List.filterMap_nil]

/-- A submission that fails has had no reply exactly if the model did not answer its first request. -/
theorem replies_of_error (idle : d.phase = .idle) {text : String} {e : SubmitError}
    (failed : (d.submit text).1 = .error e) :
    (d.exchanges text).filterMap (fun x => x.upshot.reply?) = []
      ↔ (∀ f, e ≠ .command f) ∧ ∀ f, e = .model f → (d.exchanges text).length = 1 := by
  obtain ⟨early, last, parts, done, ends, -⟩ := d.send_exchanges text
  rw [submit_of_idle idle, ends] at failed
  rw [parts, List.filterMap_append, List.append_eq_nil_iff]
  cases e with
  | busy => exact absurd failed (last.ending_ne_busy _)
  | command f =>
      obtain ⟨reply, script, abort, -, -, upshot, -⟩ := Exchange.ending_command_iff.mp failed
      have replied : [last].filterMap (fun x => x.upshot.reply?) = [reply] := by
        simp only [List.filterMap_cons, upshot, Upshot.reply?, List.filterMap_nil]
      rw [replied]
      exact iff_of_false (fun none => nomatch none.2) (fun only => only.1 f rfl)
  | model f =>
      have unanswered := Exchange.upshot_eq_unanswered_iff.mpr
        (Exchange.ending_model_iff.mp failed)
      have silent : [last].filterMap (fun x => x.upshot.reply?) = [] := by
        simp only [List.filterMap_cons, unanswered, Upshot.reply?, List.filterMap_nil]
      rw [silent, List.length_append]
      constructor
      · rintro ⟨none, -⟩
        refine ⟨nofun, fun _ _ => ?_⟩
        cases early with
        | nil => rfl
        | cons x rest =>
            obtain ⟨reply, script, upshot⟩ := Upshot.isDone_iff.mp (done x List.mem_cons_self)
            have replied := List.filterMap_eq_nil_iff.mp none x List.mem_cons_self
            rw [upshot] at replied
            cases replied
      · rintro ⟨-, only⟩
        have none : early = [] := List.eq_nil_of_length_eq_zero (Nat.succ.inj (only f rfl))
        rw [none]
        exact ⟨rfl, rfl⟩

end Dialogue

namespace Chat

open Console (Printed outputOf outputOf_append)

/-! ## One line -/

namespace Turn

variable {t : Turn}

theorem shown_of_outcome {text : String} {outcome : Outcome} (command : t.command = .say text)
    (ended : (t.chat.dialogue.submit text).1 = .ok outcome) : t.shown = t.replies := by
  unfold shown
  simp only [command, ended]

theorem shown_of_error {text : String} {e : SubmitError} (command : t.command = .say text)
    (failed : (t.chat.dialogue.submit text).1 = .error e) : t.shown = [] := by
  unfold shown
  simp only [command, failed]

theorem shown_of_other (other : ∀ text, t.command ≠ .say text) : t.shown = [] ∧ t.replies = [] := by
  unfold shown replies
  cases command : t.command with
  | say text => exact absurd command (other text)
  | _ => exact ⟨rfl, rfl⟩

theorem replies_say {text : String} (command : t.command = .say text) :
    t.replies = (t.chat.dialogue.exchanges text).filterMap fun x => x.upshot.reply? := by
  unfold replies
  rw [command]

/-- All replies are shown, unless the submission fails after the first of them. -/
theorem shown_eq_iff (idle : t.chat.dialogue.phase = .idle) :
    t.shown = t.replies ↔ ∀ text, t.command = .say text →
      (∀ e, (t.chat.dialogue.submit text).1 ≠ .error (.command e))
      ∧ ∀ e, (t.chat.dialogue.submit text).1 = .error (.model e) →
        (t.chat.dialogue.exchanges text).length = 1 := by
  cases command : t.command with
  | say text =>
      simp only [Command.say.injEq, forall_eq']
      cases result : (t.chat.dialogue.submit text).1 with
      | ok outcome =>
          exact iff_of_true (shown_of_outcome command result) ⟨nofun, nofun⟩
      | error e =>
          rw [shown_of_error command result, replies_say command, eq_comm,
            Dialogue.replies_of_error idle result]
          simp only [ne_eq, Except.error.injEq]
  | _ =>
      obtain ⟨shown, replies⟩ := shown_of_other (t := t) (by
        rw [command]
        exact nofun)
      exact iff_of_true (shown.trans replies.symm) nofun

end Turn

/-- A chat has come from another one by the lines, and has shown what is to be shown of them. -/
structure Shows (c : Chat) (ts : List Turn) (final : Chat) : Prop where
  idle : final.dialogue.phase = .idle
  calm : ∀ t ∈ ts, t.chat.dialogue.phase = .idle
  output : outputOf final.printed
    = outputOf c.printed ++ outputOf (ts.flatMap fun t => t.output t.shown)
  used : ∃ used, c.dialogue.model.answers = used ++ final.dialogue.model.answers
    ∧ ts.flatMap Turn.replies = used.filterMap fun a => a.reply.toOption

namespace Shows

theorem of_silent {c final : Chat} (idle : c.dialogue.phase = .idle)
    (phase : final.dialogue.phase = c.dialogue.phase)
    (model : final.dialogue.model = c.dialogue.model)
    (printed : outputOf final.printed = outputOf c.printed) : Shows c [] final where
  idle := phase.trans idle
  calm := List.forall_mem_nil _
  output := by
    rw [printed]
    exact String.append_empty.symm
  used := ⟨[], congrArg Model.answers model.symm, rfl⟩

theorem append {c d e : Chat} {early late : List Turn} (first : Shows c early d)
    (second : Shows d late e) : Shows c (early ++ late) e where
  idle := second.idle
  calm := by
    intro t member
    exact (List.mem_append.mp member).elim (first.calm t) (second.calm t)
  output := by
    rw [second.output, first.output, List.flatMap_append, outputOf_append, String.append_assoc]
  used := by
    obtain ⟨early, parts, replies⟩ := first.used
    obtain ⟨late, rest, further⟩ := second.used
    refine ⟨early ++ late, ?_, ?_⟩
    · rw [parts, rest, List.append_assoc]
    · rw [List.flatMap_append, replies, further, List.filterMap_append]

end Shows

theorem outputOf_print (c : Chat) (pieces : List Printed) :
    outputOf (c.print pieces).printed = outputOf c.printed ++ outputOf pieces :=
  outputOf_append c.printed pieces

theorem outputOf_remarks (outcome : Outcome) : outputOf (remarks outcome) = "" := by
  cases outcome <;> rfl

theorem shows_print {c : Chat} (idle : c.dialogue.phase = .idle) {pieces : List Printed}
    (silent : outputOf pieces = "") : Shows c [] (c.print pieces) :=
  .of_silent idle rfl rfl (by rw [outputOf_print, silent, String.append_empty])

theorem shows_showEvents {c : Chat} (idle : c.dialogue.phase = .idle) :
    Shows c [] c.showEvents := by
  have printed : c.showEvents.printed
      = c.printed ++ (c.echo.run .everything c.dialogue.world.events).2 := rfl
  refine .of_silent idle rfl rfl ?_
  rw [printed, outputOf_append, Console.Echo.outputOf_run, String.append_empty]

/-- What is printed at the end of a submission. -/
def closing (result : Except SubmitError Outcome) : List Printed :=
  match result with
  | .ok outcome => printReplies outcome.replies ++ remarks outcome
  | .error e => [.errorLine e.message]

theorem say_eq (c : Chat) (text : String) :
    (c.say text).1 = (showEvents { c with dialogue := (c.dialogue.submit text).2 }).print
      (closing (c.dialogue.submit text).1) := by
  unfold say closing
  cases result : (c.dialogue.submit text).1 with
  | ok outcome => simp only [result]
  | error e => cases e <;> simp only [result]

theorem outputOf_closing {t : Turn} {text : String} (idle : t.chat.dialogue.phase = .idle)
    (command : t.command = .say text) :
    outputOf (closing (t.chat.dialogue.submit text).1) = outputOf (t.output t.shown) := by
  have output : t.output t.shown = printReplies t.shown := by
    unfold Turn.output
    rw [command]
  rw [output]
  cases result : (t.chat.dialogue.submit text).1 with
  | error e =>
      rw [Turn.shown_of_error command result]
      rfl
  | ok outcome =>
      rw [Turn.shown_of_outcome command result, Turn.replies_say command,
        ← Dialogue.replies_of_outcome idle result, closing, outputOf_append, outputOf_remarks,
        String.append_empty]

theorem shows_say {t : Turn} {text : String} (idle : t.chat.dialogue.phase = .idle)
    (command : t.command = .say text) : Shows t.chat [t] (t.chat.say text).1 := by
  have stopped : (t.chat.dialogue.submit text).2.phase = .idle := by
    rw [Dialogue.submit_of_idle idle]
    exact (t.chat.dialogue.send_calls text).2
  have events := shows_showEvents
    (c := { t.chat with dialogue := (t.chat.dialogue.submit text).2 }) stopped
  rw [say_eq]
  refine ⟨events.idle, List.forall_mem_singleton.mpr idle, ?_, ?_⟩
  · rw [outputOf_print, events.output, outputOf_closing idle command, List.flatMap_singleton]
    exact congrArg (· ++ _) String.append_empty
  · rw [List.flatMap_singleton, Turn.replies_say command]
    exact Dialogue.submit_used idle text

theorem shows_other {c final : Chat} {command : Command} (idle : c.dialogue.phase = .idle)
    (other : ∀ text, command ≠ .say text) (phase : final.dialogue.phase = c.dialogue.phase)
    (model : final.dialogue.model = c.dialogue.model)
    (printed : outputOf final.printed
      = outputOf c.printed ++ outputOf (Turn.output ⟨c, command⟩ [])) :
    Shows c [⟨c, command⟩] final := by
  obtain ⟨shown, replies⟩ := Turn.shown_of_other (t := ⟨c, command⟩) other
  refine ⟨phase.trans idle, List.forall_mem_singleton.mpr idle, ?_, [], ?_, ?_⟩
  · rw [List.flatMap_singleton, shown, printed]
  · exact congrArg Model.answers model.symm
  · rw [List.flatMap_singleton, replies]
    rfl

theorem shows_attach {c : Chat} (idle : c.dialogue.phase = .idle) (words : List String) :
    Shows c [⟨c, .attach words⟩] (c.attach words) := by
  unfold attach
  cases attachment c.dialogue.world.workspace.disk c.root words with
  | error e => exact shows_other idle nofun rfl rfl (outputOf_print c _)
  | ok snippet =>
      have events := shows_showEvents (c := { c with dialogue := c.dialogue.attach snippet }) idle
      exact shows_other idle nofun rfl rfl events.output

theorem shows_obey {c : Chat} (idle : c.dialogue.phase = .idle) (command : Command) :
    Shows c [⟨c, command⟩] (c.obey command).1 := by
  cases command with
  | quit => exact shows_other idle nofun rfl rfl String.append_empty.symm
  | help => exact shows_other idle nofun rfl rfl (outputOf_print c _)
  | clear => exact shows_other idle nofun rfl rfl (outputOf_print _ _)
  | memory => exact shows_other idle nofun rfl rfl (outputOf_print c _)
  | attach words => exact shows_attach idle words
  | say text => exact shows_say (t := ⟨c, .say text⟩) idle rfl

/-! ## Line by line -/

theorem takeLine?_frame {c next : Chat} {line : String} (taken : c.takeLine? = some (line, next)) :
    next.dialogue.phase = c.dialogue.phase ∧ next.dialogue.model = c.dialogue.model
      ∧ next.dialogue.world.events = c.dialogue.world.events
      ∧ next.echo = c.echo ∧ next.printed = c.printed := by
  unfold takeLine? at taken
  cases input : c.dialogue.world.input.next? with
  | none =>
      simp only [input] at taken
      cases taken
  | some found =>
      simp only [input] at taken
      cases taken
      exact ⟨rfl, rfl, rfl, rfl, rfl⟩

/-- What holds of a chat that ends at a prompt, and of one that reads a line and ends with it or
goes on, holds of every chat with its lines. -/
theorem loop_induction {motive : Chat → List Turn → Chat → Prop}
    (prompt : ∀ c : Chat, motive c [] (c.print [.message "> "]))
    (last : ∀ (c next : Chat) (line : String),
      (c.print [.message "> "]).takeLine? = some (line, next) →
      motive c [⟨next, .ofLine line⟩] (next.obey (.ofLine line)).1)
    (further : ∀ (c next final : Chat) (line : String) (ts : List Turn),
      (c.print [.message "> "]).takeLine? = some (line, next) →
      motive (next.obey (.ofLine line)).1 ts final → motive c (⟨next, .ofLine line⟩ :: ts) final)
    (fuel : Nat) (c : Chat) : motive c (c.course fuel) (c.loop fuel).1 := by
  induction fuel generalizing c with
  | zero =>
      unfold course loop
      cases taken : (c.print [.message "> "]).takeLine? with
      | none => simpa only [taken] using prompt c
      | some found => simpa only [taken] using prompt c
  | succ fuel ih =>
      unfold course loop
      cases taken : (c.print [.message "> "]).takeLine? with
      | none => simpa only [taken] using prompt c
      | some found =>
          obtain ⟨line, next⟩ := found
          have ends := last c next line taken
          have goesOn := fun ts final => further c next final line ts taken
          simp only [taken]
          generalize next.obey (.ofLine line) = result at ends goesOn
          cases result with
          | mk after status =>
              cases status with
              | none => exact goesOn _ _ (ih after)
              | some status => exact ends

theorem shows_loop {c : Chat} (idle : c.dialogue.phase = .idle) (fuel : Nat) :
    Shows c (c.course fuel) (c.loop fuel).1 := by
  have prompted {c : Chat} (idle : c.dialogue.phase = .idle) :
      Shows c [] (c.print [.message "> "]) := shows_print idle rfl
  have read {c next : Chat} {line : String} (idle : c.dialogue.phase = .idle)
      (taken : (c.print [.message "> "]).takeLine? = some (line, next)) : Shows c [] next := by
    obtain ⟨phase, model, -, -, printed⟩ := takeLine?_frame taken
    have silent : Shows (c.print [.message "> "]) [] next :=
      .of_silent idle phase model (congrArg outputOf printed)
    exact (prompted idle).append silent
  refine loop_induction (motive := fun c ts final => c.dialogue.phase = .idle → Shows c ts final)
    ?_ ?_ ?_ fuel c idle
  · intro c idle
    exact prompted idle
  · intro c next line taken idle
    exact (read idle taken).append (shows_obey (read idle taken).idle (.ofLine line))
  · intro c next final line ts taken rest idle
    have obeyed := (read idle taken).append (shows_obey (read idle taken).idle (.ofLine line))
    exact obeyed.append (rest obeyed.idle)

/-! ## What is missing from the output -/

theorem length_outputOf_printReplies (reply : String) (rest : List String) :
    0 < (outputOf (printReplies (reply :: rest))).length := by
  have parts : outputOf (printReplies (reply :: rest))
      = reply ++ "\n\n" ++ outputOf (printReplies rest) := String.join_cons
  have gap : "\n\n".length = 2 := rfl
  rw [parts, String.length_append, String.length_append, gap]
  omega

/-- Replies that are not shown are missing from the output. -/
theorem Turn.output_shown (t : Turn) : t.shown = t.replies
    ∨ (outputOf (t.output t.shown)).length < (outputOf (t.output t.replies)).length := by
  cases command : t.command with
  | say text =>
      cases result : (t.chat.dialogue.submit text).1 with
      | ok outcome => exact .inl (shown_of_outcome command result)
      | error e =>
          rw [shown_of_error command result, output, output, command]
          cases t.replies with
          | nil => exact .inl rfl
          | cons reply rest => exact .inr (length_outputOf_printReplies reply rest)
  | _ =>
      obtain ⟨shown, replies⟩ := shown_of_other (t := t) (by
        rw [command]
        exact nofun)
      exact .inl (shown.trans replies.symm)

theorem output_shown (ts : List Turn) : (∀ t ∈ ts, t.shown = t.replies)
    ∨ (outputOf (ts.flatMap fun t => t.output t.shown)).length
      < (outputOf (ts.flatMap fun t => t.output t.replies)).length := by
  induction ts with
  | nil => exact .inl (List.forall_mem_nil _)
  | cons t rest ih =>
      simp only [List.flatMap_cons, outputOf_append, String.length_append]
      -- Nothing is missing, or something is missing from this line or from a later one.
      rcases t.output_shown with same | less
      · rcases ih with all | less
        · exact .inl (List.forall_mem_cons.mpr ⟨same, all⟩)
        · rw [same]
          exact .inr (Nat.add_lt_add_left less _)
      · refine .inr (Nat.add_lt_add_of_lt_of_le less ?_)
        rcases ih with all | less
        · exact Nat.le_of_eq (congrArg (fun ps => (outputOf ps).length)
            (List.flatMap_congr fun u member => by rw [all u member]))
        · exact Nat.le_of_lt less

/-- Over a chat, the replies to a line are shown, all of them and in order, if its submission has an
outcome, and none of them is shown otherwise. So every reply is shown exactly if no command failed
beyond repair, and the model failed only to answer the first request of a submission. -/
theorem run_shows_iff {c : Chat} (idle : c.dialogue.phase = .idle) :
    let ts := c.turns
    let final := c.run.1
    (∃ used, c.dialogue.model.answers = used ++ final.dialogue.model.answers
      ∧ ts.flatMap Turn.replies = used.filterMap fun a => a.reply.toOption)
    ∧ outputOf final.printed
      = outputOf c.printed ++ outputOf (ts.flatMap fun t => t.output t.shown)
    ∧ (outputOf final.printed
        = outputOf c.printed ++ outputOf (ts.flatMap fun t => t.output t.replies)
      ↔ ∀ t ∈ ts, ∀ text, t.command = .say text →
        (∀ e, (t.chat.dialogue.submit text).1 ≠ .error (.command e))
        ∧ ∀ e, (t.chat.dialogue.submit text).1 = .error (.model e) →
          (t.chat.dialogue.exchanges text).length = 1) := by
  intro ts final
  have shows : Shows c ts final := shows_loop idle _
  refine ⟨shows.used, shows.output, ?_⟩
  have each : (∀ t ∈ ts, t.shown = t.replies) ↔ ∀ t ∈ ts, ∀ text, t.command = .say text →
      (∀ e, (t.chat.dialogue.submit text).1 ≠ .error (.command e))
      ∧ ∀ e, (t.chat.dialogue.submit text).1 = .error (.model e) →
        (t.chat.dialogue.exchanges text).length = 1 :=
    forall₂_congr fun t member => t.shown_eq_iff (shows.calm t member)
  rw [← each, shows.output]
  constructor
  · intro same
    rcases output_shown ts with all | less
    · exact all
    · have lengths := congrArg String.length same
      rw [String.length_append, String.length_append] at lengths
      omega
  · intro all
    rw [List.flatMap_congr fun t member => by rw [all t member]]

/-- A chat about some lines, with a model that answers like this. -/
def about (lines : List String) (answers : List (Except ModelError String)) : Chat :=
  .start (.start .empty { (Scene.onFile "a.txt" "x").world with input := ⟨lines, ""⟩ } {}
    ⟨answers.map (⟨[], ·⟩), .failed "no answer"⟩) []

def sentAgain : Chat :=
  about ["hi", ""] [.error .contextLengthExceeded,
    .ok "@startCommand\n@readMemory\n@endCommand", .ok "Done"]

/-- The first request fails. When it is sent again, both replies are shown. -/
theorem run_shows_iff_sentAgain :
    sentAgain.dialogue.phase = .idle
    ∧ outputOf sentAgain.run.1.printed = "@startCommand\n@readMemory\n@endCommand\n\nDone\n\n"
    ∧ ∀ t ∈ sentAgain.turns, ∀ text, t.command = .say text →
      (∀ e, (t.chat.dialogue.submit text).1 ≠ .error (.command e))
      ∧ ∀ e, (t.chat.dialogue.submit text).1 = .error (.model e) →
        (t.chat.dialogue.exchanges text).length = 1 := by
  have idle : sentAgain.dialogue.phase = .idle := rfl
  obtain ⟨-, -, all⟩ := run_shows_iff idle
  exact ⟨idle, by decide +kernel, all.mp (by decide +kernel)⟩

def cutOff : Chat :=
  about ["hi"] [.ok "@startCommand\n@readMemory\n@endCommand", .error .contextLengthExceeded]

/-- The model replies and then does not answer. The reply is not shown. -/
theorem run_hides_reply :
    cutOff.turns.flatMap Turn.replies = ["@startCommand\n@readMemory\n@endCommand"]
      ∧ outputOf (cutOff.turns.flatMap fun t => t.output t.replies)
        = "@startCommand\n@readMemory\n@endCommand\n\n"
      ∧ outputOf cutOff.run.1.printed = "" := by
  decide +kernel

end Chat

end ReplyScript
