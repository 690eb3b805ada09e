import ReplyScript.Proofs.Dialogue.Ledger
import ReplyScript.Proofs.Session.Abort

/-! # Requests that the model did not answer

A request that the model does not answer leaves the session as it was, and its text pending. Sending
that again makes the same call. Main statement: `submit_retracts`.
-/

namespace ReplyScript

namespace Exchange

/-- A call carries the guidance and the history, and behind them the request with its snippets. -/
theorem call_eq (x : Exchange) : x.call = ⟨x.dialogue.config.model, x.dialogue.messages
    ++ [⟨.user, Prompt.userTurn x.dialogue.session.snippets x.request⟩]⟩ := by
  unfold call Dialogue.messages Dialogue.ask
  simp only [List.map_append, List.cons_append]
  rfl

/-- Calls differ only by the model, the guidance, the history, the snippets and the request. -/
theorem call_congr {x y : Exchange} (config : x.dialogue.config = y.dialogue.config)
    (history : x.dialogue.session.history = y.dialogue.session.history)
    (snippets : x.dialogue.session.snippets = y.dialogue.session.snippets)
    (request : x.request = y.request) : x.call = y.call := by
  rw [call_eq, call_eq, Dialogue.messages, Dialogue.messages, config, history, snippets, request]

/-- A request without an answer is taken back: only its text stays. -/
theorem session_retracted {x : Exchange} {e : ModelError} (unanswered : x.answer.reply = .error e) :
    x.after.session = { x.dialogue.session with request := x.request } := by
  have answered : x.answered.session = (x.dialogue.ask x.request).session := x.answered_frame.1
  have retracted : x.after = x.answered.retract x.request e := by
    unfold after
    rw [upshot_eq_unanswered_iff.mpr unanswered]
    rfl
  rw [retracted, Dialogue.retract, answered]
  simp only [Dialogue.record, Dialogue.ask, List.dropLast_concat]

end Exchange

namespace Dialogue

/-! ## Where exchanges start from -/

theorem exchangesFrom_first (d : Dialogue) (count : Nat) (request : String)
    (answers : List ModelAnswer) :
    ∃ x rest, d.exchangesFrom count request answers = x :: rest ∧ x.dialogue.session = d.session
      ∧ x.dialogue.config = d.config ∧ x.request = request := by
  cases answers with
  | nil => exact ⟨_, _, rfl, rfl, rfl, rfl⟩
  | cons answer answers => exact ⟨_, _, rfl, rfl, rfl, rfl⟩

/-- The dialogue after exchanges that followed from it. -/
def afterAll (d : Dialogue) (xs : List Exchange) : Dialogue :=
  (xs.getLast?.map Exchange.after).getD d

theorem afterAll_cons (d : Dialogue) (x : Exchange) (xs : List Exchange) :
    d.afterAll (x :: xs) = x.after.afterAll xs := by
  unfold afterAll
  rw [List.getLast?_cons]
  cases xs.getLast? <;> rfl

/-- What is left of a dialogue when all that is pending has been taken to be sent. -/
def emptied (d : Dialogue) : Dialogue :=
  { d with session := { d.session with request := "" } }

/-- An exchange sends what was pending after the one before it. -/
theorem exchangesFrom_origin {d : Dialogue} {count : Nat} {request : String}
    {answers : List ModelAnswer} {early late : List Exchange} {x : Exchange}
    (parts : d.emptied.exchangesFrom count request answers = early ++ x :: late) :
    x.dialogue.session = (d.afterAll early).emptied.session
      ∧ x.dialogue.config = d.config ∧ (d.afterAll early).config = d.config
      ∧ x.request = if early.isEmpty then request else (d.afterAll early).session.request := by
  induction early generalizing d count request answers with
  | nil =>
      obtain ⟨y, rest, found, session, config, asked⟩ :=
        d.emptied.exchangesFrom_first count request answers
      rw [found] at parts
      cases parts
      exact ⟨session, config, rfl, asked⟩
  | cons y early ih =>
      rw [afterAll_cons]
      cases answers with
      | nil =>
          cases early <;> cases parts
      | cons answer answers =>
          rw [exchangesFrom_cons, List.cons_append] at parts
          have config : (d.emptied.exchange request answer answers).after.config = d.config :=
            (d.emptied.exchange request answer answers).after_frame.1
          generalize d.emptied.exchange request answer answers = z at parts config
          obtain ⟨rfl, later⟩ := List.cons.inj parts
          split at later
          · obtain ⟨session, same, kept, asked⟩ := ih (d := z.after) later
            refine ⟨session, same.trans config, kept.trans config, asked.trans ?_⟩
            cases early <;> rfl
          · cases early <;> cases later

/-- A submission ends with the last of its exchanges. -/
theorem send_exchanges (d : Dialogue) (text : String) :
    ∃ early last, d.exchanges text = early ++ [last] ∧ (∀ x ∈ early, x.upshot.isDone = true)
      ∧ d.send text = (last.ending (early.filterMap fun x => x.upshot.reply?), last.after)
      ∧ last.after.calls = d.calls ++ (early ++ [last]).map Exchange.call :=
  d.emptied.turns_exchanges [] (nextRequest d.session.request text) d.model.answers

theorem send_afterAll (d : Dialogue) (text : String) :
    (d.send text).2 = d.afterAll (d.exchanges text) := by
  obtain ⟨early, last, chain, -, ends, -⟩ := d.send_exchanges text
  rw [ends, chain, afterAll, List.getLast?_concat]
  rfl

/-! ## Sending again -/

theorem idle_of_submit {d : Dialogue} {text : String} {e : ModelError}
    (failed : (d.submit text).1 = .error (.model e)) : d.phase = .idle := by
  by_cases idle : d.phase = .idle
  · exact idle
  · unfold submit admits at failed
    rw [if_neg idle] at failed
    cases failed

/-- A submission without text sends what is pending. -/
theorem submit_blank_calls {d : Dialogue} (idle : d.phase = .idle) {x : Exchange}
    (config : x.dialogue.config = d.config)
    (history : x.dialogue.session.history = d.session.history)
    (snippets : x.dialogue.session.snippets = d.session.snippets)
    (request : x.request = d.session.request) :
    ∃ later, (d.submit "").2.calls = d.calls ++ x.call :: later := by
  obtain ⟨y, rest, found, session, same, asked⟩ :=
    d.emptied.exchangesFrom_first 0 (nextRequest d.session.request "") d.model.answers
  have chain : d.exchanges "" = y :: rest := found
  have again : y.call = x.call := by
    apply Exchange.call_congr
    · rw [same, config]
      rfl
    · rw [session, history]
      rfl
    · rw [session, snippets]
      rfl
    · rw [asked, request]
      rfl
  rw [submit_of_idle idle, (d.send_calls "").1, chain, List.map_cons, again]
  exact ⟨_, rfl⟩

/-- When the model fails to answer, the session is what it was before the last request, whose text is
pending; sent again without another text, the request makes the same call. -/
theorem submit_retracts {d : Dialogue} {text : String} {e : ModelError}
    (failed : (d.submit text).1 = .error (.model e)) :
    let after := (d.submit text).2
    ∃ early x, d.exchanges text = early ++ [x]
      ∧ x.answer.reply = .error e
      ∧ after.calls = d.calls ++ early.map Exchange.call ++ [x.call]
      ∧ (let before := d.afterAll early
        x.request = (if early.isEmpty then nextRequest d.session.request text
          else before.session.request)
        ∧ x.call = ⟨d.config.model, before.messages
            ++ [⟨.user, Prompt.userTurn before.session.snippets x.request⟩]⟩
        ∧ after.session = { before.session with request := x.request })
      ∧ ∃ later, (after.submit "").2.calls = after.calls ++ x.call :: later := by
  have sent := submit_of_idle (idle_of_submit failed) text
  intro after
  obtain ⟨early, x, chain, -, ends, made⟩ := d.send_exchanges text
  obtain ⟨session, config, kept, asked⟩ := exchangesFrom_origin chain
  rw [sent, ends] at failed
  have unanswered : x.answer.reply = .error e := Exchange.ending_model_iff.mp failed
  have last : after = x.after := by
    change (d.submit text).2 = x.after
    rw [sent, ends]
  have retracted := Exchange.session_retracted unanswered
  rw [last]
  refine ⟨early, x, chain, unanswered, ?_, ⟨asked, ?_, ?_⟩, ?_⟩
  · rw [made, List.map_append, List.append_assoc]
    rfl
  · rw [x.call_eq, messages, messages, session, config, kept]
    rfl
  · rw [retracted, session]
    rfl
  · refine submit_blank_calls x.after_frame.2.2.2 x.after_frame.1.symm ?_ ?_ ?_
    · rw [retracted]
    · rw [retracted]
    · rw [retracted]

/-- A dialogue with a model that asks for its memory, and then finds the conversation too long. -/
def forgetful : Dialogue :=
  .start .empty (Scene.onFile "a.txt" "x").world {}
    ⟨[⟨[], .ok "@startCommand\n@readMemory\n@endCommand"⟩, ⟨[], .error .contextLengthExceeded⟩],
      .failed "no answer"⟩

/-- The second request of a submission fails, and it is the second request that is made again. -/
theorem submit_retracts_second :
    (forgetful.submit "hi").1 = .error (.model .contextLengthExceeded)
    ∧ (forgetful.submit "hi").2.session.history.map (·.role) = [.user, .assistant]
    ∧ (forgetful.submit "hi").2.session.request = "response to @readMemory:\n```\n\n```"
    ∧ ∃ call later, (forgetful.submit "hi").2.calls.getLast? = some call
      ∧ ((forgetful.submit "hi").2.submit "").2.calls
        = (forgetful.submit "hi").2.calls ++ call :: later := by
  have failed : (forgetful.submit "hi").1 = .error (.model .contextLengthExceeded) := rfl
  obtain ⟨early, x, -, -, calls, -, later, again⟩ := submit_retracts failed
  refine ⟨failed, rfl, rfl, x.call, later, ?_, again⟩
  rw [calls, List.getLast?_concat]

end Dialogue

end ReplyScript
